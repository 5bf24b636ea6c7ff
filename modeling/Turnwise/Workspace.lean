import Turnwise.Session
import Turnwise.Toolchain.Hosted

/-!
# Workspaces

A session needs a directory and a program file.  It either extends a file of the user,
whose content is put back at the end, or it works in a temporary directory of its own,
which is removed at the end.
-/

namespace Turnwise

/-- What has to be done when a session is over. -/
inductive Workspace.Closing where
  /-- Put the content of the program file back. -/
  | restore (content : Bytes)
  /-- Remove the working directory. -/
  | remove
  deriving DecidableEq, Repr

/-- Where a session lives. -/
structure Workspace where
  /-- The directory in which the tools run. -/
  directory : Path
  /-- The program file. -/
  file : Path
  /-- The program text from before the session. -/
  preamble : Text
  /-- What has to be done at the end. -/
  closing : Workspace.Closing
  deriving DecidableEq, Repr

namespace Workspace

/-- Why there is no workspace. -/
inductive Failure where
  /-- The file of the user cannot be read. -/
  | unreadable (file : Path) (cause : SystemError)
  /-- The file of the user holds no text. -/
  | notText (file : Path) (fault : Utf8.Fault)
  /-- The temporary directory cannot be made. -/
  | noDirectory (directory : Path) (cause : SystemError)
  /-- The temporary directory cannot be made a module. -/
  | noModule (cause : ToolError)
  deriving DecidableEq, Repr

/-- What went wrong, in the first place. -/
def Failure.message : Failure → Text
  | .unreadable file _ => "bad file ".toList ++ file
  | .notText file _ => "bad file ".toList ++ file
  | .noDirectory _ _ => "failed to create temporary directory".toList
  | .noModule _ => "failed to run \"go mod init\"".toList

/-- The failures that lie behind, each in its own words. -/
def Failure.causes : Failure → List Text
  | .unreadable _ cause => [cause.message]
  | .notText _ fault => [fault.message]
  | .noDirectory directory cause =>
      [cause.message ++ " at path \"".toList ++ directory ++ "\"".toList]
  | .noModule cause => cause.message :: cause.causes

/-- The full report of a failure. -/
def Failure.report (failure : Failure) : Text :=
  Text.joinWith ": ".toList (failure.message :: failure.causes)

/-- A new session in a workspace. -/
def session (workspace : Workspace) : Session :=
  .fresh workspace.directory workspace.file workspace.preamble

open Host (Machine)

/-- Extend a file; its content becomes the preamble. -/
def ofFile (file : Path) (machine : Machine) : Except Failure Workspace := do
  let content ← (machine.read file).mapError (.unreadable file)
  let preamble ← (Utf8.strict content).mapError (.notText file)
  return ⟨Path.directoryOf file, file, preamble, .restore content⟩

/-- The module of a temporary workspace. -/
def scratchModule : Text := "gostep.localhost".toList

/-- The program file of a temporary workspace. -/
def scratchFile : Text := "main.go".toList

/-- The preamble of a temporary workspace. -/
def scratchPreamble : Text := "package main".toList

/-- How the name of a temporary directory begins. -/
def scratchStem : Text := "gostep".toList

/-- A name of six digits for each number of temporary directories made. -/
def scratchName (count : Nat) : Text :=
  scratchStem ++ ((Nat.toDigits 10 (1000000 + count % 1000000)).drop 1)

/-- The directory for temporary directories. -/
def temporaryRoot (machine : Machine) : Path :=
  Path.join machine.currentPath
    ((machine.environment.get? "TMPDIR").getD "/tmp".toList)

/-- Make a temporary directory. -/
def makeScratch (machine : Machine) : Except Failure Path × Machine :=
  let path := Path.join (temporaryRoot machine) (scratchName machine.temporaries)
  match machine.makeDirectory path with
  | .error code => (.error (.noDirectory path (.coded code)), machine)
  | .ok machine => (.ok path, { machine with temporaries := machine.temporaries + 1 })

/-- A fresh module in a temporary directory, which does not outlive a failure. -/
def scratch (tools : ToolSettings) (machine : Machine) : Except Failure Workspace × Machine :=
  match makeScratch machine with
  | (.error failure, machine) => (.error failure, machine)
  | (.ok directory, machine) =>
      match Hosted.initModule tools directory scratchModule machine with
      | (.error cause, machine) => (.error (.noModule cause), machine.removeDirectory directory)
      | (.ok (), machine) =>
          (.ok ⟨directory, Path.join directory scratchFile, scratchPreamble, .remove⟩, machine)

/-- Leave a workspace: nothing a session wrote outlives it.  A file that cannot be put
back is left as it is. -/
def close (workspace : Workspace) (machine : Machine) : Machine :=
  match workspace.closing with
  | .restore content => (machine.write workspace.file content).2
  | .remove => machine.removeDirectory workspace.directory

end Workspace
end Turnwise
