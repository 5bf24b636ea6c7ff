import Turnwise.CommandLine

/-!
# The executable

The executable loads a machine with the files that its command line and its environment
name, runs the command line on it, and prints what the user gets to see.
-/

namespace Turnwise
namespace Executable

open Host (Machine Disk Octets)

/-- The variables that the program looks at, or hands on to its tools. -/
def variableNames : List String :=
  ["PATH", "HOME", "TERM", "TMPDIR", "GOSTEP_GO", "GOSTEP_GOIMPORTS", "GOSTEP_TIMEOUT_SECS",
    "GOSTEP_MAX_FIX_PASSES", "GOSTEP_HISTORY"]

/-- The files that a command line names, each with whether it is a tool. -/
def namedFiles (environment : Environment) (arguments : List Text) : List (Path × Bool) :=
  match Arguments.parse arguments with
  | .error _ => []
  | .ok arguments =>
      let settings := arguments.apply (.ofEnvironment environment)
      [(settings.tools.go, true), (settings.tools.goimports, true)] ++
        arguments.file.toList.map ((·, false))

/-- Put a file on a disk, with the directories that lead to it. -/
def place (current : Path) (disk : Disk) (file : Path × Bytes × Bool) : Disk :=
  let (path, content, isTool) := file
  disk.place (Octets.ofText (Path.join current path)) (.file ⟨List.toArray content⟩)
    (if isTool then 0o755 else 0o644)

/-- A machine that holds some files. -/
def machine
    (current : Path)
    (environment : Environment)
    (files : List (Path × Bytes × Bool)) : Machine :=
  let temporary := (environment.get? "TMPDIR").getD "/tmp".toList
  let disk := [current, Path.join current temporary].foldl
    (fun disk path => disk.placeDirectory (Octets.ofText path)) Host.Installed.disk
  let machine := Machine.ofDisk (files.foldl (place current) disk) environment
  { machine with current := (machine.enter current).toOption.getD Disk.root }

/-- Read the rest of a stream. -/
partial def readRest (stream : IO.FS.Stream) (before : ByteArray) : IO ByteArray := do
  let chunk ← stream.read 65536
  if chunk.isEmpty then return before else readRest stream (before ++ chunk)

/-- The values of variables. -/
def loadEnvironment : IO Environment :=
  variableNames.filterMapM fun name => do
    return (← IO.getEnv name).map fun value => (name.toList, value.toList)

/-- The files that can be read. -/
def loadFiles (names : List (Path × Bool)) : IO (List (Path × Bytes × Bool)) :=
  names.filterMapM fun (path, isTool) => do
    try
      let content ← IO.FS.readBinFile (String.ofList path)
      return some (path, content.toList, isTool)
    catch _ => return none

end Executable
end Turnwise

open Turnwise

/-- Run the command line on a machine with the files it names. -/
def main (arguments : List String) : IO UInt32 := do
  let arguments := arguments.map String.toList
  let environment ← Executable.loadEnvironment
  let files ← Executable.loadFiles (Executable.namedFiles environment arguments)
  let current := (← IO.currentDir).toString.toList
  let input ← Executable.readRest (← IO.getStdin) .empty
  let exit := CommandLine.run arguments input.toList
    (Executable.machine current environment files)
  (← IO.getStdout).putStr (String.ofList exit.transcript.output)
  (← IO.getStderr).putStr (String.ofList exit.transcript.errors)
  return exit.status.toUInt32
