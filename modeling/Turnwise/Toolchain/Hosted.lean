import Turnwise.Command
import Turnwise.Host.Machine

/-!
# Toolchains on a machine

The formatter and the runner are programs of the machine.  The formatter reads the
source from its standard input and prints the result.  The runner gets the name of the
program file as the working directory sees it, and its two outputs are merged.
-/

namespace Turnwise
namespace Hosted

open Host (Machine Job Terms Completion)

/-- The milliseconds of some seconds. -/
def milliseconds (seconds : Nat) : Nat := 1000 * seconds

/-- The terms for the runner and for commands. -/
def runTerms (tools : ToolSettings) (label : Text) : Terms :=
  ⟨label, milliseconds tools.runSeconds⟩

/-- Run a program with its outputs merged; that it could not be started is a failure. -/
def runMerged
    (job : Job)
    (terms : Terms)
    (machine : Machine) : Except ToolError Completion × Machine :=
  match machine.run job.merged terms with
  | (.error failure, machine) => (.error failure, machine)
  | (.ok completion, machine) =>
      match completion.startFailure? terms.label with
      | some failure => (.error failure, machine)
      | none => (.ok completion, machine)

/-- Format a source text in a directory. -/
def organize
    (tools : ToolSettings)
    (source : Text)
    (directory : Path)
    (machine : Machine) : Except ToolError Text × Machine :=
  match machine.run ⟨tools.goimports, ["-srcdir".toList, directory], some source, directory⟩
      ⟨tools.goimports, milliseconds tools.formatSeconds⟩ with
  | (.error failure, machine) => (.error failure, machine)
  | (.ok completion, machine) =>
      if completion.success then (.ok (Utf8.lenient completion.output), machine)
      else (.error (.rejected (Utf8.lenient completion.errors).trimEnd), machine)

/-- The name by which the runner is given a file. -/
def target (file directory : Path) : Path :=
  (Path.relativeTo? directory file).getD file

/-- Compile and run a file in a directory. -/
def run
    (tools : ToolSettings)
    (file directory : Path)
    (machine : Machine) : Except ToolError Run × Machine :=
  match runMerged ⟨tools.go, ["run".toList, target file directory], none, directory⟩
      (runTerms tools tools.go) machine with
  | (.error failure, machine) => (.error failure, machine)
  | (.ok completion, machine) =>
      (.ok (.ofOutput completion.combined completion.success), machine)

/-- Make a directory the root of a module. -/
def initModule
    (tools : ToolSettings)
    (directory : Path)
    (name : Text)
    (machine : Machine) : Except ToolError Unit × Machine :=
  match runMerged ⟨tools.go, ["mod".toList, "init".toList, name], none, directory⟩
      (runTerms tools tools.go) machine with
  | (.error failure, machine) => (.error failure, machine)
  | (.ok completion, machine) =>
      if completion.success then (.ok (), machine)
      else (.error (.rejected completion.combined.trim), machine)

/-- The services of the tools of a machine. -/
def bench (tools : ToolSettings) : Bench Machine where
  organize := organize tools
  write := Machine.store.writeText
  run := run tools

/-- Commands that run as programs of the machine, for a number of milliseconds. -/
def shell (limit : Nat) : Shell Machine := fun words directory machine =>
  match words with
  | [] => (.ok (.failed Command.Malformed.empty.message), machine)
  | program :: arguments =>
      match runMerged ⟨program, arguments, none, directory⟩ ⟨program, limit⟩ machine with
      | (.error failure, machine) => (.error failure, machine)
      | (.ok completion, machine) =>
          if completion.success then (.ok (.succeeded completion.combined), machine)
          else (.ok (.failed (completion.combined.dropEndWhile (· == '\n'))), machine)

end Hosted
end Turnwise
