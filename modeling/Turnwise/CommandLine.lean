import Turnwise.Arguments
import Turnwise.Conversation
import Turnwise.Workspace

/-!
# The command line

The program reads its arguments, opens a workspace, holds a conversation over its input
and leaves the workspace as it found it.
-/

namespace Turnwise
namespace CommandLine

open Host (Machine)

/-- How the program ended. -/
structure Exit where
  /-- The exit status. -/
  status : Nat
  /-- What the user saw. -/
  transcript : Transcript
  /-- The machine afterwards. -/
  machine : Machine

/-- The name of the program and its version. -/
def version : Text := "gostep 0.1.0".toList

/-- How the program is called. -/
def usage : Text :=
  ("Usage: gostep [OPTIONS] [FILE]\n\n" ++
    "Options:\n" ++
    "      --go <PATH>\n" ++
    "      --goimports <PATH>\n" ++
    "      --timeout <SECS>\n" ++
    "      --max-fix-passes <N>\n" ++
    "      --fix-placement <PLACEMENT>\n" ++
    "  -h, --help\n" ++
    "  -V, --version").toList

/-- What a refused command line shows. -/
def refuse : Arguments.Refusal → Transcript
  | .help => Transcript.empty.printLine usage
  | .version => Transcript.empty.printLine version
  | _ => Transcript.empty.complain usage

/-- The lines of an input, each `none` when it is no text. -/
def inputLines (input : Bytes) : List (Option Text) :=
  (Host.Octets.ofBytes input).lines.map fun line => Utf8.text? (Host.Octets.toBytes line)

/-- Terminals on which a line cannot be edited; there the mark of the prompt is shown
even when the input comes from elsewhere. -/
def plainTerminals : List Text :=
  ["dumb".toList, "cons25".toList, "emacs".toList]

/-- Whether a terminal is a plain one; the case of letters does not matter. -/
def isPlain (terminal : Option Text) : Bool :=
  terminal.any fun name => plainTerminals.contains (name.map Char.toLower)

/-- How conversations are held with the tools of a machine. -/
def manner (settings : Settings) (machine : Machine) : Conversation.Manner Machine where
  bench := Hosted.bench settings.tools
  shell := Hosted.shell (Hosted.milliseconds settings.tools.runSeconds)
  repair := settings.repair
  showsMark := isPlain (machine.environment.get? "TERM")

/-- Make the directory of the history file.  Lines that come from no terminal are not
kept, so the file itself is never written. -/
def prepareHistory (history : Option Path) (machine : Machine) : Machine :=
  match history.bind Path.parent? with
  | some directory => machine.makeDirectories directory
  | none => machine

/-- Hold a conversation in a workspace and leave it. -/
def sit
    (settings : Settings)
    (input : Bytes)
    (workspace : Workspace)
    (machine : Machine) : Exit :=
  let (result, conversation) := Conversation.hold (manner settings machine)
    (inputLines input) ⟨.fresh workspace.session, machine, .empty⟩
  let machine := workspace.close (prepareHistory settings.history conversation.state)
  match result with
  | .ok () => ⟨0, conversation.transcript, machine⟩
  | .error report => ⟨1, conversation.transcript.complain report, machine⟩

/-- Open the workspace that a command line asks for. -/
def openWorkspace
    (settings : Settings)
    (file : Option Path)
    (machine : Machine) : Except Workspace.Failure Workspace × Machine :=
  match file with
  | some file => (Workspace.ofFile file machine, machine)
  | none => Workspace.scratch settings.tools machine

/-- Run the program on arguments and an input. -/
def run (arguments : List Text) (input : Bytes) (machine : Machine) : Exit :=
  match Arguments.parse arguments with
  | .error refusal => ⟨if refusal.isError then 2 else 0, refuse refusal, machine⟩
  | .ok arguments =>
      let settings := arguments.apply (.ofEnvironment machine.environment)
      match openWorkspace settings arguments.file machine with
      | (.error failure, machine) => ⟨1, Transcript.empty.complain failure.report, machine⟩
      | (.ok workspace, machine) => sit settings input workspace machine

end CommandLine
end Turnwise
