import Turnwise.Path
import Turnwise.Run
import Turnwise.SystemError
import Turnwise.Text.Decimal

/-!
# Toolchains

A session needs three services: a formatter, which also completes the imports of a
source text; a place to write the program file; and a runner, which compiles that
file and executes it.  A `Bench` offers the three over a state of any type, so a
service may remember what happened and may answer the same request differently
from one call to the next.
-/

namespace Turnwise

/-- Failures of a tool, as opposed to failures of the user's program. -/
inductive ToolError where
  /-- The tool could not be started, or its output could not be collected. -/
  | spawn (program : Text) (cause : SystemError)
  /-- The tool ran longer than it may and was killed. -/
  | timeout (program : Text) (seconds : Nat)
  /-- The user interrupted the tool. -/
  | interrupted (program : Text)
  /-- The tool ran and rejected its input. -/
  | rejected (message : Text)
  deriving DecidableEq, Repr

namespace ToolError

/-- The name of a program, set off by backquotes. -/
def quoted (program : Text) : Text :=
  "`".toList ++ program ++ "`".toList

/-- The wording of a program that could not be started. -/
def spawnMessage (program : Text) (cause : SystemError) : Text :=
  "failed to run ".toList ++ quoted program ++ ": ".toList ++ cause.message

/-- The wording of a program that ran too long. -/
def timeoutMessage (program : Text) (seconds : Nat) : Text :=
  quoted program ++ " timed out after ".toList ++ Text.ofNat seconds ++ "s".toList

/-- The wording of a failure. -/
def message : ToolError → Text
  | .spawn program cause => spawnMessage program cause
  | .timeout program seconds => timeoutMessage program seconds
  | .interrupted program => quoted program ++ " interrupted".toList
  | .rejected message => message

/-- The failures that lie behind a failure, each in its own words. -/
def causes : ToolError → List Text
  | .spawn _ cause => [cause.message]
  | _ => []

end ToolError

/-- The services a session is run with, over a state. -/
structure Bench (State : Type) where
  /-- Complete the imports of a source text and format it, in a directory. -/
  organize : (source : Text) → (directory : Path) → State → Except ToolError Text × State
  /-- Replace the content of a file. -/
  write : (file : Path) → (content : Text) → State → Except SystemError Unit × State
  /-- Compile a file and, if that succeeds, execute it, in a directory. -/
  run : (file directory : Path) → State → Except ToolError Run × State

namespace Bench

/-- One request to a bench, with its answer. -/
inductive Call where
  /-- The formatter was given a source text. -/
  | organize (source : Text) (directory : Path) (answer : Except ToolError Text)
  /-- A file was to be written. -/
  | write (file : Path) (content : Text) (answer : Except SystemError Unit)
  /-- A file was to be run. -/
  | run (file directory : Path) (answer : Except ToolError Run)

/-- The source text of a request to the formatter. -/
def Call.source? : Call → Option Text
  | .organize source _ _ => some source
  | _ => none

/-- The same services beside a state that they leave alone. -/
def beside (Other : Type) (bench : Bench State) : Bench (State × Other) where
  organize source directory state :=
    let (answer, next) := bench.organize source directory state.1
    (answer, next, state.2)
  write file content state :=
    let (answer, next) := bench.write file content state.1
    (answer, next, state.2)
  run file directory state :=
    let (answer, next) := bench.run file directory state.1
    (answer, next, state.2)

/-- The same services, with a record of all requests, in order. -/
def recording (bench : Bench State) : Bench (State × List Call) where
  organize source directory state :=
    let (answer, next) := bench.organize source directory state.1
    (answer, next, state.2 ++ [.organize source directory answer])
  write file content state :=
    let (answer, next) := bench.write file content state.1
    (answer, next, state.2 ++ [.write file content answer])
  run file directory state :=
    let (answer, next) := bench.run file directory state.1
    (answer, next, state.2 ++ [.run file directory answer])

end Bench
end Turnwise
