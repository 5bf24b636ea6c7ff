import Turnwise.Diagnostic
import Turnwise.Toolchain

/-!
# How a turn fails

A turn that fails leaves the session as it was.  One failure asks for more input,
one ends the session, and all others are shown to the user.
-/

namespace Turnwise

/-- The ways a turn ends without being recorded. -/
inductive TurnError where
  /-- The input is a beginning of a statement; another line may complete it. -/
  | incomplete
  /-- Compilation failed, and no discard repairs it. -/
  | compile (output : Text) (diagnostics : List Diagnostic)
  /-- The program ran and failed. -/
  | runtime (output : Text)
  /-- The formatter rejected the composed program. -/
  | format (message : Text)
  /-- Unused bindings kept appearing until the passes were used up. -/
  | exhausted (passes : Nat) (output : Text) (diagnostics : List Diagnostic)
  /-- The reported identifiers are discarded already. -/
  | stalled (identifiers : List Text) (output : Text) (diagnostics : List Diagnostic)
  /-- A tool ran too long. -/
  | timeout (program : Text) (seconds : Nat)
  /-- The user interrupted a tool. -/
  | interrupted (program : Text)
  /-- A tool could not be started. -/
  | unavailable (program : Text) (cause : SystemError)
  /-- The program file could not be written. -/
  | unwritten (cause : SystemError)
  deriving DecidableEq, Repr

namespace TurnError

/-- The wording of a failure. -/
def message : TurnError → Text
  | .incomplete => "incomplete input".toList
  | .compile output _ => output
  | .runtime output => output
  | .format message => message
  | .exhausted passes output _ =>
      "gave up after ".toList ++ Text.ofNat passes ++ " fix passes\n".toList ++ output
  | .stalled identifiers output _ =>
      "unused identifiers could not be discarded: ".toList ++
        Text.joinWith ", ".toList identifiers ++ '\n' :: output
  | .timeout program seconds => ToolError.timeoutMessage program seconds
  | .interrupted _ => "interrupted".toList
  | .unavailable program cause => ToolError.spawnMessage program cause
  | .unwritten _ => "failed to write program file".toList

/-- The failures that lie behind a failure, each in its own words. -/
def causes : TurnError → List Text
  | .unavailable _ cause => [cause.message]
  | .unwritten cause => [cause.message]
  | _ => []

/-- The wording of a failure and of all that lie behind it. -/
def fullMessage (error : TurnError) : Text :=
  Text.joinWith ": ".toList (error.message :: error.causes)

/-- Whether the session cannot go on. -/
def isFatal : TurnError → Bool
  | .unavailable _ _ => true
  | _ => false

/-- Whether another line may complete the input. -/
def isIncomplete : TurnError → Bool
  | .incomplete => true
  | _ => false

/-- The diagnostics of a failed compilation. -/
def diagnostics : TurnError → List Diagnostic
  | .compile _ diagnostics => diagnostics
  | .exhausted _ _ diagnostics => diagnostics
  | .stalled _ _ diagnostics => diagnostics
  | _ => []

/-- What the failure of a tool means for the turn. -/
def ofTool : ToolError → TurnError
  | .spawn program cause => .unavailable program cause
  | .timeout program seconds => .timeout program seconds
  | .interrupted program => .interrupted program
  | .rejected message => .format message

/-- How the formatter says that a source text ends too early. -/
def incompleteMarker : Text := "found 'EOF'".toList

/-- Whether the formatter says that a source text ends too early. -/
def marksIncomplete (message : Text) : Bool :=
  Text.occursIn incompleteMarker message

/-- What the failure of the formatter means for the turn. -/
def ofFormatter : ToolError → TurnError
  | .rejected message => if marksIncomplete message then .incomplete else .format message
  | failure => .ofTool failure

end TurnError
end Turnwise
