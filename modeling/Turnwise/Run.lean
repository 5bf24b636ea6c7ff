import Turnwise.Text.Lines

/-!
# Runs of the program

A run compiles the program and, if that succeeds, executes it.  All a session
learns of a run is the merged output and whether it succeeded; the last visible
line of the output tells a program that failed from one that never started.
-/

namespace Turnwise

/-- The result of one compile-and-run. -/
structure Run where
  /-- Everything the toolchain and the program printed, in order. -/
  output : Text
  /-- Whether the program compiled and exited with status zero. -/
  success : Bool
  /-- The last line of the output that is not blank. -/
  lastLine : Text
  deriving DecidableEq, Repr

/-- How a run ended. -/
inductive Run.Class where
  /-- The program ran and exited with status zero. -/
  | success
  /-- The program never ran; the output holds diagnostics. -/
  | compileFailure
  /-- The program ran and exited with another status. -/
  | runtimeFailure
  deriving DecidableEq, Repr

namespace Run

/-- How the line begins that reports the exit status of a failed program. -/
def statusMarker : Text := "exit status ".toList

/-- The result with a given output and success flag. -/
def ofOutput (output : Text) (success : Bool) : Run :=
  ⟨output, success, output.lastVisibleLine⟩

/-- A run that failed is a failure of the program exactly when its last visible
line reports an exit status. -/
def classify (run : Run) : Run.Class :=
  if run.success then .success
  else if Text.beginsWith statusMarker run.lastLine then .runtimeFailure
  else .compileFailure

/-- The name of a class. -/
def Class.name : Run.Class → Text
  | .success => "success".toList
  | .compileFailure => "compile_failure".toList
  | .runtimeFailure => "runtime_failure".toList

end Run
end Turnwise
