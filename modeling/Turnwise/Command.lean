import Turnwise.Toolchain
import Turnwise.Words

/-!
# Commands at the prompt

A line that begins with a colon is not a statement.  Its words name a program and
the arguments for it, and the program runs in the working directory of the session.
-/

namespace Turnwise
namespace Command

/-- Why a line is no command. -/
inductive Malformed where
  /-- A quote is left open, or a backslash escapes nothing. -/
  | unbalanced
  /-- There are no words. -/
  | empty
  deriving DecidableEq, Repr

/-- What is wrong with the line. -/
def Malformed.message : Malformed → Text
  | .unbalanced => "unbalanced quotes or trailing escape".toList
  | .empty => "empty command".toList

/-- How a command that could be started ended. -/
inductive Outcome where
  /-- With status zero; all it printed. -/
  | succeeded (output : Text)
  /-- Otherwise; all it printed, without the final newlines. -/
  | failed (output : Text)
  deriving DecidableEq, Repr

/-- The words of a command line, or `none` when the line is not one. -/
def parse? (line : Text) : Option (Except Malformed (List Text)) :=
  match Text.after? [':'] line.trim with
  | none => none
  | some rest =>
      some <|
        match Words.split rest with
        | none => .error .unbalanced
        | some [] => .error .empty
        | some words => .ok words

end Command

/-- A way to run commands in a directory, over a state. -/
abbrev Shell (State : Type) :=
  (words : List Text) → (directory : Path) → State → Except ToolError Command.Outcome × State

/-- The same way to run commands, beside a state that it leaves alone. -/
def Shell.beside (Other : Type) (shell : Shell State) : Shell (State × Other) :=
  fun words directory state =>
    let (answer, next) := shell words directory state.1
    (answer, next, state.2)

end Turnwise
