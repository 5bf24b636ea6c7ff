import Turnwise.Path

/-!
# Sessions

A session holds the text that stood in the program file before it began, the
statements of all turns that succeeded, and the number of output lines that the
user has already seen.  Only `Session.commit` changes it.
-/

namespace Turnwise

/-- What a session knows between turns. -/
structure Session where
  /-- The directory in which the tools run. -/
  directory : Path
  /-- The file that holds the composed program. -/
  file : Path
  /-- The program text from before the session. -/
  preamble : Text
  /-- The input of every successful turn, in order. -/
  statements : List Text
  /-- The number of output lines of the last successful run. -/
  shownLines : Nat
  deriving DecidableEq, Repr

namespace Session

/-- A session without history. -/
def fresh (directory file : Path) (preamble : Text) : Session :=
  ⟨directory, file, preamble, [], 0⟩

/-- The number of successful turns. -/
def turns (session : Session) : Nat :=
  session.statements.length

/-- Record a successful turn: its statement, and the lines its run printed. -/
def commit (session : Session) (statement : Text) (lines : Nat) : Session :=
  { session with
    statements := session.statements ++ [statement]
    shownLines := lines }

end Session
end Turnwise
