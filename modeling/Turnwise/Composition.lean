import Turnwise.Session

/-!
# Composed programs

The program of a turn is the preamble and an entry point around the confirmed
statements, the new statement and the discards that repair unused bindings.  It is
put together as text; nothing is parsed.
-/

namespace Turnwise

/-- Where discards stand relative to the new statement. -/
inductive Placement where
  /-- After the confirmed statements, before the new one. -/
  | before
  /-- After the new statement, so that its own bindings can be discarded. -/
  | after
  deriving DecidableEq, Repr

namespace Placement

/-- Discards go after the new statement unless the user says otherwise. -/
def standard : Placement := .after

/-- The short name of a placement. -/
def name : Placement → Text
  | .before => "before".toList
  | .after => "after".toList

/-- The long name of a placement. -/
def longName : Placement → Text
  | .before => "before_candidate".toList
  | .after => "after_candidate".toList

/-- The placement with a given short or long name. -/
def ofName? (text : Text) : Option Placement :=
  [before, after].find? fun placement => text == placement.name || text == placement.longName

/-- What is wrong with a name that no placement has. -/
def unknownMessage (text : Text) : Text :=
  "unknown fix placement `".toList ++ text ++
    "` (expected `before` or `after`)".toList

end Placement

namespace Composition

/-- The text that opens the entry point. -/
def opening : Text := "\nfunc main() \x7b\n".toList

/-- The text that closes the entry point. -/
def closing : Text := "\x7d".toList

/-- The statement that uses an identifier and does nothing else. -/
def discard (identifier : Text) : Text :=
  "_ = ".toList ++ identifier

/-- A statement on lines of its own: with a final newline. -/
def closedStatement (statement : Text) : Text :=
  if Text.endsIn '\n' statement then statement else statement ++ ['\n']

/-- The new statement and the repairs in the order of the placement. -/
def arrange (placement : Placement) (candidate : Text) (fixes : List Text) : List Text :=
  match placement with
  | .before => fixes ++ [candidate]
  | .after => candidate :: fixes

end Composition

/-- The program of a session with a new statement and repairs for it. -/
def Session.compose
    (session : Session)
    (placement : Placement)
    (candidate : Text)
    (fixes : List Text) : Text :=
  session.preamble ++ Composition.opening ++
    (session.statements ++ Composition.arrange placement candidate fixes).flatMap
      Composition.closedStatement ++
    Composition.closing

end Turnwise
