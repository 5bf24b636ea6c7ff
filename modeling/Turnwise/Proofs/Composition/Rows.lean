import Turnwise.Proofs.Composition.Lines
import Turnwise.Proofs.Output.Rows

/-!
# The pieces of a composed program

Between its newlines a composed program holds the lines of its opening, then those of every
statement and repair in their order, and then the closing brace, alone.  A discard of an
identifier from a diagnostic is one line, so the discards of a program are a block of whole
lines between the lines of the same program without them.
-/

namespace Turnwise
namespace Composition

/-! ## Statements -/

/-- The lines on which a statement stands: its pieces, without its final newline.  An empty
statement stands on one empty line. -/
def statementLines (statement : Text) : List Text :=
  (Text.dropFinal '\n' statement).pieces

/-- A closed statement is the statement without its final newline, and a newline. -/
theorem closedStatement_eq (statement : Text) :
    closedStatement statement = Text.dropFinal '\n' statement ++ ['\n'] := by
  rw [closedStatement]
  split
  · rename_i ends
    obtain ⟨rest, rfl⟩ := List.getLast?_eq_some_iff.mp (eq_of_beq ends)
    rw [Text.dropFinal_concat]
  · rename_i unended
    rw [Text.dropFinal_of_not_endsIn (Bool.eq_false_iff.mpr unended)]

theorem rows_closedStatement (statement : Text) :
    (closedStatement statement).rows = statementLines statement := by
  rw [closedStatement_eq, Text.rows_append_newline, Text.rows_nil, List.append_nil]
  rfl

/-- The lines of a statement are its pieces; a final newline makes no further line. -/
theorem statementLines_eq (statement : Text) :
    statementLines statement =
      if Text.endsIn '\n' statement then Text.pieces statement.dropLast
      else statement.pieces := by
  rw [statementLines]
  split
  · rename_i ends
    obtain ⟨rest, rfl⟩ := List.getLast?_eq_some_iff.mp (eq_of_beq ends)
    rw [Text.dropFinal_concat, List.dropLast_concat]
  · rename_i unended
    rw [Text.dropFinal_of_not_endsIn (Bool.eq_false_iff.mpr unended)]

/-- The rows of some statements, each on lines of its own. -/
theorem rows_flatMap_closedStatement (statements : List Text) :
    Text.rows (statements.flatMap closedStatement) = statements.flatMap statementLines := by
  have lines : Text.rows ∘ closedStatement = statementLines := funext rows_closedStatement
  rw [Text.rows_flatMap fun statement _ => closed_closedStatement statement, lines]

/-- A discard stands on one line when its identifier does. -/
theorem statementLines_discard
    {identifier : Text}
    (newlineFree : '\n' ∉ identifier) :
    statementLines (discard identifier) = [discard identifier] := by
  have absent : '\n' ∉ discard identifier := by
    rw [discard, List.mem_append, not_or]
    exact ⟨by decide, newlineFree⟩
  rw [statementLines, Text.dropFinal_of_not_mem absent, Text.pieces_of_not_mem absent]

theorem flatMap_statementLines_discards
    {identifiers : List Text}
    (newlineFree : ∀ identifier ∈ identifiers, '\n' ∉ identifier) :
    (identifiers.map discard).flatMap statementLines = identifiers.map discard := by
  rw [List.flatMap_map, List.map_eq_flatMap]
  exact List.flatMap_congr fun identifier present =>
    statementLines_discard (newlineFree identifier present)

end Composition

/-! ## Programs -/

namespace Session

open Turnwise.Composition

/-- The lines of a program before the place of a new statement. -/
def confirmedLines (session : Session) : List Text :=
  (session.preamble ++ opening).rows ++ session.statements.flatMap statementLines

/-- The opening adds one line to the preamble: its newline ends the last line of the preamble,
and the other one ends its own. -/
theorem confirmedLines_eq (session : Session) :
    session.confirmedLines =
      Text.pieces (session.preamble ++ "\nfunc main() \x7b".toList) ++
        session.statements.flatMap statementLines := by
  rw [confirmedLines, show opening = "\nfunc main() \x7b".toList ++ ['\n'] from rfl,
    ← List.append_assoc, Text.rows_append_newline, Text.rows_nil, List.append_nil]

theorem rows_confirmed (session : Session) :
    session.confirmed.rows = session.confirmedLines := by
  have closed : (session.preamble ++ opening).Closed := by
    rw [show opening = "\nfunc main() \x7b".toList ++ ['\n'] from rfl, ← List.append_assoc]
    exact Text.closed_concat_newline _
  rw [confirmed, closed.rows_append, rows_flatMap_closedStatement, confirmedLines]

/-- A program split at its newlines. -/
theorem pieces_compose
    (session : Session)
    (placement : Placement)
    (candidate : Text)
    (fixes : List Text) :
    (session.compose placement candidate fixes).pieces =
      session.confirmedLines ++
        ((arrange placement candidate fixes).flatMap statementLines ++ [closing]) := by
  have arranged : Text.Closed ((arrange placement candidate fixes).flatMap closedStatement) :=
    Text.closed_flatMap fun statement _ => closed_closedStatement statement
  rw [compose_eq_confirmed_append, session.closed_confirmed.pieces_append, rows_confirmed,
    arranged.pieces_append, rows_flatMap_closedStatement]
  rfl

/-! ## Repairs -/

/-- The lines of a program above its repairs. -/
def linesAbove (session : Session) (candidate : Text) : Placement → List Text
  | .before => session.confirmedLines
  | .after => session.confirmedLines ++ statementLines candidate

/-- The lines of a program below its repairs, up to the closing brace. -/
def linesBelow (candidate : Text) : Placement → List Text
  | .before => statementLines candidate ++ [closing]
  | .after => [closing]

/-- The repairs of a program stand side by side, and all its other lines are those above and
below. -/
theorem pieces_compose_repairs
    (session : Session)
    (placement : Placement)
    (candidate : Text)
    (fixes : List Text) :
    (session.compose placement candidate fixes).pieces =
      session.linesAbove candidate placement ++
        (fixes.flatMap statementLines ++ linesBelow candidate placement) := by
  rw [pieces_compose]
  cases placement with
  | before =>
      rw [arrange, List.flatMap_append, List.flatMap_singleton, linesAbove, linesBelow,
        List.append_assoc]
  | after =>
      rw [arrange, List.flatMap_cons, linesAbove, linesBelow, List.append_assoc,
        List.append_assoc]

/-- The discards of a program are whole lines. -/
theorem pieces_compose_discards
    {identifiers : List Text}
    (newlineFree : ∀ identifier ∈ identifiers, '\n' ∉ identifier)
    (session : Session)
    (placement : Placement)
    (candidate : Text) :
    (session.compose placement candidate (identifiers.map discard)).pieces =
      session.linesAbove candidate placement ++
        (identifiers.map discard ++ linesBelow candidate placement) := by
  rw [pieces_compose_repairs, flatMap_statementLines_discards newlineFree]

end Session
end Turnwise
