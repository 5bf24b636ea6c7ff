import Turnwise.Composition
import Turnwise.Proofs.Diagnostic.Targets
import Turnwise.Proofs.Text.Lines

/-!
# The lines of a composed program

Every part of a composed program but the closing brace ends in a newline.  The lines of
the program are therefore those of its parts, one after the other, whatever the parts
hold.  What the next program of a session shares with this one is its confirmed text.
-/

namespace Turnwise
namespace Composition

/-! ## Statements -/

theorem closed_closedStatement (statement : Text) : (closedStatement statement).Closed := by
  unfold closedStatement
  split
  · rename_i ends
    obtain ⟨rest, rfl⟩ := List.getLast?_eq_some_iff.mp (eq_of_beq ends)
    exact Text.closed_concat_newline rest
  · exact Text.closed_concat_newline statement

/-- A statement has the same lines that are not empty, closed or not. -/
theorem countP_lines_closedStatement
    {test : Text → Bool}
    (empty : test [] = false)
    (statement : Text) :
    (closedStatement statement).lines.countP (fun line => test line.trim) =
      statement.lines.countP (fun line => test line.trim) := by
  unfold closedStatement
  split
  · rfl
  · exact Text.countP_lines_concat_newline empty statement

/-- A discard from a diagnostic is one line. -/
theorem lines_closedStatement_discard
    {identifier : Text}
    (discardable : Diagnostic.Discardable identifier) :
    (closedStatement (discard identifier)).lines =
      [Text.dropFinal '\r' (discard identifier)] := by
  have newlineFree : '\n' ∉ discard identifier := by
    intro present
    rcases List.mem_append.mp present with beginning | named
    · have absent : '\n' ∉ "_ = ".toList := by decide
      exact absent beginning
    · exact discardable.newlineFree named
  rw [closedStatement, Text.endsIn_of_not_mem newlineFree, if_neg Bool.false_ne_true,
    Text.lines_concat_newline, Text.pieces_of_not_mem newlineFree]
  rfl

/-! ## Arrangements -/

/-- Without repairs the placement makes no difference. -/
@[simp] theorem arrange_nil
    (placement : Placement)
    (candidate : Text) :
    arrange placement candidate [] = [candidate] := by
  cases placement <;> rfl

/-- The lines from some statements to the end of the program. -/
theorem lines_flatMap_closedStatement_closing (statements : List Text) :
    Text.lines (statements.flatMap closedStatement ++ closing) =
      statements.flatMap (Text.lines ∘ closedStatement) ++ [closing] := by
  have every : ∀ statement ∈ statements, (closedStatement statement).Closed :=
    fun statement _ => closed_closedStatement statement
  rw [(Text.closed_flatMap every).lines_append, Text.lines_flatMap every]
  rfl

/-- Statements of which each discards an identifier on one line. -/
def AreDiscards (fixes : List Text) : Prop :=
  ∀ fix ∈ fixes, ∃ identifier, Diagnostic.Discardable identifier ∧ discard identifier = fix

theorem areDiscards_map_discard
    {identifiers : List Text}
    (discardable : ∀ identifier ∈ identifiers, Diagnostic.Discardable identifier) :
    AreDiscards (identifiers.map discard) := by
  intro fix present
  obtain ⟨identifier, named, equal⟩ := List.mem_map.mp present
  exact ⟨identifier, discardable identifier named, equal⟩

/-- The new statement stands between discards, in either placement. -/
theorem exists_arrange_eq
    {fixes : List Text}
    (discards : AreDiscards fixes)
    (placement : Placement)
    (candidate : Text) :
    ∃ first last,
      arrange placement candidate fixes = first ++ candidate :: last ∧
      AreDiscards first ∧ AreDiscards last := by
  have none : AreDiscards [] := fun _ present => nomatch present
  cases placement with
  | before => exact ⟨fixes, [], rfl, discards, none⟩
  | after => exact ⟨[], fixes, rfl, none, discards⟩

end Composition

/-! ## Programs -/

namespace Session

open Turnwise.Composition

/-- The program of a session up to the place of a new statement. -/
def confirmed (session : Session) : Text :=
  session.preamble ++ opening ++ session.statements.flatMap closedStatement

theorem compose_eq_confirmed_append
    (session : Session)
    (placement : Placement)
    (candidate : Text)
    (fixes : List Text) :
    session.compose placement candidate fixes =
      session.confirmed ++
        ((arrange placement candidate fixes).flatMap closedStatement ++ closing) := by
  simp [compose, confirmed, List.flatMap_append]

/-- A program begins with the preamble. -/
theorem preamble_prefix_compose
    (session : Session)
    (placement : Placement)
    (candidate : Text)
    (fixes : List Text) :
    session.preamble <+: session.compose placement candidate fixes := by
  rw [compose]
  simp only [List.append_assoc]
  exact List.prefix_append _ _

/-- A commit adds its statement to what is confirmed. -/
theorem confirmed_commit
    (session : Session)
    (statement : Text)
    (lines : Nat) :
    (session.commit statement lines).confirmed =
      session.confirmed ++ closedStatement statement := by
  simp [confirmed, commit, List.flatMap_append]

/-- The preamble is closed by the newline that follows it. -/
theorem confirmed_eq (session : Session) :
    session.confirmed =
      (session.preamble ++ ['\n']) ++
        (("func main() \x7b".toList ++ ['\n']) ++
          session.statements.flatMap closedStatement) := by
  have opened : opening = ['\n'] ++ ("func main() \x7b".toList ++ ['\n']) := by decide
  rw [confirmed, opened]
  simp only [List.append_assoc]

theorem closed_confirmed (session : Session) : session.confirmed.Closed := by
  have statements : Text.Closed (session.statements.flatMap closedStatement) :=
    Text.closed_flatMap fun statement _ => closed_closedStatement statement
  rw [confirmed_eq]
  exact (Text.closed_concat_newline session.preamble).append
    ((Text.closed_concat_newline "func main() \x7b".toList).append statements)

/-- The entry point is open at the place of a new statement. -/
theorem mem_lines_confirmed (session : Session) :
    "func main() \x7b".toList ∈ session.confirmed.lines := by
  have entry : Text.lines ("func main() \x7b".toList ++ ['\n']) = ["func main() \x7b".toList] := by
    decide
  rw [confirmed_eq, (Text.closed_concat_newline session.preamble).lines_append,
    (Text.closed_concat_newline "func main() \x7b".toList).lines_append, entry]
  exact List.mem_append_right _ (List.mem_append_left _ List.mem_cons_self)

end Session
end Turnwise
