import Turnwise.Proofs.Miniature.Discarding
import Turnwise.Proofs.Miniature.Sessions

/-!
# What the formatter accepts

The formatter accepts a source text that closes its braces and leaves no operator without its
operand.  A program with discards has the lines of the program without them and the lines of
the discards, so the formatter accepts it when it accepts the program without discards and the
names that are discarded neither open a brace nor end in an operator.
-/

namespace Turnwise
namespace Miniature

open Turnwise.Composition (closedStatement discard)

/-! ## Accepted texts -/

theorem danglingOperator?_eq_none_iff
    (number : Nat)
    (lines : List Text) :
    danglingOperator? number lines = none ↔
      ∀ line ∈ lines, Text.endsIn '+' line.trimEnd = false := by
  induction lines generalizing number with
  | nil => simp [danglingOperator?]
  | cons line rest inductionHypothesis =>
      rw [danglingOperator?, List.forall_mem_cons, ← inductionHypothesis (number + 1)]
      split
      · rename_i ends
        simp [ends]
      · rename_i complete
        simp [complete]

/-- The formatter accepts a source text that closes its braces and leaves no operator
without its operand. -/
theorem format_eq_ok_iff (source : Text) :
    format source = .ok source ↔
      source.count '\x7b' ≤ source.count '\x7d' ∧
        ∀ line ∈ source.lines, Text.endsIn '+' line.trimEnd = false := by
  rw [← danglingOperator?_eq_none_iff 1, format]
  split
  · rename_i opened
    simp [Nat.not_le_of_lt opened]
  · rename_i closed
    cases danglingOperator? 1 source.lines with
    | some position => simp
    | none => simp [Nat.le_of_not_lt closed]

/-! ## Composed programs -/

section Compose

variable {names : List Text}

/-- The lines of a program are those without discards, and the discards. -/
theorem mem_lines_compose_iff
    (session : Session)
    (placement : Placement)
    (candidate : Text)
    (named : ∀ name ∈ names, IsName name)
    (line : Text) :
    line ∈ (session.compose placement candidate (names.map discard)).lines ↔
      line ∈ (session.compose placement candidate []).lines ∨ line ∈ names.map discard := by
  rw [Session.compose_eq_confirmed_append, Session.compose_eq_confirmed_append,
    session.closed_confirmed.lines_append, session.closed_confirmed.lines_append,
    Composition.lines_flatMap_closedStatement_closing,
    Composition.lines_flatMap_closedStatement_closing]
  cases placement with
  | before =>
      simp only [Composition.arrange, List.flatMap_append, lines_discards named, List.mem_append,
        List.nil_append]
      tauto
  | after =>
      simp only [Composition.arrange, List.flatMap_cons, lines_discards named, List.mem_append,
        List.flatMap_nil, List.not_mem_nil, or_false]
      tauto

/-- The characters of a program are those without discards, and those of the discards. -/
theorem count_compose
    (session : Session)
    (placement : Placement)
    (candidate : Text)
    (fixes : List Text)
    (c : Char) :
    (session.compose placement candidate fixes).count c =
      (session.compose placement candidate []).count c +
        (fixes.flatMap closedStatement).count c := by
  cases placement <;>
    simp only [Session.compose, Composition.arrange, List.flatMap_append, List.flatMap_cons,
      List.flatMap_nil, List.count_append, List.nil_append, List.count_nil] <;>
    omega

/-- The formatter accepts discards of names without braces that do not end in an operator. -/
theorem format_compose_discards
    {formatted : Text}
    (session : Session)
    (placement : Placement)
    (candidate : Text)
    (named : ∀ name ∈ names, IsName name)
    (plain : ∀ name ∈ names, '\x7b' ∉ name ∧ Text.endsIn '+' name = false)
    (accepted : format (session.compose placement candidate []) = .ok formatted) :
    format (session.compose placement candidate (names.map discard)) =
      .ok (session.compose placement candidate (names.map discard)) := by
  rw [eq_of_format_eq_ok accepted] at accepted
  obtain ⟨closed, complete⟩ := (format_eq_ok_iff _).mp accepted
  rw [format_eq_ok_iff]
  constructor
  · have braceless : ((names.map discard).flatMap closedStatement).count '\x7b' = 0 := by
      rw [List.count_eq_zero, List.flatMap_map]
      intro present
      obtain ⟨name, chosen, contains⟩ := List.mem_flatMap.mp present
      have inName : '\x7b' ∈ name := by
        rw [closedStatement] at contains
        split at contains <;> simpa [Composition.discard] using contains
      exact (plain name chosen).1 inName
    rw [count_compose, count_compose _ _ _ _ '\x7d', braceless]
    omega
  · intro line present
    rcases (mem_lines_compose_iff session placement candidate named line).mp present with
      old | new
    · exact complete line old
    · obtain ⟨name, chosen, rfl⟩ := List.mem_map.mp new
      have isName := named name chosen
      rw [Composition.discard, isName.trimEnd_append, isName.endsIn_append]
      exact (plain name chosen).2

end Compose

end Miniature
end Turnwise
