import Turnwise.Proofs.Diagnostic.Endings
import Turnwise.Proofs.Diagnostic.Grammar

/-!
# Reading diagnostics again

A diagnostic that was read is written in one way, whatever the line was like that it was read
from: its numbers have no leading zeros, and one blank stands before its message.  These are
well-formed parts of the same diagnostic, and its message does not end in a carriage return,
so the same diagnostic is read again.  What is written stands on one line.  An output of such
lines, with any lines among them that are no diagnostics, therefore has just the diagnostics
that were written.
-/

namespace Turnwise
namespace Diagnostic

/-! ## Messages and carriage returns -/

/-- Nothing is left out of a text that does not end in a carriage return. -/
theorem unreturned_eq_self_iff (text : Text) :
    unreturned text = text ↔ text.getLast? ≠ some '\r' := by
  rw [unreturned, Text.dropEndWhile, ← List.rdropWhile, List.rdropWhile_eq_self_iff]
  rcases List.eq_nil_or_concat text with rfl | ⟨rest, last, rfl⟩ <;> simp

/-- Leaving out carriage returns twice is leaving them out once. -/
theorem unreturned_unreturned (text : Text) : unreturned (unreturned text) = unreturned text :=
  List.rdropWhile_idempotent (· == '\r') text

/-- Whether a text ends in a carriage return is seen at its last part. -/
theorem unreturned_append_eq_self_iff
    (first : Text)
    {last : Text}
    (nonempty : last ≠ []) :
    unreturned (first ++ last) = first ++ last ↔ unreturned last = last := by
  rw [unreturned_eq_self_iff, unreturned_eq_self_iff, List.getLast?_append_of_ne_nil _ nonempty]

theorem SpellsMessage.ne_nil
    {message : Text}
    (spells : SpellsMessage message) :
    message ≠ [] := by
  rcases spells.opened with ⟨c, rest, rfl, _⟩ | ⟨c, rfl, _⟩ <;> exact List.cons_ne_nil _ _

/-! ## Parts as they are written -/

/-- A number in range is spelled by its numeral. -/
theorem spellsPosition_ofNat
    {number : Nat}
    (inRange : number < positionBound) :
    SpellsPosition (Text.ofNat number) where
  nonempty := Nat.toDigits_ne_nil
  decimal _ := Text.isDigit_of_mem_ofNat
  inRange := by rwa [Text.ofNat, Nat.ofDigitChars_ten_toDigits]

namespace Parts

/-- The parts as they are written: numbers without leading zeros, and one blank before the
message. -/
def canonical (parts : Parts) : Parts :=
  { parts with
    line := Text.ofNat parts.diagnostic.line
    column := Text.ofNat parts.diagnostic.column
    gap := [' '] }

variable {parts : Parts}

@[simp] theorem diagnostic_canonical : parts.canonical.diagnostic = parts.diagnostic := by
  simp [canonical, diagnostic, Text.ofNat, Nat.ofDigitChars_ten_toDigits]

@[simp] theorem text_canonical : parts.canonical.text = parts.diagnostic.render := by
  simp [canonical, text, render, diagnostic]

theorem WellFormed.canonical (wellFormed : parts.WellFormed) : parts.canonical.WellFormed where
  file := wellFormed.file
  line := spellsPosition_ofNat wellFormed.line.inRange
  column := spellsPosition_ofNat wellFormed.column.inRange
  gap := rfl
  message := wellFormed.message

/-- The message of a line without carriage returns at its end has none at its end. -/
theorem WellFormed.unreturned_message
    (wellFormed : parts.WellFormed)
    {line : Text}
    (whole : parts.text = unreturned line) :
    unreturned parts.message = parts.message := by
  have kept : unreturned parts.text = parts.text := by rw [whole, unreturned_unreturned]
  have split : parts.text =
      (parts.file ++ ':' :: (parts.line ++ ':' :: (parts.column ++ ':' :: parts.gap))) ++
        parts.message := by
    simp [text]
  rw [split] at kept
  exact (unreturned_append_eq_self_iff _ wellFormed.message.ne_nil).mp kept

/-- No newline is written. -/
theorem WellFormed.newline_not_mem_render (wellFormed : parts.WellFormed) :
    '\n' ∉ parts.diagnostic.render := by
  have file : '\n' ∉ parts.file := fun present =>
    absurd (wellFormed.file.plain _ present).1 (by decide)
  exact Diagnostic.newline_not_mem_render file wellFormed.message.newlineFree

end Parts

/-! ## Diagnostics that were read -/

section Read

variable {line : Text}
variable {diagnostic : Diagnostic}

/-- A diagnostic that was read is read again when it is written. -/
theorem parse?_render_of_parse?
    (read : parse? line = some diagnostic) :
    parse? diagnostic.render = some diagnostic := by
  obtain ⟨parts, wellFormed, whole, rfl⟩ := exists_parts_of_parse? read
  have kept := wellFormed.unreturned_message whole
  have written : parts.canonical.text = unreturned parts.diagnostic.render := by
    rw [Parts.text_canonical]
    exact ((unreturned_append_eq_self_iff _ wellFormed.message.ne_nil).mpr kept).symm
  rw [parse?_of_parts wellFormed.canonical written, Parts.diagnostic_canonical]

theorem newline_not_mem_render_of_parse?
    (read : parse? line = some diagnostic) :
    '\n' ∉ diagnostic.render := by
  obtain ⟨parts, wellFormed, _, rfl⟩ := exists_parts_of_parse? read
  exact wellFormed.newline_not_mem_render

end Read

/-! ## Outputs that list diagnostics -/

/-- The diagnostics of lines put together are those of the lines. -/
theorem parseAll_joinWith
    {rows : List Text}
    (newlineFree : ∀ row ∈ rows, '\n' ∉ row) :
    parseAll (Text.joinWith ['\n'] rows) = rows.filterMap parse? := by
  by_cases empty : rows = []
  · subst empty
    rfl
  · rw [parseAll_eq_filterMap_pieces, Text.pieces_joinWith newlineFree empty]

/-- Lines that list diagnostics as they are written, in order, with any lines among them that
are no diagnostics. -/
inductive Lists : List Diagnostic → List Text → Prop
  /-- No line. -/
  | nil : Lists [] []
  /-- A diagnostic that can be read off some line is written. -/
  | diagnostic {line : Text} {diagnostic : Diagnostic} {diagnostics : List Diagnostic}
      {rows : List Text}
      (read : parse? line = some diagnostic)
      (later : Lists diagnostics rows) :
      Lists (diagnostic :: diagnostics) (diagnostic.render :: rows)
  /-- A line without newlines is no diagnostic. -/
  | other {row : Text} {diagnostics : List Diagnostic} {rows : List Text}
      (newlineFree : '\n' ∉ row)
      (rejected : parse? row = none)
      (later : Lists diagnostics rows) :
      Lists diagnostics (row :: rows)

variable {diagnostics : List Diagnostic}
variable {rows : List Text}

theorem Lists.newline_not_mem
    (lists : Lists diagnostics rows) :
    ∀ row ∈ rows, '\n' ∉ row := by
  induction lists with
  | nil => exact fun _ present => nomatch present
  | diagnostic read later inductionHypothesis =>
      exact List.forall_mem_cons.mpr ⟨newline_not_mem_render_of_parse? read, inductionHypothesis⟩
  | other newlineFree rejected later inductionHypothesis =>
      exact List.forall_mem_cons.mpr ⟨newlineFree, inductionHypothesis⟩

theorem Lists.filterMap_parse?
    (lists : Lists diagnostics rows) :
    rows.filterMap parse? = diagnostics := by
  induction lists with
  | nil => rfl
  | diagnostic read later inductionHypothesis =>
      rw [List.filterMap_cons_some (parse?_render_of_parse? read), inductionHypothesis]
  | other newlineFree rejected later inductionHypothesis =>
      rw [List.filterMap_cons_none rejected, inductionHypothesis]

/-- Diagnostics survive being written.  What was read off a line is read again when it is
written, and lines that list diagnostics, put together with or without a final newline, have
just these diagnostics, in order. -/
theorem parseAll_of_lists :
    (∀ line diagnostic,
      parse? line = some diagnostic → parse? diagnostic.render = some diagnostic) ∧
    ∀ diagnostics rows,
      Lists diagnostics rows →
      parseAll (Text.joinWith ['\n'] rows) = diagnostics ∧
      parseAll (Text.joinWith ['\n'] rows ++ ['\n']) = diagnostics := by
  refine ⟨fun line diagnostic => parse?_render_of_parse?, ?_⟩
  intro diagnostics rows lists
  have joined := (parseAll_joinWith lists.newline_not_mem).trans lists.filterMap_parse?
  exact ⟨joined, (parseAll_concat_newline _).trans joined⟩

/-- A number with leading zeros, a blank message behind a tab, and a message with no blank
before it; a line with a carriage return and an empty line are no diagnostics. -/
theorem parseAll_of_lists_spelled :
    let blank : Diagnostic := ⟨"./a.go".toList, 7, 1, [' '], .unrecoverable⟩
    let unused : Diagnostic :=
      ⟨"./b.go".toList, 3, 14, "declared and not used: y".toList, .recoverable ['y']⟩
    let rows : List Text := [blank.render, "# a\r".toList, unused.render, []]
    parse? "./a.go:007:1:\t \r\r".toList = some blank ∧
    parse? "./b.go:3:14:declared and not used: y".toList = some unused ∧
    parse? blank.render = some blank ∧
    Lists [blank, unused] rows ∧
    parseAll (Text.joinWith ['\n'] rows) = [blank, unused] ∧
    parseAll (Text.joinWith ['\n'] rows ++ ['\n']) = [blank, unused] := by
  intro blank unused rows
  have blankRead : parse? "./a.go:007:1:\t \r\r".toList = some blank := by decide +kernel
  have unusedRead : parse? "./b.go:3:14:declared and not used: y".toList = some unused := by
    decide +kernel
  have lists : Lists [blank, unused] rows :=
    .diagnostic blankRead (.other (by decide) (by decide)
      (.diagnostic unusedRead (.other (by decide) rfl .nil)))
  exact ⟨blankRead, unusedRead, parseAll_of_lists.1 _ blank blankRead, lists,
    parseAll_of_lists.2 [blank, unused] rows lists⟩

end Diagnostic
end Turnwise
