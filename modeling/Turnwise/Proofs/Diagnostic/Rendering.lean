import Turnwise.Diagnostic
import Turnwise.Proofs.Text.Blank
import Turnwise.Proofs.Text.Decimal

/-!
# Reading diagnostics that were written

A diagnostic is written as its file, its position and its message.  What is written can be
read again when the file has a name without blanks and colons, when the position is in range,
and when the message stands on one line and begins with a visible character.  Carriage
returns at the end of the message are lost.
-/

namespace Turnwise

namespace Diagnostic

/-! ## Positions and messages -/

/-- A number is read as a position when it is in range. -/
theorem position?_ofNat_append
    (n : Nat)
    (rest : Text) :
    position? (Text.ofNat n ++ ':' :: rest) =
      if n < positionBound then some (n, rest) else none := by
  have colon : Text.after? [':'] (':' :: rest) = some rest := rfl
  have digits : ∀ c ∈ Text.ofNat n, c.isDigit = true := fun _ => Text.isDigit_of_mem_ofNat
  rw [position?, Text.takeWhile_append_cons digits rfl, Text.dropWhile_append_cons digits rfl,
    Text.digitsBelow?, Text.digits?_ofNat, colon, Option.filter_some]
  split_ifs with below inRange inRange
  · rfl
  · exact absurd (of_decide_eq_true below) inRange
  · exact absurd (decide_eq_true inRange) below
  · rfl

/-- A message that is read as it was written, up to carriage returns at its end. -/
structure Legible (message : Text) : Prop where
  /-- It begins with a visible character. -/
  opened : ∃ c rest, message = c :: rest ∧ Text.isBlank c = false
  /-- It stands on one line. -/
  newlineFree : '\n' ∉ message

/-- A message without the carriage returns at its end. -/
def unreturned (message : Text) : Text :=
  Text.dropEndWhile (· == '\r') message

theorem prefix_unreturned (message : Text) : unreturned message <+: message :=
  List.rdropWhile_prefix _ message

theorem Legible.not_all_returns
    {message : Text}
    (legible : Legible message) :
    message.all (· == '\r') = false := by
  obtain ⟨c, rest, rfl, visible⟩ := legible.opened
  have other : c ≠ '\r' := by
    rintro rfl
    cases visible
  simp [other]

/-- Carriage returns at its end are all that a message can lose. -/
theorem Legible.unreturned
    {message : Text}
    (legible : Legible message) :
    Legible (unreturned message) := by
  constructor
  · obtain ⟨c, rest, rfl, visible⟩ := legible.opened
    have kept : Diagnostic.unreturned (c :: rest) ≠ [] := by
      intro empty
      have every := List.rdropWhile_eq_nil_iff.mp empty
      have some := legible.not_all_returns
      rw [List.all_eq_true.mpr every] at some
      cases some
    obtain ⟨first, others, split⟩ := List.exists_cons_of_ne_nil kept
    have same : first :: others <+: c :: rest := by
      rw [← split]
      exact prefix_unreturned _
    rw [(List.cons_prefix_cons.mp same).1] at split
    exact ⟨c, others, split, visible⟩
  · intro present
    exact legible.newlineFree ((prefix_unreturned message).subset present)

theorem message?_of_legible
    {message : Text}
    (legible : Legible message) :
    message? (' ' :: message) = some message := by
  obtain ⟨c, rest, rfl, visible⟩ := legible.opened
  have body : (' ' :: c :: rest).dropWhile Text.isBlank = c :: rest := by
    rw [List.dropWhile_cons_of_pos (by decide), List.dropWhile_cons_of_neg (by simp [visible])]
  have newlineFree : (c :: rest).contains '\n' = false := by
    rw [← Bool.not_eq_true, List.contains_iff_mem]
    exact legible.newlineFree
  simp only [message?, body, List.isEmpty_cons, newlineFree, Bool.false_eq_true, if_false,
    Bool.or_self]

/-! ## Diagnostics -/

/-- A diagnostic is written on one line when its file and its message stand on one. -/
theorem newline_not_mem_render
    {diagnostic : Diagnostic}
    (file : '\n' ∉ diagnostic.file)
    (message : '\n' ∉ diagnostic.message) :
    '\n' ∉ diagnostic.render := by
  simp [render, file, message, Text.newline_not_mem_ofNat]

/-- A line with a file is read on from the colon after it. -/
theorem parse?_of_file
    {line name rest : Text}
    (plain : ∀ c ∈ name, isNameChar c = true)
    (whole : unreturned line = fileMarker ++ (name ++ ':' :: rest)) :
    parse? line =
      if name = [] then none
      else do
        let (lineNumber, rest) ← position? rest
        let (column, rest) ← position? rest
        let message ← message? rest
        return ⟨fileMarker ++ name, lineNumber, column, message, Kind.ofMessage message⟩ := by
  have marked (rest : Text) : Text.after? fileMarker (fileMarker ++ rest) = some rest :=
    Text.after?_eq_some_iff.mpr rfl
  have taken : (name ++ ':' :: rest).takeWhile isNameChar = name :=
    Text.takeWhile_append_cons plain rfl rest
  have dropped : (name ++ ':' :: rest).dropWhile isNameChar = ':' :: rest :=
    Text.dropWhile_append_cons plain rfl rest
  have colon : Text.after? [':'] (':' :: rest) = some rest := rfl
  rw [parse?, ← unreturned, whole, marked]
  simp only [Option.bind_eq_bind, Option.bind_some, taken, dropped, colon, List.isEmpty_iff]

/-- The line of a diagnostic, without the carriage returns at its end. -/
theorem unreturned_render
    {diagnostic : Diagnostic}
    {name : Text}
    (file : diagnostic.file = fileMarker ++ name)
    (legible : Legible diagnostic.message) :
    unreturned diagnostic.render =
      fileMarker ++ (name ++ ':' :: (Text.ofNat diagnostic.line ++ ':' ::
        (Text.ofNat diagnostic.column ++ ':' :: ' ' :: unreturned diagnostic.message))) := by
  rw [unreturned, render, Text.dropEndWhile_append _ legible.not_all_returns, file]
  simp [unreturned]

/-- What was written is read again when the file has a name and the position is in range. -/
theorem parse?_render
    {diagnostic : Diagnostic}
    {name : Text}
    (file : diagnostic.file = fileMarker ++ name)
    (plain : ∀ c ∈ name, isNameChar c = true)
    (legible : Legible diagnostic.message) :
    parse? diagnostic.render =
      if name ≠ [] ∧ diagnostic.line < positionBound ∧ diagnostic.column < positionBound then
        some { diagnostic with
          message := unreturned diagnostic.message
          kind := .ofMessage (unreturned diagnostic.message) }
      else none := by
  rw [parse?_of_file plain (unreturned_render file legible), position?_ofNat_append]
  by_cases named : name = []
  · simp [named]
  · by_cases line : diagnostic.line < positionBound
    · by_cases column : diagnostic.column < positionBound
      · simp [named, line, column, position?_ofNat_append,
          message?_of_legible legible.unreturned, file]
      · simp [named, line, column, position?_ofNat_append]
    · simp [named, line]

end Diagnostic
end Turnwise
