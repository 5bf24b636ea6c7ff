import Turnwise.Diagnostic
import Turnwise.Proofs.Text.Visible

/-!
# Diagnostics and the ends of lines

Carriage returns at the end of a line do not count, and an empty line is no diagnostic.
The diagnostics of an output are therefore those of its pieces, one by one.  They are the
same with and without the final newline of the output, although its last line may then lose
a carriage return or vanish, and they are the same however many carriage returns stand
before each newline.
-/

namespace Turnwise
namespace Diagnostic

/-! ## One line -/

@[simp] theorem parse?_nil : parse? [] = none := rfl

/-- A carriage return at the end of a line does not count. -/
theorem parse?_dropFinal_return (line : Text) :
    parse? (Text.dropFinal '\r' line) = parse? line := by
  unfold parse?
  rw [Text.dropEndWhile_dropFinal (by decide)]

/-- Any number of carriage returns at the end of a line do not count. -/
theorem parse?_append_returns
    (line : Text)
    (count : Nat) :
    parse? (line ++ List.replicate count '\r') = parse? line := by
  have returns : (List.replicate count '\r').all (· == '\r') = true := by simp
  unfold parse?
  rw [Text.dropEndWhile_append_of_all returns]

/-! ## Outputs -/

theorem parseAll_concat_newline (output : Text) :
    parseAll (output ++ ['\n']) = parseAll output :=
  Text.filterMap_lines_concat_newline parse?_nil parse?_dropFinal_return output

/-- An output has the same diagnostics without its final newline. -/
theorem parseAll_dropFinal_newline (output : Text) :
    parseAll (Text.dropFinal '\n' output) = parseAll output := by
  rcases List.eq_nil_or_concat output with rfl | ⟨rest, last, rfl⟩
  · rfl
  · rw [List.concat_eq_append]
    by_cases newline : last = '\n'
    · subst newline
      rw [Text.dropFinal_concat, parseAll_concat_newline]
    · rw [Text.dropFinal_concat_of_ne newline]

/-- The diagnostics of an output are those of its pieces. -/
theorem parseAll_eq_filterMap_pieces (output : Text) :
    parseAll output = output.pieces.filterMap parse? := by
  have returns : parse? ∘ Text.dropFinal '\r' = parse? := funext parse?_dropFinal_return
  rw [← parseAll_concat_newline, parseAll, Text.lines_concat_newline, List.filterMap_map, returns]

/-- The diagnostics before and after a newline stand one after the other. -/
theorem parseAll_append_newline (first second : Text) :
    parseAll (first ++ '\n' :: second) = parseAll first ++ parseAll second := by
  simp only [parseAll_eq_filterMap_pieces, Text.pieces_append_newline, List.filterMap_append]

/-- Carriage returns at the end of an output do not count. -/
theorem parseAll_append_returns
    (output : Text)
    (count : Nat) :
    parseAll (output ++ List.replicate count '\r') = parseAll output := by
  induction output using Text.lines_induction with
  | last line absent =>
      have whole : '\n' ∉ line ++ List.replicate count '\r' := by
        simp [absent]
      rw [parseAll_eq_filterMap_pieces, parseAll_eq_filterMap_pieces,
        Text.pieces_of_not_mem whole, Text.pieces_of_not_mem absent, List.filterMap_cons,
        List.filterMap_cons, parse?_append_returns]
  | before line rest absent inductionHypothesis =>
      rw [List.append_assoc, List.cons_append, parseAll_append_newline, inductionHypothesis,
        ← parseAll_append_newline]

/-! ## Carriage returns put into a text -/

/-- Carriage returns are put into a text, any number of them directly before any of its
newlines and at its end. -/
inductive AddsReturns : (text added : Text) → Prop
  /-- At the end of the text, and nowhere else. -/
  | ending (text : Text) (count : Nat) :
      AddsReturns text (text ++ List.replicate count '\r')
  /-- Before a newline, and further on. -/
  | before (first : Text) (count : Nat) {rest added : Text}
      (later : AddsReturns rest added) :
      AddsReturns (first ++ '\n' :: rest)
        (first ++ List.replicate count '\r' ++ '\n' :: added)

theorem AddsReturns.parseAll_eq
    {text added : Text}
    (adds : AddsReturns text added) :
    parseAll added = parseAll text := by
  induction adds with
  | ending text count => exact parseAll_append_returns text count
  | before first count later inductionHypothesis =>
      rw [parseAll_append_newline, parseAll_append_returns, inductionHypothesis,
        ← parseAll_append_newline]

/-- Diagnostics are read line by line, whatever ends the lines.  Those of two outputs with a
newline between them are those of the two, one after the other, and carriage returns put
before newlines or at the end change none of them. -/
theorem parseAll_linewise :
    (∀ first second,
      parseAll (first ++ '\n' :: second) = parseAll first ++ parseAll second) ∧
    ∀ text added, AddsReturns text added → parseAll added = parseAll text :=
  ⟨parseAll_append_newline, fun _ _ adds => adds.parseAll_eq⟩

/-- Two carriage returns are put behind one that is there already, one into an empty line,
and one at the end. -/
theorem parseAll_linewise_mixed :
    let first : Text := "./a.go:1:2: x\r".toList
    let last : Text := "./b.go:3:4: declared and not used: y".toList
    let text : Text := first ++ '\n' :: '\n' :: last
    let added : Text := first ++ ['\r', '\r'] ++ '\n' :: '\r' :: '\n' :: (last ++ ['\r'])
    AddsReturns text added ∧
    parseAll added =
      [⟨"./a.go".toList, 1, 2, ['x'], .unrecoverable⟩,
        ⟨"./b.go".toList, 3, 4, "declared and not used: y".toList, .recoverable ['y']⟩] := by
  intro first last text added
  have adds : AddsReturns text added := .before first 2 (.before [] 1 (.ending last 1))
  refine ⟨adds, ?_⟩
  rw [parseAll_linewise.2 text added adds]
  decide +kernel

end Diagnostic
end Turnwise
