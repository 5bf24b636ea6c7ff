import Mathlib.Data.List.TakeWhile
import Turnwise.Output
import Turnwise.Proofs.Text.Lines

/-!
# Slicing an output

An output that repeats an earlier one and then goes on is sliced at the number of
newlines of the earlier one.  What remains is the last line of the earlier output, when
no newline ends it, and all that is new.
-/

namespace Turnwise

namespace Output

/-! ## The last line -/

/-- A text without newlines is one open line. -/
theorem openLine_of_not_mem
    {text : Text}
    (absent : '\n' ∉ text) :
    openLine text = text := by
  have every : ∀ c ∈ text.reverse, (c != '\n') = true := by
    intro c present
    rw [bne_iff_ne]
    exact fun equal => absent (equal ▸ List.mem_reverse.mp present)
  rw [openLine, List.takeWhile_eq_self_iff.mpr every, List.reverse_reverse]

/-- The open line stands after the last newline. -/
theorem openLine_append_newline (closed last : Text) :
    openLine (closed ++ '\n' :: last) = openLine last := by
  have reversed : (closed ++ '\n' :: last).reverse = last.reverse ++ '\n' :: closed.reverse := by
    simp
  rw [openLine, openLine, reversed, List.takeWhile_append]
  split
  · rename_i whole
    have same := List.IsPrefix.eq_of_length
      (List.takeWhile_prefix (l := last.reverse) (· != '\n')) whole
    rw [List.takeWhile_cons_of_neg (by simp), List.append_nil, same]
  · rfl

theorem openLine_of_closed
    {text : Text}
    (closed : text.Closed) :
    openLine text = [] := by
  rcases closed with rfl | ⟨closed, rfl⟩
  · rfl
  · exact openLine_append_newline closed []

theorem newline_not_mem_openLine (text : Text) : '\n' ∉ openLine text := by
  intro present
  have kept := List.mem_takeWhile_imp (List.mem_reverse.mp present)
  simp at kept

/-- A text with a newline is closed up to its last newline and open after it. -/
theorem exists_closed_of_mem
    {text : Text}
    (present : '\n' ∈ text) :
    ∃ closed, text = closed ++ '\n' :: openLine text := by
  obtain ⟨last, closed, reversed, absent⟩ :=
    List.eq_append_cons_of_mem (List.mem_reverse.mpr present)
  have split : text = closed.reverse ++ '\n' :: last.reverse := by
    rw [← List.reverse_reverse text, reversed]
    simp
  refine ⟨closed.reverse, ?_⟩
  rw [split, openLine_append_newline, openLine_of_not_mem (by simpa using absent)]

/-! ## Slicing behind an earlier output -/

@[simp] theorem sliceFrom_zero (text : Text) : sliceFrom text 0 = text := by
  cases text <;> rfl

/-- Slicing at the newlines of a closed beginning keeps what follows it. -/
theorem sliceFrom_closed_append (closed rest : Text) :
    sliceFrom (closed ++ '\n' :: rest) (closed.newlineCount + 1) = rest := by
  induction closed with
  | nil => simp [sliceFrom]
  | cons c closed inductionHypothesis =>
      by_cases newline : c = '\n'
      · subst newline
        rw [Text.newlineCount_newline, List.cons_append, sliceFrom, if_pos rfl]
        exact inductionHypothesis
      · rw [Text.newlineCount_cons newline, List.cons_append, sliceFrom, if_neg newline]
        exact inductionHypothesis

/-- Slicing at the newlines of an earlier output keeps its open line and what is new. -/
theorem sliceFrom_append_newlineCount
    (shown added : Text) :
    sliceFrom (shown ++ added) shown.newlineCount = openLine shown ++ added := by
  by_cases present : '\n' ∈ shown
  · obtain ⟨closed, split⟩ := exists_closed_of_mem present
    have lines : shown.newlineCount = closed.newlineCount + 1 := by
      rw [split, Text.newlineCount_append, Text.newlineCount_newline,
        (Text.newlineCount_eq_zero_iff _).mpr (newline_not_mem_openLine shown)]
    calc
      sliceFrom (shown ++ added) shown.newlineCount =
          sliceFrom (closed ++ '\n' :: (openLine shown ++ added)) (closed.newlineCount + 1) := by
        rw [lines, ← List.cons_append, ← List.append_assoc, ← split]
      _ = openLine shown ++ added := sliceFrom_closed_append closed _
  · rw [(Text.newlineCount_eq_zero_iff shown).mpr present, sliceFrom_zero,
      openLine_of_not_mem present]

/-- What is shown of an output that repeats an earlier one. -/
theorem visible_append_newlineCount
    (shown added : Text) :
    visible (shown ++ added) shown.newlineCount =
      Text.dropFinal '\n' (openLine shown ++ added) := by
  rw [visible, sliceFrom_append_newlineCount]

/-- Of an open line and what is new, only what is new can lose a newline. -/
theorem dropFinal_openLine_append
    (shown added : Text) :
    Text.dropFinal '\n' (openLine shown ++ added) =
      openLine shown ++ Text.dropFinal '\n' added := by
  cases added with
  | nil =>
      rw [Text.dropFinal_nil, List.append_nil,
        Text.dropFinal_of_not_mem (newline_not_mem_openLine shown)]
  | cons c rest => exact Text.dropFinal_append '\n' _ (List.cons_ne_nil c rest)

end Output
end Turnwise
