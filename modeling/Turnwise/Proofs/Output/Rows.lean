import Mathlib.Data.List.TakeWhile
import Turnwise.Proofs.Output.Slicing

/-!
# Slices and rows

The slice of an output at a number of newlines is what follows a closed beginning with just
so many newlines, and nothing when the output has fewer.  The rows of a text are its pieces
without an empty last one.  A closed beginning has as many rows as newlines, so slicing an
output leaves out its first rows, and what a turn shows are the others.
-/

namespace Turnwise

namespace Text

/-! ## Rows -/

/-- The pieces of a text, without the last one when nothing stands in it. -/
def rows (text : Text) : List Text :=
  if text.pieces.getLast? = some [] then text.pieces.dropLast else text.pieces

@[simp] theorem rows_nil : rows [] = [] := rfl

/-- A line without newlines is one row, unless it is empty. -/
theorem rows_of_not_mem
    {line : Text}
    (absent : '\n' ∉ line)
    (nonempty : line ≠ []) :
    rows line = [line] := by
  rw [rows, pieces_of_not_mem absent]
  exact if_neg fun empty => nonempty (Option.some.inj empty)

/-- The rows before a newline are the pieces there. -/
theorem rows_append_newline (first second : Text) :
    rows (first ++ '\n' :: second) = pieces first ++ rows second := by
  have last : (pieces first ++ pieces second).getLast? = (pieces second).getLast? :=
    List.getLast?_append_of_ne_nil _ (pieces_ne_nil second)
  rw [rows, rows, pieces_append_newline, last]
  split_ifs
  · exact List.dropLast_append_of_ne_nil (pieces_ne_nil second)
  · rfl

/-- The rows of a closed text and of what follows it stand one after the other. -/
theorem Closed.rows_append
    {first : Text}
    (closed : first.Closed)
    (second : Text) :
    rows (first ++ second) = rows first ++ rows second := by
  rcases closed with rfl | ⟨before, rfl⟩
  · rfl
  · rw [List.append_assoc, List.singleton_append, rows_append_newline, rows_append_newline,
      rows_nil, List.append_nil]

/-- The pieces of a closed text and of what follows it are the rows of the one and the pieces
of the other. -/
theorem Closed.pieces_append
    {first : Text}
    (closed : first.Closed)
    (second : Text) :
    pieces (first ++ second) = rows first ++ pieces second := by
  rcases closed with rfl | ⟨before, rfl⟩
  · rfl
  · rw [List.append_assoc, List.singleton_append, pieces_append_newline, rows_append_newline,
      rows_nil, List.append_nil]

theorem rows_flatMap
    {parts : List α}
    {write : α → Text}
    (every : ∀ part ∈ parts, (write part).Closed) :
    rows (parts.flatMap write) = parts.flatMap (rows ∘ write) := by
  induction parts with
  | nil => rfl
  | cons part rest inductionHypothesis =>
      rw [List.flatMap_cons, List.flatMap_cons,
        (every part List.mem_cons_self).rows_append,
        inductionHypothesis fun other present => every other (List.mem_cons_of_mem part present)]
      rfl

/-- A closed text has as many rows as newlines. -/
theorem Closed.length_rows
    {text : Text}
    (closed : text.Closed) :
    (rows text).length = newlineCount text := by
  rcases closed with rfl | ⟨before, rfl⟩
  · rfl
  · rw [rows_append_newline, rows_nil, List.append_nil, length_pieces, newlineCount_append]
    rfl

/-- A text has at most one row more than newlines. -/
theorem length_rows_le (text : Text) : (rows text).length ≤ newlineCount text + 1 := by
  rw [← length_pieces, rows]
  split_ifs
  · exact (List.dropLast_sublist _).length_le
  · exact le_rfl

/-- The rows of a text, with newlines between them, are the text without its final
newline. -/
theorem joinWith_rows (text : Text) : joinWith ['\n'] (rows text) = dropFinal '\n' text := by
  by_cases present : '\n' ∈ text
  · obtain ⟨closed, split⟩ := Output.exists_closed_of_mem present
    have absent := Output.newline_not_mem_openLine text
    generalize Output.openLine text = line at split absent
    subst split
    by_cases empty : line = []
    · rw [empty, rows_append_newline, rows_nil, List.append_nil, joinWith_pieces,
        dropFinal_concat]
    · have kept : dropFinal '\n' ('\n' :: line) = '\n' :: line := by
        rw [← List.singleton_append, dropFinal_append '\n' _ empty, dropFinal_of_not_mem absent]
      rw [rows_append_newline, rows_of_not_mem absent empty, ← pieces_of_not_mem absent,
        ← pieces_append_newline, joinWith_pieces, dropFinal_append '\n' _ (List.cons_ne_nil _ _),
        kept]
  · by_cases empty : text = []
    · rw [empty]
      rfl
    · rw [rows_of_not_mem present empty, dropFinal_of_not_mem present]
      exact List.intercalate_singleton

end Text

namespace Output

/-! ## The part before a slice -/

/-- With newlines enough, a slice stands after a closed part with as many of them. -/
theorem exists_shown_of_le
    {output : Text}
    {offset : Nat}
    (enough : offset ≤ output.newlineCount) :
    ∃ shown, output = shown ++ sliceFrom output offset ∧ shown.newlineCount = offset ∧
      shown.Closed := by
  fun_induction sliceFrom output offset with
  | case1 text => exact ⟨[], rfl, rfl, Text.closed_nil⟩
  | case2 offset => exact absurd enough (Nat.not_succ_le_zero offset)
  | case3 rest offset inductionHypothesis =>
      rw [Text.newlineCount_newline] at enough
      obtain ⟨shown, split, counted, closed⟩ := inductionHypothesis (Nat.le_of_succ_le_succ enough)
      refine ⟨'\n' :: shown, by rw [List.cons_append, ← split], ?_, ?_⟩
      · rw [Text.newlineCount_newline, counted]
      · exact (Text.closed_concat_newline []).append closed
  | case4 c rest offset other inductionHypothesis =>
      rw [Text.newlineCount_cons other] at enough
      obtain ⟨shown, split, counted, closed⟩ := inductionHypothesis enough
      refine ⟨c :: shown, by rw [List.cons_append, ← split], ?_, ?_⟩
      · rw [Text.newlineCount_cons other, counted]
      · -- There is a newline to be counted, so the part shown is not empty.
        rcases closed with rfl | ⟨before, rfl⟩
        · cases counted
        · exact Text.closed_concat_newline (c :: before)

/-- A slice is empty when there are too few newlines. -/
theorem sliceFrom_of_lt
    {output : Text}
    {offset : Nat}
    (few : output.newlineCount < offset) :
    sliceFrom output offset = [] := by
  fun_induction sliceFrom output offset with
  | case1 text => exact absurd few (Nat.not_lt_zero _)
  | case2 offset => rfl
  | case3 rest offset inductionHypothesis =>
      rw [Text.newlineCount_newline] at few
      exact inductionHypothesis (Nat.lt_of_succ_lt_succ few)
  | case4 c rest offset other inductionHypothesis =>
      rw [Text.newlineCount_cons other] at few
      exact inductionHypothesis few

/-- A slice of a slice is a slice at both numbers of newlines together. -/
theorem sliceFrom_sliceFrom
    (output : Text)
    (offset further : Nat) :
    sliceFrom (sliceFrom output offset) further = sliceFrom output (offset + further) := by
  fun_induction sliceFrom output offset with
  | case1 text => rw [Nat.zero_add]
  | case2 offset =>
      rw [Nat.succ_add, sliceFrom]
      cases further <;> rfl
  | case3 rest offset inductionHypothesis =>
      rw [Nat.succ_add, sliceFrom, if_pos rfl, inductionHypothesis]
  | case4 c rest offset other inductionHypothesis =>
      rw [inductionHypothesis, Nat.add_right_comm, sliceFrom, if_neg other]

/-- A slice has the newlines that are left. -/
theorem newlineCount_sliceFrom
    (output : Text)
    (offset : Nat) :
    (sliceFrom output offset).newlineCount = output.newlineCount - offset := by
  rcases Nat.lt_or_ge output.newlineCount offset with few | enough
  · rw [sliceFrom_of_lt few, Text.newlineCount_nil, Nat.sub_eq_zero_of_le few.le]
  · obtain ⟨shown, split, counted, _⟩ := exists_shown_of_le enough
    conv_rhs => rw [split, Text.newlineCount_append, counted]
    exact (Nat.add_sub_cancel_left _ _).symm

/-- The slice of an output are its pieces from the offset on, with newlines between them. -/
theorem sliceFrom_eq_joinWith_pieces
    (output : Text)
    (offset : Nat) :
    sliceFrom output offset = Text.joinWith ['\n'] (output.pieces.drop offset) := by
  rcases Nat.lt_or_ge output.newlineCount offset with few | enough
  · have none : output.pieces.length ≤ offset := by
      rw [Text.length_pieces]
      exact few
    rw [sliceFrom_of_lt few, List.drop_eq_nil_of_le none]
    rfl
  · obtain ⟨shown, split, counted, closed⟩ := exists_shown_of_le enough
    conv_rhs => rw [split, closed.pieces_append, List.drop_left' (closed.length_rows.trans counted)]
    exact (Text.joinWith_pieces _).symm

/-- The rows of a slice are those that are left. -/
theorem rows_sliceFrom
    (output : Text)
    (offset : Nat) :
    (sliceFrom output offset).rows = output.rows.drop offset := by
  rcases Nat.lt_or_ge output.newlineCount offset with few | enough
  · have short := (Text.length_rows_le output).trans few
    rw [sliceFrom_of_lt few, Text.rows_nil, List.drop_eq_nil_of_le short]
  · obtain ⟨shown, split, counted, closed⟩ := exists_shown_of_le enough
    conv_rhs => rw [split, closed.rows_append, List.drop_left' (closed.length_rows.trans counted)]

/-- What is shown of an output are its rows from the offset on. -/
theorem visible_eq_joinWith_rows
    (output : Text)
    (offset : Nat) :
    visible output offset = Text.joinWith ['\n'] (output.rows.drop offset) := by
  rw [visible, ← Text.joinWith_rows, rows_sliceFrom]

/-- Slicing is exact.  An output with newlines enough is what was shown, up to and with the
newline at the offset, and the slice; the slice of an output with fewer newlines is empty.
A slice has the newlines that are left, slicing twice is slicing once at the sum, and what a
turn shows are the rows of the output from the offset on, with newlines between them. -/
theorem sliceFrom_exact
    (output : Text)
    (offset : Nat) :
    (offset ≤ output.newlineCount →
      ∃ shown,
        output = shown ++ sliceFrom output offset ∧
        shown.newlineCount = offset ∧
        shown.Closed ∧
        (shown = [] ↔ offset = 0)) ∧
    (output.newlineCount < offset → sliceFrom output offset = []) ∧
    (sliceFrom output offset).newlineCount = output.newlineCount - offset ∧
    (∀ further,
      sliceFrom (sliceFrom output offset) further = sliceFrom output (offset + further)) ∧
    visible output offset = Text.joinWith ['\n'] (output.rows.drop offset) := by
  refine ⟨?_, sliceFrom_of_lt, newlineCount_sliceFrom output offset,
    sliceFrom_sliceFrom output offset, visible_eq_joinWith_rows output offset⟩
  intro enough
  obtain ⟨shown, split, counted, closed⟩ := exists_shown_of_le enough
  refine ⟨shown, split, counted, closed, ?_⟩
  rw [← counted, Text.newlineCount_eq_zero_iff]
  constructor
  · rintro rfl
    exact List.not_mem_nil
  · intro absent
    exact closed.resolve_right fun ⟨before, ends⟩ =>
      absent (ends ▸ List.mem_append_right before List.mem_cons_self)

/-- An empty line was shown, and the last line is open. -/
theorem sliceFrom_exact_openLine :
    let output : Text := "é\n\nab".toList
    2 ≤ output.newlineCount ∧
    output.newlineCount < 3 ∧
    (∃ shown : Text,
      output = shown ++ "ab".toList ∧ shown.newlineCount = 2 ∧ shown.Closed ∧ shown ≠ []) ∧
    sliceFrom output 3 = [] ∧
    visible output 1 = "\nab".toList := by
  intro output
  have enough : 2 ≤ output.newlineCount := by decide
  have few : output.newlineCount < 3 := by decide
  obtain ⟨shown, split, counted, closed, opened⟩ := (sliceFrom_exact output 2).1 enough
  have rest : sliceFrom output 2 = "ab".toList := by decide
  rw [rest] at split
  refine ⟨enough, few, ⟨shown, split, counted, closed, ?_⟩, (sliceFrom_exact output 3).2.1 few, ?_⟩
  · exact fun empty => absurd (opened.mp empty) (by decide)
  · exact (sliceFrom_exact output 1).2.2.2.2.trans (by decide)

end Output
end Turnwise
