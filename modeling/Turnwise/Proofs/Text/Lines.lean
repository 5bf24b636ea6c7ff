import Mathlib.Data.List.Basic
import Turnwise.Text.Lines
import Turnwise.Proofs.Text.Blank

/-!
# Lines of texts put together

A text is closed when it is empty or ends in a newline.  The lines of a closed text and
of what follows it are the lines of the two, one after the other, and a closed text has
as many lines as newlines.
-/

namespace Turnwise
namespace Text

/-! ## Newlines -/

@[simp] theorem newlineCount_nil : newlineCount [] = 0 := rfl

@[simp] theorem newlineCount_append
    (first second : Text) :
    newlineCount (first ++ second) = newlineCount first + newlineCount second :=
  List.count_append

@[simp] theorem newlineCount_newline (rest : Text) :
    newlineCount ('\n' :: rest) = newlineCount rest + 1 :=
  List.count_cons_self

theorem newlineCount_cons
    {c : Char}
    (other : c ≠ '\n')
    (rest : Text) :
    newlineCount (c :: rest) = newlineCount rest :=
  List.count_cons_of_ne other

theorem newlineCount_eq_zero_iff (text : Text) :
    newlineCount text = 0 ↔ '\n' ∉ text :=
  List.count_eq_zero

/-! ## Pieces -/

theorem pieces_ne_nil (text : Text) : pieces text ≠ [] :=
  List.splitOn_ne_nil '\n' text

theorem pieces_append_newline (first second : Text) :
    pieces (first ++ '\n' :: second) = pieces first ++ pieces second :=
  List.splitOn_append_cons_self first second

theorem pieces_of_not_mem
    {text : Text}
    (absent : '\n' ∉ text) :
    pieces text = [text] :=
  List.splitOn_eq_singleton absent

/-- A list has one part more than it has separators. -/
theorem length_splitOn
    [DecidableEq α]
    (separator : α)
    (items : List α) :
    (items.splitOn separator).length = items.count separator + 1 := by
  induction items with
  | nil => rfl
  | cons item rest inductionHypothesis =>
      rw [List.splitOn_cons_eq_if_modifyHead, List.count_cons]
      split
      · rw [List.length_cons, inductionHypothesis]
      · rw [List.length_modifyHead, inductionHypothesis, Nat.add_zero]

/-- A text has one piece more than newlines. -/
theorem length_pieces (text : Text) :
    (pieces text).length = newlineCount text + 1 :=
  length_splitOn '\n' text

/-- The pieces of a text, with newlines between them, are the text. -/
theorem joinWith_pieces (text : Text) : joinWith ['\n'] (pieces text) = text :=
  List.intercalate_splitOn '\n'

/-- Lines with newlines between them are the pieces of what they make up. -/
theorem pieces_joinWith
    {rows : List Text}
    (newlineFree : ∀ row ∈ rows, '\n' ∉ row)
    (nonempty : rows ≠ []) :
    pieces (joinWith ['\n'] rows) = rows :=
  List.splitOn_intercalate '\n' newlineFree nonempty

/-- No separator stands inside a part. -/
theorem not_mem_of_mem_splitOn
    [DecidableEq α]
    {separator : α}
    {items part : List α}
    (present : part ∈ items.splitOn separator) :
    separator ∉ part := by
  induction items generalizing part with
  | nil =>
      rw [List.splitOn_nil, List.mem_singleton] at present
      rw [present]
      exact List.not_mem_nil
  | cons item rest inductionHypothesis =>
      rw [List.splitOn_cons_eq_if_modifyHead] at present
      split at present
      · rcases List.mem_cons.mp present with rfl | later
        · exact List.not_mem_nil
        · exact inductionHypothesis later
      · rename_i inside
        obtain ⟨first, others, split⟩ :=
          List.exists_cons_of_ne_nil (List.splitOn_ne_nil separator rest)
        rw [split, List.modifyHead_cons] at present
        rw [split] at inductionHypothesis
        rcases List.mem_cons.mp present with rfl | later
        · rw [List.mem_cons, not_or]
          exact ⟨fun equal => inside (beq_iff_eq.mpr equal.symm),
            inductionHypothesis List.mem_cons_self⟩
        · exact inductionHypothesis (List.mem_cons_of_mem first later)

/-- No newline stands inside a piece. -/
theorem newline_not_mem_of_mem_pieces
    {text piece : Text}
    (present : piece ∈ pieces text) :
    '\n' ∉ piece :=
  not_mem_of_mem_splitOn present

/-- A word holds no characters but those of its text. -/
theorem mem_of_mem_word
    {text word : Text}
    {c : Char}
    (present : word ∈ words text)
    (contains : c ∈ word) :
    c ∈ text := by
  have part : word ∈ text.splitOnP isBlank := List.mem_of_mem_filter present
  clear present
  induction text generalizing word with
  | nil =>
      rw [List.splitOnP_nil, List.mem_singleton] at part
      rw [part] at contains
      exact contains
  | cons first rest inductionHypothesis =>
      rw [List.splitOnP_cons_eq_if_modifyHead] at part
      obtain ⟨head, others, split⟩ :=
        List.exists_cons_of_ne_nil (List.splitOnP_ne_nil isBlank rest)
      rw [split] at part inductionHypothesis
      split at part
      · rcases List.mem_cons.mp part with rfl | later
        · cases contains
        · exact List.mem_cons_of_mem first (inductionHypothesis contains later)
      · rcases List.mem_cons.mp part with rfl | later
        · rcases List.mem_cons.mp contains with rfl | inside
          · exact List.mem_cons_self
          · exact List.mem_cons_of_mem first (inductionHypothesis inside List.mem_cons_self)
        · exact List.mem_cons_of_mem first
            (inductionHypothesis contains (List.mem_cons_of_mem head later))

/-! ## Lines -/

@[simp] theorem lines_nil : lines [] = [] := rfl

/-- The lines before a newline are the pieces there, each without one carriage
return. -/
theorem lines_append_newline (closed rest : Text) :
    lines (closed ++ '\n' :: rest) = (pieces closed).map (dropFinal '\r') ++ lines rest := by
  rw [lines, lines, pieces_append_newline,
    List.dropLast_append_of_ne_nil (pieces_ne_nil rest), List.map_append, List.append_assoc,
    List.getLast?_append_of_ne_nil _ (pieces_ne_nil rest)]

theorem lines_concat_newline (closed : Text) :
    lines (closed ++ ['\n']) = (pieces closed).map (dropFinal '\r') := by
  rw [lines_append_newline, lines_nil, List.append_nil]

theorem newline_not_mem_of_mem_lines
    {text line : Text}
    (present : line ∈ lines text) :
    '\n' ∉ line := by
  rcases List.mem_append.mp present with closed | last
  · obtain ⟨piece, part, rfl⟩ := List.mem_map.mp closed
    intro contains
    exact newline_not_mem_of_mem_pieces (List.dropLast_subset _ part)
      (mem_of_mem_dropFinal contains)
  · have part := List.mem_of_getLast? (Option.mem_toList.mp (List.mem_of_mem_filter last))
    exact newline_not_mem_of_mem_pieces part

/-- A final newline makes no difference to what is read off the lines, when nothing is
read off an empty line and a carriage return at the end of a line does not count. -/
theorem filterMap_lines_concat_newline
    {read : Text → Option α}
    (empty : read [] = none)
    (returns : ∀ line, read (dropFinal '\r' line) = read line)
    (text : Text) :
    (lines (text ++ ['\n'])).filterMap read = (lines text).filterMap read := by
  have whole := List.dropLast_append_getLast (pieces_ne_nil text)
  rw [lines_concat_newline, lines, List.getLast?_eq_some_getLast (pieces_ne_nil text)]
  conv_lhs => rw [← whole]
  rw [List.map_append, List.filterMap_append, List.filterMap_append]
  congr 1
  cases last : (pieces text).getLast (pieces_ne_nil text) with
  | nil => simp [empty]
  | cons c rest => simp [returns, List.filterMap_cons]

/-- A final newline makes no difference to the trimmed lines that are not empty. -/
theorem countP_lines_concat_newline
    {test : Text → Bool}
    (empty : test [] = false)
    (text : Text) :
    (lines (text ++ ['\n'])).countP (fun line => test line.trim) =
      (lines text).countP (fun line => test line.trim) := by
  have kept (line : Text) : test line.trim = (Option.guard test line.trim).isSome := by
    simp
  have returns (line : Text) :
      Option.guard test (trim (dropFinal '\r' line)) = Option.guard test line.trim := by
    rw [trim_dropFinal (show isBlank '\r' = true from rfl)]
  simp only [kept, ← List.length_filterMap_eq_countP]
  rw [filterMap_lines_concat_newline _ returns]
  simpa [trim, trimEnd, dropEndWhile] using empty

/-- A text that is empty or ends in a newline. -/
def Closed (text : Text) : Prop :=
  text = [] ∨ ∃ closed, text = closed ++ ['\n']

theorem closed_nil : Closed [] := Or.inl rfl

theorem closed_concat_newline (text : Text) : Closed (text ++ ['\n']) :=
  Or.inr ⟨text, rfl⟩

theorem Closed.append
    {first second : Text}
    (firstClosed : Closed first)
    (secondClosed : Closed second) :
    Closed (first ++ second) := by
  rcases secondClosed with rfl | ⟨closed, rfl⟩
  · rwa [List.append_nil]
  · rw [← List.append_assoc]
    exact closed_concat_newline _

theorem closed_flatMap
    {parts : List α}
    {write : α → Text}
    (every : ∀ part ∈ parts, Closed (write part)) :
    Closed (parts.flatMap write) := by
  induction parts with
  | nil => exact closed_nil
  | cons part rest inductionHypothesis =>
      rw [List.flatMap_cons]
      apply (every part List.mem_cons_self).append
      exact inductionHypothesis fun other present =>
        every other (List.mem_cons_of_mem part present)

/-- The lines of a closed text and of what follows it stand one after the other. -/
theorem Closed.lines_append
    {first : Text}
    (closed : Closed first)
    (second : Text) :
    lines (first ++ second) = lines first ++ lines second := by
  rcases closed with rfl | ⟨closed, rfl⟩
  · rfl
  · rw [List.append_assoc, List.singleton_append, lines_append_newline, lines_concat_newline]

theorem lines_flatMap
    {parts : List α}
    {write : α → Text}
    (every : ∀ part ∈ parts, Closed (write part)) :
    lines (parts.flatMap write) = parts.flatMap (lines ∘ write) := by
  induction parts with
  | nil => rfl
  | cons part rest inductionHypothesis =>
      rw [List.flatMap_cons, List.flatMap_cons,
        (every part List.mem_cons_self).lines_append,
        inductionHypothesis fun other present => every other (List.mem_cons_of_mem part present)]
      rfl

/-- A closed text has as many lines as newlines. -/
theorem Closed.length_lines
    {text : Text}
    (closed : Closed text) :
    (lines text).length = newlineCount text := by
  rcases closed with rfl | ⟨closed, rfl⟩
  · rfl
  · rw [lines_concat_newline, List.length_map, length_pieces, newlineCount_append]
    rfl

end Text
end Turnwise
