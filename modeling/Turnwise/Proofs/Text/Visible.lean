import Turnwise.Proofs.Text.Lines

/-!
# Visible lines

A text is a line without newlines, or such a line, a newline and another text.  Facts
about the lines of a text are read off these two cases: what its lines hold besides
newlines and carriage returns is what it holds, and its last visible line is that of the
part after a closed beginning, unless that part is blank.
-/

namespace Turnwise
namespace Text

/-! ## Lines one after the other -/

/-- What holds of a text without newlines, and of a line before every text of which it
holds, holds of every text. -/
theorem lines_induction
    {motive : Text → Prop}
    (last : ∀ line, '\n' ∉ line → motive line)
    (before : ∀ line rest, '\n' ∉ line → motive rest → motive (line ++ '\n' :: rest))
    (text : Text) :
    motive text := by
  by_cases present : '\n' ∈ text
  · obtain ⟨line, rest, whole, absent⟩ := List.eq_append_cons_of_mem present
    rw [whole]
    exact before line rest absent (lines_induction last before rest)
  · exact last text present
termination_by text.length
decreasing_by
  rw [whole, List.length_append, List.length_cons]
  omega

theorem lines_of_not_mem
    {line : Text}
    (absent : '\n' ∉ line) :
    lines line = if line = [] then [] else [line] := by
  rw [lines, pieces_of_not_mem absent]
  cases line <;> rfl

/-- A newline ends one line. -/
theorem lines_cons
    {line : Text}
    (absent : '\n' ∉ line)
    (rest : Text) :
    lines (line ++ '\n' :: rest) = dropFinal '\r' line :: lines rest := by
  rw [lines_append_newline, pieces_of_not_mem absent]
  rfl

/-- A text holds at most one final character more than is left when that is dropped. -/
theorem exists_eq_dropFinal_append (final : Char) (text : Text) :
    ∃ dropped, text = dropFinal final text ++ dropped ∧ ∀ c ∈ dropped, c = final := by
  rcases List.eq_nil_or_concat text with rfl | ⟨rest, last, rfl⟩
  · exact ⟨[], rfl, fun _ present => nomatch present⟩
  · rw [List.concat_eq_append]
    by_cases equal : last = final
    · subst equal
      rw [dropFinal_concat]
      exact ⟨[last], rfl, fun _ present => List.mem_singleton.mp present⟩
    · rw [dropFinal_concat_of_ne equal]
      exact ⟨[], (List.append_nil _).symm, fun _ present => nomatch present⟩

theorem all_dropFinal
    {test : Char → Bool}
    {final : Char}
    (passes : test final = true)
    (text : Text) :
    (dropFinal final text).all test = text.all test := by
  obtain ⟨dropped, whole, same⟩ := exists_eq_dropFinal_append final text
  have every : dropped.all test = true := by
    rw [List.all_eq_true]
    intro c present
    rw [same c present, passes]
  conv_rhs => rw [whole]
  rw [List.all_append, every, Bool.and_true]

/-- All characters of a text pass a test that newlines and carriage returns pass when
those of its lines do. -/
theorem all_lines
    {test : Char → Bool}
    (newline : test '\n' = true)
    (returns : test '\r' = true)
    (text : Text) :
    text.lines.all (fun line => line.all test) = text.all test := by
  induction text using lines_induction with
  | last line absent =>
      rw [lines_of_not_mem absent]
      split_ifs with empty
      · rw [empty]
        rfl
      · rw [List.all_cons, List.all_nil, Bool.and_true]
  | before line rest absent inductionHypothesis =>
      rw [lines_cons absent, List.all_cons, all_dropFinal returns, inductionHypothesis,
        List.all_append, List.all_cons, newline, Bool.true_and]

/-- A text is blank when all its lines are. -/
theorem all_blank_lines (text : Text) : text.lines.all blank = text.blank :=
  all_lines rfl rfl text

theorem blank_append (first second : Text) :
    blank (first ++ second) = (blank first && blank second) :=
  List.all_append

/-! ## Beginnings -/

/-- A beginning of two parts lies in the first or goes on in the second. -/
theorem beginsWith_append_iff
    {beginning first second : Text} :
    beginsWith beginning (first ++ second) = true ↔
      beginsWith beginning first = true ∨
        ∃ c rest, beginning = first ++ c :: rest ∧ beginsWith (c :: rest) second = true := by
  simp only [beginsWith, List.isPrefixOf_iff_prefix]
  constructor
  · intro whole
    rcases List.prefix_or_prefix_of_prefix whole (List.prefix_append first second) with
      inside | ⟨more, rfl⟩
    · exact .inl inside
    · cases more with
      | nil => exact .inl ((List.append_nil first).symm ▸ List.prefix_rfl)
      | cons c rest =>
          exact .inr ⟨c, rest, rfl, (List.prefix_append_right_inj first).mp whole⟩
  · rintro (inside | ⟨c, rest, rfl, more⟩)
    · exact inside.trans (List.prefix_append first second)
    · exact (List.prefix_append_right_inj first).mpr more

/-- A beginning does not reach into a part that lacks its last character. -/
theorem beginsWith_append
    {beginning kept dropped : Text}
    {last : Char}
    (ends : beginning.getLast? = some last)
    (absent : last ∉ dropped) :
    beginsWith beginning (kept ++ dropped) = beginsWith beginning kept := by
  rw [Bool.eq_iff_iff, beginsWith_append_iff, or_iff_left]
  rintro ⟨c, rest, rfl, more⟩
  rw [List.getLast?_append_of_ne_nil _ (List.cons_ne_nil c rest)] at ends
  exact absent ((List.isPrefixOf_iff_prefix.mp more).subset (List.mem_of_getLast? ends))

theorem beginsWith_append_of_beginsWith
    {beginning text : Text}
    (begins : beginsWith beginning text = true)
    (rest : Text) :
    beginsWith beginning (text ++ rest) = true :=
  beginsWith_append_iff.mpr (.inl begins)

/-- A text that begins with a visible part is not blank. -/
theorem blank_of_beginsWith
    {beginning text : Text}
    (begins : beginsWith beginning text = true)
    (visible : beginning.blank = false) :
    text.blank = false := by
  obtain ⟨rest, split⟩ := List.isPrefixOf_iff_prefix.mp begins
  rw [← split, blank_append, visible, Bool.false_and]

/-! ## The last visible line -/

/-- Only a blank text has no visible line. -/
theorem blank_lastVisibleLine (text : Text) :
    text.lastVisibleLine.blank = text.blank := by
  rw [lastVisibleLine]
  cases last : (text.lines.filter (!·.blank)).getLast? with
  | none =>
      have every : text.lines.all blank = true := by
        rw [List.getLast?_eq_none_iff, List.filter_eq_nil_iff] at last
        simpa using last
      rw [← all_blank_lines text, every]
      rfl
  | some line =>
      have kept := List.mem_filter.mp (List.mem_of_getLast? last)
      have visible : line.blank = false := by simpa using kept.2
      have whole : text.lines.all blank = false :=
        List.all_eq_false.mpr ⟨line, kept.1, by simp [visible]⟩
      rw [← all_blank_lines text, whole]
      exact visible

/-- A visible part after a closed text holds the last visible line. -/
theorem Closed.lastVisibleLine_append
    {first : Text}
    (closed : first.Closed)
    (second : Text) :
    (first ++ second).lastVisibleLine =
      if second.blank then first.lastVisibleLine else second.lastVisibleLine := by
  rw [lastVisibleLine, lastVisibleLine, lastVisibleLine, closed.lines_append,
    List.filter_append, List.getLast?_append]
  cases last : (second.lines.filter (!·.blank)).getLast? with
  | none =>
      have blank : second.blank = true := by
        rw [← blank_lastVisibleLine, lastVisibleLine, last]
        rfl
      rw [blank]
      rfl
  | some line =>
      have visible : second.blank = false := by
        rw [← blank_lastVisibleLine, lastVisibleLine, last]
        simpa using (List.mem_filter.mp (List.mem_of_getLast? last)).2
      rw [visible]
      rfl

/-- A visible line with no newline is the last one as it stands. -/
theorem lastVisibleLine_of_not_mem
    {line : Text}
    (absent : '\n' ∉ line)
    (visible : line.blank = false) :
    line.lastVisibleLine = line := by
  have nonempty : line ≠ [] := by
    rintro rfl
    cases visible
  rw [lastVisibleLine, lines_of_not_mem absent, if_neg nonempty,
    List.filter_cons_of_pos (by simp [visible])]
  rfl

/-- A visible line before a newline is the last one, without one carriage return, when
what follows is blank. -/
theorem lastVisibleLine_cons
    {line rest : Text}
    (absent : '\n' ∉ line)
    (visible : line.blank = false)
    (blank : rest.blank = true) :
    (line ++ '\n' :: rest).lastVisibleLine = dropFinal '\r' line := by
  have shown : (dropFinal '\r' line).blank = false := by
    rw [Text.blank, all_dropFinal rfl]
    exact visible
  rw [← List.singleton_append, ← List.append_assoc,
    (closed_concat_newline line).lastVisibleLine_append, if_pos blank, lastVisibleLine,
    lines_cons absent, lines_nil, List.filter_cons_of_pos (by simp [shown])]
  rfl

/-! ## Blank lines at the end -/

/-- The blank lines at the end of a text. -/
def blankEnd (text : Text) : List Text :=
  text.lines.rtakeWhile blank

/-- Blank lines at the end stand after a visible one. -/
theorem rtakeWhile_append_cons
    {test : α → Bool}
    {stop : α}
    {last : List α}
    (stops : test stop = false)
    (passes : last.all test = true)
    (first : List α) :
    (first ++ stop :: last).rtakeWhile test = last := by
  have every : ∀ item ∈ last.reverse, test item = true := by
    intro item present
    exact List.all_eq_true.mp passes item (List.mem_reverse.mp present)
  rw [List.rtakeWhile, List.reverse_append, List.reverse_cons, List.append_assoc,
    List.takeWhile_append_of_pos every, List.singleton_append,
    List.takeWhile_cons_of_neg (by simp [stops]), List.append_nil, List.reverse_reverse]

theorem blankEnd_of_not_mem
    {first line : Text}
    (closed : first.Closed)
    (absent : '\n' ∉ line)
    (visible : line.blank = false) :
    (first ++ line).blankEnd = [] := by
  have nonempty : line ≠ [] := by
    rintro rfl
    cases visible
  rw [blankEnd, closed.lines_append, lines_of_not_mem absent, if_neg nonempty]
  exact rtakeWhile_append_cons visible rfl _

theorem blankEnd_cons
    {first line rest : Text}
    (closed : first.Closed)
    (absent : '\n' ∉ line)
    (visible : line.blank = false)
    (blank : rest.blank = true) :
    (first ++ (line ++ '\n' :: rest)).blankEnd = rest.lines := by
  have shown : (dropFinal '\r' line).blank = false := by
    rw [Text.blank, all_dropFinal rfl]
    exact visible
  rw [blankEnd, closed.lines_append, lines_cons absent]
  exact rtakeWhile_append_cons shown ((all_blank_lines rest).trans blank) _

end Text
end Turnwise
