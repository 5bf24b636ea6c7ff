import Turnwise.Proofs.Diagnostic.Rendering
import Turnwise.Proofs.Output.Slicing
import Turnwise.Proofs.Text.Visible

/-!
# Status lines

A program that fails leaves a line that reports its exit status after all that it
printed.  Two scans look for this line.  Classifying a run looks at the last visible
line, and a line is visible when one of its characters is not blank; dropping the status
looks at the last line that holds more than line ends.  Both find the same line unless a
line of other blanks, such as spaces, stands after it.
-/

namespace Turnwise
namespace Output

/-! ## Closed and open parts -/

theorem closedLines_append_openLine (text : Text) :
    closedLines text ++ openLine text = text := by
  rw [closedLines, openLine, Text.dropEndWhile, ← List.reverse_append,
    List.takeWhile_append_dropWhile, List.reverse_reverse]

/-- A line without newlines behind a closed text is the open line of the two. -/
theorem openLine_append
    {closed line : Text}
    (isClosed : closed.Closed)
    (absent : '\n' ∉ line) :
    openLine (closed ++ line) = line := by
  rcases isClosed with rfl | ⟨earlier, rfl⟩
  · exact openLine_of_not_mem absent
  · rw [List.append_assoc, List.singleton_append, openLine_append_newline,
      openLine_of_not_mem absent]

theorem closedLines_append
    {closed line : Text}
    (isClosed : closed.Closed)
    (absent : '\n' ∉ line) :
    closedLines (closed ++ line) = closed := by
  have whole := closedLines_append_openLine (closed ++ line)
  rw [openLine_append isClosed absent] at whole
  exact List.append_cancel_right whole

theorem closed_closedLines (text : Text) : (closedLines text).Closed := by
  by_cases present : '\n' ∈ text
  · obtain ⟨closed, whole⟩ := exists_closed_of_mem present
    have split := closedLines_append_openLine text
    rw [List.append_cons] at whole
    rw [List.append_cancel_right (split.trans whole)]
    exact Text.closed_concat_newline closed
  · have split := closedLines_append_openLine text
    rw [openLine_of_not_mem present] at split
    rw [List.append_left_eq_self.mp split]
    exact Text.closed_nil

/-! ## Outputs that end in a status line -/

/-- An output whose last visible line reports an exit status. -/
structure EndsInStatus (output before line after : Text) : Prop where
  /-- The status line stands between the output of the program and the rest. -/
  split : output = before ++ (line ++ after)
  /-- It stands at the start of a line. -/
  closed : before.Closed
  /-- It is one line. -/
  newlineFree : '\n' ∉ line
  /-- It begins as a report of an exit status does. -/
  marked : Text.beginsWith Run.statusMarker line = true
  /-- Only a newline ends it. -/
  ended : after = [] ∨ ∃ rest, after = '\n' :: rest
  /-- Nothing visible follows. -/
  blank : after.blank = true

variable {output before line after : Text}

/-- A status line is visible. -/
theorem EndsInStatus.blank_line
    (ends : EndsInStatus output before line after) :
    line.blank = false :=
  Text.blank_of_beginsWith ends.marked rfl

/-- The marker of a status line does not end in a carriage return. -/
theorem beginsWith_dropFinal_return (line : Text) :
    Text.beginsWith Run.statusMarker (Text.dropFinal '\r' line) =
      Text.beginsWith Run.statusMarker line := by
  obtain ⟨dropped, whole, same⟩ := Text.exists_eq_dropFinal_append '\r' line
  have ending : Run.statusMarker.getLast? = some ' ' := rfl
  have absent : ' ' ∉ dropped := fun present => absurd (same ' ' present) (by decide)
  conv_rhs => rw [whole]
  rw [Text.beginsWith_append ending absent]

/-- The status line, without a carriage return that a newline follows, is the last
visible line. -/
theorem EndsInStatus.lastVisibleLine
    (ends : EndsInStatus output before line after) :
    output.lastVisibleLine = line ∨ output.lastVisibleLine = Text.dropFinal '\r' line := by
  have visible : (line ++ after).blank = false := by
    rw [Text.blank_append, ends.blank_line, Bool.false_and]
  rw [ends.split, ends.closed.lastVisibleLine_append, visible, if_neg Bool.false_ne_true]
  rcases ends.ended with rfl | ⟨rest, rfl⟩
  · rw [List.append_nil]
    exact .inl (Text.lastVisibleLine_of_not_mem ends.newlineFree ends.blank_line)
  · exact .inr (Text.lastVisibleLine_cons ends.newlineFree ends.blank_line ends.blank)

/-- An output that is classified by its last visible line ends in a status line when that
line begins so. -/
theorem exists_endsInStatus
    (marked : Text.beginsWith Run.statusMarker output.lastVisibleLine = true) :
    ∃ before line after, EndsInStatus output before line after := by
  have visible := Text.blank_of_beginsWith marked rfl
  rw [Text.blank_lastVisibleLine] at visible
  induction output using Text.lines_induction with
  | last line absent =>
      rw [Text.lastVisibleLine_of_not_mem absent visible] at marked
      exact ⟨[], line, [], (List.append_nil line).symm, Text.closed_nil, absent, marked,
        .inl rfl, rfl⟩
  | before first rest absent inductionHypothesis =>
      have closed := Text.closed_concat_newline first
      cases blank : rest.blank with
      | false =>
          -- The last visible line stands in the rest.
          rw [List.append_cons, closed.lastVisibleLine_append, blank,
            if_neg Bool.false_ne_true] at marked
          obtain ⟨before, line, after, ends⟩ := inductionHypothesis marked blank
          refine ⟨first ++ ['\n'] ++ before, line, after, ?_, closed.append ends.closed,
            ends.newlineFree, ends.marked, ends.ended, ends.blank⟩
          rw [List.append_cons, List.append_assoc _ before, ← ends.split]
      | true =>
          have follows : Text.blank ('\n' :: rest) = true := blank
          rw [Text.blank_append, follows, Bool.and_true] at visible
          rw [Text.lastVisibleLine_cons absent visible blank, beginsWith_dropFinal_return] at marked
          exact ⟨[], first, '\n' :: rest, rfl, Text.closed_nil, absent, marked,
            .inr ⟨rest, rfl⟩, blank⟩

/-- Classifying a run that failed looks at its last visible line. -/
theorem classify_ofOutput_eq_iff (output : Text) :
    (Run.ofOutput output false).classify = .runtimeFailure ↔
      Text.beginsWith Run.statusMarker output.lastVisibleLine = true := by
  rw [Run.classify, Run.ofOutput]
  cases Text.beginsWith Run.statusMarker output.lastVisibleLine <;> simp

/-- A run that failed is a failure of the program exactly when its output ends in a
status line. -/
theorem classify_eq_runtimeFailure_iff (output : Text) :
    (Run.ofOutput output false).classify = .runtimeFailure ↔
      ∃ before line after, EndsInStatus output before line after := by
  rw [classify_ofOutput_eq_iff]
  constructor
  · exact exists_endsInStatus
  · rintro ⟨before, line, after, ends⟩
    rcases ends.lastVisibleLine with whole | dropped
    · rw [whole]
      exact ends.marked
    · rw [dropped, beginsWith_dropFinal_return]
      exact ends.marked

/-! ## Dropping the status line -/

/-- Line ends are blank. -/
theorem blank_of_all_isLineEnd
    {text : Text}
    (every : text.all isLineEnd = true) :
    text.blank = true := by
  rw [Text.blank, List.all_eq_true]
  intro c present
  rcases Bool.or_eq_true_iff.mp (List.all_eq_true.mp every c present) with newline | returns
  · rw [beq_iff_eq.mp newline]
    rfl
  · rw [beq_iff_eq.mp returns]
    rfl

/-- A status line that nothing but line ends follows is dropped with them. -/
theorem EndsInStatus.withoutStatus_of_lineEnds
    (ends : EndsInStatus output before line after)
    (plain : after.all isLineEnd = true) :
    withoutStatus output = before := by
  obtain ⟨dropped, whole, every⟩ := Text.exists_eq_dropEndWhile_append isLineEnd line
  have ending : Run.statusMarker.getLast? = some ' ' := rfl
  have absent : ' ' ∉ dropped := fun present =>
    absurd (List.all_eq_true.mp every ' ' present) (by decide)
  have marked : Text.beginsWith Run.statusMarker (Text.dropEndWhile isLineEnd line) = true := by
    rw [← Text.beginsWith_append ending absent, ← whole]
    exact ends.marked
  have newlineFree : '\n' ∉ Text.dropEndWhile isLineEnd line := fun present =>
    ends.newlineFree ((List.rdropWhile_prefix isLineEnd line).subset present)
  have remains : line.all isLineEnd = false := by
    cases every : line.all isLineEnd with
    | false => rfl
    | true => exact absurd ends.blank_line (ne_false_of_eq_true (blank_of_all_isLineEnd every))
  have body : Text.dropEndWhile isLineEnd output =
      before ++ Text.dropEndWhile isLineEnd line := by
    rw [ends.split, ← List.append_assoc, Text.dropEndWhile_append_of_all plain,
      Text.dropEndWhile_append before remains]
  rw [withoutStatus, body, openLine_append ends.closed newlineFree, marked, if_pos rfl,
    closedLines_append ends.closed newlineFree]

theorem all_of_sublist
    {test : Char → Bool}
    {part text : Text}
    (inside : part.Sublist text)
    (every : text.all test = true) :
    part.all test = true := by
  rw [List.all_eq_true] at every ⊢
  exact fun c present => every c (inside.subset present)

/-- A marked line and line ends behind a closed text make an output that ends in a status
line. -/
theorem endsInStatus_of_lineEnds
    {ends : Text}
    (closed : before.Closed)
    (newlineFree : '\n' ∉ line)
    (marked : Text.beginsWith Run.statusMarker line = true)
    (plain : ends.all isLineEnd = true) :
    EndsInStatus (before ++ (line ++ ends)) before
      (line ++ ends.takeWhile (· != '\n')) (ends.dropWhile (· != '\n')) where
  split := by
    rw [List.append_assoc line, List.takeWhile_append_dropWhile]
  closed := closed
  newlineFree := by
    rw [List.mem_append, not_or]
    refine ⟨newlineFree, fun present => ?_⟩
    have inside := List.mem_takeWhile_imp present
    simp at inside
  marked := Text.beginsWith_append_of_beginsWith marked _
  ended := by
    cases later : ends.dropWhile (· != '\n') with
    | nil => exact .inl rfl
    | cons c rest =>
        have stops := List.dropWhile_get_zero_not (· != '\n') ends (by rw [later]; simp)
        simp only [later, List.get_eq_getElem, List.getElem_cons_zero, bne_iff_ne, ne_eq,
          not_not] at stops
        exact .inr ⟨rest, by rw [stops]⟩
  blank := blank_of_all_isLineEnd (all_of_sublist (List.dropWhile_sublist _) plain)

/-- What is dropped from an output is a status line at its end, with line ends after it. -/
theorem exists_endsInStatus_of_withoutStatus_ne
    (dropped : withoutStatus output ≠ output) :
    ∃ line after, EndsInStatus output (withoutStatus output) line after ∧
      after.all isLineEnd = true := by
  obtain ⟨ends, whole, every⟩ := Text.exists_eq_dropEndWhile_append isLineEnd output
  generalize body : Text.dropEndWhile isLineEnd output = kept at whole
  have choice : withoutStatus output =
      if Text.beginsWith Run.statusMarker (openLine kept) then closedLines kept
      else output := by
    rw [withoutStatus, body]
  cases marked : Text.beginsWith Run.statusMarker (openLine kept) with
  | false =>
      rw [choice, marked] at dropped
      exact absurd rfl dropped
  | true =>
      rw [choice, marked, if_pos rfl]
      have found := endsInStatus_of_lineEnds (closed_closedLines kept)
        (newline_not_mem_openLine kept) marked every
      rw [← List.append_assoc, closedLines_append_openLine, ← whole] at found
      exact ⟨_, _, found, all_of_sublist (List.dropWhile_sublist _) every⟩

/-- Something is dropped from an output exactly when it ends in a status line and nothing
but line ends follow. -/
theorem withoutStatus_ne_iff (output : Text) :
    withoutStatus output ≠ output ↔
      ∃ before line after, EndsInStatus output before line after ∧
        after.all isLineEnd = true := by
  constructor
  · intro dropped
    obtain ⟨line, after, ends, plain⟩ := exists_endsInStatus_of_withoutStatus_ne dropped
    exact ⟨_, line, after, ends, plain⟩
  · rintro ⟨before, line, after, ends, plain⟩ same
    rw [ends.withoutStatus_of_lineEnds plain, ends.split] at same
    have empty := (List.append_eq_nil_iff.mp (List.self_eq_append_right.mp same)).1
    have visible := ends.blank_line
    rw [empty] at visible
    cases visible

/-- Nothing but line ends follow a status line when the blank lines at the end of the
output hold nothing else. -/
theorem EndsInStatus.all_blankEnd
    (ends : EndsInStatus output before line after) :
    output.blankEnd.all (fun line => line.all isLineEnd) = after.all isLineEnd := by
  rcases ends.ended with rfl | ⟨rest, rfl⟩
  · rw [ends.split, List.append_nil,
      Text.blankEnd_of_not_mem ends.closed ends.newlineFree ends.blank_line]
    rfl
  · have blank : Text.blank rest = true := ends.blank
    rw [ends.split, Text.blankEnd_cons ends.closed ends.newlineFree ends.blank_line blank,
      Text.all_lines rfl rfl]
    rfl

/-- The lines of a status line and of what follows it are all blank but the first. -/
theorem EndsInStatus.blank_of_mem_tail
    (ends : EndsInStatus output before line after)
    {later : Text}
    (present : later ∈ (line ++ after).lines.tail) :
    later.blank = true := by
  rcases ends.ended with rfl | ⟨rest, rfl⟩
  · rw [List.append_nil, Text.lines_of_not_mem ends.newlineFree] at present
    split_ifs at present <;> cases present
  · rw [Text.lines_cons ends.newlineFree, List.tail_cons] at present
    have blank : (Text.lines rest).all Text.blank = true :=
      (Text.all_blank_lines rest).trans ends.blank
    exact List.all_eq_true.mp blank later present

/-! ## What a failed program shows -/

/-- The text that is shown of a program that failed is visible unless all that it printed
is blank. -/
theorem blank_failure
    (visible : output.blank = false)
    (offset : Nat) :
    (failure output offset).blank = false := by
  rw [failure]
  split_ifs with blank
  · rw [Text.blank_trim, Text.blank_lastVisibleLine]
    exact visible
  · exact eq_false_of_ne_true blank

/-- Of an output that ends in a status line, the new lines before it are shown or, when
they are blank, the status line itself. -/
theorem EndsInStatus.failure_eq
    (ends : EndsInStatus output before line after)
    (plain : after.all isLineEnd = true)
    (offset : Nat) :
    failure output offset =
      if (visible before offset).blank then line.trim else visible before offset := by
  have last : output.lastVisibleLine.trim = line.trim := by
    rcases ends.lastVisibleLine with whole | dropped
    · rw [whole]
    · rw [dropped, Text.trim_dropFinal rfl]
  rw [failure, ends.withoutStatus_of_lineEnds plain, last]

/-- The same of a status line that is put together from the marker and the status. -/
theorem failure_append_status
    {printed status ends : Text}
    (closed : printed.Closed)
    (newlineFree : '\n' ∉ status)
    (plain : ends.all isLineEnd = true)
    (offset : Nat) :
    failure (printed ++ (Run.statusMarker ++ status ++ ends)) offset =
      if (visible printed offset).blank then (Run.statusMarker ++ status).trim
      else visible printed offset := by
  have oneLine : '\n' ∉ Run.statusMarker ++ status := by
    rw [List.mem_append, not_or]
    exact ⟨by decide, newlineFree⟩
  have marked : Text.beginsWith Run.statusMarker (Run.statusMarker ++ status) = true :=
    List.isPrefixOf_iff_prefix.mpr (List.prefix_append _ _)
  have found := endsInStatus_of_lineEnds closed oneLine marked plain
  have returns : Text.blank (ends.takeWhile (· != '\n')) = true :=
    blank_of_all_isLineEnd (all_of_sublist (List.takeWhile_sublist _) plain)
  rw [found.failure_eq (all_of_sublist (List.dropWhile_sublist _) plain),
    Text.trim_append_of_blank returns]

/-! ## Behind what a program printed -/

/-- A line that goes on with the marker begins with it when nothing stands before the
marker, or when the part before it begins so itself. -/
theorem beginsWith_append_statusMarker (line rest : Text) :
    Text.beginsWith Run.statusMarker (line ++ (Run.statusMarker ++ rest)) = true ↔
      line = [] ∨ Text.beginsWith Run.statusMarker line = true := by
  rw [Text.beginsWith_append_iff]
  constructor
  · rintro (inside | ⟨d, more, split, begins⟩)
    · exact .inr inside
    · cases line with
      | nil => exact .inl rfl
      | cons c line =>
          -- The marker would go on in itself, but its first letter stands in it once.
          have single : 'e' ∉ Run.statusMarker.tail := by decide
          have again : d :: more <+: 'e' :: (Run.statusMarker.tail ++ rest) :=
            List.isPrefixOf_iff_prefix.mp begins
          rw [split, (List.cons_prefix_cons.mp again).1] at single
          exact absurd (List.mem_append_right line List.mem_cons_self) single
  · rintro (rfl | inside)
    · exact .inr ⟨_, _, rfl, List.isPrefixOf_iff_prefix.mpr (List.prefix_append _ _)⟩
    · exact .inl inside

/-- What is printed behind the output of a program that ended with a given status. -/
def statusLine (code : Nat) : Text :=
  Run.statusMarker ++ Text.ofNat code ++ ['\n']

/-- The failure of a program is seen exactly when its output ended a line, or when the line
it left open begins as a report of an exit status does. -/
theorem classify_append_statusLine
    (printed : Text)
    (code : Nat) :
    (Run.ofOutput (printed ++ statusLine code) false).classify = .runtimeFailure ↔
      printed.Closed ∨ Text.beginsWith Run.statusMarker (openLine printed) = true := by
  have oneLine : '\n' ∉ openLine printed ++ (Run.statusMarker ++ Text.ofNat code) := by
    simp only [List.mem_append, not_or]
    exact ⟨newline_not_mem_openLine printed, by decide, Text.newline_not_mem_ofNat code⟩
  have visible : Text.blank (openLine printed ++ (Run.statusMarker ++ Text.ofNat code)) =
      false := by
    rw [Text.blank_append, Text.blank_append, show Text.blank Run.statusMarker = false from rfl,
      Bool.false_and, Bool.and_false]
  have whole : printed ++ statusLine code = closedLines printed ++
      (openLine printed ++ (Run.statusMarker ++ Text.ofNat code) ++ '\n' :: []) := by
    conv_lhs => rw [← closedLines_append_openLine printed]
    simp only [statusLine, List.append_assoc]
  have shown : Text.blank
      (openLine printed ++ (Run.statusMarker ++ Text.ofNat code) ++ '\n' :: []) = false := by
    rw [Text.blank_append, visible, Bool.false_and]
  have closed : printed.Closed ↔ openLine printed = [] := by
    refine ⟨openLine_of_closed, fun empty => ?_⟩
    rw [← closedLines_append_openLine printed, empty, List.append_nil]
    exact closed_closedLines printed
  rw [classify_ofOutput_eq_iff, whole, (closed_closedLines printed).lastVisibleLine_append,
    shown, if_neg Bool.false_ne_true, Text.lastVisibleLine_cons oneLine visible rfl,
    beginsWith_dropFinal_return, beginsWith_append_statusMarker, closed]

end Output
end Turnwise
