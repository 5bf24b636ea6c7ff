import Turnwise.Toolchain.Scripted
import Turnwise.Proofs.Output.Status
import Turnwise.Proofs.Turn.Accounts

/-!
# Failures of the program

A turn fails as the program did when its last run is classified so.  What it then shows is
read off the output of that run and the number of lines already shown.  When the run holds
what was printed and its last visible line, the output ends in a status line, and the text
shown is visible.
-/

namespace Turnwise
namespace Turn

open Output (EndsInStatus failure isLineEnd statusLine visible withoutStatus)
open Session (untitled)
open Store (oneFile)

variable {State : Type}

/-! ## The run of a failed program -/

/-- An attempt that came to no run does not fail as a program does. -/
theorem Attempt.result_ne_runtime
    (made : Attempt)
    (text : Text) :
    made.result ≠ .error (.runtime text) := by
  intro broken
  cases made with
  | unformatted source refusal =>
      cases refusal with
      | rejected message =>
          rw [result, TurnError.ofFormatter] at broken
          split at broken <;> cases broken
      | _ => cases broken
  | unwritten source formatted cause => cases broken
  | unstarted source formatted refusal => cases refusal <;> cases broken
  | ran source formatted run => cases broken

/-- The last request of a turn that fails as the program did is answered by a run that is
classified so, and the text that is shown is read off this run. -/
theorem exists_run_of_runtime
    {bench : Bench State}
    {settings : RepairSettings}
    {session : Session}
    {input text : Text}
    {state : State}
    (failed : (session.turn bench settings input state).result = .error (.runtime text)) :
    ∃ run,
      (requests bench settings session input state).getLast? =
        some (.run session.file session.directory (.ok run)) ∧
      run.classify = .runtimeFailure ∧
      text = failure run.output session.shownLines := by
  obtain ⟨attempts, course, requested⟩ := exists_courseOf bench settings session input state
  have agrees := course.finishes.agrees
  rw [failed] at agrees
  obtain ⟨made, last, broken | ⟨run, answered, classified, shown⟩⟩ := agrees
  · exact absurd broken (made.result_ne_runtime text)
  · refine ⟨run, ?_, classified, (TurnError.runtime.inj shown)⟩
    obtain ⟨earlier, rfl⟩ := List.getLast?_eq_some_iff.mp last
    cases made with
    | ran source formatted answer =>
        cases answered
        rw [requested]
        exact Attempt.getLast?_flatMap_calls_ran session earlier source formatted run
    | _ => cases answered

/-- A failed run that holds its last visible line ends in a status line. -/
theorem exists_endsInStatus_of_classify
    {run : Run}
    (classified : run.classify = .runtimeFailure)
    (read : run.lastLine = run.output.lastVisibleLine) :
    ∃ before line after, EndsInStatus run.output before line after := by
  rw [← Output.classify_eq_runtimeFailure_iff, Output.classify_ofOutput_eq_iff, ← read]
  unfold Run.classify at classified
  split at classified
  · cases classified
  · split at classified
    · assumption
    · cases classified

/-! ## Classifying a run and dropping its status line -/

/-- Dropping the status line and classifying a failed run see the same line.  Something is
dropped from an output exactly when the run is a failure of the program and the blank
lines at its end hold nothing but carriage returns.  What is dropped begins at the start
of a line as a report of an exit status does, and nothing visible stands in its later
lines.  Then a turn that fails as the program did shows what stands before the status
line, or the status line alone when nothing visible is new. -/
theorem withoutStatus_ne_iff_classify
    (bench : Bench State)
    (settings : RepairSettings)
    (session : Session)
    (input : Text)
    (state : State)
    (output : Text) :
    (withoutStatus output ≠ output ↔
      (Run.ofOutput output false).classify = .runtimeFailure ∧
      ∀ line ∈ output.blankEnd, line.all isLineEnd = true) ∧
    (withoutStatus output ≠ output →
      ∃ status,
        output = withoutStatus output ++ status ∧
        (withoutStatus output).Closed ∧
        Text.beginsWith Run.statusMarker status = true ∧
        ∀ later ∈ status.lines.tail, later.blank = true) ∧
    ∀ text,
      (session.turn bench settings input state).result = .error (.runtime text) →
      ∃ run,
        (requests bench settings session input state).getLast? =
          some (.run session.file session.directory (.ok run)) ∧
        (run.lastLine = run.output.lastVisibleLine →
          (∀ line ∈ run.output.blankEnd, line.all isLineEnd = true) →
          ∃ before line after,
            EndsInStatus run.output before line after ∧
            text =
              if (visible before session.shownLines).blank then line.trim
              else visible before session.shownLines) := by
  refine ⟨?_, ?_, ?_⟩
  · rw [Output.withoutStatus_ne_iff, Output.classify_eq_runtimeFailure_iff, ← List.all_eq_true]
    constructor
    · rintro ⟨before, line, after, ends, plain⟩
      exact ⟨⟨before, line, after, ends⟩, ends.all_blankEnd.trans plain⟩
    · rintro ⟨⟨before, line, after, ends⟩, plain⟩
      exact ⟨before, line, after, ends, ends.all_blankEnd.symm.trans plain⟩
  · intro dropped
    obtain ⟨line, after, ends, _⟩ := Output.exists_endsInStatus_of_withoutStatus_ne dropped
    refine ⟨line ++ after, ends.split, ends.closed, ?_, fun _ => ends.blank_of_mem_tail⟩
    exact Text.beginsWith_append_of_beginsWith ends.marked after
  · intro text failed
    obtain ⟨run, last, classified, shown⟩ := exists_run_of_runtime failed
    refine ⟨run, last, fun read plain => ?_⟩
    obtain ⟨before, line, after, ends⟩ := exists_endsInStatus_of_classify classified read
    rw [← List.all_eq_true, ends.all_blankEnd] at plain
    exact ⟨before, line, after, ends, shown.trans (ends.failure_eq plain _)⟩

/-- The runner answers once, with a failed run of a given output. -/
def failing (output : Text) : Bytes × Scripted.Replies :=
  ([], { formats := [], runs := [.ok (.ofOutput output false)] })

/-- An empty line follows the status line. -/
theorem withoutStatus_ne_iff_classify_emptyLine :
    let output : Text := "5\nexit status 2\n\n".toList
    let turn := untitled.turn (Scripted.bench oneFile) ⟨16, .after⟩ "panic(5)".toList
      (failing output)
    (Run.ofOutput output false).classify = .runtimeFailure ∧
    (∀ line ∈ output.blankEnd, line.all isLineEnd = true) ∧
    withoutStatus output ≠ output ∧
    turn.result = .error (.runtime ['5']) ∧
    ∃ before line after,
      EndsInStatus output before line after ∧
      ['5'] = if (visible before 0).blank then line.trim else visible before 0 := by
  intro output turn
  have agrees := withoutStatus_ne_iff_classify (Scripted.bench oneFile) ⟨16, .after⟩ untitled
    "panic(5)".toList (failing output) output
  have classified : (Run.ofOutput output false).classify = .runtimeFailure := by decide
  have plain : ∀ line ∈ output.blankEnd, line.all isLineEnd = true := by decide
  have failed : turn.result = .error (.runtime ['5']) := by decide
  have answered : (requests (Scripted.bench oneFile) ⟨16, .after⟩ untitled "panic(5)".toList
      (failing output)).getLast? =
        some (.run untitled.file untitled.directory (.ok (.ofOutput output false))) := rfl
  obtain ⟨run, last, shows⟩ := agrees.2.2 ['5'] failed
  rw [answered] at last
  cases last
  exact ⟨classified, plain, agrees.1.mpr ⟨classified, plain⟩, failed, shows rfl plain⟩

/-- A line of one space follows the status line.  The run is a failure of the program, yet
nothing is dropped from its output, and the turn shows the status line. -/
theorem withoutStatus_eq_of_space :
    let output : Text := "5\nexit status 2\n \n".toList
    (Run.ofOutput output false).classify = .runtimeFailure ∧
    withoutStatus output = output ∧
    (untitled.turn (Scripted.bench oneFile) ⟨16, .after⟩ "panic(5)".toList
        (failing output)).result =
      .error (.runtime "5\nexit status 2\n ".toList) := by
  refine ⟨?_, ?_, ?_⟩ <;> decide

/-- What a turn shows when the program failed.  The output may go on after the status line
with line ends: then the new lines before it are shown or, when they are blank, the status
line without the blanks around it.  Of an output with a visible line something visible is
shown, however many lines were shown before, so no turn whose last run holds its last
visible line fails as the program did with a blank text. -/
theorem failure_eq_visible
    (bench : Bench State)
    (settings : RepairSettings)
    (session : Session)
    (input : Text)
    (state : State) :
    (∀ printed status ends offset,
      printed.Closed →
      '\n' ∉ status →
      (∀ c ∈ ends, c = '\n' ∨ c = '\r') →
      failure (printed ++ (Run.statusMarker ++ status ++ ends)) offset =
        if (visible printed offset).blank then (Run.statusMarker ++ status).trim
        else visible printed offset) ∧
    (∀ output offset,
      (∃ line ∈ output.lines, line.blank = false) →
      (failure output offset).blank = false) ∧
    ∀ text,
      (session.turn bench settings input state).result = .error (.runtime text) →
      ∃ run,
        (requests bench settings session input state).getLast? =
          some (.run session.file session.directory (.ok run)) ∧
        (run.lastLine = run.output.lastVisibleLine → text.blank = false) := by
  refine ⟨?_, ?_, ?_⟩
  · intro printed status ends offset closed newlineFree returns
    have plain : ends.all isLineEnd = true := by
      rw [List.all_eq_true]
      intro c present
      rcases returns c present with rfl | rfl <;> rfl
    exact Output.failure_append_status closed newlineFree plain offset
  · rintro output offset ⟨line, present, shown⟩
    refine Output.blank_failure ?_ offset
    rw [← Text.all_blank_lines, List.all_eq_false]
    exact ⟨line, present, by simp [shown]⟩
  · intro text failed
    obtain ⟨run, last, classified, rfl⟩ := exists_run_of_runtime failed
    refine ⟨run, last, fun read => ?_⟩
    obtain ⟨before, line, after, ends⟩ := exists_endsInStatus_of_classify classified read
    refine Output.blank_failure ?_ _
    rw [ends.split, Text.blank_append, Text.blank_append, ends.blank_line, Bool.false_and,
      Bool.and_false]

/-- A program printed a line before it failed; an empty line with a carriage return follows
the status line. -/
theorem failure_eq_visible_emptyLine :
    let printed : Text := "5\n".toList
    let ends : Text := ['\n', '\r', '\n']
    let output : Text := printed ++ (Run.statusMarker ++ ['2'] ++ ends)
    let turn := untitled.turn (Scripted.bench oneFile) ⟨16, .after⟩ "panic(5)".toList
      (failing output)
    printed.Closed ∧
    '\n' ∉ ['2'] ∧
    (∀ c ∈ ends, c = '\n' ∨ c = '\r') ∧
    (∃ line ∈ output.lines, line.blank = false) ∧
    failure output 0 = ['5'] ∧
    failure output 1 = "exit status 2".toList ∧
    (failure output 7).blank = false ∧
    turn.result = .error (.runtime ['5']) ∧
    Text.blank ['5'] = false := by
  intro printed ends output turn
  obtain ⟨shows, visible, turns⟩ := failure_eq_visible (Scripted.bench oneFile) ⟨16, .after⟩
    untitled "panic(5)".toList (failing output)
  have closed : printed.Closed := Text.closed_concat_newline ['5']
  have returns : ∀ c ∈ ends, c = '\n' ∨ c = '\r' := by simp [ends]
  have shown : ∃ line ∈ output.lines, line.blank = false := by decide
  have failed : turn.result = .error (.runtime ['5']) := by decide
  have answered : (requests (Scripted.bench oneFile) ⟨16, .after⟩ untitled "panic(5)".toList
      (failing output)).getLast? =
        some (.run untitled.file untitled.directory (.ok (.ofOutput output false))) := rfl
  obtain ⟨run, last, notBlank⟩ := turns ['5'] failed
  rw [answered] at last
  cases last
  have new := shows printed ['2'] ends 0 closed (by decide) returns
  have old := shows printed ['2'] ends 1 closed (by decide) returns
  exact ⟨closed, by decide, returns, shown, new.trans (by decide), old.trans (by decide),
    visible output 7 shown, failed, notBlank rfl⟩

/-! ## Programs that run and fail -/

/-- A turn whose first attempt is formatted, written and run, and whose program prints some
text and fails with some status, ends with this attempt as a failure of the program exactly
when the text that was printed ended a line or left a line open that itself begins as a
report of an exit status does.  The session is then as it was. -/
theorem turn_eq_runtime_iff
    {bench : Bench State}
    {settings : RepairSettings}
    {session : Session}
    {input formatted printed : Text}
    {code : Nat}
    {state middle later final : State}
    (organized :
      bench.organize (session.compose settings.placement input []) session.directory state =
        (.ok formatted, middle))
    (written : bench.write session.file formatted middle = (.ok (), later))
    (answered :
      bench.run session.file session.directory later =
        (.ok (.ofOutput (printed ++ statusLine code) false), final)) :
    (session.turn bench settings input state =
        ⟨.error (.runtime (failure (printed ++ statusLine code) session.shownLines)),
          session, final⟩ ∧
      requests bench settings session input state =
        [.organize (session.compose settings.placement input []) session.directory
            (.ok formatted),
          .write session.file formatted (.ok ()),
          .run session.file session.directory
            (.ok (.ofOutput (printed ++ statusLine code) false))]) ↔
      printed.Closed ∨
        Text.beginsWith Run.statusMarker (Output.openLine printed) = true := by
  rw [← Output.classify_append_statusLine printed code]
  constructor
  · rintro ⟨ended, requested⟩
    obtain ⟨run, last, classified, _⟩ := exists_run_of_runtime (congrArg Outcome.result ended)
    rw [requested] at last
    cases last
    exact classified
  · intro classified
    have judged : judge session input .initial (.ofOutput (printed ++ statusLine code) false) =
        .failed (.runtime (failure (printed ++ statusLine code) session.shownLines)) :=
      (judge_eq_failed_iff _ _ _ _ _).mpr (.inl ⟨classified, rfl⟩)
    obtain ⟨remaining, passes⟩ : ∃ remaining, max settings.maxPasses 1 = remaining + 1 :=
      Nat.exists_eq_add_of_le' (Nat.le_max_right _ _)
    have course : Course bench settings session input (remaining + 1) .initial state
        [.ran (session.compose settings.placement input []) formatted
          (.ofOutput (printed ++ statusLine code) false)]
        ⟨.error (.runtime (failure (printed ++ statusLine code) session.shownLines)),
          session, final⟩ :=
      .ended rfl (.ran organized written answered) (.failed rfl judged)
    rw [← passes] at course
    exact course.turn_eq

/-- A program printed one line and ended with status 1. -/
theorem turn_eq_runtime_iff_closed :
    let state := failing ("abc\n".toList ++ statusLine 1)
    let turn := untitled.turn (Scripted.bench oneFile) ⟨16, .after⟩ "fail()".toList state
    let source := untitled.compose .after "fail()".toList []
    let written := (Scripted.bench oneFile).write untitled.file source state
    (Scripted.bench oneFile).organize source untitled.directory state = (.ok source, state) ∧
    written.1 = .ok () ∧
    ((Scripted.bench oneFile).run untitled.file untitled.directory written.2).1 =
      .ok (.ofOutput ("abc\n".toList ++ statusLine 1) false) ∧
    Text.Closed "abc\n".toList ∧
    turn.result = .error (.runtime "abc".toList) ∧
    turn.session = untitled ∧
    (requests (Scripted.bench oneFile) ⟨16, .after⟩ untitled "fail()".toList state).length = 3 := by
  intro state turn source written
  have organized : (Scripted.bench oneFile).organize source untitled.directory state =
      (.ok source, state) := rfl
  have answered : (Scripted.bench oneFile).run untitled.file untitled.directory written.2 =
      (.ok (.ofOutput ("abc\n".toList ++ statusLine 1) false), written.2.1, ⟨[], []⟩) := rfl
  have closed : Text.Closed "abc\n".toList := Text.closed_concat_newline "abc".toList
  obtain ⟨ended, requested⟩ : turn = ⟨.error (.runtime (failure ("abc\n".toList ++ statusLine 1)
          untitled.shownLines)), untitled, written.2.1, ⟨[], []⟩⟩ ∧
      requests (Scripted.bench oneFile) ⟨16, .after⟩ untitled "fail()".toList state =
        [.organize source untitled.directory (.ok source),
          .write untitled.file source (.ok ()),
          .run untitled.file untitled.directory
            (.ok (.ofOutput ("abc\n".toList ++ statusLine 1) false))] :=
    (turn_eq_runtime_iff organized rfl answered).mpr (.inl closed)
  have shown : failure ("abc\n".toList ++ statusLine 1) untitled.shownLines =
      "abc".toList := by decide
  refine ⟨organized, rfl, congrArg Prod.fst answered, closed, ?_, ?_, ?_⟩
  · rw [← shown]
    exact congrArg Outcome.result ended
  · exact congrArg Outcome.session ended
  · rw [requested]
    rfl

/-- A program printed three letters without a newline and ended with status 1.  The line of
the letters goes on with the status, and the turn takes the failure for one of the
compilation. -/
theorem turn_compile_of_open_line :
    let output : Text := "abc".toList ++ statusLine 1
    let turn := untitled.turn (Scripted.bench oneFile) ⟨16, .after⟩ "fail()".toList
      (failing output)
    (requests (Scripted.bench oneFile) ⟨16, .after⟩ untitled "fail()".toList
        (failing output)).getLast? =
      some (.run untitled.file untitled.directory (.ok (.ofOutput output false))) ∧
    (Run.ofOutput output false).classify = .compileFailure ∧
    turn.result = .error (.compile "abcexit status 1".toList []) := by
  refine ⟨rfl, ?_, ?_⟩ <;> decide

end Turn
end Turnwise
