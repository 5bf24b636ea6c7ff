import Turnwise.Proofs.Miniature.Printing
import Turnwise.Proofs.Text.Utf8
import Turnwise.Proofs.Turn.Growth
import Turnwise.Proofs.Turn.Repairs

/-!
# Sessions with the miniature toolchain

A session is run with the miniature toolchain over a store that keeps the program file.
After every commit the confirmed text of the session, compiled and executed, prints just
what the committed run printed.  The program of the next turn goes on after the
confirmed text, so its output goes on after the earlier output, by whole lines.
-/

namespace Turnwise
namespace Miniature

open Turn (Event Attempt Made)
open Session (committedOutputs lastOutput)
open Store (keeps_oneFile oneFile)

/-! ## Composed programs -/

/-- A source text compiles and prints an output. -/
structure Prints (source output : Text) : Prop where
  /-- No line of the source text is wrong. -/
  sound : (compile source).complaints = []
  /-- The program ends, with the output. -/
  ends : execute (compile source).effects = (output, true)

/-- The output of a composed program begins with the output of the confirmed text and
goes on with one line for each line of the new statement that calls `println`. -/
theorem Prints.exists_added
    {session : Session}
    {placement : Placement}
    {candidate output : Text}
    {fixes : List Text}
    (discards : Composition.AreDiscards fixes)
    (prints : Prints (session.compose placement candidate fixes) output) :
    ∃ shown added,
      execute (compile session.confirmed).effects = (shown, true) ∧
      output = shown ++ added ∧
      added.Closed ∧
      added.lines.length = candidate.lines.countP printsLine := by
  obtain ⟨sound, ends⟩ := prints
  rw [Session.compose_eq_confirmed_append] at sound ends
  rw [compile_append session.closed_confirmed (exists_entryLine_confirmed session)]
    at sound ends
  obtain ⟨later, effects, counted⟩ := Program.exists_effects_extendAll_eq sound
  rw [effects] at ends
  obtain ⟨shownEnds, addedEnds, whole⟩ := execute_append (congrArg Prod.snd ends)
  have closed := closed_execute addedEnds
  refine ⟨(execute (compile session.confirmed).effects).1, (execute later).1,
    Prod.ext rfl shownEnds, ?_, closed, ?_⟩
  · rw [← whole, ends]
  · rw [closed.length_lines, newlineCount_execute addedEnds, counted,
      countP_lines_arrange discards]

/-- The output of a program does not depend on its discards, nor on their placement. -/
theorem execute_compose_eq
    {fixes : List Text}
    (discards : Composition.AreDiscards fixes)
    (session : Session)
    (placement : Placement)
    (candidate : Text) :
    execute (compile (session.compose placement candidate fixes)).effects =
      execute (compile (session.confirmed ++ Composition.closedStatement candidate)).effects :=
  congrArg (execute ∘ Meaning.effects)
    (meaning_compile_compose discards session placement candidate)

/-! ## Turns -/

variable {State : Type}
variable {store : Store State}
variable {settings : RepairSettings}
variable {session : Session}
variable {input : Text}
variable {state : State}
variable {run : Run}

/-- The formatter changes nothing. -/
theorem eq_of_format_eq_ok
    {source formatted : Text}
    (accepted : format source = .ok formatted) :
    formatted = source := by
  unfold format at accepted
  split at accepted
  · cases accepted
  · split at accepted
    · cases accepted
    · cases accepted
      rfl

/-- The program that is run is the one that the formatter was given. -/
theorem run_eq_simulate
    (keeps : store.Keeps session.file)
    {text formatted : Text}
    {start final : State}
    (was : Made (bench store) session start (.ran text formatted run) final) :
    run = simulate text (marker session.file) := by
  cases was with
  | @ran _ _ _ _ middle later _ organized written answered =>
      have accepted : format text = .ok formatted := congrArg Prod.fst organized
      have content : store.read session.file later = .ok (Utf8.encode formatted) :=
        keeps _ _ _ written
      have simulated : runFile store session.file later = .ok run := congrArg Prod.fst answered
      simp only [runFile, content, Utf8.strict_encode] at simulated
      cases simulated
      rw [eq_of_format_eq_ok accepted]

/-- A turn that succeeds commits the output of the program that it gave to the formatter
last, which consists of the confirmed text, the input and discards. -/
theorem exists_prints_of_committedRun?
    (keeps : store.Keeps session.file)
    (committed : (Event.ofTurn (bench store) settings session input state).committedRun? =
      some run)
    (succeeded : run.classify = .success) :
    ∃ fixes, Composition.AreDiscards fixes ∧
      Prints (session.compose settings.placement input fixes) run.output := by
  obtain ⟨text, formatted, start, final, was, requested⟩ :=
    Event.exists_made_of_committedRun? committed
  obtain ⟨identifiers, discardable, composed⟩ := Turn.exists_discards_of_mem_sources requested
  have simulated := run_eq_simulate keeps was
  have success : run.success = true := by
    unfold Run.classify at succeeded
    split at succeeded
    · assumption
    · split at succeeded <;> cases succeeded
  rw [simulated] at success
  obtain ⟨sound, ends⟩ := simulate_of_success success
  refine ⟨_, Composition.areDiscards_map_discard discardable, ?_⟩
  rw [← composed, simulated]
  exact ⟨sound, ends⟩

/-! ## Histories -/

/-- The confirmed text of a session prints what was committed last. -/
structure Replays (file : Path) (events : List Event) (session : Session) : Prop where
  /-- The program is written where it was written. -/
  file : session.file = file
  /-- The output of the confirmed text is that of the last committed run. -/
  output : committedOutputs events ≠ [] →
    execute (compile session.confirmed).effects = (lastOutput events, true)

/-- A turn leaves a session whose confirmed text prints what was committed last. -/
theorem Replays.turn
    {file : Path}
    {earlier : List Event}
    (keeps : store.Keeps file)
    (replays : Replays file earlier session)
    (input : Text)
    (state : State) :
    Replays file (earlier ++ [.ofTurn (bench store) settings session input state])
      (session.turn (bench store) settings input state).session := by
  obtain ⟨rfl, output⟩ := replays
  cases result : (Event.ofTurn (bench store) settings session input state).result with
  | error error =>
      have unchanged : (session.turn (bench store) settings input state).session = session :=
        Event.after_eq_of_error result
      rw [unchanged]
      refine ⟨rfl, ?_⟩
      rw [lastOutput, Session.committedOutputs_concat_of_error result]
      exact output
  | ok report =>
      obtain ⟨run, committed, succeeded, _, after⟩ := Event.committed_of_ok result
      have moved : (session.turn (bench store) settings input state).session =
        session.commit input run.output.newlineCount := after
      obtain ⟨fixes, discards, _, ends⟩ :=
        exists_prints_of_committedRun? keeps committed succeeded
      rw [moved]
      refine ⟨rfl, fun _ => ?_⟩
      rw [Session.confirmed_commit, ← execute_compose_eq discards, ends, lastOutput,
        Session.committedOutputs_concat committed, List.getLast?_concat, Option.getD_some]

/-- The confirmed text prints what was committed last, before every turn of a
history. -/
theorem replays_before
    {file : Path}
    {start : Session}
    {inputs : List Text}
    {earlier later : List Event}
    {event : Event}
    (keeps : store.Keeps file)
    (placed : start.file = file)
    (split : start.history (bench store) settings inputs state = earlier ++ event :: later) :
    Replays file earlier event.before :=
  Session.history_invariant_before
    (fun _ _ input state replays => replays.turn keeps input state)
    ⟨placed, fun committed => absurd rfl committed⟩ split

/-- What a committed run adds to the last output before it: whole lines, and from the
second commit on one for each line of the input that calls `println`. -/
theorem Replays.exists_added
    {earlier : List Event}
    {fixes : List Text}
    {file : Path}
    {placement : Placement}
    {output : Text}
    (replays : Replays file earlier session)
    (discards : Composition.AreDiscards fixes)
    (prints : Prints (session.compose placement input fixes) output) :
    ∃ added,
      output = lastOutput earlier ++ added ∧
      added.Closed ∧
      (committedOutputs earlier ≠ [] →
        added.lines.length = input.lines.countP printsLine) := by
  by_cases first : committedOutputs earlier = []
  · refine ⟨output, ?_, closed_of_execute_eq prints.ends, fun later => absurd first later⟩
    rw [lastOutput, first]
    rfl
  · obtain ⟨shown, added, shownEnds, extended, closed, counted⟩ := prints.exists_added discards
    rw [replays.output first] at shownEnds
    cases shownEnds
    exact ⟨added, extended, closed, fun _ => counted⟩

/-- A closed output leaves no line open. -/
theorem Replays.openLine_lastOutput
    {file : Path}
    {earlier : List Event}
    (replays : Replays file earlier session) :
    Output.openLine (lastOutput earlier) = [] := by
  by_cases first : committedOutputs earlier = []
  · rw [lastOutput, first]
    rfl
  · exact Output.openLine_of_closed (closed_of_execute_eq (replays.output first))

/-- What a turn that succeeds after some others adds to their output. -/
structure Adds
    (earlier : List Event)
    (event : Event)
    (report : Turn.Report)
    (run : Run)
    (added : Text) : Prop where
  /-- The turn commits the run. -/
  committed : event.committedRun? = some run
  /-- The run repeats what was committed last and goes on. -/
  output : run.output = lastOutput earlier ++ added
  /-- Whole lines are added. -/
  closed : added.Closed
  /-- The report shows just what is added. -/
  reported : report.output = Text.dropFinal '\n' added
  /-- From the second commit on, each call of `println` in the input adds a line, and
  nothing else does. -/
  counted : committedOutputs earlier ≠ [] →
    added.lines.length = event.input.lines.countP printsLine
  /-- The lines of the whole output are shown. -/
  shownLines : event.after.shownLines = run.output.newlineCount
  /-- Every program of the turn, with the discards it came to, prints the same. -/
  injected : ∀ source ∈ event.requests.filterMap Bench.Call.source?,
    execute (compile source).effects = (run.output, true)
  /-- So does the program without discards, or with others, in either placement. -/
  silent : ∀ placement fixes, Composition.AreDiscards fixes →
    execute (compile (event.before.compose placement event.input fixes)).effects =
      (run.output, true)

/-- A turn adds whole lines to what the confirmed text prints. -/
theorem Replays.exists_adds
    {file : Path}
    {earlier : List Event}
    {report : Turn.Report}
    (replays : Replays file earlier session)
    (keeps : store.Keeps file)
    (shown : session.shownLines = (lastOutput earlier).newlineCount)
    (result : (Event.ofTurn (bench store) settings session input state).result = .ok report) :
    ∃ run added,
      Adds earlier (.ofTurn (bench store) settings session input state) report run added := by
  obtain ⟨run, committed, succeeded, reported, after⟩ := Event.committed_of_ok result
  have keepsProgram : store.Keeps session.file := by
    rw [replays.file]
    exact keeps
  obtain ⟨fixes, discards, prints⟩ :=
    exists_prints_of_committedRun? keepsProgram committed succeeded
  obtain ⟨added, extended, closed, counted⟩ := replays.exists_added discards prints
  have silent : ∀ placement others, Composition.AreDiscards others →
      execute (compile (session.compose placement input others)).effects =
        (run.output, true) := by
    intro placement others otherDiscards
    rw [execute_compose_eq otherDiscards, ← execute_compose_eq discards, prints.ends]
  refine ⟨run, added, committed, extended, closed, ?_, counted, ?_, ?_, silent⟩
  · rw [reported, shown, extended, Output.visible_append_newlineCount,
      replays.openLine_lastOutput, List.nil_append]
  · rw [after]
    rfl
  · intro source requested
    obtain ⟨identifiers, discardable, rfl⟩ := Turn.exists_discards_of_mem_sources requested
    exact silent _ _ (Composition.areDiscards_map_discard discardable)

/-- Take any sequence of turns of a fresh session, with any preamble and any way of
repairing, where the program file keeps what is written to it.  The output of each
committed run is the output of the run committed before it, if any, and whole lines
added to it.  The report shows just these, and from the second commit on they are as
many as the lines of the input that call `println`.  The number of lines shown becomes
that of the whole output and never decreases, whichever turns fail. -/
theorem exists_adds_of_ok
    (store : Store State)
    (settings : RepairSettings)
    (directory file : Path)
    (preamble : Text)
    (inputs : List Text)
    (state : State)
    (keeps : store.Keeps file) :
    let history :=
      (Session.fresh directory file preamble).history (bench store) settings inputs state
    (∀ earlier event later report,
      history = earlier ++ event :: later → event.result = .ok report →
      ∃ run added, Adds earlier event report run added) ∧
    ∀ event ∈ history, event.before.shownLines ≤ event.after.shownLines := by
  intro history
  have adds : ∀ earlier event later report,
      history = earlier ++ event :: later → event.result = .ok report →
      ∃ run added, Adds earlier event report run added := by
    intro earlier event later report split result
    have replays := replays_before keeps rfl split
    have shown := (Session.recorded_before split).shownLines_eq rfl
    obtain ⟨_, _, _, turned⟩ := Session.eq_ofTurn_of_history_eq split
    rw [turned] at result ⊢
    exact replays.exists_adds keeps shown result
  refine ⟨adds, ?_⟩
  intro event present
  obtain ⟨earlier, later, split⟩ := List.append_of_mem present
  cases result : event.result with
  | error error => rw [Session.after_eq_before_of_error split result]
  | ok report =>
      obtain ⟨run, added, step⟩ := adds earlier event later report split result
      rw [(Session.recorded_before split).shownLines_eq rfl, step.shownLines, step.output,
        Text.newlineCount_append]
      exact Nat.le_add_right _ _

/-- Two turns: an assignment, which compiles once its variable is discarded, and two
calls of `println`. -/
def assignment : List Event :=
  (Session.fresh [] "main.go".toList "package main".toList).history (bench oneFile)
    ⟨16, .after⟩ ["x := 4".toList, "println(x)\nprintln(2)".toList] []

theorem exists_adds_of_ok_assignment :
    oneFile.Keeps "main.go".toList ∧
    ∃ earlier event report run added,
      assignment = earlier ++ [event] ∧
      event.result = .ok report ∧
      committedOutputs earlier ≠ [] ∧
      Adds earlier event report run added ∧
      report.output = "4\n2".toList := by
  have keeps : oneFile.Keeps "main.go".toList := keeps_oneFile _
  have split : assignment =
      assignment.take 1 ++ [assignment.getLast (List.cons_ne_nil _ _)] := rfl
  have committed : committedOutputs (assignment.take 1) ≠ [] := by decide +kernel
  have reported : (assignment.getLast (List.cons_ne_nil _ _)).result.toOption.map
      Turn.Report.output = some "4\n2".toList := by decide +kernel
  cases result : (assignment.getLast (List.cons_ne_nil _ _)).result with
  | error error =>
      rw [result] at reported
      cases reported
  | ok report =>
      rw [result] at reported
      obtain ⟨run, added, adds⟩ :=
        (exists_adds_of_ok _ _ _ _ _ _ _ keeps).1 _ _ [] report split result
      exact ⟨keeps, _, _, report, run, added, split, result, committed, adds,
        Option.some.inj reported⟩

end Miniature
end Turnwise
