import Mathlib.Data.List.Basic
import Turnwise.Proofs.Turn.Course

/-!
# Turns one after the other

A history is the list of the turns of a session, each with the session before and
after it and with all that was asked of the bench.  What one turn does to a session
follows from its course; what any number of turns do follows by induction along the
history, in the form of an invariant of the turns so far and the session reached.
-/

namespace Turnwise
namespace Turn

/-- The one way to success: the run succeeded, its new lines are reported, and the
session records the statement and the lines of the run. -/
theorem judge_eq_committed_iff
    (session after : Session)
    (input : Text)
    (progress : Progress)
    (run : Run)
    (report : Report) :
    judge session input progress run = .committed report after ↔
      run.classify = .success ∧
      report =
        { output := Output.visible run.output session.shownLines
          attempts := progress.attempt
          discarded := progress.discarded
          records := progress.records ++ [⟨progress.attempt, run.classify, [], 0⟩]
          milliseconds := 0 } ∧
      after = session.commit input run.output.newlineCount := by
  cases classified : run.classify with
  | success => simp [judge, classified, eq_comm]
  | runtimeFailure => simp [judge, classified]
  | compileFailure =>
      simp only [judge, classified, reduceCtorEq, false_and, iff_false]
      split_ifs <;> simp

/-- The last request of an attempt that comes to a run is answered with that run. -/
theorem Attempt.getLast?_flatMap_calls_ran
    (session : Session)
    (earlier : List Attempt)
    (text formatted : Text)
    (run : Run) :
    ((earlier ++ [Attempt.ran text formatted run]).flatMap (calls session)).getLast? =
      some (.run session.file session.directory (.ok run)) := by
  simp [calls]

section Course

variable {State : Type}
variable {bench : Bench State}
variable {settings : RepairSettings}
variable {session : Session}
variable {input : Text}
variable {remaining : Nat}
variable {progress : Progress}
variable {start : State}
variable {attempts : List Attempt}
variable {outcome : Outcome State}

/-- A turn that fails leaves the session as it was, whatever its attempts did. -/
theorem Course.session_eq_of_error
    (course : Course bench settings session input remaining progress start attempts outcome)
    {error : TurnError}
    (failed : outcome.result = .error error) :
    outcome.session = session := by
  induction course with
  | exhausted => rfl
  | ended sourced was ends =>
      cases ends with
      | broken => rfl
      | failed => rfl
      | committed => cases failed
  | again _ _ _ _ _ inductionHypothesis => exact inductionHypothesis failed

/-- A turn that succeeds does so with the run of its last attempt, of which it reports
the new lines and records the number of lines. -/
theorem Course.committed_of_ok
    (course : Course bench settings session input remaining progress start attempts outcome)
    {report : Report}
    (succeeded : outcome.result = .ok report) :
    ∃ earlier text formatted run before,
      attempts = earlier ++ [.ran text formatted run] ∧
      Made bench session before (.ran text formatted run) outcome.state ∧
      run.classify = .success ∧
      report.output = Output.visible run.output session.shownLines ∧
      outcome.session = session.commit input run.output.newlineCount := by
  induction course with
  | exhausted => cases succeeded
  | @ended remaining progress start final made result after sourced was ends =>
      cases ends with
      | broken => cases succeeded
      | failed => cases succeeded
      | @committed run _ _ answered judged =>
          obtain ⟨classified, reported, committed⟩ :=
            (judge_eq_committed_iff _ _ _ _ _ _).mp judged
          cases succeeded
          cases made with
          | ran text formatted answer =>
              cases answered
              exact ⟨[], text, formatted, run, _, rfl, was, classified, by rw [reported],
                committed⟩
          | _ => cases answered
  | again _ _ _ _ _ inductionHypothesis =>
      obtain ⟨earlier, text, formatted, run, before, attempted, facts⟩ :=
        inductionHypothesis succeeded
      exact ⟨_ :: earlier, text, formatted, run, before, by rw [attempted, List.cons_append],
        facts⟩

end Course

/-- One turn of a history. -/
structure Event where
  /-- The session before the turn. -/
  before : Session
  /-- What was entered. -/
  input : Text
  /-- What was asked of the bench, in order, with the answers. -/
  requests : List Bench.Call
  /-- A report, or the reason why the turn failed. -/
  result : Except TurnError Report
  /-- The session after the turn. -/
  after : Session

namespace Event

/-- The event of one turn of a session. -/
def ofTurn
    (bench : Bench State)
    (settings : RepairSettings)
    (session : Session)
    (input : Text)
    (state : State) : Event where
  before := session
  input := input
  requests := Turn.requests bench settings session input state
  result := (session.turn bench settings input state).result
  after := (session.turn bench settings input state).session

@[simp] theorem ofTurn_input
    (bench : Bench State)
    (settings : RepairSettings)
    (session : Session)
    (input : Text)
    (state : State) :
    (ofTurn bench settings session input state).input = input := rfl

/-- The run with which a turn succeeded: the last answer that the bench gave. -/
def committedRun? (event : Event) : Option Run :=
  match event.result, event.requests.getLast? with
  | .ok _, some (.run _ _ (.ok run)) => some run
  | _, _ => none

theorem committedRun?_of_ok
    {event : Event}
    {report : Report}
    {file directory : Path}
    {run : Run}
    (succeeded : event.result = .ok report)
    (last : event.requests.getLast? = some (.run file directory (.ok run))) :
    event.committedRun? = some run := by
  rw [committedRun?, succeeded, last]

/-- Only a turn that succeeds commits a run. -/
theorem committedRun?_of_error
    {event : Event}
    {error : TurnError}
    (failed : event.result = .error error) :
    event.committedRun? = none := by
  simp [committedRun?, failed]

variable {State : Type}
variable {bench : Bench State}
variable {settings : RepairSettings}
variable {session : Session}
variable {input : Text}
variable {state : State}

/-- A turn that fails leaves the whole session as it was. -/
theorem after_eq_of_error
    {error : TurnError}
    (failed : (ofTurn bench settings session input state).result = .error error) :
    (ofTurn bench settings session input state).after = session := by
  obtain ⟨attempts, course, _⟩ := exists_courseOf bench settings session input state
  exact course.session_eq_of_error failed

/-- A turn that succeeds commits the run of its last attempt. -/
theorem committed_of_ok
    {report : Report}
    (succeeded : (ofTurn bench settings session input state).result = .ok report) :
    ∃ run,
      (ofTurn bench settings session input state).committedRun? = some run ∧
      run.classify = .success ∧
      report.output = Output.visible run.output session.shownLines ∧
      (ofTurn bench settings session input state).after =
        session.commit input run.output.newlineCount := by
  obtain ⟨attempts, course, requested⟩ := exists_courseOf bench settings session input state
  obtain ⟨earlier, text, formatted, run, _, attempted, _, classified, reported, committed⟩ :=
    course.committed_of_ok succeeded
  refine ⟨run, ?_, classified, reported, committed⟩
  apply committedRun?_of_ok succeeded
  rw [ofTurn, requested, attempted]
  exact Attempt.getLast?_flatMap_calls_ran session earlier text formatted run

/-- A committed run answers an attempt of the turn. -/
theorem exists_made_of_committedRun?
    {run : Run}
    (committed : (ofTurn bench settings session input state).committedRun? = some run) :
    ∃ text formatted start final,
      Made bench session start (.ran text formatted run) final ∧
      text ∈ (ofTurn bench settings session input state).requests.filterMap
        Bench.Call.source? := by
  cases result : (ofTurn bench settings session input state).result with
  | error error =>
      rw [committedRun?_of_error result] at committed
      cases committed
  | ok report =>
      obtain ⟨attempts, course, requested⟩ := exists_courseOf bench settings session input state
      obtain ⟨earlier, text, formatted, answer, start, attempted, was, _⟩ :=
        course.committed_of_ok result
      have last : (ofTurn bench settings session input state).requests.getLast? =
          some (.run session.file session.directory (.ok answer)) := by
        rw [ofTurn, requested, attempted]
        exact Attempt.getLast?_flatMap_calls_ran session earlier text formatted answer
      rw [committedRun?_of_ok result last] at committed
      cases committed
      refine ⟨text, formatted, start, _, was, ?_⟩
      rw [ofTurn, requested, attempted, Attempt.filterMap_source_flatMap_calls]
      exact List.mem_map_of_mem (List.mem_append_right earlier List.mem_cons_self)

end Event
end Turn

/-! ## Histories -/

namespace Session

open Turn (Event)

/-- Run the turns of some inputs, one after the other. -/
def turnAll
    (bench : Bench State)
    (settings : RepairSettings)
    (session : Session) : List Text → State → Session × State
  | [], state => (session, state)
  | input :: rest, state =>
      let outcome := session.turn bench settings input state
      outcome.session.turnAll bench settings rest outcome.state

/-- The events of the turns of some inputs, one after the other. -/
def history
    (bench : Bench State)
    (settings : RepairSettings)
    (session : Session) : List Text → State → List Event
  | [], _ => []
  | input :: rest, state =>
      let outcome := session.turn bench settings input state
      .ofTurn bench settings session input state ::
        outcome.session.history bench settings rest outcome.state

variable {State : Type}
variable {bench : Bench State}
variable {settings : RepairSettings}
variable {start : Session}
variable {inputs : List Text}
variable {state : State}

/-- There is one event for each input, in order. -/
theorem map_input_history
    (bench : Bench State)
    (settings : RepairSettings)
    (start : Session)
    (inputs : List Text)
    (state : State) :
    (start.history bench settings inputs state).map Event.input = inputs := by
  induction inputs generalizing start state with
  | nil => rfl
  | cons input rest inductionHypothesis =>
      simp only [history, List.map_cons, Event.ofTurn, inductionHypothesis]

/-- An event of a history is a turn of the session reached by the events before it. -/
theorem eq_ofTurn_of_history_eq
    {earlier later : List Event}
    {event : Event}
    (split : start.history bench settings inputs state = earlier ++ event :: later) :
    ∃ first,
      earlier = start.history bench settings first state ∧
      event.before = (start.turnAll bench settings first state).1 ∧
      event = .ofTurn bench settings event.before event.input
        (start.turnAll bench settings first state).2 := by
  induction inputs generalizing start state earlier with
  | nil => simp [history] at split
  | cons input rest inductionHypothesis =>
      cases earlier with
      | nil =>
          simp only [history, List.nil_append, List.cons.injEq] at split
          obtain ⟨rfl, _⟩ := split
          exact ⟨[], rfl, rfl, rfl⟩
      | cons head earlier =>
          simp only [history, List.cons_append, List.cons.injEq] at split
          obtain ⟨rfl, split⟩ := split
          obtain ⟨first, prior, reached, turned⟩ := inductionHypothesis split
          refine ⟨input :: first, ?_, reached, turned⟩
          rw [history, prior]

/-- A turn of a history that fails leaves the session as it was. -/
theorem after_eq_before_of_error
    {earlier later : List Event}
    {event : Event}
    {error : TurnError}
    (split : start.history bench settings inputs state = earlier ++ event :: later)
    (failed : event.result = .error error) :
    event.after = event.before := by
  obtain ⟨_, _, _, turned⟩ := eq_ofTurn_of_history_eq split
  rw [turned] at failed ⊢
  exact Event.after_eq_of_error failed

/-- What holds at the beginning, and after each turn when it held before, holds after
any number of turns. -/
theorem history_invariant
    {Invariant : List Event → Session → Prop}
    (step : ∀ earlier session input state,
      Invariant earlier session →
      Invariant (earlier ++ [.ofTurn bench settings session input state])
        (session.turn bench settings input state).session)
    (earlier : List Event)
    (initial : Invariant earlier start) :
    Invariant (earlier ++ start.history bench settings inputs state)
      (start.turnAll bench settings inputs state).1 := by
  induction inputs generalizing start state earlier with
  | nil => simpa [history, turnAll] using initial
  | cons input rest inductionHypothesis =>
      have next := @inductionHypothesis
        (start.turn bench settings input state).session
        (start.turn bench settings input state).state
        (earlier ++ [.ofTurn bench settings start input state])
        (step earlier start input state initial)
      simpa [history, turnAll] using next

/-- The invariant holds before every turn of a history. -/
theorem history_invariant_before
    {Invariant : List Event → Session → Prop}
    (step : ∀ earlier session input state,
      Invariant earlier session →
      Invariant (earlier ++ [.ofTurn bench settings session input state])
        (session.turn bench settings input state).session)
    (initial : Invariant [] start)
    {earlier later : List Event}
    {event : Event}
    (split : start.history bench settings inputs state = earlier ++ event :: later) :
    Invariant earlier event.before := by
  obtain ⟨first, prior, reached, _⟩ := eq_ofTurn_of_history_eq split
  rw [prior, reached]
  exact history_invariant step [] initial

/-! ## What turns do to a session -/

/-- The raw outputs of the runs that were committed, in order. -/
def committedOutputs (events : List Event) : List Text :=
  events.filterMap fun event => event.committedRun?.map Run.output

@[simp] theorem committedOutputs_append (first second : List Event) :
    committedOutputs (first ++ second) = committedOutputs first ++ committedOutputs second :=
  List.filterMap_append

theorem committedOutputs_cons
    {event : Event}
    {run : Run}
    (committed : event.committedRun? = some run)
    (rest : List Event) :
    committedOutputs (event :: rest) = run.output :: committedOutputs rest := by
  simp [committedOutputs, committed]

/-- A turn that fails commits nothing. -/
theorem committedOutputs_concat_of_error
    {event : Event}
    {error : TurnError}
    (failed : event.result = .error error)
    (earlier : List Event) :
    committedOutputs (earlier ++ [event]) = committedOutputs earlier := by
  simp [committedOutputs, Event.committedRun?_of_error failed]

theorem committedOutputs_concat
    {event : Event}
    {run : Run}
    (committed : event.committedRun? = some run)
    (earlier : List Event) :
    committedOutputs (earlier ++ [event]) = committedOutputs earlier ++ [run.output] := by
  rw [committedOutputs_append, committedOutputs_cons committed]
  rfl

/-- What a history makes of the session at its beginning: its places and its preamble
stay, the inputs of the successful turns are added in order, and the lines shown are
those of the last committed run. -/
structure Recorded (start : Session) (events : List Event) (session : Session) : Prop where
  /-- The tools run where they ran. -/
  directory : session.directory = start.directory
  /-- The program is written where it was written. -/
  file : session.file = start.file
  /-- The program begins as it began. -/
  preamble : session.preamble = start.preamble
  /-- Each successful turn added its input. -/
  statements : session.statements =
    start.statements ++ (events.filter (·.result.isOk)).map Event.input
  /-- The last committed run decides how many lines are shown. -/
  shownLines : session.shownLines =
    ((committedOutputs events).getLast?.map Text.newlineCount).getD start.shownLines

theorem Recorded.refl (session : Session) : Recorded session [] session :=
  ⟨rfl, rfl, rfl, by simp, rfl⟩

/-- A turn keeps the record. -/
theorem Recorded.turn
    {earlier : List Event}
    {session : Session}
    (recorded : Recorded start earlier session)
    (input : Text)
    (state : State) :
    Recorded start (earlier ++ [.ofTurn bench settings session input state])
      (session.turn bench settings input state).session := by
  cases result : (Event.ofTurn bench settings session input state).result with
  | error error =>
      have unchanged : (session.turn bench settings input state).session = session :=
        Event.after_eq_of_error result
      rw [unchanged]
      refine ⟨recorded.directory, recorded.file, recorded.preamble, ?_, ?_⟩
      · simpa [result, Except.isOk, Except.toBool] using recorded.statements
      · rw [committedOutputs_concat_of_error result]
        exact recorded.shownLines
  | ok report =>
      obtain ⟨run, committed, _, _, after⟩ := Event.committed_of_ok result
      have moved : (session.turn bench settings input state).session =
        session.commit input run.output.newlineCount := after
      rw [moved]
      refine ⟨recorded.directory, recorded.file, recorded.preamble, ?_, ?_⟩
      · simp [commit, recorded.statements, result, Except.isOk, Except.toBool]
      · rw [committedOutputs_concat committed, List.getLast?_concat]
        rfl

/-- One turn leaves the program where it is. -/
theorem recorded_turn
    (bench : Bench State)
    (settings : RepairSettings)
    (start : Session)
    (input : Text)
    (state : State) :
    Recorded start [.ofTurn bench settings start input state]
      (start.turn bench settings input state).session :=
  (Recorded.refl start).turn input state

/-- The record holds before every turn of a history. -/
theorem recorded_before
    {earlier later : List Event}
    {event : Event}
    (split : start.history bench settings inputs state = earlier ++ event :: later) :
    Recorded start earlier event.before :=
  history_invariant_before (fun _ _ input state recorded => recorded.turn input state)
    (.refl start) split

/-- Any number of turns keep the record. -/
theorem recorded_history
    (bench : Bench State)
    (settings : RepairSettings)
    (start : Session)
    (inputs : List Text)
    (state : State) :
    Recorded start (start.history bench settings inputs state)
      (start.turnAll bench settings inputs state).1 :=
  history_invariant (fun _ _ input state recorded => recorded.turn input state) []
    (.refl start)

/-- After any number of turns, with any bench, the places and the preamble of a session
are those of its beginning; its statements are the first ones and the inputs of the
turns that succeeded, in order; and the lines shown are those of the last committed
run.  A turn commits a run exactly when it succeeds, and a turn that fails leaves the
whole session as it was. -/
theorem turnAll_session_eq
    (bench : Bench State)
    (settings : RepairSettings)
    (start : Session)
    (inputs : List Text)
    (state : State) :
    let events := start.history bench settings inputs state
    let final := (start.turnAll bench settings inputs state).1
    events.map Event.input = inputs ∧
    final.directory = start.directory ∧
    final.file = start.file ∧
    final.preamble = start.preamble ∧
    final.statements =
      start.statements ++ (events.filter (·.result.isOk)).map Event.input ∧
    final.shownLines =
      ((committedOutputs events).getLast?.map Text.newlineCount).getD start.shownLines ∧
    ∀ event ∈ events,
      event.committedRun?.isSome = event.result.isOk ∧
      ∀ error, event.result = .error error → event.after = event.before := by
  intro events final
  have recorded : Recorded start events final := recorded_history bench settings start inputs state
  refine ⟨map_input_history bench settings start inputs state, recorded.directory,
    recorded.file, recorded.preamble, recorded.statements, recorded.shownLines, ?_⟩
  intro event present
  obtain ⟨earlier, later, split⟩ := List.append_of_mem present
  cases result : event.result with
  | error error =>
      rw [Event.committedRun?_of_error result]
      exact ⟨rfl, fun _ _ => after_eq_before_of_error split result⟩
  | ok report =>
      obtain ⟨_, _, _, turned⟩ := eq_ofTurn_of_history_eq split
      rw [turned] at result ⊢
      obtain ⟨run, committed, _⟩ := Event.committed_of_ok result
      rw [committed]
      exact ⟨rfl, fun _ failed => nomatch failed⟩

/-! ## Sessions to begin with -/

/-- A session of which nothing has been run. -/
def untitled : Session :=
  .fresh [] "main.go".toList "package main".toList

/-- A session that goes on after an assignment that nothing uses. -/
def resumed : Session where
  directory := []
  file := "main.go".toList
  preamble := "package main".toList
  statements := ["x := 5".toList]
  shownLines := 0

end Session
end Turnwise
