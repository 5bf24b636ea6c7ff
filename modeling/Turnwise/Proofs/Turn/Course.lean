import Turnwise.Turn.Loop

/-!
# The course of a turn

A turn is a loop over a bench that may answer every request differently.  This
module says once what such a loop can do.  An `Attempt` is what one pass asked of
the bench and was answered, `Made` relates it to the bench, and `Course` relates a
turn to the list of its attempts, with one rule for each way a pass can end.

Every turn has a course, and the requests that a recording bench keeps during a
turn are the requests of its attempts, in order.
-/

namespace Turnwise

namespace Bench

variable {bench : Bench State}

@[simp] theorem recording_organize
    (source : Text)
    (directory : Path)
    (state : State)
    (log : List Call) :
    bench.recording.organize source directory (state, log) =
      ((bench.organize source directory state).1,
        (bench.organize source directory state).2,
        log ++ [.organize source directory (bench.organize source directory state).1]) := rfl

@[simp] theorem recording_write
    (file : Path)
    (content : Text)
    (state : State)
    (log : List Call) :
    bench.recording.write file content (state, log) =
      ((bench.write file content state).1,
        (bench.write file content state).2,
        log ++ [.write file content (bench.write file content state).1]) := rfl

@[simp] theorem recording_run
    (file directory : Path)
    (state : State)
    (log : List Call) :
    bench.recording.run file directory (state, log) =
      ((bench.run file directory state).1,
        (bench.run file directory state).2,
        log ++ [.run file directory (bench.run file directory state).1]) := rfl

end Bench

namespace Turn

/-- What one attempt asked of the bench and was answered, up to the first
failure. -/
inductive Attempt where
  /-- The formatter failed. -/
  | unformatted (source : Text) (failure : ToolError)
  /-- The program file could not be written. -/
  | unwritten (source formatted : Text) (cause : SystemError)
  /-- The runner failed. -/
  | unstarted (source formatted : Text) (failure : ToolError)
  /-- The runner answered. -/
  | ran (source formatted : Text) (run : Run)

namespace Attempt

/-- The text that the formatter was given. -/
def source : Attempt → Text
  | .unformatted source _ => source
  | .unwritten source _ _ => source
  | .unstarted source _ _ => source
  | .ran source _ _ => source

/-- The run of an attempt, if it came to one. -/
def run? : Attempt → Option Run
  | .ran _ _ run => some run
  | _ => none

/-- A run to be judged, or the failure that ends the turn. -/
def result : Attempt → Except TurnError Run
  | .unformatted _ failure => .error (.ofFormatter failure)
  | .unwritten _ _ cause => .error (.unwritten cause)
  | .unstarted _ _ failure => .error (.ofTool failure)
  | .ran _ _ run => .ok run

/-- The requests of an attempt, in order, with their answers. -/
def calls (session : Session) : Attempt → List Bench.Call
  | .unformatted source failure =>
      [.organize source session.directory (.error failure)]
  | .unwritten source formatted cause =>
      [.organize source session.directory (.ok formatted),
        .write session.file formatted (.error cause)]
  | .unstarted source formatted failure =>
      [.organize source session.directory (.ok formatted),
        .write session.file formatted (.ok ()),
        .run session.file session.directory (.error failure)]
  | .ran source formatted run =>
      [.organize source session.directory (.ok formatted),
        .write session.file formatted (.ok ()),
        .run session.file session.directory (.ok run)]

/-- An attempt gives the formatter one text, its source. -/
theorem filterMap_source_calls
    (made : Attempt)
    (session : Session) :
    (made.calls session).filterMap Bench.Call.source? = [made.source] := by
  cases made <;> rfl

/-- The texts given to the formatter are the sources of the attempts. -/
theorem filterMap_source_flatMap_calls
    (attempts : List Attempt)
    (session : Session) :
    (attempts.flatMap (calls session)).filterMap Bench.Call.source? = attempts.map source := by
  rw [List.filterMap_flatMap]
  simp only [filterMap_source_calls, ← List.map_eq_flatMap]

theorem result_eq_ok_iff
    (made : Attempt)
    (run : Run) :
    made.result = .ok run ↔ made.run? = some run := by
  cases made <;> simp [result, run?]

end Attempt

/-- The bench leads from one state to another through the requests of an
attempt. -/
inductive Made (bench : Bench State) (session : Session) : State → Attempt → State → Prop
  | unformatted
      {text : Text} {failure : ToolError} {start final : State}
      (organized : bench.organize text session.directory start = (.error failure, final)) :
      Made bench session start (.unformatted text failure) final
  | unwritten
      {text formatted : Text} {cause : SystemError} {start middle final : State}
      (organized : bench.organize text session.directory start = (.ok formatted, middle))
      (written : bench.write session.file formatted middle = (.error cause, final)) :
      Made bench session start (.unwritten text formatted cause) final
  | unstarted
      {text formatted : Text} {failure : ToolError} {start middle later final : State}
      (organized : bench.organize text session.directory start = (.ok formatted, middle))
      (written : bench.write session.file formatted middle = (.ok (), later))
      (answered : bench.run session.file session.directory later = (.error failure, final)) :
      Made bench session start (.unstarted text formatted failure) final
  | ran
      {text formatted : Text} {run : Run} {start middle later final : State}
      (organized : bench.organize text session.directory start = (.ok formatted, middle))
      (written : bench.write session.file formatted middle = (.ok (), later))
      (answered : bench.run session.file session.directory later = (.ok run, final)) :
      Made bench session start (.ran text formatted run) final

variable {bench : Bench State}
variable {settings : RepairSettings}
variable {session : Session}
variable {input : Text}
variable {start final : State}
variable {made : Attempt}

/-- Every source text leads to an attempt. -/
theorem exists_made
    (bench : Bench State)
    (session : Session)
    (text : Text)
    (start : State) :
    ∃ made final, made.source = text ∧ Made bench session start made final := by
  cases organized : bench.organize text session.directory start with
  | mk answer middle =>
      cases answer with
      | error failure => exact ⟨_, _, rfl, .unformatted organized⟩
      | ok formatted =>
          cases written : bench.write session.file formatted middle with
          | mk answer later =>
              cases answer with
              | error cause => exact ⟨_, _, rfl, .unwritten organized written⟩
              | ok =>
                  cases answered : bench.run session.file session.directory later with
                  | mk answer final =>
                      cases answer with
                      | error failure =>
                          exact ⟨_, _, rfl, .unstarted organized written answered⟩
                      | ok run => exact ⟨_, _, rfl, .ran organized written answered⟩

/-- The loop sees the result of the attempt and the state after it. -/
theorem Made.attempt_eq
    (was : Made bench session start made final) :
    attempt bench session made.source start = (made.result, final) := by
  cases was with
  | unformatted organized =>
      simp only [attempt, Attempt.source, Attempt.result, organized]
  | unwritten organized written =>
      simp only [attempt, Attempt.source, Attempt.result, organized, written]
  | unstarted organized written answered =>
      simp only [attempt, Attempt.source, Attempt.result, organized, written, answered]
  | ran organized written answered =>
      simp only [attempt, Attempt.source, Attempt.result, organized, written, answered]

/-- A recording bench makes the same attempt and keeps its requests. -/
theorem Made.recording
    (was : Made bench session start made final)
    (log : List Bench.Call) :
    attempt bench.recording session made.source (start, log) =
      (made.result, final, log ++ made.calls session) := by
  cases was with
  | unformatted organized =>
      simp only [attempt, Attempt.source, Attempt.result, Attempt.calls,
        Bench.recording_organize, organized]
  | unwritten organized written =>
      simp only [attempt, Attempt.source, Attempt.result, Attempt.calls,
        Bench.recording_organize, Bench.recording_write, organized, written,
        List.append_assoc, List.cons_append, List.nil_append]
  | unstarted organized written answered =>
      simp only [attempt, Attempt.source, Attempt.result, Attempt.calls,
        Bench.recording_organize, Bench.recording_write, Bench.recording_run,
        organized, written, answered, List.append_assoc, List.cons_append, List.nil_append]
  | ran organized written answered =>
      simp only [attempt, Attempt.source, Attempt.result, Attempt.calls,
        Bench.recording_organize, Bench.recording_write, Bench.recording_run,
        organized, written, answered, List.append_assoc, List.cons_append, List.nil_append]

/-- What an attempt leads to when it ends the turn: a failure with the session as it
was, or a report and the session that has moved on. -/
inductive Ends (session : Session) (input : Text) (progress : Progress) (made : Attempt) :
    Except TurnError Report → Session → Prop
  /-- The attempt came to no run. -/
  | broken
      {error : TurnError}
      (result : made.result = .error error) :
      Ends session input progress made (.error error) session
  /-- The run failed, and no discard repairs it. -/
  | failed
      {run : Run} {error : TurnError}
      (result : made.result = .ok run)
      (judged : judge session input progress run = .failed error) :
      Ends session input progress made (.error error) session
  /-- The run succeeded. -/
  | committed
      {run : Run} {report : Report} {after : Session}
      (result : made.result = .ok run)
      (judged : judge session input progress run = .committed report after) :
      Ends session input progress made (.ok report) after

/-- An attempt that ends the turn ends the loop. -/
theorem passes_of_ends
    {progress : Progress}
    {result : Except TurnError Report}
    {after : Session}
    (attempted : attempt bench session (source settings.placement session input progress) start =
      (made.result, final))
    (ends : Ends session input progress made result after)
    (remaining : Nat) :
    passes bench settings session input (remaining + 1) progress start =
      ⟨result, after, final⟩ := by
  cases ends with
  | broken result => simp [passes, attempted, result]
  | failed result judged => simp [passes, attempted, result, judged]
  | committed result judged => simp [passes, attempted, result, judged]

/-- The loop goes on after an attempt that does not end the turn. -/
theorem passes_of_again
    {progress next : Progress}
    {run : Run}
    (attempted : attempt bench session (source settings.placement session input progress) start =
      (made.result, final))
    (result : made.result = .ok run)
    (judged : judge session input progress run = .again next)
    (remaining : Nat) :
    passes bench settings session input (remaining + 1) progress start =
      passes bench settings session input remaining next final := by
  simp [passes, attempted, result, judged]

/-- The attempts of a turn from some progress on, and what the turn comes to. -/
inductive Course
    (bench : Bench State)
    (settings : RepairSettings)
    (session : Session)
    (input : Text) :
    (remaining : Nat) → Progress → State → List Attempt → Outcome State → Prop
  /-- No pass remains. -/
  | exhausted {progress : Progress} {start : State} :
      Course bench settings session input 0 progress start []
        ⟨.error (.exhausted (max settings.maxPasses 1) progress.output progress.diagnostics),
          session, start⟩
  /-- An attempt ends the turn. -/
  | ended
      {remaining : Nat} {progress : Progress} {start final : State} {made : Attempt}
      {result : Except TurnError Report} {after : Session}
      (sourced : made.source = source settings.placement session input progress)
      (was : Made bench session start made final)
      (ends : Ends session input progress made result after) :
      Course bench settings session input (remaining + 1) progress start [made]
        ⟨result, after, final⟩
  /-- The turn goes on with more discards. -/
  | again
      {remaining : Nat} {progress next : Progress} {start middle : State} {made : Attempt}
      {run : Run} {attempts : List Attempt} {outcome : Outcome State}
      (sourced : made.source = source settings.placement session input progress)
      (was : Made bench session start made middle)
      (result : made.result = .ok run)
      (judged : judge session input progress run = .again next)
      (rest : Course bench settings session input remaining next middle attempts outcome) :
      Course bench settings session input (remaining + 1) progress start
        (made :: attempts) outcome

/-- The loop follows a course. -/
theorem exists_course
    (bench : Bench State)
    (settings : RepairSettings)
    (session : Session)
    (input : Text)
    (remaining : Nat)
    (progress : Progress)
    (start : State) :
    ∃ attempts, Course bench settings session input remaining progress start attempts
      (passes bench settings session input remaining progress start) := by
  induction remaining generalizing progress start with
  | zero => exact ⟨[], .exhausted⟩
  | succ remaining inductionHypothesis =>
      obtain ⟨made, middle, sourced, was⟩ :=
        exists_made bench session (source settings.placement session input progress) start
      have attempted := was.attempt_eq
      rw [sourced] at attempted
      have last {result : Except TurnError Report} {after : Session}
          (ends : Ends session input progress made result after) :
          ∃ attempts, Course bench settings session input (remaining + 1) progress start attempts
            (passes bench settings session input (remaining + 1) progress start) := by
        rw [passes_of_ends attempted ends]
        exact ⟨[made], .ended sourced was ends⟩
      cases result : made.result with
      | error error => exact last (.broken result)
      | ok run =>
          cases judged : judge session input progress run with
          | committed report after => exact last (.committed result judged)
          | failed error => exact last (.failed result judged)
          | again next =>
              obtain ⟨attempts, course⟩ := inductionHypothesis next middle
              rw [passes_of_again attempted result judged]
              exact ⟨made :: attempts, .again sourced was result judged course⟩

/-- The bench made every attempt of a course. -/
theorem Course.exists_made
    {attempts : List Attempt}
    {outcome : Outcome State}
    (course : Course bench settings session input remaining progress start attempts outcome)
    (present : made ∈ attempts) :
    ∃ before after, Made bench session before made after := by
  induction course with
  | exhausted => cases present
  | ended sourced was ends =>
      rw [List.mem_singleton.mp present]
      exact ⟨_, _, was⟩
  | again sourced was result judged rest inductionHypothesis =>
      rcases List.mem_cons.mp present with rfl | later
      · exact ⟨_, _, was⟩
      · exact inductionHypothesis later

/-- A recording bench follows the same course and keeps the requests of its
attempts. -/
theorem Course.recording
    {attempts : List Attempt}
    {outcome : Outcome State}
    (course : Course bench settings session input remaining progress start attempts outcome)
    (log : List Bench.Call) :
    passes bench.recording settings session input remaining progress (start, log) =
      ⟨outcome.result, outcome.session,
        (outcome.state, log ++ attempts.flatMap (Attempt.calls session))⟩ := by
  induction course generalizing log with
  | exhausted => simp [passes]
  | ended sourced was ends =>
      have recorded := was.recording log
      rw [sourced] at recorded
      rw [passes_of_ends recorded ends, List.flatMap_singleton]
  | again sourced was result judged rest inductionHypothesis =>
      have recorded := was.recording log
      rw [sourced] at recorded
      rw [passes_of_again recorded result judged, inductionHypothesis, List.flatMap_cons,
        List.append_assoc]

/-- The requests of a turn, in order, with their answers. -/
def requests
    (bench : Bench State)
    (settings : RepairSettings)
    (session : Session)
    (input : Text)
    (state : State) : List Bench.Call :=
  (session.turn bench.recording settings input (state, [])).state.2

/-- The course of a turn, from no progress and with all passes remaining. -/
def CourseOf
    (bench : Bench State)
    (settings : RepairSettings)
    (session : Session)
    (input : Text)
    (state : State)
    (attempts : List Attempt) : Prop :=
  Course bench settings session input (max settings.maxPasses 1) .initial state attempts
    (session.turn bench settings input state)

/-- Every turn has a course, and its requests are those of the attempts. -/
theorem exists_courseOf
    (bench : Bench State)
    (settings : RepairSettings)
    (session : Session)
    (input : Text)
    (state : State) :
    ∃ attempts, CourseOf bench settings session input state attempts ∧
      requests bench settings session input state =
        attempts.flatMap (Attempt.calls session) := by
  obtain ⟨attempts, course⟩ :=
    exists_course bench settings session input (max settings.maxPasses 1) .initial state
  refine ⟨attempts, course, ?_⟩
  rw [requests, Session.turn, course.recording []]
  simp

/-- A recording bench makes the same turn and keeps its requests. -/
theorem turn_recording
    (bench : Bench State)
    (settings : RepairSettings)
    (session : Session)
    (input : Text)
    (state : State) :
    session.turn bench.recording settings input (state, []) =
      ⟨(session.turn bench settings input state).result,
        (session.turn bench settings input state).session,
        (session.turn bench settings input state).state,
        requests bench settings session input state⟩ := by
  obtain ⟨attempts, course, requested⟩ := exists_courseOf bench settings session input state
  rw [requested, Session.turn, course.recording [], List.nil_append]

/-- A bench allows one course of a turn, and its end is that of the turn. -/
theorem Course.turn_eq
    {state : State}
    {attempts : List Attempt}
    {outcome : Outcome State}
    (course : Course bench settings session input (max settings.maxPasses 1) .initial state
      attempts outcome) :
    session.turn bench settings input state = outcome ∧
      requests bench settings session input state =
        attempts.flatMap (Attempt.calls session) := by
  have recorded := turn_recording bench settings session input state
  rw [Session.turn, course.recording [], List.nil_append] at recorded
  obtain ⟨result, after, final⟩ := outcome
  simp only [Outcome.mk.injEq, Prod.mk.injEq] at recorded
  obtain ⟨sameResult, sameSession, sameState, sameRequests⟩ := recorded
  refine ⟨?_, sameRequests.symm⟩
  rw [sameResult, sameSession, sameState]

end Turn
end Turnwise
