import Turnwise.Proofs.Prompt.Grouping
import Turnwise.Proofs.Turn.Accounts

/-!
# What one line can do

A line at the prompt either is part of a statement and runs one turn, or it asks nothing of
the bench.  The session moves on with the output of a turn and in no other way, and it ends
by a failure exactly when the last tool that the turn asked could not be started.
-/

namespace Turnwise

namespace Bench

/-- How a tool answered a request, but for what it answered when it succeeded.  A file is
written without a tool. -/
def Call.toolAnswer? : Call → Option (Except ToolError Unit)
  | .organize _ _ answer => some (answer.map fun _ => ())
  | .write _ _ _ => none
  | .run _ _ answer => some (answer.map fun _ => ())

/-- How a tool answered the last of some requests that went to a tool. -/
def lastToolAnswer? (requests : List Call) : Option (Except ToolError Unit) :=
  (requests.filterMap Call.toolAnswer?).getLast?

end Bench

namespace Turn

/-! ## Turns without a tool -/

/-- How a tool answered the last request of an attempt that went to a tool. -/
def Attempt.toolAnswer : Attempt → Except ToolError Unit
  | .unformatted _ failure => .error failure
  | .unwritten _ _ _ => .ok ()
  | .unstarted _ _ failure => .error failure
  | .ran _ _ _ => .ok ()

/-- The last attempt decides how a tool answered last. -/
theorem Attempt.lastToolAnswer?_flatMap_calls_concat
    (session : Session)
    (earlier : List Attempt)
    (made : Attempt) :
    Bench.lastToolAnswer? ((earlier ++ [made]).flatMap (calls session)) =
      some made.toolAnswer := by
  have own : ∃ before, (made.calls session).filterMap Bench.Call.toolAnswer? =
      before ++ [made.toolAnswer] := by
    cases made with
    | unformatted => exact ⟨[], rfl⟩
    | unwritten => exact ⟨[], rfl⟩
    | unstarted => exact ⟨[.ok ()], rfl⟩
    | ran => exact ⟨[.ok ()], rfl⟩
  obtain ⟨before, answered⟩ := own
  rw [Bench.lastToolAnswer?, List.flatMap_append, List.flatMap_singleton, List.filterMap_append,
    answered, ← List.append_assoc, List.getLast?_concat]

/-- An attempt ends the session when its tool could not be started, and only then. -/
theorem Attempt.result_eq_unavailable_iff
    (made : Attempt)
    (program : Text)
    (cause : SystemError) :
    made.result = .error (.unavailable program cause) ↔
      made.toolAnswer = .error (.spawn program cause) := by
  cases made with
  | unformatted text failure =>
      cases failure with
      | rejected message =>
          simp only [result, toolAnswer, TurnError.ofFormatter]
          split <;> simp
      | _ => simp [result, toolAnswer, TurnError.ofFormatter, TurnError.ofTool]
  | unwritten text formatted cause => simp [result, toolAnswer]
  | unstarted text formatted failure =>
      cases failure <;> simp [result, toolAnswer, TurnError.ofTool]
  | ran text formatted run => simp [result, toolAnswer]

/-- An attempt that comes to a run was answered by its tools. -/
theorem Attempt.toolAnswer_of_ok
    {made : Attempt}
    {run : Run}
    (result : made.result = .ok run) :
    made.toolAnswer = .ok () := by
  cases made with
  | ran => rfl
  | _ => cases result

/-- A run that fails is no reason to end the session. -/
theorem judge_ne_unavailable
    (session : Session)
    (input : Text)
    (progress : Progress)
    (run : Run)
    (program : Text)
    (cause : SystemError) :
    judge session input progress run ≠ .failed (.unavailable program cause) := by
  rw [ne_eq, judge_eq_failed_iff]
  rintro (⟨_, equal⟩ | ⟨_, _, equal⟩ | ⟨_, _, _, equal⟩) <;> cases equal

/-- A turn ends the session when the tool of its last attempt could not be started, and only
then. -/
theorem Finishes.result_eq_unavailable_iff
    {settings : RepairSettings}
    {session after : Session}
    {input : Text}
    {attempts : List Attempt}
    {result : Except TurnError Report}
    (finishes : Finishes settings session input attempts result after)
    (program : Text)
    (cause : SystemError) :
    result = .error (.unavailable program cause) ↔
      Bench.lastToolAnswer? (attempts.flatMap (Attempt.calls session)) =
        some (.error (.spawn program cause)) := by
  cases finishes with
  | ended reached sourced ends =>
      rw [Attempt.lastToolAnswer?_flatMap_calls_concat, Option.some.injEq,
        ← Attempt.result_eq_unavailable_iff]
      cases ends with
      | broken broken => simp [broken]
      | failed answered judged =>
          rw [answered]
          constructor
          · rintro ⟨⟩
            exact absurd judged (judge_ne_unavailable _ _ _ _ _ _)
          · rintro ⟨⟩
      | committed answered judged => simp [answered]
  | exhausted reached used =>
      cases reached with
      | initial =>
          rw [List.length_nil] at used
          omega
      | again _ _ answered _ =>
          rw [Attempt.lastToolAnswer?_flatMap_calls_concat, Attempt.toolAnswer_of_ok answered]
          simp

/-- A turn ends the session when the last tool that it asked could not be started, and only
then. -/
theorem turn_result_eq_unavailable_iff
    (bench : Bench State)
    (settings : RepairSettings)
    (session : Session)
    (input : Text)
    (state : State)
    (program : Text)
    (cause : SystemError) :
    (session.turn bench settings input state).result = .error (.unavailable program cause) ↔
      Bench.lastToolAnswer? (requests bench settings session input state) =
        some (.error (.spawn program cause)) := by
  obtain ⟨attempts, course, requested⟩ := exists_courseOf bench settings session input state
  rw [requested]
  exact course.finishes.result_eq_unavailable_iff program cause

end Turn

namespace Prompt

/-! ## Lines of a statement -/

/-- A line is answered with a failure exactly when the turn failed fatally. -/
theorem answer_eq_error_iff
    (result : Except TurnError Turn.Report)
    (error : TurnError) :
    answer result = .error error ↔
      ∃ program cause, error = .unavailable program cause ∧
        result = .error (.unavailable program cause) := by
  cases result with
  | ok report => simp [answer]
  | error failure =>
      cases failure <;>
        simp [answer, TurnError.isIncomplete, TurnError.isFatal, eq_comm]

/-- A line shows an output exactly when the turn succeeded with it. -/
theorem answer_eq_output_iff
    (result : Except TurnError Turn.Report)
    (output : Text) :
    answer result = .ok (.output output) ↔
      ∃ report, result = .ok report ∧ report.output = output := by
  cases result with
  | ok report => simp [answer]
  | error failure =>
      cases failure <;> simp [answer, TurnError.isIncomplete, TurnError.isFatal]

/-! ## Lines beside a statement -/

/-- Whether a line is never part of a statement at a prompt: it leaves the session, begins
with a colon, or is blank while nothing is pending. -/
def isAside (prompt : Prompt) (text : Text) : Bool :=
  leaves text.trim || Text.beginsWith [':'] text.trim || (text.blank && prompt.pending.isEmpty)

/-- A line that is never part of a statement is answered without a failure and without an
output, leaves the session as it is, and does the same with any bench. -/
theorem exists_enter_eq_of_isAside
    {State : Type}
    {prompt : Prompt}
    {text : Text}
    (aside : prompt.isAside text = true)
    (shell : Shell State)
    (settings : RepairSettings)
    (state : State) :
    ∃ outcome after next,
      (∀ bench : Bench State,
        prompt.enter bench shell settings text state = ⟨.ok outcome, after, next⟩) ∧
      after.session = prompt.session ∧
      ∀ output, outcome ≠ .output output := by
  cases leaving : leaves text.trim with
  | true =>
      refine ⟨.quit, prompt, state, fun _ => enter_of_leaves leaving, rfl, ?_⟩
      rintro output ⟨⟩
  | false =>
      cases command : Command.parse? text.trim with
      | some words =>
          refine ⟨_, _, _, fun _ => enter_of_command leaving command, rfl, ?_⟩
          intro output
          cases words with
          | error malformed => rintro ⟨⟩
          | ok words =>
              cases answered : shell words prompt.session.directory state with
              | mk answer next => cases answer <;> simp [runCommand, answered]
      | none =>
          have noColon : Text.beginsWith [':'] text.trim = false := by
            rw [← Command.isSome_parse?_trim, command, Option.isSome_none]
          have blank : text.blank = true ∧ prompt.pending.isEmpty = true := by
            simpa [isAside, leaving, noColon] using aside
          refine ⟨.blank, prompt, state,
            fun _ => enter_of_blank leaving command blank.1 blank.2, rfl, ?_⟩
          rintro output ⟨⟩

/-! ## All lines -/

/-- What a line may do, given the statement that it makes with the lines before it. -/
structure Event.Isolated
    (bench : Bench State)
    (shell : Shell State)
    (settings : RepairSettings)
    (text input : Text)
    (event : Event State) : Prop where
  /-- The session moves on with an output: it records the statement, and the number of lines
  of the run that the bench answered last. -/
  recorded : ∀ output, event.result? = some (.ok (.output output)) →
    ∃ run,
      event.requests.getLast? =
        some (.run event.before.session.file event.before.session.directory (.ok run)) ∧
      run.classify = .success ∧
      output = Output.visible run.output event.before.session.shownLines ∧
      event.after.session = event.before.session.commit input run.output.newlineCount
  /-- Without an output the session stays as it is. -/
  unchanged : (∀ output, event.result? ≠ some (.ok (.output output))) →
    event.after.session = event.before.session
  /-- A line that is never part of a statement asks nothing of the bench: it would lead to
  the same with any other.  It is answered, and leaves the session as it is. -/
  aside : event.before.isAside text = true →
    event.requests = [] ∧
    ∃ outcome,
      event.result? = some (.ok outcome) ∧
      event.after.session = event.before.session ∧
      ∀ other : Bench State,
        event.before.enter other shell settings text event.state =
          ⟨.ok outcome, event.after, event.next⟩
  /-- A line fails exactly when the last tool that it asked could not be started. -/
  fatal : ∀ error, event.result? = some (.error error) ↔
    ∃ program cause,
      error = .unavailable program cause ∧
      Bench.lastToolAnswer? event.requests = some (.error (.spawn program cause))
  /-- After any other failure of a turn the session goes on: the line calls for more, or
  the failure is shown. -/
  survived : ∀ error, event.before.isAside text = false →
    (event.before.session.turn bench settings input event.state).result = .error error →
    (∀ program cause, error ≠ .unavailable program cause) →
    event.result? =
      some (.ok (if error = .incomplete then .awaitMore else .turnFailed error.fullMessage))

section Entering

variable {State : Type}
variable {bench : Bench State}
variable {shell : Shell State}
variable {settings : RepairSettings}
variable {prompt : Prompt}
variable {state : State}
variable {text : Text}

theorem Event.statementLine?_of_not_isAside
    (statement : prompt.isAside text = false) :
    (Event.ofEntry bench shell settings prompt state (.line text)).statementLine? =
      some text.trim := by
  rw [Event.statementLine?_ofEntry_line, ← isAside, statement]
  rfl

/-- A line that is never part of a statement is isolated. -/
theorem Event.isolated_of_isAside
    (aside : prompt.isAside text = true)
    (input : Text) :
    (Event.ofEntry bench shell settings prompt state (.line text)).Isolated
      bench shell settings text input := by
  obtain ⟨outcome, after, next, entered, session, noOutput⟩ :=
    exists_enter_eq_of_isAside aside shell settings state
  have noLine : (Event.ofEntry bench shell settings prompt state (.line text)).statementLine? =
      none := by
    rw [Event.statementLine?_ofEntry_line, ← isAside, aside]
    rfl
  have quiet := (Event.after_of_no_line noLine).1
  have answered : (Event.ofEntry bench shell settings prompt state (.line text)).result? =
      some (.ok outcome) := by
    rw [Event.ofEntry, entered]
  have reached : (Event.ofEntry bench shell settings prompt state (.line text)).after =
      after := by
    rw [Event.ofEntry, entered]
  constructor
  · intro output shown
    rw [answered] at shown
    cases shown
    exact absurd rfl (noOutput output)
  · intro _
    rw [reached, session, Event.before_ofEntry]
  · intro _
    refine ⟨quiet, outcome, answered, by rw [reached, session, Event.before_ofEntry], ?_⟩
    intro other
    simp only [Event.ofEntry, entered]
  · intro error
    rw [answered, quiet]
    simp [Bench.lastToolAnswer?]
  · intro error statement
    rw [Event.before_ofEntry, aside] at statement
    cases statement

/-- An event at which one turn is run is isolated. -/
theorem Event.IsTurn.isolated
    {event : Event State}
    {input : Text}
    (turn : event.IsTurn bench settings input)
    (statement : event.before.isAside text = false) :
    event.Isolated bench shell settings text input := by
  constructor
  · intro output shown
    rw [turn.result, Option.some.injEq, answer_eq_output_iff] at shown
    obtain ⟨report, result, rfl⟩ := shown
    obtain ⟨attempts, course, requested⟩ :=
      Turn.exists_courseOf bench settings event.before.session input event.state
    obtain ⟨earlier, source, formatted, run, _, attempted, _, succeeded, reported, committed⟩ :=
      course.committed_of_ok result
    refine ⟨run, ?_, succeeded, reported, ?_⟩
    · rw [turn.requests, requested, attempted]
      exact Turn.Attempt.getLast?_flatMap_calls_ran _ earlier source formatted run
    · rw [turn.session, committed]
  · intro noOutput
    rcases turn.session_cases with ⟨output, _, shown, _⟩ | unchanged
    · exact absurd shown (noOutput output)
    · exact unchanged
  · intro aside
    rw [aside] at statement
    cases statement
  · intro error
    rw [turn.result, turn.requests, Option.some.injEq, answer_eq_error_iff]
    simp only [Turn.turn_result_eq_unavailable_iff]
  · intro error _ failed survives
    rw [turn.result, failed]
    cases error with
    | unavailable program cause => exact absurd rfl (survives program cause)
    | _ => simp [answer, TurnError.isIncomplete, TurnError.isFatal]

end Entering

/-- Whatever was entered before at a fresh prompt, with any bench and any way to run
commands, and whatever is entered now.  The session moves on only with an output, and then
it records the lines since the last reset, put together, and the lines of the run.  A line
that leaves the session, begins with a colon, or is blank while nothing is pending asks
nothing of the bench and leaves the session as it is, also in the middle of a statement.  The
line fails exactly when the last tool that its turn asked could not be started; after every
other failure the session goes on. -/
theorem Dialogue.hold_isolates
    (bench : Bench State)
    (shell : Shell State)
    (settings : RepairSettings)
    (session : Session)
    (state : State)
    (entries : List Entry)
    (text : Text) :
    let dialogue := hold bench shell settings (.fresh session) state entries
    (Event.ofEntry bench shell settings dialogue.prompt dialogue.state (.line text)).Isolated
      bench shell settings text (statement dialogue.events text.trim) := by
  intro dialogue
  cases aside : dialogue.prompt.isAside text with
  | true => exact Event.isolated_of_isAside aside _
  | false =>
      have added : (Event.ofEntry bench shell settings dialogue.prompt dialogue.state
          (.line text)).statementLine? = some text.trim :=
        Event.statementLine?_of_not_isAside aside
      have pending := pending_hold bench shell settings session state entries
      rw [statement, ← pending]
      apply (Event.isTurn_of_line added).1.isolated
      rw [Event.before_ofEntry]
      exact aside

end Prompt
end Turnwise
