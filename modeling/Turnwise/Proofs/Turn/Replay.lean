import Turnwise.Toolchain.Miniature
import Turnwise.Proofs.Turn.History

/-!
# Replaying a session

A bench is stateless when its formatter answers by the source text alone and its runner by
the content of the program file alone.  A turn writes the program file before each run, so
it never sees what an earlier turn left there, and a turn with such a bench is the same
whatever happened before.  As a turn that fails leaves the session as it was, it can be left
out of a history without a trace.
-/

namespace Turnwise

namespace Bench

/-- A bench that keeps nothing but files, for one program file and one directory: the
formatter is a function of the source text, and the runner is a function of the content of
the program file, which `read` tells. -/
structure Stateless
    (bench : Bench State)
    (read : State → Except SystemError Bytes)
    (format : Text → Except ToolError Text)
    (execute : Bytes → Except ToolError Run)
    (file directory : Path) : Prop where
  /-- The formatter answers by its source text. -/
  organize : ∀ source state, (bench.organize source directory state).1 = format source
  /-- The program file can always be written. -/
  write : ∀ content state, (bench.write file content state).1 = .ok ()
  /-- The program file holds what was written to it. -/
  keeps : ∀ content state,
    read (bench.write file content state).2 = .ok (Utf8.encode content)
  /-- The runner answers by the content of the program file. -/
  run : ∀ state content, read state = .ok content →
    (bench.run file directory state).1 = execute content

variable {State : Type}
variable {bench : Bench State}
variable {read : State → Except SystemError Bytes}
variable {format : Text → Except ToolError Text}
variable {execute : Bytes → Except ToolError Run}
variable {file directory : Path}

theorem Stateless.eq_format
    (stateless : bench.Stateless read format execute file directory)
    {source : Text}
    {answer : Except ToolError Text}
    {state next : State}
    (organized : bench.organize source directory state = (answer, next)) :
    format source = answer := by
  rw [← stateless.organize source state, organized]

/-- Right after the program file was written, the runner answers by what was written. -/
theorem Stateless.eq_execute
    (stateless : bench.Stateless read format execute file directory)
    {content : Text}
    {written : Except SystemError Unit}
    {answer : Except ToolError Run}
    {state middle next : State}
    (wrote : bench.write file content state = (written, middle))
    (answered : bench.run file directory middle = (answer, next)) :
    execute (Utf8.encode content) = answer := by
  have held := stateless.keeps content state
  rw [wrote] at held
  rw [← stateless.run middle _ held, answered]

end Bench

namespace Turn

variable {State : Type}
variable {bench : Bench State}
variable {read : State → Except SystemError Bytes}
variable {format : Text → Except ToolError Text}
variable {execute : Bytes → Except ToolError Run}
variable {settings : RepairSettings}
variable {session : Session}
variable {input : Text}

/-! ## Turns -/

/-- The attempt that two functions of texts answer, when every file can be written. -/
def Attempt.ofAnswers
    (format : Text → Except ToolError Text)
    (execute : Bytes → Except ToolError Run)
    (text : Text) : Attempt :=
  match format text with
  | .error failure => .unformatted text failure
  | .ok formatted =>
      match execute (Utf8.encode formatted) with
      | .error failure => .unstarted text formatted failure
      | .ok run => .ran text formatted run

/-- With a stateless bench, an attempt depends on its source text alone. -/
theorem Made.eq_ofAnswers
    {start final : State}
    {made : Attempt}
    (stateless : bench.Stateless read format execute session.file session.directory)
    (was : Made bench session start made final) :
    made = .ofAnswers format execute made.source := by
  cases was with
  | unformatted organized =>
      simp only [Attempt.ofAnswers, Attempt.source, stateless.eq_format organized]
  | @unwritten _ formatted _ _ middle _ _ written =>
      have wrote := stateless.write formatted middle
      rw [written] at wrote
      cases wrote
  | unstarted organized written answered =>
      simp only [Attempt.ofAnswers, Attempt.source, stateless.eq_format organized,
        stateless.eq_execute written answered]
  | ran organized written answered =>
      simp only [Attempt.ofAnswers, Attempt.source, stateless.eq_format organized,
        stateless.eq_execute written answered]

/-- With a stateless bench, the result and the requests of an attempt depend on its source
text alone. -/
theorem exists_attempt_recording_eq
    (stateless : bench.Stateless read format execute session.file session.directory)
    (text : Text)
    (state : State)
    (log : List Bench.Call) :
    ∃ next, attempt bench.recording session text (state, log) =
      ((Attempt.ofAnswers format execute text).result, next,
        log ++ (Attempt.ofAnswers format execute text).calls session) := by
  obtain ⟨made, next, sourced, was⟩ := exists_made bench session text state
  have answered := was.eq_ofAnswers stateless
  rw [sourced] at answered
  refine ⟨next, ?_⟩
  rw [← answered, ← sourced]
  exact was.recording log

/-- With a stateless bench, what a loop comes to does not depend on the state in which it
begins. -/
theorem passes_recording_eq
    (stateless : bench.Stateless read format execute session.file session.directory)
    (remaining : Nat)
    (progress : Progress)
    (first second : State)
    (log : List Bench.Call) :
    let one := passes bench.recording settings session input remaining progress (first, log)
    let other := passes bench.recording settings session input remaining progress (second, log)
    one.result = other.result ∧ one.session = other.session ∧ one.state.2 = other.state.2 := by
  induction remaining generalizing progress first second log with
  | zero => exact ⟨rfl, rfl, rfl⟩
  | succ remaining inductionHypothesis =>
      obtain ⟨firstNext, firstAttempt⟩ := exists_attempt_recording_eq stateless
        (source settings.placement session input progress) first log
      obtain ⟨secondNext, secondAttempt⟩ := exists_attempt_recording_eq stateless
        (source settings.placement session input progress) second log
      simp only [passes, firstAttempt, secondAttempt]
      cases (Attempt.ofAnswers format execute
          (source settings.placement session input progress)).result with
      | error error => exact ⟨rfl, rfl, rfl⟩
      | ok run =>
          dsimp only
          cases judge session input progress run with
          | committed report after => exact ⟨rfl, rfl, rfl⟩
          | failed error => exact ⟨rfl, rfl, rfl⟩
          | again next => exact inductionHypothesis next firstNext secondNext _

/-- With a stateless bench, a turn does not depend on the state in which it begins. -/
theorem Event.ofTurn_eq
    (stateless : bench.Stateless read format execute session.file session.directory)
    (first second : State) :
    ofTurn bench settings session input first = ofTurn bench settings session input second := by
  have same := @passes_recording_eq _ _ _ _ _ settings _ input stateless
    (max settings.maxPasses 1) .initial first second []
  rw [← Session.turn, ← Session.turn, turn_recording, turn_recording] at same
  obtain ⟨result, after, requested⟩ := same
  dsimp only at result after requested
  rw [ofTurn, ofTurn, result, after, requested]

end Turn

/-! ## Histories -/

namespace Session

open Turn (Event)

variable {State : Type}
variable {bench : Bench State}
variable {read : State → Except SystemError Bytes}
variable {format : Text → Except ToolError Text}
variable {execute : Bytes → Except ToolError Run}
variable {settings : RepairSettings}
variable {start : Session}

/-- The turns of a history that succeeded. -/
def successes (events : List Event) : List Event :=
  events.filter (·.result.isOk)

/-- Some turns of a history, with failed ones omitted and all others kept. -/
inductive OmitsFailures : List Event → List Event → Prop
  | nil : OmitsFailures [] []
  | keep
      {kept events : List Event}
      (event : Event)
      (rest : OmitsFailures kept events) :
      OmitsFailures (event :: kept) (event :: events)
  | skip
      {kept events : List Event} {event : Event} {error : TurnError}
      (failed : event.result = .error error)
      (rest : OmitsFailures kept events) :
      OmitsFailures kept (event :: events)

/-- All failed turns can be omitted. -/
theorem omitsFailures_successes (events : List Event) :
    OmitsFailures (successes events) events := by
  induction events with
  | nil => exact .nil
  | cons event rest inductionHypothesis =>
      cases result : event.result with
      | ok report =>
          have kept : successes (event :: rest) = event :: successes rest := by
            simp [successes, result, Except.isOk, Except.toBool]
          rw [kept]
          exact .keep event inductionHypothesis
      | error error =>
          have skipped : successes (event :: rest) = successes rest := by
            simp [successes, result, Except.isOk, Except.toBool]
          rw [skipped]
          exact .skip result inductionHypothesis

/-- Turns that failed can be omitted from a history with a stateless bench: the others are
what they were, and so is the session at the end. -/
theorem history_of_omitsFailures
    {inputs : List Text}
    {kept : List Event}
    {state : State}
    (stateless : bench.Stateless read format execute start.file start.directory)
    (omits : OmitsFailures kept (start.history bench settings inputs state))
    (other : State) :
    start.history bench settings (kept.map Event.input) other = kept ∧
      (start.turnAll bench settings (kept.map Event.input) other).1 =
        (start.turnAll bench settings inputs state).1 := by
  induction inputs generalizing start kept state other with
  | nil =>
      cases omits
      exact ⟨rfl, rfl⟩
  | cons input rest inductionHypothesis =>
      have recorded := recorded_turn bench settings start input state
      have statelessAfter : bench.Stateless read format execute
          (start.turn bench settings input state).session.file
          (start.turn bench settings input state).session.directory := by
        rw [recorded.file, recorded.directory]
        exact stateless
      rw [history] at omits
      rw [turnAll]
      cases omits with
      | skip failed omitted =>
          have unchanged : (start.turn bench settings input state).session = start :=
            Event.after_eq_of_error failed
          have replayed := inductionHypothesis statelessAfter omitted other
          rw [unchanged] at replayed ⊢
          exact replayed
      | keep event omitted =>
          have turned : Event.ofTurn bench settings start input other =
              .ofTurn bench settings start input state :=
            Event.ofTurn_eq stateless other state
          have after : (start.turn bench settings input other).session =
              (start.turn bench settings input state).session :=
            congrArg Event.after turned
          obtain ⟨replayed, final⟩ := inductionHypothesis statelessAfter omitted
            (start.turn bench settings input other).state
          rw [List.map_cons, Event.ofTurn_input, history, turnAll, turned, after]
          exact ⟨congrArg _ replayed, final⟩

/-- Run any inputs with a stateless bench, and then run only those whose turns succeeded,
from any state of the files.  The second history consists of the successful turns of the
first, each with the same requests, answers and report, and it ends with the same session.
The same holds when only some of the failed turns are omitted, so that no failed turn can be
seen by a later one, whether that succeeds or fails. -/
theorem history_replay
    (bench : Bench State)
    (read : State → Except SystemError Bytes)
    (format : Text → Except ToolError Text)
    (execute : Bytes → Except ToolError Run)
    (settings : RepairSettings)
    (start : Session)
    (inputs : List Text)
    (state other : State)
    (stateless : bench.Stateless read format execute start.file start.directory) :
    let events := start.history bench settings inputs state
    let final := (start.turnAll bench settings inputs state).1
    (start.history bench settings ((successes events).map Event.input) other =
        successes events ∧
      (start.turnAll bench settings ((successes events).map Event.input) other).1 = final) ∧
    ∀ kept, OmitsFailures kept events →
      start.history bench settings (kept.map Event.input) other = kept ∧
      (start.turnAll bench settings (kept.map Event.input) other).1 = final := by
  intro events final
  exact ⟨history_of_omitsFailures stateless (omitsFailures_successes events) other,
    fun _ omits => history_of_omitsFailures stateless omits other⟩

end Session

namespace Miniature

open Session (successes untitled)
open Store (keeps_oneFile oneFile)

/-- The miniature toolchain is stateless over a store that takes and keeps every content of
the program file. -/
theorem stateless_bench
    (store : Store State)
    (file directory : Path)
    (takes : ∀ content state, (store.write file content state).1 = .ok ())
    (keeps : store.Keeps file) :
    (bench store).Stateless (store.read file) format (runFile oneFile file) file directory where
  organize _ _ := rfl
  write _ state := takes _ state
  keeps _ state := keeps _ state _ (Prod.ext (takes _ state) rfl)
  run state content held := by
    have same : oneFile.read file content = store.read file state := held.symm
    simp only [bench, runFile, same]

/-- A program that compiles, one that does not, one that panics, and one that runs. -/
def mistaken : List Text :=
  ["println(1)".toList, "println(y)".toList, "panic(\"no\")".toList, "println(2)".toList]

theorem history_replay_mistaken :
    let events := untitled.history (bench oneFile) ⟨16, .after⟩ mistaken []
    (bench oneFile).Stateless (oneFile.read untitled.file) format
      (runFile oneFile untitled.file) untitled.file untitled.directory ∧
    events.map (·.result.isOk) = [true, false, false, true] ∧
    untitled.history (bench oneFile) ⟨16, .after⟩ ["println(1)".toList, "println(2)".toList]
      [0] = successes events := by
  intro events
  have stateless := stateless_bench oneFile untitled.file untitled.directory
    (fun _ _ => rfl) (keeps_oneFile _)
  have inputs : (successes events).map Turn.Event.input =
      ["println(1)".toList, "println(2)".toList] := by decide +kernel
  have replayed := (Session.history_replay (bench oneFile) _ _ _ ⟨16, .after⟩ untitled
    mistaken [] [0] stateless).1.1
  refine ⟨stateless, by decide +kernel, ?_⟩
  rw [← inputs]
  exact replayed

end Miniature
end Turnwise
