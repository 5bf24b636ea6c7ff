import Mathlib.Data.List.Basic
import Turnwise.Prompt
import Turnwise.Proofs.Composition.Lines
import Turnwise.Proofs.Text.Blank
import Turnwise.Proofs.Turn.History
import Turnwise.Proofs.Turn.Repairs

/-!
# Dialogues at a prompt

A dialogue is what a user does at a prompt, one entry after the other, with all that each
entry asked of the bench and led to.  An entry does one of four things: it leaves the
session, it runs a command, it is a blank line where nothing is pending, or it adds a line
to a statement and runs one turn with all lines of the statement.
-/

namespace Turnwise

namespace Command

/-- A line is a command line when it begins with a colon. -/
theorem isSome_parse?_trim (text : Text) :
    (parse? text.trim).isSome = Text.beginsWith [':'] text.trim := by
  rw [parse?, Text.trim_trim]
  cases found : Text.after? [':'] text.trim with
  | none =>
      have other : Text.beginsWith [':'] text.trim ≠ true := by
        rw [ne_eq, Text.beginsWith_iff_exists, found]
        simp
      simpa using other.symm
  | some rest => exact (Text.beginsWith_iff_exists.mpr ⟨rest, found⟩).symm

end Command

namespace Prompt

/-! ## Entries and events -/

/-- What a user does at a prompt. -/
inductive Entry where
  /-- A line is entered. -/
  | line (text : Text)
  /-- The pending lines are given up. -/
  | cancel

/-- Whether a line led to a call for more. -/
def awaits : Except TurnError Outcome → Bool
  | .ok .awaitMore => true
  | _ => false

/-- One entry at a prompt. -/
structure Event (State : Type) where
  /-- The prompt before the entry. -/
  before : Prompt
  /-- The state of the services before the entry. -/
  state : State
  /-- What the user did. -/
  entry : Entry
  /-- What was asked of the bench, in order, with the answers. -/
  requests : List Bench.Call
  /-- What a line led to, or the failure that ends the session. -/
  result? : Option (Except TurnError Outcome)
  /-- The prompt after the entry. -/
  after : Prompt
  /-- The state of the services after the entry. -/
  next : State

namespace Event

/-- The event of one entry at a prompt. -/
def ofEntry
    (bench : Bench State)
    (shell : Shell State)
    (settings : RepairSettings)
    (prompt : Prompt)
    (state : State) : Entry → Event State
  | .line text =>
      let step := prompt.enter bench shell settings text state
      let recorded := prompt.enter bench.recording (shell.beside (List Bench.Call)) settings text
        (state, [])
      { before := prompt
        state := state
        entry := .line text
        requests := recorded.state.2
        result? := some step.result
        after := step.prompt
        next := step.state }
  | .cancel =>
      { before := prompt
        state := state
        entry := .cancel
        requests := []
        result? := none
        after := prompt.cancel
        next := state }

/-- The line that an event adds to a statement, without blanks at its ends.  A line is part
of a statement unless it leaves the session, begins with a colon, or is blank while nothing
is pending. -/
def statementLine? (event : Event State) : Option Text :=
  match event.entry with
  | .line text =>
      if leaves text.trim || Text.beginsWith [':'] text.trim ||
          (text.blank && event.before.pending.isEmpty) then none
      else some text.trim
  | .cancel => none

/-- Whether the statement is not complete after a line. -/
def awaitsMore (event : Event State) : Bool :=
  event.result?.any awaits

/-- Whether an event ends the statement before it: pending lines are given up, a command
line is entered, or a line of a statement leads to anything but a call for more. -/
def isReset (event : Event State) : Bool :=
  match event.entry with
  | .line text =>
      Text.beginsWith [':'] text.trim || (event.statementLine?.isSome && !event.awaitsMore)
  | .cancel => true

end Event

/-- What the result of a turn means for the line that completed its input. -/
def answer : Except TurnError Turn.Report → Except TurnError Outcome
  | .ok report => .ok (.output report.output)
  | .error error =>
      if error.isIncomplete then .ok .awaitMore
      else if error.isFatal then .error error
      else .ok (.turnFailed error.fullMessage)

/-- An event at which one turn is run with a given input, and nothing else is asked of the
bench. -/
structure Event.IsTurn
    (bench : Bench State)
    (settings : RepairSettings)
    (event : Event State)
    (input : Text) : Prop where
  /-- The requests are those of the turn. -/
  requests : event.requests =
    Turn.requests bench settings event.before.session input event.state
  /-- The first text given to the formatter consists of the session and the input. -/
  composed : (event.requests.filterMap Bench.Call.source?).head? =
    some (event.before.session.compose settings.placement input [])
  /-- The outcome is that of the turn. -/
  result : event.result? =
    some (answer (event.before.session.turn bench settings input event.state).result)
  /-- The session is that after the turn. -/
  session : event.after.session =
    (event.before.session.turn bench settings input event.state).session
  /-- The services are in the state after the turn. -/
  state : event.next = (event.before.session.turn bench settings input event.state).state

section Entering

variable {State : Type}
variable {bench : Bench State}
variable {shell : Shell State}
variable {settings : RepairSettings}
variable {prompt : Prompt}
variable {state : State}

/-! ## One line -/

/-- The lines of a turn at the prompt stay pending exactly when it calls for more. -/
theorem runPending_eq
    (bench : Bench State)
    (settings : RepairSettings)
    (prompt : Prompt)
    (state : State) :
    let turn := prompt.session.turn bench settings (Text.joinWith ['\n'] prompt.pending) state
    runPending bench settings prompt state =
      ⟨answer turn.result,
        ⟨turn.session, if awaits (answer turn.result) then prompt.pending else []⟩,
        turn.state⟩ := by
  intro turn
  unfold runPending
  cases result : turn.result with
  | ok report => simp only [turn, result, answer, awaits, Bool.false_eq_true, if_false]
  | error error =>
      simp only [turn] at result
      simp only [result, answer]
      split
      · rfl
      · split <;> rfl

/-- A recording bench runs the same turn at the prompt and keeps its requests. -/
theorem runPending_recording
    (bench : Bench State)
    (settings : RepairSettings)
    (prompt : Prompt)
    (state : State) :
    (runPending bench.recording settings prompt (state, [])).state.2 =
      Turn.requests bench settings prompt.session (Text.joinWith ['\n'] prompt.pending)
        state := by
  rw [runPending_eq, Turn.turn_recording]

/-- Commands ask nothing of the bench. -/
theorem runCommand_beside
    (shell : Shell State)
    (directory : Path)
    (words : Except Command.Malformed (List Text))
    (state : State)
    (log : List Bench.Call) :
    (runCommand (shell.beside (List Bench.Call)) directory words (state, log)).2.2 = log := by
  cases words with
  | error malformed => rfl
  | ok words =>
      cases answered : shell words directory state with
      | mk answer next => cases answer <;> simp only [runCommand, Shell.beside, answered]

theorem enter_of_leaves
    {text : Text}
    (leaving : leaves text.trim = true) :
    prompt.enter bench shell settings text state = ⟨.ok .quit, prompt, state⟩ := by
  simp only [enter, leaving, if_true]

theorem enter_of_command
    {text : Text}
    {words : Except Command.Malformed (List Text)}
    (staying : leaves text.trim = false)
    (command : Command.parse? text.trim = some words) :
    prompt.enter bench shell settings text state =
      ⟨.ok (runCommand shell prompt.session.directory words state).1, prompt.cancel,
        (runCommand shell prompt.session.directory words state).2⟩ := by
  simp only [enter, staying, command, Bool.false_eq_true, if_false]

theorem enter_of_blank
    {text : Text}
    (staying : leaves text.trim = false)
    (statement : Command.parse? text.trim = none)
    (blank : text.blank = true)
    (fresh : prompt.pending.isEmpty = true) :
    prompt.enter bench shell settings text state = ⟨.ok .blank, prompt, state⟩ := by
  simp only [enter, staying, statement, fresh, Text.isEmpty_trim, blank, Bool.false_eq_true,
    if_false, Bool.and_self, if_true]

theorem enter_of_statement
    {text : Text}
    (staying : leaves text.trim = false)
    (statement : Command.parse? text.trim = none)
    (added : (text.blank && prompt.pending.isEmpty) = false) :
    prompt.enter bench shell settings text state =
      runPending bench settings
        { prompt with pending := prompt.pending ++ [text.trim] } state := by
  rw [Bool.and_comm] at added
  simp only [enter, staying, statement, Text.isEmpty_trim, added, Bool.false_eq_true, if_false]

/-! ## One event -/

/-- A line that leaves the session is no command line. -/
theorem beginsWith_colon_of_leaves
    {line : Text}
    (leaving : leaves line = true) :
    Text.beginsWith [':'] line = false := by
  simp only [leaves, Bool.or_eq_true, beq_iff_eq] at leaving
  rcases leaving with rfl | rfl <;> rfl

namespace Event

variable {entry : Entry}
variable {text line : Text}

@[simp] theorem before_ofEntry :
    (ofEntry bench shell settings prompt state entry).before = prompt := by
  cases entry <;> rfl

@[simp] theorem entry_ofEntry :
    (ofEntry bench shell settings prompt state entry).entry = entry := by
  cases entry <;> rfl

theorem statementLine?_ofEntry_line :
    (ofEntry bench shell settings prompt state (.line text)).statementLine? =
      if leaves text.trim || Text.beginsWith [':'] text.trim ||
          (text.blank && prompt.pending.isEmpty) then none
      else some text.trim := rfl

/-- What is known of an event that adds a line to a statement. -/
theorem exists_of_statementLine?
    {event : Event State}
    (added : event.statementLine? = some line) :
    ∃ text,
      event.entry = .line text ∧
      leaves text.trim = false ∧
      Text.beginsWith [':'] text.trim = false ∧
      (text.blank && event.before.pending.isEmpty) = false ∧
      text.trim = line := by
  cases entered : event.entry with
  | cancel => simp [statementLine?, entered] at added
  | line text =>
      refine ⟨text, rfl, ?_⟩
      simpa only [statementLine?, entered, Option.ite_none_left_eq_some, Bool.not_eq_true,
        Bool.or_eq_false_iff, Option.some.injEq, and_assoc] using added

theorem isReset_ofEntry_line :
    (ofEntry bench shell settings prompt state (.line text)).isReset =
      (Text.beginsWith [':'] text.trim ||
        ((ofEntry bench shell settings prompt state (.line text)).statementLine?.isSome &&
          !(ofEntry bench shell settings prompt state (.line text)).awaitsMore)) := rfl

/-- An event that adds no line to a statement asks nothing of the bench and leaves the session
alone; at the prompt it changes nothing or clears what is pending. -/
theorem after_of_no_line
    (other : (ofEntry bench shell settings prompt state entry).statementLine? = none) :
    (ofEntry bench shell settings prompt state entry).requests = [] ∧
      (ofEntry bench shell settings prompt state entry).after =
        if (ofEntry bench shell settings prompt state entry).isReset then prompt.cancel
        else prompt := by
  cases entry with
  | cancel => exact ⟨rfl, rfl⟩
  | line text =>
      rw [isReset_ofEntry_line, other, ← Command.isSome_parse?_trim]
      cases leaving : leaves text.trim with
      | true =>
          have noCommand : (Command.parse? text.trim).isSome = false := by
            rw [Command.isSome_parse?_trim, beginsWith_colon_of_leaves leaving]
          simp [ofEntry, enter_of_leaves leaving, noCommand]
      | false =>
          cases command : Command.parse? text.trim with
          | some words =>
              simp [ofEntry, enter_of_command leaving command, runCommand_beside]
          | none =>
              have noColon : Text.beginsWith [':'] text.trim = false := by
                rw [← Command.isSome_parse?_trim, command, Option.isSome_none]
              have blank : text.blank = true ∧ prompt.pending.isEmpty = true := by
                simpa [statementLine?_ofEntry_line, leaving, noColon] using other
              simp [ofEntry, enter_of_blank leaving command blank.1 blank.2]

/-- Leaving the session resets nothing. -/
theorem after_of_leaves
    (leaving : leaves text.trim = true) :
    (ofEntry bench shell settings prompt state (.line text)).isReset = false ∧
      (ofEntry bench shell settings prompt state (.line text)).after = prompt := by
  have noLine : (ofEntry bench shell settings prompt state (.line text)).statementLine? =
      none := by
    simp [statementLine?_ofEntry_line, leaving]
  have noReset : (ofEntry bench shell settings prompt state (.line text)).isReset = false := by
    simp [isReset_ofEntry_line, noLine, beginsWith_colon_of_leaves leaving]
  refine ⟨noReset, ?_⟩
  rw [(after_of_no_line noLine).2, noReset]
  rfl

/-- An event that adds a line to a statement runs one turn with all lines of the statement;
they stay pending exactly when the turn calls for more. -/
theorem isTurn_of_line
    (added : (ofEntry bench shell settings prompt state entry).statementLine? = some line) :
    (ofEntry bench shell settings prompt state entry).IsTurn bench settings
        (Text.joinWith ['\n'] (prompt.pending ++ [line])) ∧
      (ofEntry bench shell settings prompt state entry).after.pending =
        if (ofEntry bench shell settings prompt state entry).isReset then []
        else prompt.pending ++ [line] := by
  cases entry with
  | cancel => cases added
  | line text =>
      obtain ⟨_, ⟨⟩, staying, noColon, visible, rfl⟩ := exists_of_statementLine? added
      rw [before_ofEntry] at visible
      have noCommand : Command.parse? text.trim = none := by
        rw [← Option.not_isSome_iff_eq_none, Command.isSome_parse?_trim, noColon]
        exact Bool.false_ne_true
      have entered : prompt.enter bench shell settings text state = _ :=
        (enter_of_statement staying noCommand visible).trans (runPending_eq _ _ _ _)
      have requested : (ofEntry bench shell settings prompt state (.line text)).requests =
          Turn.requests bench settings prompt.session
            (Text.joinWith ['\n'] (prompt.pending ++ [text.trim])) state := by
        rw [ofEntry, enter_of_statement staying noCommand visible, runPending_recording]
      constructor
      · constructor
        · exact requested
        · rw [requested]
          exact Turn.head?_sources_requests _ _ _ _ _
        · rw [ofEntry, entered]
        · rw [ofEntry, entered]
        · rw [ofEntry, entered]
      · rw [isReset_ofEntry_line, added, noColon, awaitsMore, ofEntry, entered]
        dsimp only [Option.any_some]
        split <;> simp [*]

/-- What a turn at the prompt makes of the session: it commits the input and shows the
output, or it changes nothing. -/
theorem IsTurn.session_cases
    {event : Event State}
    {input : Text}
    (turn : event.IsTurn bench settings input) :
    (∃ report lines,
      event.result? = some (.ok (.output report)) ∧
      event.after.session = event.before.session.commit input lines) ∨
    event.after.session = event.before.session := by
  rw [turn.result, turn.session]
  cases result : (event.before.session.turn bench settings input event.state).result with
  | ok report =>
      obtain ⟨run, _, _, _, committed⟩ := Turn.Event.committed_of_ok result
      exact .inl ⟨_, _, rfl, committed⟩
  | error error => exact .inr (Turn.Event.after_eq_of_error result)

/-- No event changes how the program begins. -/
theorem preamble_after
    (bench : Bench State)
    (shell : Shell State)
    (settings : RepairSettings)
    (prompt : Prompt)
    (state : State)
    (entry : Entry) :
    (ofEntry bench shell settings prompt state entry).after.session.preamble =
      prompt.session.preamble := by
  cases added : (ofEntry bench shell settings prompt state entry).statementLine? with
  | none =>
      rw [(after_of_no_line added).2]
      split <;> rfl
  | some line =>
      rcases (isTurn_of_line added).1.session_cases with ⟨_, _, _, committed⟩ | unchanged
      · rw [committed, before_ofEntry]
        rfl
      · rw [unchanged, before_ofEntry]

/-- Every text that an event gives to the formatter begins with the preamble. -/
theorem preamble_prefix_source
    {source : Text}
    (present : source ∈ (ofEntry bench shell settings prompt state entry).requests.filterMap
      Bench.Call.source?) :
    prompt.session.preamble <+: source := by
  cases added : (ofEntry bench shell settings prompt state entry).statementLine? with
  | none =>
      rw [(after_of_no_line added).1] at present
      cases present
  | some line =>
      rw [(isTurn_of_line added).1.requests] at present
      obtain ⟨_, _, rfl⟩ := Turn.exists_discards_of_mem_sources present
      rw [before_ofEntry]
      exact Session.preamble_prefix_compose _ _ _ _

/-- What is pending after an event: nothing after a reset, and one line more after a line of
a statement. -/
theorem pending_after
    (bench : Bench State)
    (shell : Shell State)
    (settings : RepairSettings)
    (prompt : Prompt)
    (state : State)
    (entry : Entry) :
    (ofEntry bench shell settings prompt state entry).after.pending =
      if (ofEntry bench shell settings prompt state entry).isReset then []
      else prompt.pending ++
        (ofEntry bench shell settings prompt state entry).statementLine?.toList := by
  cases added : (ofEntry bench shell settings prompt state entry).statementLine? with
  | none =>
      rw [(after_of_no_line added).2, Option.toList_none, List.append_nil]
      split <;> rfl
  | some line => exact (isTurn_of_line added).2

end Event

end Entering

/-! ## Dialogues -/

/-- A dialogue as it stands. -/
structure Dialogue (State : Type) where
  /-- All entries so far, in order. -/
  events : List (Event State)
  /-- The prompt. -/
  prompt : Prompt
  /-- The state of the services. -/
  state : State

namespace Dialogue

/-- Take one entry. -/
def take
    (bench : Bench State)
    (shell : Shell State)
    (settings : RepairSettings)
    (dialogue : Dialogue State)
    (entry : Entry) : Dialogue State :=
  let event := Event.ofEntry bench shell settings dialogue.prompt dialogue.state entry
  ⟨dialogue.events ++ [event], event.after, event.next⟩

/-- Take some entries, one after the other, from a prompt on. -/
def hold
    (bench : Bench State)
    (shell : Shell State)
    (settings : RepairSettings)
    (prompt : Prompt)
    (state : State)
    (entries : List Entry) : Dialogue State :=
  entries.foldl (take bench shell settings) ⟨[], prompt, state⟩

variable {State : Type}
variable {bench : Bench State}
variable {shell : Shell State}
variable {settings : RepairSettings}
variable {prompt : Prompt}
variable {state : State}

@[simp] theorem hold_nil :
    hold bench shell settings prompt state [] = ⟨[], prompt, state⟩ := rfl

theorem hold_concat
    (entries : List Entry)
    (entry : Entry) :
    hold bench shell settings prompt state (entries ++ [entry]) =
      (hold bench shell settings prompt state entries).take bench shell settings entry := by
  rw [hold, List.foldl_concat, ← hold]

/-- There is one event for each entry, in order. -/
theorem map_entry_hold
    (bench : Bench State)
    (shell : Shell State)
    (settings : RepairSettings)
    (prompt : Prompt)
    (state : State)
    (entries : List Entry) :
    (hold bench shell settings prompt state entries).events.map Event.entry = entries := by
  induction entries using List.reverseRecOn with
  | nil => rfl
  | append_singleton entries entry inductionHypothesis =>
      rw [hold_concat, take, List.map_append, inductionHypothesis, List.map_singleton,
        Event.entry_ofEntry]

/-- An event of a dialogue is an entry at the prompt that the entries before it led to. -/
theorem exists_ofEntry_of_events_eq
    {entries : List Entry}
    {earlier later : List (Event State)}
    {event : Event State}
    (split : (hold bench shell settings prompt state entries).events =
      earlier ++ event :: later) :
    ∃ first entry,
      earlier = (hold bench shell settings prompt state first).events ∧
      event = .ofEntry bench shell settings
        (hold bench shell settings prompt state first).prompt
        (hold bench shell settings prompt state first).state entry := by
  induction entries using List.reverseRecOn generalizing later with
  | nil => simp at split
  | append_singleton entries entry inductionHypothesis =>
      rw [hold_concat, take] at split
      rcases List.eq_nil_or_concat later with rfl | ⟨rest, last, rfl⟩
      · obtain ⟨prior, final⟩ := List.append_inj' split rfl
        exact ⟨entries, entry, prior.symm, (List.singleton_inj.mp final).symm⟩
      · rw [List.concat_eq_append, ← List.cons_append, ← List.append_assoc] at split
        exact inductionHypothesis (List.append_inj' split rfl).1

/-- However long a dialogue goes on, the program begins as it began. -/
theorem preamble_hold
    (bench : Bench State)
    (shell : Shell State)
    (settings : RepairSettings)
    (prompt : Prompt)
    (state : State)
    (entries : List Entry) :
    (hold bench shell settings prompt state entries).prompt.session.preamble =
      prompt.session.preamble := by
  induction entries using List.reverseRecOn with
  | nil => rfl
  | append_singleton entries entry inductionHypothesis =>
      rw [hold_concat, take, Event.preamble_after, inductionHypothesis]

/-- Every text that is given to the formatter in a dialogue begins with the preamble. -/
theorem preamble_prefix_source
    {entries : List Entry}
    {event : Event State}
    {source : Text}
    (entered : event ∈ (hold bench shell settings prompt state entries).events)
    (present : source ∈ event.requests.filterMap Bench.Call.source?) :
    prompt.session.preamble <+: source := by
  obtain ⟨earlier, later, split⟩ := List.append_of_mem entered
  obtain ⟨first, entry, _, rfl⟩ := exists_ofEntry_of_events_eq split
  rw [← preamble_hold bench shell settings prompt state first]
  exact Event.preamble_prefix_source present

end Dialogue

end Prompt
end Turnwise
