import Mathlib.Data.List.DropRight
import Turnwise.Proofs.Prompt.Dialogue
import Turnwise.Proofs.Text.Lines

/-!
# Statements of several lines

At a prompt the lines of a statement are entered one by one.  Whatever else is entered in
between, the lines that a turn is run with are those entered since the last reset, and
nothing of an earlier statement is left among them.
-/

namespace Turnwise

namespace Text

/-- A text that begins with a visible character has a first line that is not blank. -/
theorem pieces_cons_of_visible
    {c : Char}
    (visible : isBlank c = false)
    (text : Text) :
    ∃ first rest, pieces (c :: text) = first :: rest ∧ first.blank = false := by
  have inside : c ≠ '\n' := by
    rintro rfl
    exact absurd visible (by decide)
  obtain ⟨first, rest, found⟩ := List.exists_cons_of_ne_nil (pieces_ne_nil text)
  refine ⟨c :: first, rest, ?_, by simp [blank, visible]⟩
  rw [pieces] at found ⊢
  rw [List.splitOn_cons_eq_if_modifyHead, if_neg (by simpa using inside), found,
    List.modifyHead_cons]

end Text

namespace Prompt

/-! ## Lines since the last reset -/

/-- The events after the last reset. -/
def sinceReset (events : List (Event State)) : List (Event State) :=
  events.rtakeWhile (!·.isReset)

/-- The lines of the statement that is not complete: all lines entered since the last
reset. -/
def fragment (events : List (Event State)) : List Text :=
  (sinceReset events).filterMap Event.statementLine?

/-- The statement that one more line makes of the lines since the last reset. -/
def statement (events : List (Event State)) (line : Text) : Text :=
  Text.joinWith ['\n'] (fragment events ++ [line])

section Fragment

variable {State : Type}

@[simp] theorem fragment_nil : fragment ([] : List (Event State)) = [] := rfl

theorem fragment_concat
    (events : List (Event State))
    (event : Event State) :
    fragment (events ++ [event]) =
      if event.isReset then [] else fragment events ++ event.statementLine?.toList := by
  rw [fragment, sinceReset, List.rtakeWhile_concat]
  cases reset : event.isReset with
  | true => simp
  | false =>
      simp only [Bool.not_false, Bool.false_eq_true, if_true, if_false, List.filterMap_append]
      cases line : event.statementLine? <;> simp [fragment, sinceReset, line]

/-- The fragment is empty exactly when no line of a statement follows the last reset. -/
theorem fragment_ne_nil_iff (events : List (Event State)) :
    fragment events ≠ [] ↔ ∃ event ∈ sinceReset events, event.statementLine?.isSome = true := by
  rw [fragment, ne_eq, List.filterMap_eq_nil_iff]
  simp [Option.ne_none_iff_isSome]

/-- A line of a statement since the last reset called for more. -/
theorem awaitsMore_of_mem_sinceReset
    {events : List (Event State)}
    {event : Event State}
    (present : event ∈ sinceReset events)
    (line : event.statementLine?.isSome = true) :
    event.awaitsMore = true := by
  have kept : event.isReset = false := by
    simpa using List.mem_rtakeWhile_imp present
  obtain ⟨text, entered, _⟩ := Event.exists_of_statementLine? (Option.some_get line).symm
  rw [Event.isReset, entered, line] at kept
  simpa using (Bool.or_eq_false_iff.mp kept).2

end Fragment

/-! ## Whole dialogues -/

namespace Dialogue

section Pending

variable {State : Type}
variable {bench : Bench State}
variable {shell : Shell State}
variable {settings : RepairSettings}
variable {session : Session}
variable {state : State}

/-- At any time the pending lines are those entered since the last reset. -/
theorem pending_hold
    (bench : Bench State)
    (shell : Shell State)
    (settings : RepairSettings)
    (session : Session)
    (state : State)
    (entries : List Entry) :
    (hold bench shell settings (.fresh session) state entries).prompt.pending =
      fragment (hold bench shell settings (.fresh session) state entries).events := by
  induction entries using List.reverseRecOn with
  | nil => rfl
  | append_singleton entries entry inductionHypothesis =>
      rw [hold_concat, take, fragment_concat, Event.pending_after, inductionHypothesis]

/-- Lines of which the first begins with a visible character. -/
def Opened (lines : List Text) : Prop :=
  ∃ c text rest, Text.isBlank c = false ∧ lines = (c :: text) :: rest

theorem Opened.append
    {lines : List Text}
    (opened : Opened lines)
    (more : List Text) :
    Opened (lines ++ more) := by
  obtain ⟨c, text, rest, visible, rfl⟩ := opened
  exact ⟨c, text, rest ++ more, visible, rfl⟩

/-- The first line of what such lines make up is not blank. -/
theorem Opened.pieces_joinWith
    {lines : List Text}
    (opened : Opened lines) :
    ∃ first rest, Text.pieces (Text.joinWith ['\n'] lines) = first :: rest ∧
      first.blank = false := by
  obtain ⟨c, text, rest, visible, rfl⟩ := opened
  cases rest with
  | nil =>
      rw [Text.joinWith, List.intercalate_singleton]
      exact Text.pieces_cons_of_visible visible text
  | cons next rest =>
      rw [Text.joinWith, List.intercalate_cons_cons, List.cons_append]
      exact Text.pieces_cons_of_visible visible _

/-- A line that is added to a statement opens it or continues one that is open. -/
theorem opened_concat
    {prompt : Prompt}
    {entry : Entry}
    {line : Text}
    (either : prompt.pending = [] ∨ Opened prompt.pending)
    (added : (Event.ofEntry bench shell settings prompt state entry).statementLine? =
      some line) :
    Opened (prompt.pending ++ [line]) := by
  rcases either with fresh | opened
  · obtain ⟨text, _, _, _, notBlank, rfl⟩ := Event.exists_of_statementLine? added
    have visible : text.trim.isEmpty = false := by
      rw [Text.isEmpty_trim]
      simpa [Event.before_ofEntry, fresh] using notBlank
    obtain ⟨c, rest, trimmed⟩ :=
      List.exists_cons_of_ne_nil (List.isEmpty_eq_false_iff.mp visible)
    rw [fresh, trimmed]
    exact ⟨c, rest, [], Text.visible_of_trim_eq_cons trimmed, rfl⟩
  · exact opened.append [line]

/-- At any time nothing is pending, or the first pending line begins with a visible
character. -/
theorem opened_hold
    (bench : Bench State)
    (shell : Shell State)
    (settings : RepairSettings)
    (session : Session)
    (state : State)
    (entries : List Entry) :
    (hold bench shell settings (.fresh session) state entries).prompt.pending = [] ∨
      Opened (hold bench shell settings (.fresh session) state entries).prompt.pending := by
  induction entries using List.reverseRecOn with
  | nil => exact .inl rfl
  | append_singleton entries entry inductionHypothesis =>
      rw [hold_concat, take, Event.pending_after]
      -- A reset leaves nothing pending; otherwise at most one line is added.
      split
      · exact .inl rfl
      · cases added : (Event.ofEntry bench shell settings
            (hold bench shell settings (.fresh session) state entries).prompt
            (hold bench shell settings (.fresh session) state entries).state
            entry).statementLine? with
        | none => simpa using inductionHypothesis
        | some line => exact .inr (opened_concat inductionHypothesis added)

end Pending

/-- A statement that a dialogue completes: some line of it is the last one of the
statement, and its turn succeeds; the lines since the last reset all called for more; and
the first line is not blank. -/
def Completes (events : List (Event State)) (text : Text) : Prop :=
  ∃ earlier event later line output,
    events = earlier ++ event :: later ∧
    event.statementLine? = some line ∧
    event.result? = some (.ok (.output output)) ∧
    text = statement earlier line ∧
    (∃ first rest, Text.pieces text = first :: rest ∧ first.blank = false) ∧
    ∀ prior ∈ sinceReset earlier, prior.statementLine?.isSome = true → prior.awaitsMore = true

/-- What is completed stays so, whatever is entered next. -/
theorem Completes.concat
    {State : Type}
    {events : List (Event State)}
    {text : Text}
    (completes : Completes events text)
    (event : Event State) :
    Completes (events ++ [event]) text := by
  obtain ⟨earlier, last, later, line, output, rfl, facts⟩ := completes
  refine ⟨earlier, last, later ++ [event], line, output, ?_, facts⟩
  rw [List.append_assoc, List.cons_append]

/-- How an event of a dialogue depends on those before it. -/
structure Groups
    (bench : Bench State)
    (settings : RepairSettings)
    (earlier : List (Event State))
    (event : Event State) : Prop where
  /-- The pending lines are those since the last reset. -/
  pending : event.before.pending = fragment earlier
  /-- With a line of a statement, one turn is run with all lines since the last reset. -/
  turn : ∀ line, event.statementLine? = some line →
    event.IsTurn bench settings (statement earlier line)
  /-- With anything else, no turn is run. -/
  other : event.statementLine? = none →
    event.requests = [] ∧ event.after.session = event.before.session
  /-- Leaving the session resets nothing. -/
  leaving : ∀ text, event.entry = .line text → leaves text.trim = true →
    event.isReset = false ∧ event.after = event.before

section Whole

variable {State : Type}
variable {bench : Bench State}
variable {shell : Shell State}
variable {settings : RepairSettings}
variable {session : Session}
variable {state : State}

/-- Every event of a dialogue belongs to the lines since the last reset. -/
theorem groups_of_events_eq
    {entries : List Entry}
    {earlier later : List (Event State)}
    {event : Event State}
    (split : (hold bench shell settings (.fresh session) state entries).events =
      earlier ++ event :: later) :
    Groups bench settings earlier event := by
  obtain ⟨first, entry, rfl, rfl⟩ := exists_ofEntry_of_events_eq split
  have pending := pending_hold bench shell settings session state first
  constructor
  · rw [Event.before_ofEntry, pending]
  · intro line added
    rw [statement, ← pending]
    exact (Event.isTurn_of_line added).1
  · intro other
    obtain ⟨quiet, after⟩ := Event.after_of_no_line other
    refine ⟨quiet, ?_⟩
    rw [after, Event.before_ofEntry]
    split <;> rfl
  · intro text entered leaving
    cases entry with
    | cancel => cases entered
    | line text =>
        cases entered
        exact Event.after_of_leaves leaving

/-- An entry adds nothing to the session, or a statement that is then completed. -/
theorem statements_take
    {dialogue : Dialogue State}
    (entry : Entry)
    (pending : dialogue.prompt.pending = fragment dialogue.events)
    (either : dialogue.prompt.pending = [] ∨ Opened dialogue.prompt.pending) :
    let next := dialogue.take bench shell settings entry
    next.prompt.session.statements = dialogue.prompt.session.statements ∨
    ∃ text,
      next.prompt.session.statements = dialogue.prompt.session.statements ++ [text] ∧
      Completes next.events text := by
  intro next
  rw [show next.prompt = (Event.ofEntry bench shell settings dialogue.prompt dialogue.state
    entry).after from rfl]
  cases added : (Event.ofEntry bench shell settings dialogue.prompt dialogue.state
      entry).statementLine? with
  | none =>
      rw [(Event.after_of_no_line added).2]
      split <;> exact .inl rfl
  | some line =>
      rcases (Event.isTurn_of_line added).1.session_cases with
        ⟨output, lines, shown, committed⟩ | unchanged
      · rw [Event.before_ofEntry] at committed
        refine .inr ⟨_, congrArg Session.statements committed, ?_⟩
        refine ⟨dialogue.events, _, [], line, output, rfl, added, shown, ?_,
          (opened_concat either added).pieces_joinWith,
          fun _ present line => awaitsMore_of_mem_sinceReset present line⟩
        rw [statement, pending]
      · rw [unchanged, Event.before_ofEntry]
        exact .inl rfl

/-- What a dialogue adds to the session are statements that it completes. -/
theorem exists_completes
    (bench : Bench State)
    (shell : Shell State)
    (settings : RepairSettings)
    (session : Session)
    (state : State)
    (entries : List Entry) :
    ∃ gained,
      (hold bench shell settings (.fresh session) state entries).prompt.session.statements =
        session.statements ++ gained ∧
      ∀ text ∈ gained,
        Completes (hold bench shell settings (.fresh session) state entries).events text := by
  induction entries using List.reverseRecOn with
  | nil => exact ⟨[], (List.append_nil _).symm, fun _ absent => nomatch absent⟩
  | append_singleton entries entry inductionHypothesis =>
      obtain ⟨gained, reached, complete⟩ := inductionHypothesis
      have kept (event : Event State) (text : Text) (present : text ∈ gained) :=
        (complete text present).concat event
      rw [hold_concat]
      rcases statements_take entry
          (pending_hold bench shell settings session state entries)
          (opened_hold bench shell settings session state entries) with
        same | ⟨text, more, completes⟩
      · exact ⟨gained, same.trans reached, kept _⟩
      · refine ⟨gained ++ [text], by rw [more, reached, List.append_assoc], ?_⟩
        intro other present
        rcases List.mem_append.mp present with earlier | last
        · exact kept _ other earlier
        · rw [List.mem_singleton.mp last]
          exact completes

/-- Whatever is entered at a fresh prompt, with any bench: each line of a statement runs one
turn, with all lines since the last reset put together, and nothing else runs a turn; a line
that leaves the session resets nothing; the prompt shows the continuation mark exactly when
a line of a statement follows the last reset; and each statement that the session gains is
put together from the lines since a reset, of which the first is not blank and all but the
last called for more. -/
theorem hold_groups
    (bench : Bench State)
    (shell : Shell State)
    (settings : RepairSettings)
    (session : Session)
    (state : State)
    (entries : List Entry) :
    let dialogue := hold bench shell settings (.fresh session) state entries
    dialogue.events.map Event.entry = entries ∧
    (∀ earlier event later,
      dialogue.events = earlier ++ event :: later →
      Groups bench settings earlier event) ∧
    (dialogue.prompt.invitation = continuationMark ↔
      ∃ event ∈ sinceReset dialogue.events, event.statementLine?.isSome = true) ∧
    ∃ gained,
      dialogue.prompt.session.statements = session.statements ++ gained ∧
      ∀ text ∈ gained, Completes dialogue.events text := by
  intro dialogue
  refine ⟨map_entry_hold bench shell settings (.fresh session) state entries,
    fun _ _ _ split => groups_of_events_eq split, ?_,
    exists_completes bench shell settings session state entries⟩
  rw [← fragment_ne_nil_iff, ← pending_hold, invitation]
  cases dialogue.prompt.pending <;> simp [mark, continuationMark]

end Whole

end Dialogue

end Prompt
end Turnwise
