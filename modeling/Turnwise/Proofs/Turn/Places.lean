import Turnwise.Toolchain.Scripted
import Turnwise.Proofs.Composition.Rows
import Turnwise.Proofs.Turn.History
import Turnwise.Proofs.Turn.Repairs

/-!
# The places of confirmed statements

Statements are only ever added to a session, and always at the end.  So a program begins with
all that was confirmed before it was composed, and what a turn adds stands below.  A confirmed
statement begins on the same row of every later program, whichever turns succeed or fail in
between, and positions in diagnostics keep their meaning.
-/

namespace Turnwise

namespace Composition

/-- The lines of a statement stand in a program from a row on.  Rows are counted from zero. -/
def BeginsAt (statement : Text) (row : Nat) (program : Text) : Prop :=
  statementLines statement <+: program.pieces.drop row

/-- A statement begins after the rows that stand above it. -/
theorem beginsAt_of_pieces_eq
    {statement program : Text}
    {above below : List Text}
    (split : program.pieces = above ++ (statementLines statement ++ below)) :
    BeginsAt statement above.length program := by
  rw [BeginsAt, split, List.drop_left]
  exact List.prefix_append _ _

end Composition

/-- The programs that a turn composes: the texts that the formatter was given, in order. -/
def Turn.Event.programs (event : Turn.Event) : List Text :=
  event.requests.filterMap Bench.Call.source?

namespace Session

open Turnwise.Composition
open Turn (Event)

/-! ## Programs with the same beginning -/

/-- A program without repairs is what its commit confirms, and the closing brace. -/
theorem compose_eq_confirmed_commit
    (session : Session)
    (placement : Placement)
    (candidate : Text)
    (lines : Nat) :
    session.compose placement candidate [] =
      (session.commit candidate lines).confirmed ++ closing := by
  rw [compose_eq_confirmed_append, arrange_nil, List.flatMap_singleton, confirmed_commit,
    List.append_assoc]

/-- A program begins with what is confirmed. -/
theorem confirmed_prefix_compose
    (session : Session)
    (placement : Placement)
    (candidate : Text)
    (fixes : List Text) :
    session.confirmed <+: session.compose placement candidate fixes := by
  rw [compose_eq_confirmed_append]
  exact List.prefix_append _ _

/-- The row below the opening of a program and some statements. -/
def rowBelow (session : Session) (statements : List Text) : Nat :=
  (Text.pieces (session.preamble ++ "\nfunc main() \x7b".toList)).length +
    (statements.flatMap statementLines).length

/-- A confirmed statement begins below the opening and the statements confirmed before it. -/
theorem beginsAt_compose
    {session : Session}
    {above below : List Text}
    {statement : Text}
    (split : session.statements = above ++ statement :: below)
    (placement : Placement)
    (candidate : Text)
    (fixes : List Text) :
    BeginsAt statement (session.rowBelow above)
      (session.compose placement candidate fixes) := by
  rw [rowBelow, ← List.length_append]
  apply beginsAt_of_pieces_eq
  rw [pieces_compose, confirmedLines_eq, split, List.flatMap_append, List.flatMap_cons]
  simp only [List.append_assoc]
  rfl

/-- The new statement begins below all confirmed ones when the repairs stand after it. -/
theorem beginsAt_compose_candidate
    (session : Session)
    (candidate : Text)
    (fixes : List Text) :
    BeginsAt candidate (session.rowBelow session.statements)
      (session.compose .after candidate fixes) := by
  rw [rowBelow, ← List.length_append]
  apply beginsAt_of_pieces_eq
  rw [pieces_compose_repairs, linesAbove, confirmedLines_eq, List.append_assoc]

/-- Without repairs a program is the same in either placement. -/
theorem compose_nil_eq_after
    (session : Session)
    (placement : Placement)
    (candidate : Text) :
    session.compose placement candidate [] = session.compose .after candidate [] := by
  rw [compose, compose, arrange_nil, arrange_nil]

/-! ## Sessions that continue -/

/-- A session continues another one when all that the other confirmed is confirmed in it, in
the same places. -/
structure Continues (earlier later : Session) : Prop where
  /-- The program begins as it began. -/
  preamble : later.preamble = earlier.preamble
  /-- Statements are added at the end. -/
  statements : earlier.statements <+: later.statements

theorem Continues.refl (session : Session) : session.Continues session :=
  ⟨rfl, List.prefix_refl _⟩

theorem Continues.trans
    {earlier middle later : Session}
    (first : earlier.Continues middle)
    (second : middle.Continues later) :
    earlier.Continues later :=
  ⟨second.preamble.trans first.preamble, first.statements.trans second.statements⟩

/-- The row below some statements is the same for a session that continues. -/
theorem Continues.rowBelow_eq
    {earlier later : Session}
    (continued : earlier.Continues later)
    (statements : List Text) :
    later.rowBelow statements = earlier.rowBelow statements := by
  rw [rowBelow, rowBelow, continued.preamble]

/-- What was confirmed before still begins below what was confirmed before it. -/
theorem Continues.beginsAt_compose
    {earlier later : Session}
    {above below : List Text}
    {statement : Text}
    (continued : earlier.Continues later)
    (split : earlier.statements = above ++ statement :: below)
    (placement : Placement)
    (candidate : Text)
    (fixes : List Text) :
    BeginsAt statement (later.rowBelow above) (later.compose placement candidate fixes) := by
  obtain ⟨added, grown⟩ := continued.statements
  rw [split, List.append_assoc, List.cons_append] at grown
  exact Session.beginsAt_compose grown.symm placement candidate fixes

variable {State : Type}
variable {bench : Bench State}
variable {settings : RepairSettings}
variable {start : Session}
variable {inputs : List Text}
variable {state : State}

theorem Recorded.continues
    {events : List Event}
    {session : Session}
    (recorded : Recorded start events session) :
    start.Continues session :=
  ⟨recorded.preamble, recorded.statements ▸ List.prefix_append _ _⟩

/-- A turn continues its session. -/
theorem continues_turn
    (bench : Bench State)
    (settings : RepairSettings)
    (session : Session)
    (input : Text)
    (state : State) :
    session.Continues (session.turn bench settings input state).session :=
  (recorded_turn bench settings session input state).continues

/-- A session that continues the one at the beginning and those after some turns. -/
def ContinuesAll (start : Session) (events : List Event) (session : Session) : Prop :=
  ∀ known ∈ start :: events.map Event.after, known.Continues session

/-- A turn continues all that its session continues. -/
theorem ContinuesAll.turn
    {earlier : List Event}
    {session : Session}
    (continued : ContinuesAll start earlier session)
    (input : Text)
    (state : State) :
    ContinuesAll start (earlier ++ [.ofTurn bench settings session input state])
      (session.turn bench settings input state).session := by
  intro known present
  rw [List.map_append, ← List.cons_append, List.mem_append] at present
  rcases present with old | new
  · exact (continued known old).trans (continues_turn bench settings session input state)
  · rw [List.mem_singleton.mp new]
    exact .refl _

/-- The session before a turn of a history continues all sessions before it. -/
theorem continuesAll_before
    {earlier later : List Event}
    {event : Event}
    (split : start.history bench settings inputs state = earlier ++ event :: later) :
    ContinuesAll start earlier event.before := by
  refine history_invariant_before (fun _ _ input state continued => continued.turn input state)
    ?_ split
  intro known present
  rw [List.mem_singleton.mp present]
  exact .refl _

/-! ## Turns -/

/-- The programs that one turn of a history composes, and the places of statements in them.
Rows are those of the session at the beginning. -/
structure KeepsPlaces
    (settings : RepairSettings)
    (start : Session)
    (earlier : List Event)
    (event : Event) : Prop where
  /-- What any session before the turn had confirmed begins in every program of the turn on the
  row below what was confirmed before it. -/
  confirmed : ∀ known ∈ start :: earlier.map Event.after,
    ∀ above statement below,
      known.statements = above ++ statement :: below →
      ∀ program ∈ event.programs, BeginsAt statement (start.rowBelow above) program
  /-- The new statement begins in the first program on the row below all confirmed ones. -/
  candidate : ∃ first,
    event.programs.head? = some first ∧
    BeginsAt event.input (start.rowBelow event.before.statements) first
  /-- It begins there in all programs of the turn when the repairs stand after it. -/
  repaired : settings.placement = .after →
    ∀ program ∈ event.programs,
      BeginsAt event.input (start.rowBelow event.before.statements) program
  /-- A turn that succeeds confirms the new statement below all others. -/
  committed : ∀ report,
    event.result = .ok report →
    event.after.statements = event.before.statements ++ [event.input]

/-- Every turn of a history keeps the places. -/
theorem keepsPlaces_of_history_eq
    {earlier later : List Event}
    {event : Event}
    (split : start.history bench settings inputs state = earlier ++ event :: later) :
    KeepsPlaces settings start earlier event := by
  have continued := continuesAll_before split
  have sameRow := (continued start List.mem_cons_self).rowBelow_eq
  obtain ⟨_, _, _, turned⟩ := eq_ofTurn_of_history_eq split
  have composed {program : Text} (present : program ∈ event.programs) :
      ∃ fixes, program = event.before.compose settings.placement event.input fixes := by
    rw [turned] at present
    obtain ⟨identifiers, _, equal⟩ := Turn.exists_discards_of_mem_sources present
    exact ⟨identifiers.map discard, equal⟩
  constructor
  case confirmed =>
    intro known reached above statement below confirmed program present
    obtain ⟨fixes, rfl⟩ := composed present
    rw [← sameRow]
    exact (continued known reached).beginsAt_compose confirmed _ _ _
  case candidate =>
    refine ⟨event.before.compose settings.placement event.input [], ?_, ?_⟩
    · rw [turned]
      exact Turn.head?_sources_requests _ _ _ _ _
    · rw [← sameRow, compose_nil_eq_after]
      exact beginsAt_compose_candidate _ _ _
  case repaired =>
    intro placed program present
    obtain ⟨fixes, rfl⟩ := composed present
    rw [← sameRow, placed]
    exact beginsAt_compose_candidate _ _ _
  case committed =>
    intro report succeeded
    rw [turned] at succeeded ⊢
    obtain ⟨run, _, _, _, after⟩ := Event.committed_of_ok succeeded
    rw [after]
    rfl

/-- A program is put together line by line, and over a session it only grows at its end.
Without repairs, all of a program but its closing brace begins every program of the session that
has committed the statement, whatever the new statement, its repairs and the placement.  Split at
its newlines, a program is the preamble with the opening of the entry point, the lines of the
confirmed statements, those of the repairs and the new statement in the order of the placement,
and the closing brace alone; a final newline makes no further line, and an empty statement stands
on one empty line.  So over any number of turns, with any bench, a confirmed statement begins on
the same row of all later programs.  This is also its row in the first program of its own turn;
only repairs that stand before the new statement move it down, in the rest of that turn. -/
theorem compose_linewise
    (bench : Bench State)
    (settings : RepairSettings)
    (session : Session)
    (inputs : List Text)
    (state : State) :
    (∀ placement candidate, ∃ kept,
      session.compose placement candidate [] = kept ++ "\x7d".toList ∧
      ∀ lines laterPlacement laterCandidate fixes,
        kept <+: (session.commit candidate lines).compose laterPlacement laterCandidate fixes) ∧
    (∀ candidate fixes,
      let above := Text.pieces (session.preamble ++ "\nfunc main() \x7b".toList) ++
        session.statements.flatMap statementLines
      (session.compose .before candidate fixes).pieces =
        above ++ (fixes.flatMap statementLines ++
          (statementLines candidate ++ ["\x7d".toList])) ∧
      (session.compose .after candidate fixes).pieces =
        above ++ (statementLines candidate ++
          (fixes.flatMap statementLines ++ ["\x7d".toList]))) ∧
    (∀ statement,
      statementLines statement =
        if Text.endsIn '\n' statement then Text.pieces statement.dropLast
        else statement.pieces) ∧
    statementLines [] = [[]] ∧
    ∀ earlier event later,
      session.history bench settings inputs state = earlier ++ event :: later →
      KeepsPlaces settings session earlier event := by
  refine ⟨?_, ?_, statementLines_eq, rfl, fun _ _ _ => keepsPlaces_of_history_eq⟩
  · intro placement candidate
    refine ⟨(session.commit candidate 0).confirmed,
      compose_eq_confirmed_commit session placement candidate 0, ?_⟩
    intro lines laterPlacement laterCandidate fixes
    exact confirmed_prefix_compose (session.commit candidate lines) _ _ _
  · intro candidate fixes above
    have confirmed : session.confirmedLines = above := confirmedLines_eq session
    constructor
    · rw [pieces_compose_repairs, linesAbove, confirmed]
      rfl
    · rw [pieces_compose_repairs, linesAbove, confirmed, List.append_assoc]
      rfl

/-- Four turns with repairs before the new statement.  The first confirms a statement of two
lines, the second fails, and the third discards a variable and confirms an empty statement. -/
def spaced : List Event :=
  (Session.fresh [] "main.go".toList "package main".toList).history (Scripted.bench Store.forgetful)
    ⟨16, .before⟩
    ["a := 1\nb := 2\n".toList, "fail()".toList, [], "c()".toList]
    ((),
      { formats := []
        runs := [.ok (.ofOutput [] true),
          .ok (.ofOutput "exit status 1\n".toList false),
          .ok (.ofOutput "./main.go:4:1: declared and not used: b\n".toList false)] })

/-- The discard in the third turn leaves no trace in the program of the fourth. -/
theorem compose_linewise_spaced :
    let program : Text :=
      "package main\nfunc main() \x7b\na := 1\nb := 2\n\nc()\n\x7d".toList
    ∃ earlier event,
      spaced = earlier ++ [event] ∧
      event.before.statements = ["a := 1\nb := 2\n".toList, []] ∧
      event.programs = [program] ∧
      BeginsAt "a := 1\nb := 2\n".toList 2 program ∧
      BeginsAt [] 4 program ∧
      BeginsAt "c()".toList 5 program := by
  intro program
  let event := spaced.getLast (List.cons_ne_nil _ _)
  have split : spaced = spaced.take 3 ++ [event] := rfl
  have places := (compose_linewise _ _ _ _ _).2.2.2.2 _ _ [] split
  have confirmed : event.before.statements = ["a := 1\nb := 2\n".toList, []] := by
    decide
  have composed : event.programs = [program] := by decide
  have reached : event.before ∈
      Session.fresh [] "main.go".toList "package main".toList ::
        (spaced.take 3).map Event.after := by
    decide
  have present : program ∈ event.programs := composed ▸ List.mem_cons_self
  refine ⟨_, event, split, confirmed, composed, ?_, ?_, ?_⟩
  · exact places.confirmed _ reached [] _ [[]] confirmed program present
  · exact places.confirmed _ reached ["a := 1\nb := 2\n".toList] _ [] confirmed program present
  · obtain ⟨first, head, begins⟩ := places.candidate
    rw [composed] at head
    cases head
    rw [confirmed] at begins
    exact begins

end Session
end Turnwise
