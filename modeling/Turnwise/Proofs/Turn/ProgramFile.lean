import Mathlib.Data.List.Induction
import Turnwise.Toolchain.Scripted
import Turnwise.Proofs.Turn.History

/-!
# The program file during a turn

An attempt writes to the program file what the formatter answered, and runs the file only
after that.  The formatter or the store may fail in any attempt, and then the file still
holds the program of an earlier attempt or turn.  An observing bench notes at every request
what the file holds: no run is ever of such an old program.
-/

namespace Turnwise

namespace Bench

/-- A request, and what the program file held when it was made. -/
structure Sighting where
  /-- The request, with its answer. -/
  call : Call
  /-- The content of the program file before the request. -/
  held : Except SystemError Bytes

/-- The same services, with a record of all requests and of what the program file held, in
order; `look` tells what the file holds. -/
def observing
    (look : State → Except SystemError Bytes)
    (bench : Bench State) : Bench (State × List Sighting) where
  organize source directory state :=
    let (answer, next) := bench.organize source directory state.1
    (answer, next, state.2 ++ [⟨.organize source directory answer, look state.1⟩])
  write file content state :=
    let (answer, next) := bench.write file content state.1
    (answer, next, state.2 ++ [⟨.write file content answer, look state.1⟩])
  run file directory state :=
    let (answer, next) := bench.run file directory state.1
    (answer, next, state.2 ++ [⟨.run file directory answer, look state.1⟩])

/-- A bench that writes the program file to a store, and changes it in no other way: the
store keeps what is written and is left as it was when it refuses, and the tools do not touch
the file. -/
structure KeepsProgram
    (bench : Bench State)
    (store : Store State)
    (file directory : Path) : Prop where
  /-- The program is written to the store, as text. -/
  writes : ∀ content state, bench.write file content state = store.writeText file content state
  /-- The store holds what was written. -/
  keeps : store.Keeps file
  /-- The store holds what it held when it refuses to write. -/
  refuses : ∀ content state cause next,
    store.write file content state = (.error cause, next) →
    store.read file next = store.read file state
  /-- The formatter leaves the file alone. -/
  organize : ∀ source state,
    store.read file (bench.organize source directory state).2 = store.read file state
  /-- The runner leaves the file alone. -/
  run : ∀ state,
    store.read file (bench.run file directory state).2 = store.read file state

section KeepsProgram

variable {State : Type}
variable {bench : Bench State}
variable {store : Store State}
variable {file directory : Path}
variable {state next : State}

theorem KeepsProgram.read_of_organize
    (keeps : bench.KeepsProgram store file directory)
    {source : Text}
    {answer : Except ToolError Text}
    (organized : bench.organize source directory state = (answer, next)) :
    store.read file next = store.read file state := by
  rw [← keeps.organize source state, organized]

theorem KeepsProgram.read_of_write
    (keeps : bench.KeepsProgram store file directory)
    {content : Text}
    (written : bench.write file content state = (.ok (), next)) :
    store.read file next = .ok (Utf8.encode content) := by
  rw [keeps.writes] at written
  exact keeps.keeps _ _ _ written

theorem KeepsProgram.read_of_refused
    (keeps : bench.KeepsProgram store file directory)
    {content : Text}
    {cause : SystemError}
    (refused : bench.write file content state = (.error cause, next)) :
    store.read file next = store.read file state := by
  rw [keeps.writes] at refused
  exact keeps.refuses _ _ _ _ refused

theorem KeepsProgram.read_of_run
    (keeps : bench.KeepsProgram store file directory)
    {answer : Except ToolError Run}
    (answered : bench.run file directory state = (answer, next)) :
    store.read file next = store.read file state := by
  rw [← keeps.run state, answered]

end KeepsProgram

end Bench

namespace Turn

open Bench (Sighting)

namespace Attempt

/-- The formatted text that an attempt wrote to the program file, if it could be written. -/
def written? : Attempt → Option Text
  | .unstarted _ formatted _ => some formatted
  | .ran _ formatted _ => some formatted
  | _ => none

/-- An attempt that could not write the program file runs nothing. -/
theorem run_not_mem_calls
    {made : Attempt}
    (unwritten : made.written? = none)
    (session : Session)
    (file directory : Path)
    (answer : Except ToolError Run) :
    .run file directory answer ∉ made.calls session := by
  cases made with
  | unformatted source failure => simp [calls]
  | unwritten source formatted cause => simp [calls]
  | unstarted source formatted failure => cases unwritten
  | ran source formatted run => cases unwritten

/-- What the program file holds after an attempt. -/
def leaves (held : Except SystemError Bytes) (made : Attempt) : Except SystemError Bytes :=
  match made.written? with
  | some formatted => .ok (Utf8.encode formatted)
  | none => held

/-- The requests of an attempt and what the program file holds at each of them. -/
def sightings (session : Session) (held : Except SystemError Bytes) : Attempt → List Sighting
  | .unformatted source failure =>
      [⟨.organize source session.directory (.error failure), held⟩]
  | .unwritten source formatted cause =>
      [⟨.organize source session.directory (.ok formatted), held⟩,
        ⟨.write session.file formatted (.error cause), held⟩]
  | .unstarted source formatted failure =>
      [⟨.organize source session.directory (.ok formatted), held⟩,
        ⟨.write session.file formatted (.ok ()), held⟩,
        ⟨.run session.file session.directory (.error failure), .ok (Utf8.encode formatted)⟩]
  | .ran source formatted run =>
      [⟨.organize source session.directory (.ok formatted), held⟩,
        ⟨.write session.file formatted (.ok ()), held⟩,
        ⟨.run session.file session.directory (.ok run), .ok (Utf8.encode formatted)⟩]

/-- The requests of several attempts and what the program file holds at each of them. -/
def sightingsAll
    (session : Session)
    (held : Except SystemError Bytes) : List Attempt → List Sighting
  | [] => []
  | made :: rest => made.sightings session held ++ sightingsAll session (made.leaves held) rest

theorem map_call_sightings
    (made : Attempt)
    (session : Session)
    (held : Except SystemError Bytes) :
    (made.sightings session held).map Sighting.call = made.calls session := by
  cases made <;> rfl

theorem map_call_sightingsAll
    (attempts : List Attempt)
    (session : Session)
    (held : Except SystemError Bytes) :
    (sightingsAll session held attempts).map Sighting.call =
      attempts.flatMap (calls session) := by
  induction attempts generalizing held with
  | nil => rfl
  | cons made rest inductionHypothesis =>
      rw [sightingsAll, List.map_append, map_call_sightings, inductionHypothesis,
        List.flatMap_cons]

/-- After several attempts the program file holds what the last of them that could write it
has written. -/
theorem foldl_leaves
    (attempts : List Attempt)
    (held : Except SystemError Bytes) :
    attempts.foldl leaves held =
      match (attempts.filterMap written?).getLast? with
      | some formatted => .ok (Utf8.encode formatted)
      | none => held := by
  induction attempts using List.reverseRecOn with
  | nil => rfl
  | append_singleton earlier made inductionHypothesis =>
      rw [List.foldl_append, List.foldl_cons, List.foldl_nil, leaves, List.filterMap_append]
      cases written : made.written? with
      | none => simpa [written] using inductionHypothesis
      | some formatted => simp [written]

end Attempt

/-! ## Observed turns -/

section Observed

variable {State : Type}
variable {bench : Bench State}
variable {store : Store State}
variable {settings : RepairSettings}
variable {session : Session}
variable {input : Text}
variable {remaining : Nat}
variable {progress : Progress}
variable {start final : State}
variable {made : Attempt}
variable {attempts : List Attempt}
variable {outcome : Outcome State}

/-- The program file holds after an attempt what the attempt has written, if anything. -/
theorem Made.leaves
    (keeps : bench.KeepsProgram store session.file session.directory)
    (was : Made bench session start made final) :
    store.read session.file final = made.leaves (store.read session.file start) := by
  cases was with
  | unformatted organized => exact keeps.read_of_organize organized
  | unwritten organized refused =>
      exact (keeps.read_of_refused refused).trans (keeps.read_of_organize organized)
  | unstarted organized written answered =>
      exact (keeps.read_of_run answered).trans (keeps.read_of_write written)
  | ran organized written answered =>
      exact (keeps.read_of_run answered).trans (keeps.read_of_write written)

/-- An observing bench makes the same attempt, and what it runs is what was written. -/
theorem Made.observing
    (keeps : bench.KeepsProgram store session.file session.directory)
    (was : Made bench session start made final)
    (log : List Sighting) :
    attempt (bench.observing (store.read session.file)) session made.source (start, log) =
      (made.result, final,
        log ++ made.sightings session (store.read session.file start)) := by
  cases was with
  | unformatted organized =>
      simp [attempt, Attempt.source, Attempt.result, Attempt.sightings, Bench.observing,
        organized]
  | unwritten organized refused =>
      simp [attempt, Attempt.source, Attempt.result, Attempt.sightings, Bench.observing,
        organized, refused, keeps.read_of_organize organized]
  | unstarted organized written answered =>
      simp [attempt, Attempt.source, Attempt.result, Attempt.sightings, Bench.observing,
        organized, written, answered, keeps.read_of_organize organized,
        keeps.read_of_write written]
  | ran organized written answered =>
      simp [attempt, Attempt.source, Attempt.result, Attempt.sightings, Bench.observing,
        organized, written, answered, keeps.read_of_organize organized,
        keeps.read_of_write written]

/-- The program file holds at the end of a course what the last attempt that could write it
has written. -/
theorem Course.leaves
    (keeps : bench.KeepsProgram store session.file session.directory)
    (course : Course bench settings session input remaining progress start attempts outcome) :
    store.read session.file outcome.state =
      attempts.foldl Attempt.leaves (store.read session.file start) := by
  induction course with
  | exhausted => rfl
  | ended sourced was ends => exact was.leaves keeps
  | again sourced was result judged rest inductionHypothesis =>
      rw [inductionHypothesis, was.leaves keeps, List.foldl_cons]

/-- An observing bench follows the same course. -/
theorem Course.observing
    (keeps : bench.KeepsProgram store session.file session.directory)
    (course : Course bench settings session input remaining progress start attempts outcome)
    (log : List Sighting) :
    passes (bench.observing (store.read session.file)) settings session input remaining
        progress (start, log) =
      ⟨outcome.result, outcome.session,
        (outcome.state,
          log ++ Attempt.sightingsAll session (store.read session.file start) attempts)⟩ := by
  induction course generalizing log with
  | exhausted => simp [passes, Attempt.sightingsAll]
  | ended sourced was ends =>
      have observed := was.observing keeps log
      rw [sourced] at observed
      rw [passes_of_ends observed ends, Attempt.sightingsAll, Attempt.sightingsAll,
        List.append_nil]
  | again sourced was result judged rest inductionHypothesis =>
      have observed := was.observing keeps log
      rw [sourced] at observed
      rw [passes_of_again observed result judged, inductionHypothesis, was.leaves keeps,
        List.append_assoc, Attempt.sightingsAll]

end Observed

/-! ## Runs of what was formatted -/

/-- Every run is of the program file of the session, right after the formatter answered with
a text and this text was written to the file, and while the file holds its encoding. -/
def RunsFormatted (session : Session) (sightings : List Sighting) : Prop :=
  ∀ earlier sighting later file directory answer,
    sightings = earlier ++ sighting :: later →
    sighting.call = .run file directory answer →
    ∃ before source formatted first second,
      earlier = before ++
        [⟨.organize source session.directory (.ok formatted), first⟩,
          ⟨.write session.file formatted (.ok ()), second⟩] ∧
      file = session.file ∧
      directory = session.directory ∧
      sighting.held = .ok (Utf8.encode formatted)

theorem RunsFormatted.append
    {session : Session}
    {first second : List Sighting}
    (firstFormatted : RunsFormatted session first)
    (secondFormatted : RunsFormatted session second) :
    RunsFormatted session (first ++ second) := by
  intro earlier sighting later file directory answer split ran
  rcases List.append_eq_append_iff.mp split with ⟨between, rfl, rest⟩ | ⟨between, whole, rest⟩
  · obtain ⟨before, source, formatted, one, two, rfl, held⟩ :=
      secondFormatted between sighting later file directory answer rest ran
    exact ⟨first ++ before, source, formatted, one, two, (List.append_assoc _ _ _).symm, held⟩
  · cases between with
    | nil =>
        -- the run would be the first request of the second list
        obtain ⟨before, _, _, _, _, none, _⟩ :=
          secondFormatted [] sighting later file directory answer rest.symm ran
        cases before <;> cases none
    | cons head between =>
        obtain ⟨rfl, rfl⟩ := List.cons.inj rest
        exact firstFormatted earlier _ between file directory answer whole ran

theorem runsFormatted_of_no_run
    {session : Session}
    {sightings : List Sighting}
    (none : ∀ file directory answer,
      .run file directory answer ∉ sightings.map Sighting.call) :
    RunsFormatted session sightings := by
  rintro earlier sighting later file directory answer rfl ran
  apply absurd _ (none file directory answer)
  rw [← ran]
  exact List.mem_map_of_mem (List.mem_append_right earlier List.mem_cons_self)

theorem runsFormatted_of_run
    (session : Session)
    (source formatted : Text)
    (answer : Except ToolError Run)
    (held : Except SystemError Bytes) :
    RunsFormatted session
      [⟨.organize source session.directory (.ok formatted), held⟩,
        ⟨.write session.file formatted (.ok ()), held⟩,
        ⟨.run session.file session.directory answer, .ok (Utf8.encode formatted)⟩] := by
  intro earlier sighting later file directory other split ran
  rcases earlier with _ | ⟨first, _ | ⟨second, _ | ⟨third, more⟩⟩⟩
  · cases split
    cases ran
  · cases split
    cases ran
  · cases split
    cases ran
    exact ⟨[], source, formatted, held, held, rfl, rfl, rfl, rfl⟩
  · simp at split

theorem runsFormatted_sightings
    (session : Session)
    (held : Except SystemError Bytes)
    (made : Attempt) :
    RunsFormatted session (made.sightings session held) := by
  have idle (unwritten : made.written? = none) :
      RunsFormatted session (made.sightings session held) := by
    apply runsFormatted_of_no_run
    rw [Attempt.map_call_sightings]
    exact Attempt.run_not_mem_calls unwritten session
  cases made with
  | unformatted source failure => exact idle rfl
  | unwritten source formatted cause => exact idle rfl
  | unstarted source formatted failure => exact runsFormatted_of_run _ _ _ _ _
  | ran source formatted run => exact runsFormatted_of_run _ _ _ _ _

theorem runsFormatted_sightingsAll
    (session : Session)
    (held : Except SystemError Bytes)
    (attempts : List Attempt) :
    RunsFormatted session (Attempt.sightingsAll session held attempts) := by
  induction attempts generalizing held with
  | nil =>
      intro earlier sighting later _ _ _ split
      cases earlier <;> cases split
  | cons made rest inductionHypothesis =>
      exact (runsFormatted_sightings session held made).append (inductionHypothesis _)

/-- Make a turn with a bench that keeps the program file, and note at every request what the
file holds.  The turn is the one that is made without an observer.  Every run comes right
after the formatter answered with a text and this text could be written to the program file,
and the file holds the encoding of this text when it is run.  An attempt in which the
formatter failed or the file could not be written runs nothing.  After the turn the file
holds the formatted text of the last attempt that could write it, and if there is none, what
it held before the turn. -/
theorem turn_observing
    (bench : Bench State)
    (store : Store State)
    (settings : RepairSettings)
    (session : Session)
    (input : Text)
    (state : State)
    (keeps : bench.KeepsProgram store session.file session.directory) :
    ∃ (attempts : List Attempt) (sightings : List Sighting),
      requests bench settings session input state =
        attempts.flatMap (Attempt.calls session) ∧
      session.turn (bench.observing (store.read session.file)) settings input (state, []) =
        ⟨(session.turn bench settings input state).result,
          (session.turn bench settings input state).session,
          (session.turn bench settings input state).state, sightings⟩ ∧
      sightings.map Sighting.call = requests bench settings session input state ∧
      RunsFormatted session sightings ∧
      (∀ made ∈ attempts, made.written? = none → ∀ file directory answer,
        .run file directory answer ∉ made.calls session) ∧
      store.read session.file (session.turn bench settings input state).state =
        match (attempts.filterMap Attempt.written?).getLast? with
        | some formatted => .ok (Utf8.encode formatted)
        | none => store.read session.file state := by
  obtain ⟨attempts, course, requested⟩ := exists_courseOf bench settings session input state
  refine ⟨attempts, Attempt.sightingsAll session (store.read session.file state) attempts,
    requested, Course.observing keeps course [], ?_, runsFormatted_sightingsAll _ _ _,
    fun _ _ unwritten => Attempt.run_not_mem_calls unwritten session, ?_⟩
  · rw [requested, Attempt.map_call_sightingsAll]
  · rw [← Attempt.foldl_leaves]
    exact Course.leaves keeps course

end Turn

namespace Scripted

/-- The same store beside the answers that are still to be given. -/
def storeBeside (store : Store State) : Store (State × Replies) where
  read file state := store.read file state.1
  write file content state :=
    let (answer, next) := store.write file content state.1
    (answer, next, state.2)

/-- A scripted toolchain keeps the program file when its store keeps what is written and is
left as it was when it refuses. -/
theorem keepsProgram_bench
    {store : Store State}
    {file : Path}
    (directory : Path)
    (keeps : store.Keeps file)
    (refuses : ∀ content state cause next,
      store.write file content state = (.error cause, next) →
      store.read file next = store.read file state) :
    (bench store).KeepsProgram (storeBeside store) file directory where
  writes _ _ := rfl
  keeps content state next written := by
    obtain ⟨answered, rfl⟩ := Prod.mk.inj written
    exact keeps content state.1 _ (Prod.ext answered rfl)
  refuses content state cause next refused := by
    obtain ⟨answered, rfl⟩ := Prod.mk.inj refused
    exact refuses content state.1 cause _ (Prod.ext answered rfl)
  organize source state := by
    simp only [bench, storeBeside]
  run state := by
    simp only [bench, storeBeside]

open Session (untitled)
open Store (keeps_oneFile oneFile)
open Turn (RunsFormatted requests turn_observing)

/-- The runner reports a variable that nothing uses, and then the formatter rejects the
program in which the variable is discarded. -/
def rejected : Bytes × Replies :=
  ([],
    { formats := [.ok none, .error (.rejected "expected operand".toList)]
      runs := [.ok (.ofOutput "./main.go:4:1: declared and not used: x\n".toList false)] })

/-- The second attempt fails before it writes, so the file keeps the program of the first. -/
theorem turn_observing_rejected :
    let outcome := untitled.turn (bench oneFile) ⟨16, .after⟩ "x := 5".toList rejected
    let first := untitled.compose .after "x := 5".toList []
    (bench oneFile).KeepsProgram (storeBeside oneFile) untitled.file untitled.directory ∧
    oneFile.read untitled.file rejected.1 = .ok [] ∧
    oneFile.read untitled.file outcome.state.1 = .ok (Utf8.encode first) ∧
    ∃ sightings,
      sightings.map Bench.Sighting.call =
        requests (bench oneFile) ⟨16, .after⟩ untitled "x := 5".toList rejected ∧
      sightings.length = 4 ∧
      RunsFormatted untitled sightings := by
  intro outcome first
  have keeps : (bench oneFile).KeepsProgram (storeBeside oneFile) untitled.file
      untitled.directory :=
    keepsProgram_bench _ (keeps_oneFile _) fun _ _ _ _ refused => nomatch refused
  obtain ⟨_, sightings, _, _, called, formatted, _⟩ :=
    turn_observing (bench oneFile) (storeBeside oneFile) ⟨16, .after⟩ untitled
      "x := 5".toList rejected keeps
  refine ⟨keeps, rfl, by decide, sightings, called, ?_, formatted⟩
  calc sightings.length
    _ = (sightings.map Bench.Sighting.call).length := List.length_map _ |>.symm
    _ = (requests (bench oneFile) ⟨16, .after⟩ untitled "x := 5".toList rejected).length :=
      congrArg List.length called
    _ = 4 := by decide

end Scripted
end Turnwise
