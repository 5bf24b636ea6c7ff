import Turnwise.Proofs.Miniature.Discarding
import Turnwise.Proofs.Miniature.Sessions
import Turnwise.Proofs.Turn.Accounts

/-!
# How turns with the miniature toolchain repair programs

The first program of a turn is composed without discards.  When it fails to compile, the
turn discards what is reported and tries again.  The program with discards reports nothing
new, so a turn goes on once at most.  When it succeeds, all variables that nothing uses in its
first program have been discarded, and no others.
-/

namespace Turnwise
namespace Miniature

open Turnwise.Composition (discard)
open Session (resumed)
open Store (keeps_oneFile oneFile)
open Turn (Attempt Ends Event Finishes Made Progress Reaches exists_courseOf judge
  judge_eq_again_iff judge_eq_committed_iff)

/-! ## Attempts -/

section Attempts

variable {State : Type}
variable {store : Store State}
variable {settings : RepairSettings}
variable {session after : Session}
variable {input source : Text}
variable {start final state : State}
variable {made : Attempt}
variable {attempts : List Attempt}
variable {progress next : Progress}
variable {run : Run}
variable {report : Turn.Report}

/-- The run of an attempt is a simulation of its source. -/
theorem eq_simulate_of_made
    (keeps : store.Keeps session.file)
    (was : Made (bench store) session start made final)
    (answered : made.result = .ok run) :
    run = simulate made.source (marker session.file) := by
  have ran := (made.result_eq_ok_iff run).mp answered
  cases was with
  | ran organized written answered =>
      cases ran
      exact run_eq_simulate keeps (.ran organized written answered)
  | _ => cases ran

/-- Only a program in which something is wrong fails to compile. -/
theorem wrong_of_classify_eq_compileFailure
    {marker : Text}
    (failed : (simulate source marker).classify = .compileFailure) :
    (compile source).allComplaints ≠ [] := by
  intro sound
  rw [classify_simulate_of_sound marker sound] at failed
  split at failed <;> cases failed

/-- All runs of a turn are simulations. -/
theorem simulated_of_courseOf
    (keeps : store.Keeps session.file)
    (course : Turn.CourseOf (bench store) settings session input state attempts) :
    ∀ made ∈ attempts, ∀ run, made.result = .ok run →
      run = simulate made.source (marker session.file) := by
  intro made present run answered
  obtain ⟨start, final, was⟩ := course.exists_made present
  exact eq_simulate_of_made keeps was answered

variable (plain : ∀ c ∈ (Path.fileName? session.file).getD [], Diagnostic.isNameChar c = true)

include plain

/-- A turn goes on after its first attempt when unused variables are reported, and discards
them. -/
theorem discarded_of_judge_initial
    (judged : judge session input .initial (simulate source (marker session.file)) =
      .again next) :
    next.discarded = (compile source).reported ∧ next.attempt = 2 ∧
      (compile source).reported ≠ [] := by
  obtain ⟨failed, ⟨identifier, found, _⟩, rfl⟩ := (judge_eq_again_iff _ _ _ _ _).mp judged
  have targets := targets_output_simulate plain (wrong_of_classify_eq_compileFailure failed)
  split at targets
  · rw [targets] at found
    cases found
  · rw [targets] at found ⊢
    refine ⟨?_, rfl, List.ne_nil_of_mem found⟩
    exact Turn.absorb_of_nodup [] _ (wellFormed_compile source).nodup_reported

/-- With discards of what the first program reports, nothing new is reported. -/
theorem judge_ne_again
    (discarded : progress.discarded =
      (compile (session.compose settings.placement input [])).reported) :
    judge session input progress
      (simulate (Turn.source settings.placement session input progress) (marker session.file)) ≠
        .again next := by
  intro judged
  obtain ⟨failed, ⟨identifier, found, new⟩, _⟩ := (judge_eq_again_iff _ _ _ _ _).mp judged
  rw [targets_output_simulate plain (wrong_of_classify_eq_compileFailure failed)] at found
  apply new
  rw [discarded]
  split at found
  · cases found
  · rw [Turn.source, Progress.fixes, discarded] at found
    exact reported_compile_compose_subset session settings.placement input
      (fun _ => (wellFormed_compile _).isName_of_mem_reported) found

/-- A turn succeeds only with a program that leaves no variable unused. -/
theorem unused_eq_nil_of_judge
    (judged : judge session input progress (simulate source (marker session.file)) =
      .committed report after) :
    (compile source).unused = [] := by
  obtain ⟨succeeded, _, _⟩ := (judge_eq_committed_iff _ _ _ _ _ _).mp judged
  have sound : (compile source).allComplaints = [] := by
    by_contra wrong
    rw [classify_simulate_of_wrong plain wrong] at succeeded
    cases succeeded
  exact ((Program.allComplaints_eq_nil_iff _).mp sound).2

omit plain

/-! ## The attempts before the last -/

/-- What the attempts of a turn before the last one come to: there are none, or one that
reports unused variables. -/
inductive Earlier (settings : RepairSettings) (session : Session) (input : Text) :
    List Attempt → Progress → Prop
  /-- The first attempt is the last. -/
  | none : Earlier settings session input [] .initial
  /-- The first attempt makes the turn go on. -/
  | one
      {made : Attempt} {progress : Progress}
      (sourced : made.source = session.compose settings.placement input [])
      (judged : judge session input .initial
        (simulate (session.compose settings.placement input []) (marker session.file)) =
          .again progress) :
      Earlier settings session input [made] progress

theorem Earlier.length_le
    (earlier : Earlier settings session input attempts progress) :
    attempts.length ≤ 1 := by
  cases earlier with
  | none => exact Nat.zero_le 1
  | one sourced judged => exact Nat.le_refl 1

/-- A turn goes on once at most. -/
theorem earlier_of_reaches
    (plain : ∀ c ∈ (Path.fileName? session.file).getD [], Diagnostic.isNameChar c = true)
    (simulated : ∀ made ∈ attempts, ∀ run, made.result = .ok run →
      run = simulate made.source (marker session.file))
    (reached : Reaches settings session input attempts progress) :
    Earlier settings session input attempts progress := by
  induction reached with
  | initial => exact .none
  | @again attempts made run progress next reached sourced result judged inductionHypothesis =>
      have ran := simulated made (List.mem_append_right attempts List.mem_cons_self) run result
      rw [ran, sourced] at judged
      cases inductionHypothesis fun other present =>
        simulated other (List.mem_append_left [made] present) with
      | none => exact .one sourced judged
      | one firstSourced firstJudged =>
          have discarded := (discarded_of_judge_initial plain firstJudged).1
          exact absurd judged (judge_ne_again plain discarded)

/-- A turn that succeeds with its first attempt discards nothing, and one that succeeds with
its second attempt discards all that nothing uses in its first program. -/
theorem Earlier.discarded_of_committed
    (plain : ∀ c ∈ (Path.fileName? session.file).getD [], Diagnostic.isNameChar c = true)
    (earlier : Earlier settings session input attempts progress)
    (judged : judge session input progress
      (simulate (Turn.source settings.placement session input progress) (marker session.file)) =
        .committed report after) :
    report.discarded =
        (compile (session.compose settings.placement input [])).unused.map Binding.name ∧
      report.attempts =
        if (compile (session.compose settings.placement input [])).unused = [] then 1 else 2 := by
  have clean := unused_eq_nil_of_judge plain judged
  obtain ⟨_, rfl, _⟩ := (judge_eq_committed_iff _ _ _ _ _ _).mp judged
  cases earlier with
  | none =>
      have unused : (compile (session.compose settings.placement input [])).unused = [] := clean
      rw [unused]
      exact ⟨rfl, rfl⟩
  | one sourced again =>
      obtain ⟨discarded, attempt, reported⟩ := discarded_of_judge_initial plain again
      have wellFormed := wellFormed_compile (session.compose settings.placement input [])
      rw [Turn.source, Progress.fixes, discarded] at clean
      have every := wellFormed.reported_eq fun binding present =>
        mem_of_unused_compile_compose_eq_nil
          (fun _ => wellFormed.isName_of_mem_reported) clean present
      rw [every] at discarded reported
      refine ⟨discarded, attempt.trans (if_neg ?_).symm⟩
      exact fun unused => reported (List.map_eq_nil_iff.mpr unused)

/-- A turn succeeds as the simulation of its last program is judged. -/
theorem judge_of_ends_ok
    (simulated : ∀ run, made.result = .ok run →
      run = simulate made.source (marker session.file))
    (ends : Ends session input progress made (.ok report) after) :
    judge session input progress (simulate made.source (marker session.file)) =
      .committed report after := by
  cases ends with
  | committed answered judged => rwa [simulated _ answered] at judged

/-! ## Turns -/

/-- The repairs of a turn whose first program is given: all unused variables, if any, are
discarded in one more attempt. -/
structure Repairs (settings : RepairSettings) (program : Program) (event : Event) : Prop where
  /-- At most two source texts are given to the formatter. -/
  attempted : (event.requests.filterMap Bench.Call.source?).length ≤ 2
  /-- The passes are used up only if there is but one. -/
  exhausted : ∀ passes output diagnostics,
    event.result = .error (.exhausted passes output diagnostics) → settings.maxPasses ≤ 1
  /-- A turn that succeeds has discarded just the variables that nothing uses in the first
  program, in the order of their declarations. -/
  discarded : ∀ report, event.result = .ok report →
    report.discarded = program.unused.map Binding.name
  /-- It took one attempt if there were none, and two otherwise. -/
  counted : ∀ report, event.result = .ok report →
    report.attempts = if program.unused = [] then 1 else 2

/-- One turn repairs its first program in at most one more attempt. -/
theorem repairs_ofTurn
    (keeps : store.Keeps session.file)
    (plain : ∀ c ∈ (Path.fileName? session.file).getD [], Diagnostic.isNameChar c = true)
    (input : Text)
    (state : State) :
    Repairs settings (compile (session.compose settings.placement input []))
      (.ofTurn (bench store) settings session input state) := by
  obtain ⟨attempts, course, requested⟩ :=
    exists_courseOf (bench store) settings session input state
  have simulated := simulated_of_courseOf keeps course
  have sources : (Event.ofTurn (bench store) settings session input state).requests.filterMap
      Bench.Call.source? = attempts.map Attempt.source := by
    rw [Event.ofTurn, requested, Attempt.filterMap_source_flatMap_calls]
  have finishes : Finishes settings session input attempts
      (Event.ofTurn (bench store) settings session input state).result
      (Event.ofTurn (bench store) settings session input state).after :=
    course.finishes
  generalize Event.ofTurn (bench store) settings session input state = event at *
  obtain ⟨_, _, _, result, after⟩ := event
  cases finishes with
  | @ended attempts made progress _ _ reached sourced ends =>
      have earlier := earlier_of_reaches plain
        (fun other present => simulated other (List.mem_append_left [made] present)) reached
      have last := simulated made (List.mem_append_right attempts List.mem_cons_self)
      constructor
      · rw [sources, List.length_map, List.length_append, List.length_singleton]
        exact Nat.succ_le_succ earlier.length_le
      · rintro passes output diagnostics rfl
        cases ends.not_exhausted
      · rintro report rfl
        have judged := judge_of_ends_ok last ends
        rw [sourced] at judged
        exact (earlier.discarded_of_committed plain judged).1
      · rintro report rfl
        have judged := judge_of_ends_ok last ends
        rw [sourced] at judged
        exact (earlier.discarded_of_committed plain judged).2
  | exhausted reached used =>
      have short := (earlier_of_reaches plain simulated reached).length_le
      constructor
      · rw [sources, List.length_map]
        omega
      · intro _ _ _ _
        omega
      · rintro report ⟨⟩
      · rintro report ⟨⟩

/-- The variables of a confirmed text remain when statements are confirmed after it. -/
theorem names_subset_commit
    (session : Session)
    (statement : Text)
    (lines : Nat) :
    (compile session.confirmed).bindings.map Binding.name ⊆
      (compile (session.commit statement lines).confirmed).bindings.map Binding.name := by
  rw [Session.confirmed_commit,
    compile_append session.closed_confirmed (exists_entryLine_confirmed session)]
  exact (Program.names_prefix_extendAll _ _ _).subset

/-- The variables of a confirmed text are those of every program after it. -/
theorem names_subset_compose
    (session : Session)
    (placement : Placement)
    (candidate : Text)
    (fixes : List Text) :
    (compile session.confirmed).bindings.map Binding.name ⊆
      (compile (session.compose placement candidate fixes)).bindings.map Binding.name := by
  rw [compile_compose]
  exact (Program.names_prefix_extendAll _ _ _).subset

/-- A session that goes on from another: it writes the same file, and all variables of the
other are declared. -/
structure GoesOn (start session : Session) : Prop where
  /-- The program is written where it was written. -/
  file : session.file = start.file
  /-- No variable is forgotten. -/
  names : (compile start.confirmed).bindings.map Binding.name ⊆
    (compile session.confirmed).bindings.map Binding.name

/-- A turn lets a session go on. -/
theorem GoesOn.turn
    {start : Session}
    (goesOn : GoesOn start session)
    (input : Text)
    (state : State) :
    GoesOn start (session.turn (bench store) settings input state).session := by
  cases result : (Event.ofTurn (bench store) settings session input state).result with
  | error error =>
      have unchanged : (session.turn (bench store) settings input state).session = session :=
        Event.after_eq_of_error result
      rw [unchanged]
      exact goesOn
  | ok report =>
      obtain ⟨run, _, _, _, after⟩ := Event.committed_of_ok result
      have moved : (session.turn (bench store) settings input state).session =
        session.commit input run.output.newlineCount := after
      rw [moved]
      exact ⟨goesOn.file, List.Subset.trans goesOn.names (names_subset_commit session input _)⟩

/-- Take any sequence of turns of a session, with any statements confirmed before, where the
program file keeps what is written to it and has no blanks and no colon in its name.  Every
turn makes at most two attempts, in either placement and with any number of passes.  When it
succeeds, it has discarded just the variables that nothing uses in the program without
discards, in the order of their declarations, in one attempt more if there are any.  So a
variable of the statements confirmed before is discarded by every successful turn whose
program does not use it. -/
theorem history_repairs
    (store : Store State)
    (settings : RepairSettings)
    (start : Session)
    (inputs : List Text)
    (state : State)
    (keeps : store.Keeps start.file)
    (plain : ∀ c ∈ (Path.fileName? start.file).getD [], Diagnostic.isNameChar c = true) :
    ∀ event ∈ start.history (bench store) settings inputs state,
      let program := compile (event.before.compose settings.placement event.input [])
      Repairs settings program event ∧
      ∀ report, event.result = .ok report →
        ∀ binding ∈ (compile start.confirmed).bindings,
          (∀ other ∈ program.bindings, other.name = binding.name → other.used = false) →
          binding.name ∈ report.discarded := by
  intro event present program
  obtain ⟨earlier, later, split⟩ := List.append_of_mem present
  have goesOn : GoesOn start event.before :=
    @Session.history_invariant_before _ _ _ _ _ _ (fun _ session => GoesOn start session)
      (fun _ _ input state goesOn => goesOn.turn input state)
      ⟨rfl, List.Subset.refl _⟩ _ _ _ split
  obtain ⟨_, _, _, turned⟩ := Session.eq_ofTurn_of_history_eq split
  have repairs : Repairs settings program event := by
    rw [turned]
    refine repairs_ofTurn ?_ ?_ _ _
    · rw [goesOn.file]
      exact keeps
    · rw [goesOn.file]
      exact plain
  refine ⟨repairs, ?_⟩
  intro report succeeded binding declared unused
  obtain ⟨other, remaining, same⟩ := List.mem_map.mp
    (names_subset_compose event.before settings.placement event.input []
      (goesOn.names (List.mem_map_of_mem declared)))
  rw [repairs.discarded report succeeded, ← same]
  apply List.mem_map_of_mem
  refine List.mem_filter.mpr ⟨remaining, ?_⟩
  rw [unused other remaining same]
  rfl

end Attempts

theorem isNameChar_of_mem_resumed :
    ∀ c ∈ (Path.fileName? resumed.file).getD [], Diagnostic.isNameChar c = true :=
  List.all_eq_true.mp (by decide)

theorem history_repairs_resumed :
    oneFile.Keeps resumed.file ∧
    (∀ c ∈ (Path.fileName? resumed.file).getD [], Diagnostic.isNameChar c = true) ∧
    ∃ event report,
      resumed.history (bench oneFile) ⟨16, .after⟩ ["println(7)".toList] [] = [event] ∧
      event.result = .ok report ∧
      report.discarded = ["x".toList] ∧
      report.attempts = 2 := by
  have facts := history_repairs oneFile ⟨16, .after⟩ resumed ["println(7)".toList] []
    (keeps_oneFile _) isNameChar_of_mem_resumed
  have repairs := (facts _ List.mem_cons_self).1
  have unused : (compile (resumed.compose .after "println(7)".toList [])).unused.map
      Binding.name = ["x".toList] := by
    decide
  have succeeds : (Event.ofTurn (bench oneFile) ⟨16, .after⟩ resumed "println(7)".toList
      []).result.toOption.isSome = true := by
    decide +kernel
  cases result : (Event.ofTurn (bench oneFile) ⟨16, .after⟩ resumed "println(7)".toList
      []).result with
  | error error =>
      rw [result] at succeeds
      cases succeeds
  | ok report =>
      refine ⟨keeps_oneFile _, isNameChar_of_mem_resumed, _, report, rfl, result, ?_, ?_⟩
      · exact (repairs.discarded report result).trans unused
      · exact (repairs.counted report result).trans
          (if_neg fun none => by cases (congrArg (List.map Binding.name) none).symm.trans unused)

end Miniature
end Turnwise
