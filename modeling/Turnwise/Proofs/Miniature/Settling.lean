import Turnwise.Proofs.Miniature.Formatting
import Turnwise.Proofs.Miniature.Repairing

/-!
# How the second attempt settles a turn

When a program fails to compile, and the formatter accepts it with discards of its unused
variables, the program with these discards settles the turn.  After the new statement, the
discards use all variables, so the turn succeeds if nothing else was wrong and the program
ends.  Before the new statement, they use the variables of the confirmed text alone, so the
turn fails if the new statement declares others that nothing uses.
-/

namespace Turnwise

/-- The name of a file is not empty. -/
theorem Path.ne_nil_of_fileName?
    {file : Path}
    {name : Text}
    (named : fileName? file = some name) :
    name ≠ [] := by
  have last : (components file).getLast? = some (.entry name) := by
    unfold fileName? at named
    split at named
    · cases named
      assumption
    · cases named
  rcases List.mem_append.mp (List.mem_of_getLast? last) with beginning | segment
  · revert beginning
    cases start file <;> simp [Start.components]
  · obtain ⟨segment, present, equal⟩ := List.mem_map.mp segment
    have solid := (List.mem_filter.mp present).2
    rw [Component.ofSegment] at equal
    split at equal
    · cases equal
    · cases equal
      rintro rfl
      cases solid

namespace Miniature

open Turnwise.Composition (discard)
open Session (resumed)
open Store (accepts_oneFile keeps_oneFile oneFile)
open Turn (Attempt Ends Finishes Made Progress exists_courseOf judge judge_eq_committed_iff
  judge_eq_failed_iff)

/-! ## Programs with discards -/

section Programs

variable {session : Session}
variable {input : Text}
variable {names : List Text}

/-- When the lines of all variables are in range, all unused variables are reported. -/
theorem reported_of_inRange
    {program : Program}
    (inRange : ∀ binding ∈ program.bindings, binding.line < Diagnostic.positionBound) :
    program.reported = program.unused.map Binding.name := by
  apply congrArg (List.map Binding.name)
  rw [List.filter_eq_self]
  intro binding unused
  exact decide_eq_true (inRange binding (List.mem_of_mem_filter unused))

theorem reported_of_short
    {source : Text}
    (short : source.lines.length < Diagnostic.positionBound) :
    (compile source).reported = (compile source).unused.map Binding.name := by
  apply reported_of_inRange
  intro binding declared
  have bounded := (wellFormed_compile source).bounded binding declared
  omega

/-- A variable that nothing uses has a name. -/
theorem isName_of_mem_unused
    {source name : Text}
    (present : name ∈ (compile source).unused.map Binding.name) :
    IsName name := by
  obtain ⟨binding, unused, rfl⟩ := List.mem_map.mp present
  exact (wellFormed_compile source).named binding (List.mem_of_mem_filter unused)

/-- Discards do not change what a program does. -/
theorem effects_compile_compose
    (session : Session)
    (placement : Placement)
    (candidate : Text)
    (isName : ∀ name ∈ names, IsName name) :
    (compile (session.compose placement candidate (names.map discard))).effects =
      (compile (session.compose placement candidate [])).effects := by
  have discards := Composition.areDiscards_map_discard fun name present =>
    (isName name present).toDiscardable
  have none : Composition.AreDiscards [] := fun _ present => nomatch present
  have meaning := (meaning_compile_compose discards session placement candidate).trans
    (meaning_compile_compose none session placement candidate).symm
  exact congrArg Meaning.effects meaning

/-- Nothing is wrong with a program that discards its unused variables after the new statement,
if nothing else was wrong. -/
theorem allComplaints_compile_compose_after
    (listed : names = (compile (session.compose .after input [])).unused.map Binding.name)
    (sound : (compile (session.compose .after input [])).complaints = [])
    (braceless : ∀ name ∈ names, '\x7b' ∉ name) :
    (compile (session.compose .after input (names.map discard))).allComplaints = [] := by
  subst listed
  have isName : ∀ name ∈ (compile (session.compose .after input [])).unused.map Binding.name,
      IsName name :=
    fun _ => isName_of_mem_unused
  have declared : (compile (session.compose .after input [])).unused.map Binding.name ⊆
      (compile (session.compose .after input [])).bindings.map Binding.name :=
    List.map_subset _ (List.filter_subset_self _)
  rw [Program.allComplaints_eq_nil_iff]
  constructor
  · rw [complaints_compile_compose_after isName declared]
    exact sound
  · apply unused_compile_compose_after_eq_nil isName
    intro binding unused
    have present := List.mem_map_of_mem (f := Binding.name) unused
    exact ⟨present, braceless _ present⟩

/-- A program that discards its unused variables before the new statement reports those that
the new statement declares, if the numbers of their lines remain in range. -/
theorem reported_compile_compose_before
    (listed : names = (compile (session.compose .before input [])).unused.map Binding.name)
    (short : (session.compose .before input []).lines.length + names.length <
      Diagnostic.positionBound)
    (braceless : ∀ name ∈ names, '\x7b' ∉ name) :
    (compile (session.compose .before input (names.map discard))).reported =
      ((compile (session.compose .before input [])).unused.filter fun binding =>
        session.confirmed.lines.length < binding.line).map Binding.name := by
  have isName : ∀ name ∈ names, IsName name := by
    rw [listed]
    exact fun _ => isName_of_mem_unused
  rw [← names_unused_compile_compose_before isName]
  · apply reported_of_inRange
    intro binding present
    rw [bindings_compile_compose session .before input isName] at present
    obtain ⟨original, old, rfl⟩ := List.mem_map.mp present
    have moved := original.repaired_line_le names (repairLine session .before input)
    have bounded := (wellFormed_compile _).bounded original old
    omega
  · intro binding unused
    have present : binding.name ∈ names := by
      rw [listed]
      exact List.mem_map_of_mem unused
    exact ⟨present, braceless _ present⟩

end Programs

/-! ## Last attempts -/

section Attempts

variable {State : Type}
variable {store : Store State}
variable {settings : RepairSettings}
variable {session after : Session}
variable {input source : Text}
variable {names : List Text}
variable {start final state : State}
variable {made : Attempt}
variable {progress : Progress}
variable {run : Run}
variable {result : Except TurnError Turn.Report}

/-- A source that the formatter accepts is run. -/
theorem result_eq_simulate_of_made
    (keeps : store.Keeps session.file)
    (accepts : store.Accepts session.file)
    (was : Made (bench store) session start made final)
    (accepted : format made.source = .ok made.source) :
    made.result = .ok (simulate made.source (marker session.file)) := by
  cases was with
  | unformatted organized =>
      have rejected := congrArg Prod.fst organized
      cases accepted.symm.trans rejected
  | unwritten organized written =>
      have failed := congrArg Prod.fst written
      cases (accepts _ _).symm.trans failed
  | @unstarted _ formatted _ _ _ later _ organized written answered =>
      have content : store.read session.file later = .ok (Utf8.encode formatted) :=
        keeps _ _ _ written
      have failed := congrArg Prod.fst answered
      simp [bench, runFile, content, Utf8.strict_encode] at failed
      cases failed
  | ran organized written answered =>
      exact congrArg Except.ok (run_eq_simulate keeps (.ran organized written answered))

/-- An attempt that came to a run ends the turn as the run is judged. -/
theorem judged_of_ends
    (ends : Ends session input progress made result after)
    (answered : made.result = .ok run) :
    (∃ report, result = .ok report ∧
      judge session input progress run = .committed report after) ∨
    ∃ error, result = .error error ∧ after = session ∧
      judge session input progress run = .failed error := by
  cases ends with
  | broken broken => cases answered.symm.trans broken
  | @failed other error ran judged =>
      cases answered.symm.trans ran
      exact .inr ⟨error, rfl, rfl, judged⟩
  | @committed other report _ ran judged =>
      cases answered.symm.trans ran
      exact .inl ⟨report, rfl, judged⟩

/-- A program in which nothing is wrong and that ends lets the turn succeed. -/
theorem committed_of_ends
    (ends : Ends session input progress made result after)
    (answered : made.result = .ok (simulate source (marker session.file)))
    (sound : (compile source).allComplaints = [])
    (prints : (compile source).effects.all Effect.prints = true) :
    ∃ report lines,
      result = .ok report ∧
      report.attempts = progress.attempt ∧
      report.discarded = progress.discarded ∧
      after = session.commit input lines := by
  have classified := classify_simulate_of_sound (marker session.file) sound
  rw [prints, if_pos rfl] at classified
  rcases judged_of_ends ends answered with ⟨report, succeeded, judged⟩ | ⟨error, _, _, judged⟩
  · obtain ⟨_, rfl, committed⟩ := (judge_eq_committed_iff _ _ _ _ _ _).mp judged
    exact ⟨_, _, succeeded, rfl, rfl, committed⟩
  · simp [judge_eq_failed_iff, classified] at judged

/-- A program in which nothing is wrong and that panics lets the turn fail as the program
does. -/
theorem runtime_of_ends
    (ends : Ends session input progress made result after)
    (answered : made.result = .ok (simulate source (marker session.file)))
    (sound : (compile source).allComplaints = [])
    (panics : (compile source).effects.all Effect.prints = false) :
    ∃ output, result = .error (.runtime output) ∧ after = session := by
  have classified := classify_simulate_of_sound (marker session.file) sound
  rw [panics, if_neg Bool.false_ne_true] at classified
  rcases judged_of_ends ends answered with ⟨report, _, judged⟩ | ⟨error, failed, kept, judged⟩
  · simp [judge_eq_committed_iff, classified] at judged
  · simp only [judge_eq_failed_iff, classified, true_and, reduceCtorEq, false_and,
      or_false] at judged
    rw [judged] at failed
    exact ⟨_, failed, kept⟩

section File

variable {name : Text}
variable (named : Path.fileName? session.file = some name)
variable (plain : ∀ c ∈ name, Diagnostic.isNameChar c = true)

include named plain

theorem isNameChar_of_mem_fileName :
    ∀ c ∈ (Path.fileName? session.file).getD [], Diagnostic.isNameChar c = true := by
  rw [named]
  exact plain

/-- The report about a program asks for discards of what the program reports. -/
theorem targets_of_reported
    (reported : (compile source).reported = names)
    (nonempty : names ≠ []) :
    (simulate source (marker session.file)).classify = .compileFailure ∧
      Diagnostic.targets (Diagnostic.parseAll (simulate source (marker session.file)).output) =
        names := by
  have plainFile := isNameChar_of_mem_fileName named plain
  have hasName : (Path.fileName? session.file).getD [] ≠ [] := by
    rw [named]
    exact Path.ne_nil_of_fileName? named
  have wrong : (compile source).allComplaints ≠ [] := by
    intro sound
    apply nonempty
    rw [← reported, Program.reported, ((Program.allComplaints_eq_nil_iff _).mp sound).2]
    rfl
  refine ⟨classify_simulate_of_wrong plainFile wrong, ?_⟩
  rw [targets_output_simulate plainFile wrong, if_neg hasName, reported]

/-- A program that reports something and yet ends the turn reports only what is discarded
already. -/
theorem stalled_of_ends
    (ends : Ends session input progress made result after)
    (answered : made.result = .ok (simulate source (marker session.file)))
    (reported : (compile source).reported = names)
    (nonempty : names ≠ []) :
    (∃ output diagnostics, result = .error (.stalled names output diagnostics)) ∧
      after = session := by
  obtain ⟨classified, targets⟩ := targets_of_reported named plain reported nonempty
  have distinct : names.Nodup := by
    rw [← reported]
    exact (wellFormed_compile source).nodup_reported
  rcases judged_of_ends ends answered with ⟨report, _, judged⟩ | ⟨error, failed, kept, judged⟩
  · simp [judge_eq_committed_iff, classified] at judged
  · simp only [judge_eq_failed_iff, classified, targets, reduceCtorEq, false_and, false_or,
      true_and, nonempty] at judged
    rw [judged.2.2, Turn.eraseReps_of_nodup distinct] at failed
    exact ⟨⟨_, _, failed⟩, kept⟩

/-- A program that reports something new does not end a turn. -/
theorem not_ends_of_reported
    (answered : made.result = .ok (simulate source (marker session.file)))
    (reported : (compile source).reported = names)
    (nonempty : names ≠ []) :
    ¬Ends session input .initial made result after := by
  intro ends
  obtain ⟨classified, targets⟩ := targets_of_reported named plain reported nonempty
  obtain ⟨identifier, found⟩ := List.exists_mem_of_ne_nil _ nonempty
  apply ends.not_reveals
  refine ⟨⟨_, (made.result_eq_ok_iff _).mp answered, classified⟩, identifier, ?_,
    List.not_mem_nil⟩
  rw [Attempt.found_eq answered, targets]
  exact found

/-! ## Turns of two attempts -/

/-- When the first program reports unused variables and the formatter accepts their discards,
the second program settles the turn, if passes remain. -/
theorem exists_second_attempt
    (keeps : store.Keeps session.file)
    (accepts : store.Accepts session.file)
    (passes : 2 ≤ settings.maxPasses)
    {formatted : Text}
    (accepted : format (session.compose settings.placement input []) = .ok formatted)
    (reported : (compile (session.compose settings.placement input [])).reported = names)
    (nonempty : names ≠ [])
    (takes : ∀ name ∈ names, '\x7b' ∉ name ∧ Text.endsIn '+' name = false) :
    (Turn.requests (bench store) settings session input state).filterMap Bench.Call.source? =
        [session.compose settings.placement input [],
          session.compose settings.placement input (names.map discard)] ∧
      ∃ progress made,
        progress.discarded = names ∧
        progress.attempt = 2 ∧
        made.result =
          .ok (simulate (session.compose settings.placement input (names.map discard))
            (marker session.file)) ∧
        Ends session input progress made
          (session.turn (bench store) settings input state).result
          (session.turn (bench store) settings input state).session := by
  have plainFile := isNameChar_of_mem_fileName named plain
  have isName : ∀ name ∈ names, IsName name := by
    rw [← reported]
    exact fun _ => (wellFormed_compile _).isName_of_mem_reported
  have acceptedAgain := format_compose_discards session settings.placement input isName takes
    accepted
  rw [eq_of_format_eq_ok accepted] at accepted
  obtain ⟨attempts, course, requested⟩ :=
    exists_courseOf (bench store) settings session input state
  have ran : ∀ made ∈ attempts, format made.source = .ok made.source →
      made.result = .ok (simulate made.source (marker session.file)) := by
    intro made present accepted
    obtain ⟨start, final, was⟩ := course.exists_made present
    exact result_eq_simulate_of_made keeps accepts was accepted
  have simulated := simulated_of_courseOf keeps course
  have finishes := course.finishes
  rw [requested, Attempt.filterMap_source_flatMap_calls]
  generalize session.turn (bench store) settings input state = outcome at finishes ⊢
  obtain ⟨result, after, _⟩ := outcome
  cases finishes with
  | @ended attempts made progress _ _ reached sourced ends =>
      have last : made ∈ attempts ++ [made] := List.mem_append_right attempts List.mem_cons_self
      cases earlier_of_reaches plainFile
        (fun other before => simulated other (List.mem_append_left [made] before)) reached with
      | none =>
          have source : made.source = session.compose settings.placement input [] := sourced
          rw [← source] at accepted reported
          exact absurd ends
            (not_ends_of_reported named plain (ran made last accepted) reported nonempty)
      | @one first _ firstSourced again =>
          obtain ⟨discarded, attempt, _⟩ := discarded_of_judge_initial plainFile again
          rw [reported] at discarded
          rw [Turn.source, Progress.fixes, discarded] at sourced
          rw [← sourced] at acceptedAgain ⊢
          refine ⟨?_, progress, made, discarded, attempt, ran made last acceptedAgain, ends⟩
          simp [firstSourced]
  | exhausted reached used =>
      have short := (earlier_of_reaches plainFile simulated reached).length_le
      omega

end File

end Attempts

/-! ## Discards after the new statement -/

/-- Take a turn of any session whose program file has a name without blanks and colons,
accepts what is written to it and keeps it, with discards after the new statement and two
passes or more.  When the formatter accepts the program without discards, and nothing is wrong
with this program but variables that nothing uses, with names that the formatter takes as they
are, the turn makes exactly two attempts, the second with discards of all these variables.  It
succeeds, unless the program calls `panic`; then it fails as the program does.  The program must
have no more lines than a diagnostic can number. -/
theorem turn_repairs_after
    (store : Store State)
    (session : Session)
    (input : Text)
    (state : State)
    (maxPasses : Nat)
    {name formatted : Text}
    (keeps : store.Keeps session.file)
    (accepts : store.Accepts session.file)
    (named : Path.fileName? session.file = some name)
    (plain : ∀ c ∈ name, Diagnostic.isNameChar c = true)
    (passes : 2 ≤ maxPasses)
    (accepted : format (session.compose .after input []) = .ok formatted)
    (short : (session.compose .after input []).lines.length < Diagnostic.positionBound)
    (sound : (compile (session.compose .after input [])).complaints = [])
    (unused : (compile (session.compose .after input [])).unused ≠ [])
    (takes : ∀ binding ∈ (compile (session.compose .after input [])).unused,
      '\x7b' ∉ binding.name ∧ Text.endsIn '+' binding.name = false) :
    let first := session.compose .after input []
    let names := (compile first).unused.map Binding.name
    let outcome := session.turn (bench store) ⟨maxPasses, .after⟩ input state
    (Turn.requests (bench store) ⟨maxPasses, .after⟩ session input state).filterMap
        Bench.Call.source? = [first, session.compose .after input (names.map discard)] ∧
      ((entryLines 1 first.lines).2.any panicsLine = false →
        ∃ report lines,
          outcome.result = .ok report ∧
          report.attempts = 2 ∧
          report.discarded = names ∧
          outcome.session = session.commit input lines) ∧
      ((entryLines 1 first.lines).2.any panicsLine = true →
        ∃ output, outcome.result = .error (.runtime output) ∧ outcome.session = session) := by
  intro first names outcome
  have nonempty : names ≠ [] := fun none => unused (List.map_eq_nil_iff.mp none)
  have isName : ∀ name ∈ names, IsName name := fun _ => isName_of_mem_unused
  have taken : ∀ name ∈ names, '\x7b' ∉ name ∧ Text.endsIn '+' name = false :=
    List.forall_mem_map.mpr takes
  obtain ⟨sources, progress, made, discarded, attempt, answered, ends⟩ :=
    @exists_second_attempt _ store ⟨maxPasses, .after⟩ session input names state name named plain
      keeps accepts passes _ accepted (reported_of_short short) nonempty taken
  -- All that was wrong with the first program is repaired in the second.
  have clean := allComplaints_compile_compose_after rfl sound fun name present =>
    (taken name present).1
  have effects : (compile (session.compose .after input (names.map discard))).effects.all
      Effect.prints = !(entryLines 1 first.lines).2.any panicsLine := by
    rw [effects_compile_compose session .after input isName, all_prints_compile]
  refine ⟨sources, ?_, ?_⟩
  · intro quiet
    rw [quiet] at effects
    rw [← discarded, ← attempt]
    exact committed_of_ends ends answered clean effects
  · intro panics
    rw [panics] at effects
    exact runtime_of_ends ends answered clean effects

theorem fileName?_resumed : Path.fileName? resumed.file = some "main.go".toList := by
  decide

theorem turn_repairs_after_resumed :
    oneFile.Keeps resumed.file ∧
    oneFile.Accepts resumed.file ∧
    (∃ report,
      (resumed.turn (bench oneFile) ⟨2, .after⟩ "y := 6".toList []).result = .ok report ∧
      report.attempts = 2 ∧
      report.discarded = ["x".toList, "y".toList]) ∧
    ∃ output,
      (resumed.turn (bench oneFile) ⟨2, .after⟩ "panic(\"no\")".toList []).result =
        .error (.runtime output) := by
  have assigned := turn_repairs_after oneFile resumed "y := 6".toList [] 2
    (keeps_oneFile _) (accepts_oneFile _) fileName?_resumed
    (List.all_eq_true.mp (by decide)) (Nat.le_refl 2)
    ((format_eq_ok_iff _).mpr (by decide)) (by decide) (by decide) (by decide) (by decide)
  have stopped := turn_repairs_after oneFile resumed "panic(\"no\")".toList [] 2
    (keeps_oneFile _) (accepts_oneFile _) fileName?_resumed
    (List.all_eq_true.mp (by decide)) (Nat.le_refl 2)
    ((format_eq_ok_iff _).mpr (by decide)) (by decide) (by decide) (by decide) (by decide)
  obtain ⟨report, _, result, attempts, discarded, _⟩ := assigned.2.1 (by decide)
  obtain ⟨output, failed, _⟩ := stopped.2.2 (by decide)
  have names : (compile (resumed.compose .after "y := 6".toList [])).unused.map Binding.name =
      ["x".toList, "y".toList] := by
    decide
  exact ⟨keeps_oneFile _, accepts_oneFile _,
    ⟨report, result, attempts, discarded.trans names⟩, output, failed⟩

/-! ## Discards before the new statement -/

/-- Take a turn of any session whose program file has a name without blanks and colons,
accepts what is written to it and keeps it, with discards before the new statement and two
passes or more.  When the formatter accepts the program without discards, the lines of the
new statement declare a variable that nothing uses, and the names of all unused variables are
such that the formatter takes them as they are, the turn makes exactly two attempts, whatever
else is wrong with the program.  It fails because the unused variables of the new statement,
in the order of their declarations, are discarded already, and not because of those of the
confirmed text, which the discards do use.  With the discards, the program must have no more
lines than a diagnostic can number. -/
theorem turn_stalls_before
    (store : Store State)
    (session : Session)
    (input : Text)
    (state : State)
    (maxPasses : Nat)
    {name formatted : Text}
    (keeps : store.Keeps session.file)
    (accepts : store.Accepts session.file)
    (named : Path.fileName? session.file = some name)
    (plain : ∀ c ∈ name, Diagnostic.isNameChar c = true)
    (passes : 2 ≤ maxPasses)
    (accepted : format (session.compose .before input []) = .ok formatted)
    (short : (session.compose .before input []).lines.length +
      (compile (session.compose .before input [])).unused.length < Diagnostic.positionBound)
    (declared : ∃ binding ∈ (compile (session.compose .before input [])).unused,
      session.confirmed.lines.length < binding.line)
    (takes : ∀ binding ∈ (compile (session.compose .before input [])).unused,
      '\x7b' ∉ binding.name ∧ Text.endsIn '+' binding.name = false) :
    let first := session.compose .before input []
    let names := (compile first).unused.map Binding.name
    let own := (compile first).unused.filter (session.confirmed.lines.length < ·.line)
    let outcome := session.turn (bench store) ⟨maxPasses, .before⟩ input state
    (Turn.requests (bench store) ⟨maxPasses, .before⟩ session input state).filterMap
        Bench.Call.source? = [first, session.compose .before input (names.map discard)] ∧
      (∃ output diagnostics,
        outcome.result = .error (.stalled (own.map Binding.name) output diagnostics)) ∧
      outcome.session = session := by
  intro first names own outcome
  obtain ⟨candidate, unused, later⟩ := declared
  have nonempty : names ≠ [] := List.ne_nil_of_mem (List.mem_map_of_mem unused)
  have ownNonempty : own.map Binding.name ≠ [] :=
    List.ne_nil_of_mem (List.mem_map_of_mem
      (List.mem_filter.mpr ⟨unused, decide_eq_true later⟩))
  have taken : ∀ name ∈ names, '\x7b' ∉ name ∧ Text.endsIn '+' name = false :=
    List.forall_mem_map.mpr takes
  have reported := reported_of_short ((Nat.le_add_right _ _).trans_lt short)
  obtain ⟨sources, progress, made, _, _, answered, ends⟩ :=
    @exists_second_attempt _ store ⟨maxPasses, .before⟩ session input names state name named plain
      keeps accepts passes _ accepted reported nonempty taken
  -- The second program reports just the variables of the new statement.
  have remaining : (compile (session.compose .before input (names.map discard))).reported =
      own.map Binding.name := by
    apply reported_compile_compose_before rfl
    · rwa [List.length_map]
    · exact fun name present => (taken name present).1
  exact ⟨sources, stalled_of_ends named plain ends answered remaining ownNonempty⟩

theorem turn_stalls_before_resumed :
    oneFile.Keeps resumed.file ∧
    oneFile.Accepts resumed.file ∧
    ∃ output diagnostics,
      (resumed.turn (bench oneFile) ⟨2, .before⟩ "y := 6\nvar z string = 1".toList []).result =
        .error (.stalled ["y".toList] output diagnostics) := by
  have turned := turn_stalls_before oneFile resumed "y := 6\nvar z string = 1".toList [] 2
    (keeps_oneFile _) (accepts_oneFile _) fileName?_resumed
    (List.all_eq_true.mp (by decide)) (Nat.le_refl 2)
    ((format_eq_ok_iff _).mpr (by decide)) (by decide) (by decide) (by decide)
  have own : ((compile (resumed.compose .before "y := 6\nvar z string = 1".toList [])).unused.filter
      (resumed.confirmed.lines.length < ·.line)).map Binding.name = ["y".toList] := by
    decide
  obtain ⟨_, ⟨output, diagnostics, result⟩, _⟩ := turned
  rw [own] at result
  exact ⟨keeps_oneFile _, accepts_oneFile _, output, diagnostics, result⟩

end Miniature
end Turnwise
