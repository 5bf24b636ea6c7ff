import Mathlib.Data.List.Forall2
import Turnwise.Proofs.Diagnostic.Endings
import Turnwise.Proofs.Turn.History
import Turnwise.Proofs.Turn.Repairs

/-!
# What a turn returns

A turn makes attempts that each make it go on, until one ends it or no pass remains.
`Reaches` relates the attempts that made a turn go on to the progress they came to, and
`Finishes` puts the end of the turn behind them.  Whatever a turn returns, a report or a
failure, is read off the progress before its last attempt and the run of that attempt.
-/

namespace Turnwise

namespace Diagnostic

theorem mem_targets_iff
    (diagnostics : List Diagnostic)
    (identifier : Text) :
    identifier ∈ targets diagnostics ↔
      ∃ diagnostic ∈ diagnostics, diagnostic.kind = .recoverable identifier := by
  have named (diagnostic : Diagnostic) :
      diagnostic.target? = some identifier ↔ diagnostic.kind = .recoverable identifier := by
    rw [target?]
    cases diagnostic.kind <;> simp [Kind.target?]
  simp only [targets, List.mem_filterMap, named]

theorem targets_eq_nil_iff (diagnostics : List Diagnostic) :
    targets diagnostics = [] ↔
      ∀ diagnostic ∈ diagnostics, diagnostic.kind = .unrecoverable := by
  have unnamed (diagnostic : Diagnostic) :
      diagnostic.target? = none ↔ diagnostic.kind = .unrecoverable := by
    rw [target?]
    cases diagnostic.kind <;> simp [Kind.target?]
  simp only [targets, List.filterMap_eq_nil_iff, unnamed]

end Diagnostic

theorem Composition.discard_injective : Function.Injective Composition.discard :=
  fun _ _ equal => List.append_cancel_left equal

/-- Whether the failure is that of a compilation. -/
def TurnError.isUncompiled : TurnError → Bool
  | .compile _ _ => true
  | .stalled _ _ _ => true
  | .exhausted _ _ _ => true
  | _ => false

namespace Turn

/-- Whether what a turn returns is that its passes were used up. -/
def isExhausted : Except TurnError Report → Bool
  | .error (.exhausted _ _ _) => true
  | _ => false

/-! ## Judging a failed run -/

/-- The three ways in which a run ends a turn without success: the program failed, or its
compilation failed and nothing or nothing new can be discarded. -/
theorem judge_eq_failed_iff
    (session : Session)
    (input : Text)
    (progress : Progress)
    (run : Run)
    (error : TurnError) :
    judge session input progress run = .failed error ↔
      (run.classify = .runtimeFailure ∧
        error = .runtime (Output.failure run.output session.shownLines)) ∨
      (run.classify = .compileFailure ∧
        Diagnostic.targets (Diagnostic.parseAll run.output) = [] ∧
        error = .compile (Text.dropFinal '\n' run.output) (Diagnostic.parseAll run.output)) ∨
      (run.classify = .compileFailure ∧
        Diagnostic.targets (Diagnostic.parseAll run.output) ≠ [] ∧
        (∀ identifier ∈ Diagnostic.targets (Diagnostic.parseAll run.output),
          identifier ∈ progress.discarded) ∧
        error = .stalled (Diagnostic.targets (Diagnostic.parseAll run.output)).eraseReps
          (Text.dropFinal '\n' run.output) (Diagnostic.parseAll run.output)) := by
  cases classified : run.classify with
  | success => simp [judge, classified]
  | runtimeFailure =>
      simp only [judge, classified, Verdict.failed.injEq, reduceCtorEq, false_and, or_false,
        true_and]
      exact eq_comm
  | compileFailure =>
      have fixable := Diagnostic.fixable_summarize_iff (Diagnostic.parseAll run.output)
      have known := length_absorb_eq_iff progress.discarded
        (Diagnostic.targets (Diagnostic.parseAll run.output))
      simp only [judge, classified, reduceCtorEq, false_and, false_or, true_and, ← known]
      by_cases none : Diagnostic.targets (Diagnostic.parseAll run.output) = []
      · have unfixable : (Diagnostic.summarize (Diagnostic.parseAll run.output)).fixable =
            false := by
          rw [← Bool.not_eq_true, fixable]
          exact fun some => some none
        simp only [unfixable, none, Bool.not_false, if_true, Verdict.failed.injEq, ne_eq,
          not_true_eq_false, false_and, or_false, true_and]
        exact eq_comm
      · simp only [fixable.mpr none, none, Bool.not_true, Bool.false_eq_true, if_false,
          false_and, false_or, ne_eq, not_false_eq_true, true_and]
        split
        · rename_i sameLength
          simp only [sameLength, Verdict.failed.injEq, true_and]
          exact eq_comm
        · rename_i longer
          simp only [longer, reduceCtorEq, false_and]

/-! ## The shape of a turn -/

/-- Attempts that all made the turn go on, and the progress they came to. -/
inductive Reaches (settings : RepairSettings) (session : Session) (input : Text) :
    List Attempt → Progress → Prop
  /-- No attempt was made. -/
  | initial : Reaches settings session input [] .initial
  /-- One more attempt made the turn go on. -/
  | again
      {earlier : List Attempt} {made : Attempt} {run : Run} {progress next : Progress}
      (reached : Reaches settings session input earlier progress)
      (sourced : made.source = source settings.placement session input progress)
      (result : made.result = .ok run)
      (judged : judge session input progress run = .again next) :
      Reaches settings session input (earlier ++ [made]) next

/-- All attempts of a turn, what it returns and the session after it. -/
inductive Finishes (settings : RepairSettings) (session : Session) (input : Text) :
    List Attempt → Except TurnError Report → Session → Prop
  /-- The last attempt ended the turn. -/
  | ended
      {earlier : List Attempt} {made : Attempt} {progress : Progress}
      {result : Except TurnError Report} {after : Session}
      (reached : Reaches settings session input earlier progress)
      (sourced : made.source = source settings.placement session input progress)
      (ends : Ends session input progress made result after) :
      Finishes settings session input (earlier ++ [made]) result after
  /-- Every attempt made the turn go on, until no pass remained. -/
  | exhausted
      {attempts : List Attempt} {progress : Progress}
      (reached : Reaches settings session input attempts progress)
      (used : attempts.length = max settings.maxPasses 1) :
      Finishes settings session input attempts
        (.error (.exhausted (max settings.maxPasses 1) progress.output progress.diagnostics))
        session

section Course

variable {State : Type}
variable {bench : Bench State}
variable {settings : RepairSettings}
variable {session : Session}
variable {input : Text}
variable {remaining : Nat}
variable {progress : Progress}
variable {start : State}
variable {attempts earlier : List Attempt}
variable {outcome : Outcome State}

/-- A course goes on from the attempts before it to the end of the turn. -/
theorem Course.finishes
    (course : Course bench settings session input remaining progress start attempts outcome)
    (reached : Reaches settings session input earlier progress)
    (counted : earlier.length + remaining = max settings.maxPasses 1) :
    Finishes settings session input (earlier ++ attempts) outcome.result outcome.session := by
  induction course generalizing earlier with
  | exhausted =>
      rw [List.append_nil]
      exact .exhausted reached counted
  | ended sourced was ends => exact .ended reached sourced ends
  | @again remaining _ _ _ _ made _ attempts _ sourced was result judged rest
      inductionHypothesis =>
      have next := inductionHypothesis (.again reached sourced result judged)
        (by rw [List.length_append, List.length_singleton]; omega)
      rwa [List.append_assoc, List.singleton_append] at next

/-- A turn finishes with its attempts. -/
theorem CourseOf.finishes
    {state : State}
    (course : CourseOf bench settings session input state attempts) :
    Finishes settings session input attempts
      (session.turn bench settings input state).result
      (session.turn bench settings input state).session :=
  Course.finishes course .initial (Nat.zero_add _)

end Course

/-! ## Records of attempts -/

/-- A record tells how the run of an attempt ended and, when compilation failed, the
bindings that it reported. -/
def Record.Tells (record : Record) (made : Attempt) : Prop :=
  ∃ run, made.run? = some run ∧
    record.outcome = run.classify ∧
    record.found = if run.classify = .compileFailure then made.found else []

/-- Progress that agrees with the attempts it was made by. -/
structure Progress.Tallies (progress : Progress) (attempts : List Attempt) : Prop where
  /-- There is one record for each attempt. -/
  told : List.Forall₂ Record.Tells progress.records attempts
  /-- The records are numbered from one. -/
  numbered : progress.records.map Record.attempt = List.range' 1 attempts.length
  /-- Every attempt failed to compile and reported a binding. -/
  failed : ∀ record ∈ progress.records, record.outcome = .compileFailure ∧ record.found ≠ []
  /-- The bindings that the records name are those of the attempts. -/
  found : progress.records.flatMap Record.found = attempts.flatMap Attempt.found
  /-- Each of them is discarded, once. -/
  discarded : progress.discarded = (attempts.flatMap Attempt.found).eraseDups

theorem Progress.Tallies.length_records
    {progress : Progress}
    {attempts : List Attempt}
    (tallies : progress.Tallies attempts) :
    progress.records.length = attempts.length :=
  tallies.told.length_eq

/-- The progress of a turn agrees with the attempts that it was made by. -/
theorem Reaches.tallies
    {settings : RepairSettings}
    {session : Session}
    {input : Text}
    {attempts : List Attempt}
    {progress : Progress}
    (reached : Reaches settings session input attempts progress) :
    progress.Tallies attempts := by
  induction reached with
  | initial =>
      exact
        { told := .nil
          numbered := rfl
          failed := fun _ present => nomatch present
          found := rfl
          discarded := rfl }
  | @again earlier made run progress next _ _ result judged tallies =>
      obtain ⟨classified, ⟨identifier, reported, _⟩, rfl⟩ :=
        (judge_eq_again_iff _ _ _ _ _).mp judged
      have found := Attempt.found_eq result
      refine ⟨?_, ?_, ?_, ?_, ?_⟩
      · refine List.rel_append tallies.told (.cons ⟨run, ?_, rfl, ?_⟩ .nil)
        · exact (made.result_eq_ok_iff run).mp result
        · rw [if_pos classified, found]
      · simp [tallies.numbered, Progress.attempt, tallies.length_records, List.range'_concat,
          Nat.add_comm]
      · intro record present
        rcases List.mem_append.mp present with old | new
        · exact tallies.failed record old
        · rw [List.mem_singleton.mp new]
          exact ⟨classified, List.ne_nil_of_mem reported⟩
      · simp [tallies.found, found]
      · rw [List.flatMap_append, List.flatMap_singleton, ← absorb_nil, absorb_append, absorb_nil,
          ← tallies.discarded, found]

/-! ## Reports and failures -/

/-- A report that agrees with the attempts of its turn. -/
structure Report.Tallies (report : Report) (attempts : List Attempt) : Prop where
  /-- The attempts are counted. -/
  counted : report.attempts = attempts.length
  /-- There is one record for each attempt. -/
  told : List.Forall₂ Record.Tells report.records attempts
  /-- The records are numbered from one. -/
  numbered : report.records.map Record.attempt = List.range' 1 attempts.length
  /-- Every attempt but the last failed to compile and reported a binding. -/
  failed : ∀ record ∈ report.records.dropLast,
    record.outcome = .compileFailure ∧ record.found ≠ []
  /-- The last attempt succeeded and reported none. -/
  succeeded : ∃ record, report.records.getLast? = some record ∧
    record.outcome = .success ∧ record.found = []
  /-- The discarded bindings are those reported, each once, in the order of their first
  report. -/
  discarded : report.discarded = (report.records.flatMap Record.found).eraseDups

/-- The discards with which the last attempt was composed: those of all bindings that the
attempts before it reported. -/
def lastFixes (attempts : List Attempt) : List Text :=
  (discardsBefore attempts (attempts.length - 1)).map Composition.discard

/-- A failure of the last compilation, with an output and diagnostics that agree with the
attempts of the turn. -/
structure Uncompiled
    (settings : RepairSettings)
    (session : Session)
    (input : Text)
    (attempts : List Attempt)
    (output : Text)
    (diagnostics : List Diagnostic) : Prop where
  /-- The last attempt failed to compile, and all that it printed but a final newline is
  kept. -/
  last : ∃ formatted run,
    attempts.getLast? =
      some (.ran (session.compose settings.placement input (lastFixes attempts))
        formatted run) ∧
    run.classify = .compileFailure ∧
    output = Text.dropFinal '\n' run.output
  /-- The diagnostics are those of the output that is kept. -/
  diagnostics : diagnostics = Diagnostic.parseAll output

/-- What a turn returns agrees with its attempts. -/
def Agrees
    (settings : RepairSettings)
    (session : Session)
    (input : Text)
    (attempts : List Attempt) : Except TurnError Report → Prop
  | .ok report => report.Tallies attempts
  | .error (.compile output diagnostics) =>
      Uncompiled settings session input attempts output diagnostics ∧
      ∀ diagnostic ∈ diagnostics, diagnostic.kind = .unrecoverable
  | .error (.stalled _ output diagnostics) =>
      Uncompiled settings session input attempts output diagnostics ∧
      (∃ diagnostic ∈ diagnostics, ∃ identifier,
        diagnostic.kind = .recoverable identifier) ∧
      ∀ diagnostic ∈ diagnostics, ∀ identifier,
        diagnostic.kind = .recoverable identifier →
        Composition.discard identifier ∈ lastFixes attempts
  | .error (.exhausted passes output diagnostics) =>
      Uncompiled settings session input attempts output diagnostics ∧
      passes = max settings.maxPasses 1 ∧
      passes = attempts.length ∧
      ∃ diagnostic ∈ diagnostics, ∃ identifier,
        diagnostic.kind = .recoverable identifier ∧
        Composition.discard identifier ∉ lastFixes attempts
  | .error error =>
      ∃ made, attempts.getLast? = some made ∧
        (made.result = .error error ∨
          ∃ run, made.result = .ok run ∧ run.classify = .runtimeFailure ∧
            error = .runtime (Output.failure run.output session.shownLines))

section Finishes

variable {settings : RepairSettings}
variable {session after : Session}
variable {input : Text}
variable {earlier attempts : List Attempt}
variable {made : Attempt}
variable {run : Run}
variable {progress next : Progress}
variable {report : Report}

/-- The last attempt is composed with the discards of the progress before it. -/
theorem Reaches.lastFixes_eq
    (reached : Reaches settings session input earlier progress)
    (made : Attempt) :
    lastFixes (earlier ++ [made]) = progress.fixes := by
  rw [lastFixes, discardsBefore, Progress.fixes, reached.tallies.discarded,
    List.length_append, List.length_singleton, Nat.add_sub_cancel, List.take_left]

/-- An identifier is discarded in the last attempt when it was discarded before. -/
theorem Reaches.discard_mem_lastFixes_iff
    (reached : Reaches settings session input earlier progress)
    (made : Attempt)
    (identifier : Text) :
    Composition.discard identifier ∈ lastFixes (earlier ++ [made]) ↔
      identifier ∈ progress.discarded := by
  rw [reached.lastFixes_eq, Progress.fixes,
    List.mem_map_of_injective Composition.discard_injective]

/-- The last run, when its compilation failed, is kept but for a final newline. -/
theorem Reaches.uncompiled
    (reached : Reaches settings session input earlier progress)
    (sourced : made.source = source settings.placement session input progress)
    (result : made.result = .ok run)
    (classified : run.classify = .compileFailure) :
    Uncompiled settings session input (earlier ++ [made])
      (Text.dropFinal '\n' run.output) (Diagnostic.parseAll run.output) := by
  constructor
  · rw [reached.lastFixes_eq, List.getLast?_concat]
    cases made with
    | ran text formatted answer =>
        cases result
        exact ⟨formatted, run, by rw [← source, ← sourced, Attempt.source], classified, rfl⟩
    | _ => cases result
  · rw [Diagnostic.parseAll_dropFinal_newline]

/-- The report of a run that succeeded agrees with all attempts. -/
theorem Reaches.report_tallies
    (reached : Reaches settings session input earlier progress)
    (result : made.result = .ok run)
    (judged : judge session input progress run = .committed report after) :
    report.Tallies (earlier ++ [made]) := by
  obtain ⟨classified, rfl, _⟩ := (judge_eq_committed_iff _ _ _ _ _ _).mp judged
  have tallies := reached.tallies
  have last : Record.Tells ⟨progress.attempt, run.classify, [], 0⟩ made :=
    ⟨run, (made.result_eq_ok_iff run).mp result, rfl, by rw [classified]; rfl⟩
  exact
    { counted := by simp [Progress.attempt, tallies.length_records]
      told := List.rel_append tallies.told (.cons last .nil)
      numbered := by
        simp [tallies.numbered, Progress.attempt, tallies.length_records, List.range'_concat,
          Nat.add_comm]
      failed := by
        rw [List.dropLast_concat]
        exact tallies.failed
      succeeded := ⟨_, List.getLast?_concat, classified, rfl⟩
      discarded := by simp [tallies.discarded, tallies.found] }

/-- The failure of a run that ends a turn agrees with all attempts. -/
theorem Reaches.agrees_of_failed
    {error : TurnError}
    (reached : Reaches settings session input earlier progress)
    (sourced : made.source = source settings.placement session input progress)
    (result : made.result = .ok run)
    (judged : judge session input progress run = .failed error) :
    Agrees settings session input (earlier ++ [made]) (.error error) := by
  rcases (judge_eq_failed_iff _ _ _ _ _).mp judged with
    ⟨classified, rfl⟩ | ⟨classified, none, rfl⟩ | ⟨classified, some, known, rfl⟩
  · exact ⟨made, List.getLast?_concat, Or.inr ⟨run, result, classified, rfl⟩⟩
  · exact ⟨reached.uncompiled sourced result classified,
      (Diagnostic.targets_eq_nil_iff _).mp none⟩
  · refine ⟨reached.uncompiled sourced result classified, ?_, ?_⟩
    · obtain ⟨identifier, present⟩ := List.exists_mem_of_ne_nil _ some
      obtain ⟨diagnostic, reported, named⟩ := (Diagnostic.mem_targets_iff _ _).mp present
      exact ⟨diagnostic, reported, identifier, named⟩
    · intro diagnostic reported identifier named
      rw [reached.discard_mem_lastFixes_iff]
      exact known identifier ((Diagnostic.mem_targets_iff _ _).mpr ⟨diagnostic, reported, named⟩)

/-- Passes that were used up agree with all attempts. -/
theorem Reaches.agrees_of_exhausted
    (reached : Reaches settings session input attempts progress)
    (used : attempts.length = max settings.maxPasses 1) :
    Agrees settings session input attempts
      (.error (.exhausted (max settings.maxPasses 1) progress.output progress.diagnostics)) := by
  cases reached with
  | initial =>
      rw [List.length_nil] at used
      omega
  | again reached sourced result judged =>
      obtain ⟨classified, ⟨identifier, present, new⟩, rfl⟩ :=
        (judge_eq_again_iff _ _ _ _ _).mp judged
      obtain ⟨diagnostic, reported, named⟩ := (Diagnostic.mem_targets_iff _ _).mp present
      refine ⟨reached.uncompiled sourced result classified, rfl, used.symm,
        diagnostic, reported, identifier, named, ?_⟩
      rw [reached.discard_mem_lastFixes_iff]
      exact new

/-- An attempt that came to no run does not fail by its compilation. -/
theorem Attempt.isUncompiled_of_broken
    {error : TurnError}
    (broken : made.result = .error error) :
    error.isUncompiled = false := by
  cases made with
  | unformatted text failure =>
      cases broken
      cases failure with
      | rejected message =>
          rw [TurnError.ofFormatter]
          split <;> rfl
      | _ => rfl
  | unwritten text formatted cause =>
      cases broken
      rfl
  | unstarted text formatted failure =>
      cases broken
      cases failure <;> rfl
  | ran text formatted answer => cases broken

/-- An attempt that ends a turn does not use up the passes. -/
theorem Ends.not_exhausted
    {result : Except TurnError Report}
    (ends : Ends session input progress made result after) :
    isExhausted result = false := by
  cases ends with
  | @broken error result =>
      have other := Attempt.isUncompiled_of_broken result
      cases error with
      | exhausted => cases other
      | _ => rfl
  | failed result judged =>
      rcases (judge_eq_failed_iff _ _ _ _ _).mp judged with
        ⟨_, rfl⟩ | ⟨_, _, rfl⟩ | ⟨_, _, _, rfl⟩ <;> rfl
  | committed result judged => rfl

/-- The failure of an attempt that came to no run agrees with all attempts. -/
theorem Attempt.agrees_of_broken
    {error : TurnError}
    (broken : made.result = .error error) :
    Agrees settings session input (earlier ++ [made]) (.error error) := by
  have other := isUncompiled_of_broken broken
  cases error with
  | compile => cases other
  | stalled => cases other
  | exhausted => cases other
  | _ => exact ⟨made, List.getLast?_concat, Or.inl broken⟩

/-- What a finished turn returns agrees with its attempts. -/
theorem Finishes.agrees
    {result : Except TurnError Report}
    (finishes : Finishes settings session input attempts result after) :
    Agrees settings session input attempts result := by
  cases finishes with
  | ended reached sourced ends =>
      cases ends with
      | broken result => exact Attempt.agrees_of_broken result
      | failed result judged => exact reached.agrees_of_failed sourced result judged
      | committed result judged => exact reached.report_tallies result judged
  | exhausted reached used => exact reached.agrees_of_exhausted used

end Finishes

/-- The requests of a turn are those of a list of attempts with which all that the turn
returns agrees.

A report counts and numbers the attempts; all but the last failed to compile, and the
bindings they reported are discarded, each once.  When the turn fails by a compilation,
it keeps what the last run printed but for a final newline, and its diagnostics are those
of the text that is kept.  None of them can be repaired, or all that can be are repaired
already, or the passes are used up and one names a binding that is not discarded yet. -/
theorem exists_attempts_agrees
    (bench : Bench State)
    (settings : RepairSettings)
    (session : Session)
    (input : Text)
    (state : State) :
    ∃ attempts : List Attempt,
      requests bench settings session input state =
        attempts.flatMap (Attempt.calls session) ∧
      Agrees settings session input attempts
        (session.turn bench settings input state).result := by
  obtain ⟨attempts, course, requested⟩ := exists_courseOf bench settings session input state
  exact ⟨attempts, requested, course.finishes.agrees⟩

end Turn
end Turnwise
