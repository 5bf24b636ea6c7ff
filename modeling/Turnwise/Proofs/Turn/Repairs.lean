import Mathlib.Data.List.Destutter
import Mathlib.Data.List.Nodup
import Turnwise.Proofs.Diagnostic.Targets
import Turnwise.Proofs.Turn.Course

/-!
# The repairs of a turn

The discards of an attempt are the unused bindings that the earlier attempts of the
same turn reported, each once and in the order of their first report.  A turn goes on
exactly while its last run is a failed compilation that reports a binding not
discarded yet and passes remain.
-/

namespace Turnwise

namespace Diagnostic

/-- Another repair can make progress when some diagnostic names an identifier. -/
theorem fixable_summarize_iff (diagnostics : List Diagnostic) :
    (summarize diagnostics).fixable = true ↔ targets diagnostics ≠ [] := by
  simp only [Summary.fixable, summarize, targets, decide_eq_true_eq, List.countP_pos_iff,
    Kind.isRecoverable, ne_eq, List.filterMap_eq_nil_iff, not_forall, target?,
    Option.isSome_iff_ne_none, exists_prop]

end Diagnostic

namespace Turn

/-! ## Absorbing identifiers -/

theorem absorb_append
    (known first second : List Text) :
    absorb known (first ++ second) = absorb (absorb known first) second := by
  induction first generalizing known with
  | nil => rfl
  | cons identifier rest inductionHypothesis =>
      simp only [List.cons_append, absorb]
      split
      · exact inductionHypothesis known
      · exact inductionHypothesis (known ++ [identifier])

theorem mem_absorb_iff
    (known found : List Text)
    (identifier : Text) :
    identifier ∈ absorb known found ↔ identifier ∈ known ∨ identifier ∈ found := by
  induction found generalizing known with
  | nil => simp [absorb]
  | cons head rest inductionHypothesis =>
      simp only [absorb]
      split
      · rename_i present
        rw [inductionHypothesis known, List.mem_cons]
        constructor
        · rintro (old | new)
          · exact Or.inl old
          · exact Or.inr (Or.inr new)
        · rintro (old | equal | new)
          · exact Or.inl old
          · exact Or.inl (equal ▸ present)
          · exact Or.inr new
      · rw [inductionHypothesis (known ++ [head])]
        simp [or_assoc]

/-- Absorbing keeps what is known in place and adds behind it. -/
theorem prefix_absorb
    (known found : List Text) :
    known <+: absorb known found := by
  induction found generalizing known with
  | nil => exact List.prefix_refl known
  | cons head rest inductionHypothesis =>
      simp only [absorb]
      split
      · exact inductionHypothesis known
      · exact (List.prefix_append known [head]).trans (inductionHypothesis (known ++ [head]))

/-- Absorbing makes a list longer exactly when it meets something new. -/
theorem length_absorb_eq_iff
    (known found : List Text) :
    (absorb known found).length = known.length ↔ ∀ identifier ∈ found, identifier ∈ known := by
  constructor
  · intro sameLength identifier present
    have same : known = absorb known found :=
      (prefix_absorb known found).eq_of_length sameLength.symm
    rw [same, mem_absorb_iff]
    exact Or.inr present
  · intro allKnown
    induction found with
    | nil => rfl
    | cons head rest inductionHypothesis =>
        have headKnown : head ∈ known := allKnown head List.mem_cons_self
        simp only [absorb, if_pos headKnown]
        exact inductionHypothesis fun identifier present =>
          allKnown identifier (List.mem_cons_of_mem head present)

theorem nodup_absorb
    (known found : List Text)
    (nodup : known.Nodup) :
    (absorb known found).Nodup := by
  induction found generalizing known with
  | nil => exact nodup
  | cons head rest inductionHypothesis =>
      simp only [absorb]
      split
      · exact inductionHypothesis known nodup
      · rename_i absent
        apply inductionHypothesis
        rw [List.nodup_append]
        refine ⟨nodup, List.nodup_singleton head, ?_⟩
        intro old oldPresent new newPresent equal
        rw [List.mem_singleton] at newPresent
        exact absent (newPresent ▸ equal ▸ oldPresent)

/-- Identifiers that are all new and different are added as they are. -/
theorem absorb_of_nodup
    (known found : List Text)
    (nodup : (known ++ found).Nodup) :
    absorb known found = known ++ found := by
  induction found generalizing known with
  | nil => exact (List.append_nil known).symm
  | cons head rest inductionHypothesis =>
      have absent : head ∉ known := fun present =>
        (List.nodup_append.mp nodup).2.2 head present head List.mem_cons_self rfl
      have whole : known ++ head :: rest = (known ++ [head]) ++ rest := by simp
      rw [whole] at nodup ⊢
      rw [absorb, if_neg absent]
      exact inductionHypothesis _ nodup

/-- Leaving out repetitions leaves out the items that equal the one before them. -/
theorem eraseReps_eq_destutter (found : List Text) :
    found.eraseReps = found.destutter (· ≠ ·) := by
  have loop (head : Text) (rest passed : List Text) :
      List.eraseRepsBy.loop (· == ·) head rest passed =
        passed.reverse ++ rest.destutter' (· ≠ ·) head := by
    induction rest generalizing head passed with
    | nil => simp [List.eraseRepsBy.loop]
    | cons next rest inductionHypothesis =>
        rw [List.eraseRepsBy.loop]
        by_cases same : head = next
        · subst same
          rw [beq_self_eq_true, List.destutter'_cons_neg _ (not_not.mpr rfl)]
          exact inductionHypothesis head passed
        · rw [beq_eq_false_iff_ne.mpr same, List.destutter'_cons_pos _ same, List.append_cons,
            ← List.reverse_cons]
          exact inductionHypothesis next (head :: passed)
  cases found with
  | nil => rfl
  | cons head rest => exact loop head rest []

/-- Identifiers that are all different have no repetitions to be left out. -/
theorem eraseReps_of_nodup
    {found : List Text}
    (nodup : found.Nodup) :
    found.eraseReps = found := by
  rw [eraseReps_eq_destutter]
  exact List.destutter_of_isChain _ found nodup.isChain

private theorem absorb_eraseDups
    (known found : List Text) :
    absorb known.eraseDups found = (known ++ found).eraseDups := by
  induction found generalizing known with
  | nil => simp [absorb]
  | cons head rest inductionHypothesis =>
      have tail := inductionHypothesis (known ++ [head])
      rw [List.append_assoc, List.singleton_append, List.eraseDups_append] at tail
      simp only [absorb, List.mem_eraseDups]
      split
      · rename_i present
        rw [← tail]
        simp [List.removeAll, present]
      · rename_i absent
        rw [← tail]
        simp [List.removeAll, absent, List.eraseDups_cons]

/-- Absorbing into nothing keeps the first occurrence of each identifier. -/
theorem absorb_nil (found : List Text) : absorb [] found = found.eraseDups := by
  simpa using absorb_eraseDups [] found

/-! ## Judging a run -/

/-- A turn goes on after a run exactly when compilation failed and a reported
identifier is not discarded yet; from then on it is. -/
theorem judge_eq_again_iff
    (session : Session)
    (input : Text)
    (progress next : Progress)
    (run : Run) :
    judge session input progress run = .again next ↔
      run.classify = .compileFailure ∧
      (∃ identifier ∈ Diagnostic.targets (Diagnostic.parseAll run.output),
        identifier ∉ progress.discarded) ∧
      next =
        { discarded :=
            absorb progress.discarded (Diagnostic.targets (Diagnostic.parseAll run.output))
          records := progress.records ++
            [⟨progress.attempt, run.classify,
              Diagnostic.targets (Diagnostic.parseAll run.output), 0⟩]
          output := Text.dropFinal '\n' run.output
          diagnostics := Diagnostic.parseAll run.output } := by
  cases classified : run.classify with
  | success => simp [judge, classified]
  | runtimeFailure => simp [judge, classified]
  | compileFailure =>
      by_cases fixable : (Diagnostic.summarize (Diagnostic.parseAll run.output)).fixable = true
      · by_cases sameLength :
            (absorb progress.discarded
              (Diagnostic.targets (Diagnostic.parseAll run.output))).length =
              progress.discarded.length
        · have allKnown := (length_absorb_eq_iff _ _).mp sameLength
          simp only [judge, classified, fixable, sameLength, Bool.not_true, Bool.false_eq_true,
            if_false, if_true, reduceCtorEq, true_and, false_iff]
          rintro ⟨⟨identifier, found, new⟩, _⟩
          exact new (allKnown identifier found)
        · have someNew : ∃ identifier ∈ Diagnostic.targets (Diagnostic.parseAll run.output),
              identifier ∉ progress.discarded := by
            by_contra noneNew
            apply sameLength
            rw [length_absorb_eq_iff]
            intro identifier found
            by_contra new
            exact noneNew ⟨identifier, found, new⟩
          simp only [judge, classified, fixable, sameLength, someNew, Bool.not_true,
            Bool.false_eq_true, if_false, Verdict.again.injEq, true_and]
          exact eq_comm
      · have noTargets : Diagnostic.targets (Diagnostic.parseAll run.output) = [] := by
          by_contra targets
          exact fixable ((Diagnostic.fixable_summarize_iff _).mpr targets)
        simp [judge, classified, fixable, noTargets]

/-! ## The discards of each attempt -/

namespace Attempt

/-- The identifiers that the run of an attempt reports as unused, in order. -/
def found (made : Attempt) : List Text :=
  made.run?.elim [] fun run => Diagnostic.targets (Diagnostic.parseAll run.output)

/-- The attempt failed to compile and reports a binding that is not discarded yet. -/
def Reveals (made : Attempt) (discarded : List Text) : Prop :=
  (∃ run, made.run? = some run ∧ run.classify = .compileFailure) ∧
    ∃ identifier ∈ made.found, identifier ∉ discarded

theorem found_eq
    {made : Attempt}
    {run : Run}
    (result : made.result = .ok run) :
    made.found = Diagnostic.targets (Diagnostic.parseAll run.output) := by
  rw [found, (made.result_eq_ok_iff run).mp result]
  rfl

/-- An attempt reveals something exactly when its run makes the turn go on. -/
theorem reveals_iff
    {made : Attempt}
    {run : Run}
    (result : made.result = .ok run)
    (session : Session)
    (input : Text)
    (progress : Progress) :
    made.Reveals progress.discarded ↔
      ∃ next, judge session input progress run = .again next := by
  simp only [Reveals, found_eq result, (made.result_eq_ok_iff run).mp result,
    Option.some.injEq, exists_eq_left', judge_eq_again_iff, exists_and_left, exists_eq,
    and_true]

end Attempt

variable {State : Type}
variable {bench : Bench State}
variable {settings : RepairSettings}
variable {session : Session}
variable {input : Text}
variable {remaining : Nat}
variable {progress : Progress}
variable {start : State}
variable {attempts : List Attempt}
variable {outcome : Outcome State}

/-- An attempt that ends the turn reveals nothing. -/
theorem Ends.not_reveals
    {made : Attempt}
    {result : Except TurnError Report}
    {after : Session}
    (ends : Ends session input progress made result after) :
    ¬made.Reveals progress.discarded := by
  intro revealed
  obtain ⟨run, ran, _⟩ := revealed.1
  have attempted := (made.result_eq_ok_iff run).mpr ran
  obtain ⟨next, judged⟩ := (Attempt.reveals_iff attempted session input progress).mp revealed
  cases ends with
  | broken result => simp [attempted] at result
  | failed result ended =>
      cases attempted.symm.trans result
      simp [judged] at ended
  | committed result ended =>
      cases attempted.symm.trans result
      simp [judged] at ended

/-- A pass that remains is used. -/
theorem Course.ne_nil
    (course : Course bench settings session input (remaining + 1) progress start
      attempts outcome) :
    attempts ≠ [] := by
  cases course <;> exact List.cons_ne_nil _ _

/-- A turn makes at least one attempt. -/
theorem CourseOf.ne_nil
    (course : CourseOf bench settings session input start attempts) :
    attempts ≠ [] := by
  obtain ⟨remaining, passes⟩ : ∃ remaining, max settings.maxPasses 1 = remaining + 1 :=
    ⟨max settings.maxPasses 1 - 1, by omega⟩
  rw [CourseOf, passes] at course
  exact Course.ne_nil course

/-- There are no more attempts than passes. -/
theorem Course.length_le
    (course : Course bench settings session input remaining progress start attempts outcome) :
    attempts.length ≤ remaining := by
  induction course with
  | exhausted => exact Nat.le_refl 0
  | ended => simp
  | again _ _ _ _ _ inductionHypothesis => simpa using inductionHypothesis

/-- Each attempt is made with the discards known at the beginning and those that the
attempts before it reported. -/
theorem Course.source_eq
    (course : Course bench settings session input remaining progress start attempts outcome)
    (index : Nat)
    (bound : index < attempts.length) :
    attempts[index].source =
      session.compose settings.placement input
        ((absorb progress.discarded
          ((attempts.take index).flatMap Attempt.found)).map Composition.discard) := by
  induction course generalizing index with
  | exhausted => simp at bound
  | ended sourced =>
      have first : index = 0 := by simpa using bound
      subst first
      simpa [source, Progress.fixes, absorb] using sourced
  | again sourced was result judged rest inductionHypothesis =>
      cases index with
      | zero => simpa [source, Progress.fixes, absorb] using sourced
      | succ index =>
          obtain ⟨_, _, rfl⟩ := (judge_eq_again_iff _ _ _ _ _).mp judged
          have tail := inductionHypothesis index (by simpa using bound)
          rw [List.getElem_cons_succ, tail, List.take_succ_cons, List.flatMap_cons,
            absorb_append, Attempt.found_eq result]

/-- Every attempt but the last reveals a binding that is not discarded yet. -/
theorem Course.reveals
    (course : Course bench settings session input remaining progress start attempts outcome)
    (index : Nat)
    (bound : index + 1 < attempts.length) :
    attempts[index].Reveals
      (absorb progress.discarded ((attempts.take index).flatMap Attempt.found)) := by
  induction course generalizing index with
  | exhausted => simp at bound
  | ended => simp at bound
  | @again remaining progress next start middle made run attempts outcome
      sourced was result judged rest inductionHypothesis =>
      cases index with
      | zero =>
          have goesOn := (Attempt.reveals_iff result session input progress).mpr ⟨next, judged⟩
          simpa [absorb] using goesOn
      | succ index =>
          obtain ⟨_, _, rfl⟩ := (judge_eq_again_iff _ _ _ _ _).mp judged
          have tail := inductionHypothesis index (by simpa using bound)
          rw [List.take_succ_cons, List.flatMap_cons, absorb_append, Attempt.found_eq result]
          simpa using tail

/-- While passes remain, the last attempt reveals nothing. -/
theorem Course.last_not_reveals
    (course : Course bench settings session input remaining progress start attempts outcome)
    (unused : attempts.length < remaining)
    (index : Nat)
    (last : index + 1 = attempts.length) :
    ¬attempts[index].Reveals
      (absorb progress.discarded ((attempts.take index).flatMap Attempt.found)) := by
  induction course generalizing index with
  | exhausted => simp at last
  | ended sourced was ends =>
      have first : index = 0 := by simpa using last
      subst first
      simpa [absorb] using ends.not_reveals
  | @again remaining progress next start middle made run attempts outcome
      sourced was result judged rest inductionHypothesis =>
      cases index with
      | zero =>
          have none : attempts = [] := List.length_eq_zero_iff.mp (by simpa using last.symm)
          subst none
          cases remaining with
          | zero => simp at unused
          | succ remaining => exact absurd rfl rest.ne_nil
      | succ index =>
          obtain ⟨_, _, rfl⟩ := (judge_eq_again_iff _ _ _ _ _).mp judged
          have tail := inductionHypothesis (by simpa using unused) index (by simpa using last)
          rw [List.take_succ_cons, List.flatMap_cons, absorb_append, Attempt.found_eq result]
          simpa using tail

/-- The identifiers that the attempts before an index reported as unused, each once,
in the order of their first report. -/
def discardsBefore (attempts : List Attempt) (index : Nat) : List Text :=
  ((attempts.take index).flatMap Attempt.found).eraseDups

theorem discardsBefore_eq_absorb
    (attempts : List Attempt)
    (index : Nat) :
    discardsBefore attempts index =
      absorb Progress.initial.discarded ((attempts.take index).flatMap Attempt.found) :=
  (absorb_nil _).symm

theorem nodup_discardsBefore
    (attempts : List Attempt)
    (index : Nat) :
    (discardsBefore attempts index).Nodup := by
  rw [discardsBefore_eq_absorb]
  exact nodup_absorb _ _ List.nodup_nil

/-- One more attempt adds what it reports and the others did not. -/
theorem discardsBefore_succ
    (attempts : List Attempt)
    (index : Nat)
    (bound : index < attempts.length) :
    discardsBefore attempts (index + 1) =
      absorb (discardsBefore attempts index) attempts[index].found := by
  simp only [discardsBefore_eq_absorb, ← absorb_append]
  rw [List.take_succ_eq_append_getElem bound, List.flatMap_append, List.flatMap_singleton]

/-- An attempt that reveals something makes the list of discards longer. -/
theorem length_discardsBefore_lt
    (attempts : List Attempt)
    (index : Nat)
    (bound : index < attempts.length)
    (revealed : attempts[index].Reveals (discardsBefore attempts index)) :
    (discardsBefore attempts index).length < (discardsBefore attempts (index + 1)).length := by
  obtain ⟨_, identifier, found, new⟩ := revealed
  rw [discardsBefore_succ attempts index bound]
  have noShorter := (prefix_absorb (discardsBefore attempts index) attempts[index].found).length_le
  have notEqual : (absorb (discardsBefore attempts index) attempts[index].found).length ≠
      (discardsBefore attempts index).length := by
    intro equal
    exact new ((length_absorb_eq_iff _ _).mp equal identifier found)
  omega

/-- What is discarded was reported in an output. -/
theorem exists_output_of_mem_discardsBefore
    {attempts : List Attempt}
    {index : Nat}
    {identifier : Text}
    (present : identifier ∈ discardsBefore attempts index) :
    ∃ output, identifier ∈ Diagnostic.targets (Diagnostic.parseAll output) := by
  obtain ⟨made, _, found⟩ := List.mem_flatMap.mp (List.mem_eraseDups.mp present)
  rw [Attempt.found] at found
  cases ran : made.run? with
  | none => simp [ran] at found
  | some run =>
      rw [ran] at found
      exact ⟨run.output, found⟩

/-- What the attempts before an index report can be discarded. -/
theorem discardable_of_mem_discardsBefore
    {attempts : List Attempt}
    {index : Nat}
    {identifier : Text}
    (present : identifier ∈ discardsBefore attempts index) :
    Diagnostic.Discardable identifier := by
  obtain ⟨output, found⟩ := exists_output_of_mem_discardsBefore present
  exact Diagnostic.discardable_of_mem_targets found

/-- Every text that a turn gives to the formatter is composed from the session before
the turn and from discards, each of one line. -/
theorem exists_discards_of_mem_sources
    {text : Text}
    (present : text ∈ (requests bench settings session input start).filterMap
      Bench.Call.source?) :
    ∃ identifiers : List Text,
      (∀ identifier ∈ identifiers, Diagnostic.Discardable identifier) ∧
      text = session.compose settings.placement input
        (identifiers.map Composition.discard) := by
  obtain ⟨attempts, course, requested⟩ := exists_courseOf bench settings session input start
  rw [requested, Attempt.filterMap_source_flatMap_calls] at present
  obtain ⟨index, bound, rfl⟩ := List.mem_iff_getElem.mp present
  rw [List.length_map] at bound
  refine ⟨discardsBefore attempts index, fun _ => discardable_of_mem_discardsBefore, ?_⟩
  rw [List.getElem_map, discardsBefore_eq_absorb]
  exact course.source_eq index bound

/-- The first text that a turn gives to the formatter is composed without discards. -/
theorem head?_sources_requests
    (bench : Bench State)
    (settings : RepairSettings)
    (session : Session)
    (input : Text)
    (state : State) :
    ((requests bench settings session input state).filterMap Bench.Call.source?).head? =
      some (session.compose settings.placement input []) := by
  obtain ⟨attempts, course, requested⟩ := exists_courseOf bench settings session input state
  have some := List.length_pos_of_ne_nil course.ne_nil
  have first := Course.source_eq course 0 some
  rw [requested, Attempt.filterMap_source_flatMap_calls, List.head?_map,
    List.head?_eq_getElem?, List.getElem?_eq_getElem some, Option.map_some, first]
  rfl

/-- The requests of a turn are those of a list of attempts, no longer than the number
of passes.  The text that each attempt gives to the formatter is composed from the
session before the turn and from discards of all the bindings that the earlier
attempts reported as unused.  Every attempt but the last reveals a binding that is not
discarded yet, so that the discards grow; the last one reveals none, unless it used
the last pass. -/
theorem exists_attempts_requests_eq
    (bench : Bench State)
    (settings : RepairSettings)
    (session : Session)
    (input : Text)
    (state : State) :
    ∃ attempts : List Attempt,
      requests bench settings session input state =
        attempts.flatMap (Attempt.calls session) ∧
      (requests bench settings session input state).filterMap Bench.Call.source? =
        attempts.map Attempt.source ∧
      attempts ≠ [] ∧
      attempts.length ≤ max settings.maxPasses 1 ∧
      ∀ (index : Nat) (bound : index < attempts.length),
        attempts[index].source =
            session.compose settings.placement input
              ((discardsBefore attempts index).map Composition.discard) ∧
          (discardsBefore attempts index).Nodup ∧
          (index + 1 < attempts.length →
            attempts[index].Reveals (discardsBefore attempts index) ∧
              discardsBefore attempts index <+: discardsBefore attempts (index + 1) ∧
              (discardsBefore attempts index).length <
                (discardsBefore attempts (index + 1)).length) ∧
          (index + 1 = attempts.length → attempts.length < max settings.maxPasses 1 →
            ¬attempts[index].Reveals (discardsBefore attempts index)) := by
  obtain ⟨attempts, course, requested⟩ := exists_courseOf bench settings session input state
  refine ⟨attempts, requested, ?_, ?_, course.length_le, ?_⟩
  · rw [requested, Attempt.filterMap_source_flatMap_calls]
  · obtain ⟨remaining, passes⟩ : ∃ remaining, max settings.maxPasses 1 = remaining + 1 :=
      ⟨max settings.maxPasses 1 - 1, by omega⟩
    rw [CourseOf, passes] at course
    exact course.ne_nil
  · intro index bound
    refine ⟨?_, nodup_discardsBefore attempts index, ?_, ?_⟩
    · rw [discardsBefore_eq_absorb]
      exact course.source_eq index bound
    · intro notLast
      have revealed : attempts[index].Reveals (discardsBefore attempts index) := by
        rw [discardsBefore_eq_absorb]
        exact course.reveals index notLast
      refine ⟨revealed, ?_, length_discardsBefore_lt attempts index bound revealed⟩
      rw [discardsBefore_succ attempts index bound]
      exact prefix_absorb _ _
    · intro last unused
      rw [discardsBefore_eq_absorb]
      exact course.last_not_reveals unused index last

end Turn
end Turnwise
