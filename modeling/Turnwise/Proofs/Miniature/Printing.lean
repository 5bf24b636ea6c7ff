import Turnwise.Proofs.Miniature.Meaning
import Turnwise.Proofs.Text.Decimal

/-!
# What miniature programs print

A program that compiles has one printing effect for each of its lines that call
`println`, and a program that ends prints one line for each of these effects.  Both
facts hold of every part of a program that goes on after a closed one, so a statement
adds to the output one line for each of its own lines that call `println`.
-/

namespace Turnwise

namespace Miniature

/-! ## Executing effects -/

/-- Whether an effect prints. -/
def Effect.prints : Effect → Bool
  | .print _ => true
  | .panic _ => false

theorem execute_print (value : Int) (rest : List Effect) :
    execute (.print value :: rest) =
      ((Text.ofInt value ++ ['\n']) ++ (execute rest).1, (execute rest).2) := by
  rw [List.append_assoc]
  rfl

/-- Effects are executed one after the other as long as the program does not stop. -/
theorem execute_append
    {first second : List Effect}
    (ends : (execute (first ++ second)).2 = true) :
    (execute first).2 = true ∧ (execute second).2 = true ∧
      (execute (first ++ second)).1 = (execute first).1 ++ (execute second).1 := by
  induction first with
  | nil => exact ⟨rfl, ends, rfl⟩
  | cons effect rest inductionHypothesis =>
      cases effect with
      | print value =>
          rw [List.cons_append, execute_print] at ends ⊢
          rw [execute_print]
          obtain ⟨firstEnds, secondEnds, output⟩ := inductionHypothesis ends
          refine ⟨firstEnds, secondEnds, ?_⟩
          rw [output, ← List.append_assoc]
      | panic message => cases ends

/-- The output of a program that ends is closed. -/
theorem closed_execute
    {effects : List Effect}
    (ends : (execute effects).2 = true) :
    Text.Closed (execute effects).1 := by
  induction effects with
  | nil => exact Text.closed_nil
  | cons effect rest inductionHypothesis =>
      cases effect with
      | print value =>
          rw [execute_print] at ends ⊢
          exact (Text.closed_concat_newline _).append (inductionHypothesis ends)
      | panic message => cases ends

theorem closed_of_execute_eq
    {effects : List Effect}
    {output : Text}
    (ends : execute effects = (output, true)) :
    output.Closed := by
  have closed := closed_execute (congrArg Prod.snd ends)
  rwa [ends] at closed

/-- A program that ends prints one line for each printing effect. -/
theorem newlineCount_execute
    {effects : List Effect}
    (ends : (execute effects).2 = true) :
    Text.newlineCount (execute effects).1 = effects.countP Effect.prints := by
  induction effects with
  | nil => rfl
  | cons effect rest inductionHypothesis =>
      cases effect with
      | print value =>
          rw [execute_print] at ends ⊢
          rw [Text.newlineCount_append, Text.newlineCount_append, inductionHypothesis ends,
            (Text.newlineCount_eq_zero_iff _).mpr (Text.newline_not_mem_ofInt value),
            List.countP_cons_of_pos rfl, Nat.zero_add, Nat.add_comm]
          rfl
      | panic message => cases ends

/-! ## Reading lines -/

/-- Whether a line, without the blanks at its ends, is a call of `println`. -/
def printsLine (line : Text) : Bool :=
  (between? "println(".toList ")".toList line.trim).isSome

theorem between?_eq_some_iff
    {beginning ending text middle : Text} :
    between? beginning ending text = some middle ↔ beginning ++ (middle ++ ending) = text := by
  simp only [between?, Option.bind_eq_some_iff, Text.after?_eq_some_iff, Text.upTo?_eq_some_iff]
  constructor
  · rintro ⟨rest, rfl, rfl⟩
    rfl
  · rintro rfl
    exact ⟨middle ++ ending, rfl, rfl⟩

namespace Statement

/-- Whether a statement prints. -/
def prints : Statement → Bool
  | .print _ => true
  | _ => false

/-- A call of `println` is read as such, whatever its argument. -/
theorem ofLine_println (argument : Text) :
    ofLine ("println(".toList ++ (argument ++ ")".toList)) = .print argument := by
  have called : between? "println(".toList ")".toList
      ("println(".toList ++ (argument ++ ")".toList)) = some argument :=
    between?_eq_some_iff.mpr rfl
  have closes : Text.endsIn '\x7b' ("println(".toList ++ (argument ++ ")".toList)) = false := by
    rw [Text.endsIn, ← List.append_assoc, List.getLast?_append_of_ne_nil _ (by decide)]
    decide
  unfold ofLine
  rw [closes, called]
  rfl

/-- Only calls of `println` are read as statements that print. -/
theorem prints_ofLine (line : Text) :
    (ofLine line).prints = (between? "println(".toList ")".toList line).isSome := by
  cases called : between? "println(".toList ")".toList line with
  | some argument =>
      rw [← between?_eq_some_iff.mp called, ofLine_println]
      rfl
  | none =>
      simp only [ofLine, called]
      repeat' split
      all_goals rfl

theorem Inert.prints_eq_false
    {statement : Statement}
    (inert : statement.Inert) :
    statement.prints = false := by
  cases inert <;> rfl

end Statement

/-- Discards do not print. -/
theorem countP_lines_discards
    {fixes : List Text}
    (discards : Composition.AreDiscards fixes) :
    (fixes.flatMap (Text.lines ∘ Composition.closedStatement)).countP printsLine = 0 := by
  rw [List.countP_eq_zero]
  intro line present
  obtain ⟨fix, chosen, contains⟩ := List.mem_flatMap.mp present
  obtain ⟨identifier, discardable, rfl⟩ := discards fix chosen
  rw [printsLine, ← Statement.prints_ofLine,
    (inert_of_mem_lines_discard discardable contains).prints_eq_false]
  exact Bool.false_ne_true

/-- In the lines from a new statement and its discards to the end of the program, just
the lines of the statement print. -/
theorem countP_lines_arrange
    {fixes : List Text}
    (discards : Composition.AreDiscards fixes)
    (placement : Placement)
    (candidate : Text) :
    (Text.lines ((Composition.arrange placement candidate fixes).flatMap
      Composition.closedStatement ++ Composition.closing)).countP printsLine =
      candidate.lines.countP printsLine := by
  have close : [Composition.closing].countP printsLine = 0 := rfl
  have statement : (Composition.closedStatement candidate).lines.countP printsLine =
      candidate.lines.countP printsLine :=
    @Composition.countP_lines_closedStatement
      (fun line => (between? "println(".toList ")".toList line).isSome) rfl candidate
  obtain ⟨first, last, arranged, firstDiscards, lastDiscards⟩ :=
    Composition.exists_arrange_eq discards placement candidate
  rw [Composition.lines_flatMap_closedStatement_closing, arranged, List.countP_append, close,
    List.flatMap_append, List.flatMap_cons, List.countP_append, List.countP_append,
    countP_lines_discards firstDiscards, countP_lines_discards lastDiscards, Function.comp_apply,
    statement]
  omega

/-! ## Programs that compile -/

namespace Program

/-- A statement takes no complaint back. -/
theorem complaints_prefix_extend
    (program : Program)
    (line : Nat)
    (statement : Statement) :
    program.complaints <+: (program.extend line statement).complaints := by
  cases statement with
  | skip => exact List.prefix_refl _
  | discard name =>
      simp only [extend]
      split
      · exact List.prefix_refl _
      · exact List.prefix_append _ _
  | print argument =>
      simp only [extend]
      repeat' split
      · exact List.prefix_refl _
      · exact List.prefix_refl _
      · exact List.prefix_append _ _
  | panic message => exact List.prefix_refl _
  | declare column => exact List.prefix_append _ _
  | bind name value =>
      simp only [extend]
      repeat' split
      · exact List.prefix_append _ _
      · exact List.prefix_refl _
      · exact List.prefix_append _ _
  | unknown word => exact List.prefix_append _ _

theorem complaints_prefix_extendAll
    (program : Program)
    (number : Nat)
    (lines : List Text) :
    program.complaints <+: (program.extendAll number lines).complaints := by
  induction lines generalizing program number with
  | nil => exact List.prefix_refl _
  | cons line rest inductionHypothesis =>
      exact (program.complaints_prefix_extend number _).trans (inductionHypothesis _ _)

/-- A statement that nothing is wrong with adds the effects that it stands for. -/
theorem exists_effects_extend_eq
    {program : Program}
    {line : Nat}
    {statement : Statement}
    (sound : (program.extend line statement).complaints = []) :
    ∃ added, (program.extend line statement).effects = program.effects ++ added ∧
      added.countP Effect.prints = statement.prints.toNat := by
  cases statement with
  | skip => exact ⟨[], (List.append_nil _).symm, rfl⟩
  | discard name =>
      simp only [extend]
      split
      · exact ⟨[], (List.append_nil _).symm, rfl⟩
      · exact ⟨[], (List.append_nil _).symm, rfl⟩
  | print argument =>
      simp only [extend] at sound ⊢
      cases number : argument.int64? with
      | some value => exact ⟨_, rfl, rfl⟩
      | none =>
          cases found : program.lookup? argument with
          | some binding => exact ⟨_, rfl, rfl⟩
          | none => simp [number, found, complain] at sound
  | panic message => exact ⟨_, rfl, rfl⟩
  | declare column => exact ⟨[], (List.append_nil _).symm, rfl⟩
  | bind name value =>
      simp only [extend]
      repeat' split
      all_goals exact ⟨[], (List.append_nil _).symm, rfl⟩
  | unknown word => exact ⟨[], (List.append_nil _).symm, rfl⟩

/-- Lines that nothing is wrong with add one printing effect for each call of
`println`. -/
theorem exists_effects_extendAll_eq
    {program : Program}
    {number : Nat}
    {lines : List Text}
    (sound : (program.extendAll number lines).complaints = []) :
    ∃ added, (program.extendAll number lines).effects = program.effects ++ added ∧
      added.countP Effect.prints = lines.countP printsLine := by
  induction lines generalizing program number with
  | nil => exact ⟨[], (List.append_nil _).symm, rfl⟩
  | cons line rest inductionHypothesis =>
      rw [extendAll] at sound ⊢
      obtain ⟨later, effects, printed⟩ := inductionHypothesis sound
      have soundBefore :
          (program.extend number (.ofLine line.trim)).complaints = [] := by
        rw [← List.prefix_nil, ← sound]
        exact complaints_prefix_extendAll _ (number + 1) rest
      obtain ⟨now, effectsNow, printedNow⟩ := exists_effects_extend_eq soundBefore
      refine ⟨now ++ later, ?_, ?_⟩
      · rw [effects, effectsNow, List.append_assoc]
      · rw [List.countP_append, printed, printedNow, Statement.prints_ofLine, List.countP_cons,
          Nat.add_comm, printsLine]
        cases (between? "println(".toList ")".toList line.trim).isSome <;> rfl

/-- Nothing is wrong with a program exactly when there are neither complaints nor
variables that nothing uses. -/
theorem allComplaints_eq_nil_iff (program : Program) :
    program.allComplaints = [] ↔ program.complaints = [] ∧ program.unused = [] := by
  rw [← List.length_eq_zero_iff, allComplaints, List.length_mergeSort, List.length_eq_zero_iff,
    List.append_eq_nil_iff, List.map_eq_nil_iff]

end Program

/-- A program in which nothing is wrong is executed. -/
theorem simulate_of_sound
    {source : Text}
    (marker : Text)
    (sound : (compile source).allComplaints = []) :
    simulate source marker =
      .ofOutput (execute (compile source).effects).1 (execute (compile source).effects).2 := by
  rw [simulate, sound]
  rfl

/-- A program in which something is wrong is reported about. -/
theorem simulate_of_wrong
    {source : Text}
    (marker : Text)
    (wrong : (compile source).allComplaints ≠ []) :
    simulate source marker =
      .ofOutput
        ("# command-line-arguments\n".toList ++
          (compile source).allComplaints.flatMap (complaintLine marker))
        false := by
  rw [simulate, List.isEmpty_eq_false_iff.mpr wrong]
  rfl

/-- A simulated run succeeds when nothing is wrong with the program and it ends. -/
theorem simulate_of_success
    {source marker : Text}
    (succeeded : (simulate source marker).success = true) :
    (compile source).complaints = [] ∧
      execute (compile source).effects = ((simulate source marker).output, true) := by
  by_cases sound : (compile source).allComplaints = []
  · rw [simulate_of_sound marker sound] at succeeded ⊢
    exact ⟨((Program.allComplaints_eq_nil_iff _).mp sound).1, Prod.ext rfl succeeded⟩
  · rw [simulate_of_wrong marker sound] at succeeded
    cases succeeded

end Miniature
end Turnwise
