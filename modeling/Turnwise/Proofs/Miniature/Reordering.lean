import Turnwise.Proofs.Miniature.Settling

/-!
# Reordering discards

Discards after the new statement stand below everything that a report can name, and each
does no more than to use a variable.  So a run with discards of declared variables depends
only on which variables are discarded, whatever the order and however often each is named.
A program that already compiles does not change at all when more variables are discarded.
-/

namespace Turnwise
namespace Miniature

open Turnwise.Composition (discard)
open Session (resumed)

/-! ## Declared variables -/

/-- Whether a line of the entry point binds a name to an integer. -/
def Declares (line name : Text) : Prop :=
  ∃ value number, Statement.ofLine line.trim = .bind name value ∧ value.int64? = some number

namespace Program

/-- A statement declares the name that it binds to an integer, unless it is declared already. -/
theorem mem_names_extend_iff
    (program : Program)
    (line : Nat)
    (statement : Statement)
    (name : Text) :
    name ∈ (program.extend line statement).bindings.map Binding.name ↔
      name ∈ program.bindings.map Binding.name ∨
      ∃ value number, statement = .bind name value ∧ value.int64? = some number := by
  cases statement with
  | bind other value =>
      simp only [extend, Statement.bind.injEq]
      cases found : program.lookup? other with
      | some binding =>
          have declared : other ∈ program.bindings.map Binding.name := by
            by_contra absent
            rw [(program.lookup?_eq_none_iff other).mpr absent] at found
            cases found
          refine ⟨.inl, ?_⟩
          rintro (old | ⟨_, _, ⟨rfl, rfl⟩, _⟩)
          · exact old
          · exact declared
      | none =>
          cases integer : value.int64? with
          | some initial =>
              simp [declare, eq_comm, integer]
          | none =>
              refine ⟨.inl, ?_⟩
              rintro (old | ⟨_, _, ⟨rfl, rfl⟩, read⟩)
              · exact old
              · cases integer.symm.trans read
  | discard used =>
      simp only [extend, reduceCtorEq, false_and, exists_false, or_false]
      split
      · rw [names_use]
      · rfl
  | print argument =>
      simp only [extend, reduceCtorEq, false_and, exists_false, or_false]
      split
      · rfl
      · split
        · exact iff_of_eq (congrArg (name ∈ ·) (names_use program argument))
        · rfl
  | skip => simp [extend]
  | panic message => simp [extend, perform]
  | declare column => simp [extend, complain]
  | unknown word => simp [extend, complain]

/-- The names that a program declares are those that its lines bind to integers. -/
theorem mem_names_extendAll_iff
    (program : Program)
    (number : Nat)
    (lines : List Text)
    (name : Text) :
    name ∈ (program.extendAll number lines).bindings.map Binding.name ↔
      name ∈ program.bindings.map Binding.name ∨ ∃ line ∈ lines, Declares line name := by
  induction lines generalizing program number with
  | nil => simp [extendAll]
  | cons line rest inductionHypothesis =>
      simp only [extendAll, inductionHypothesis, mem_names_extend_iff, List.mem_cons,
        exists_eq_or_imp, or_assoc, Declares]

end Program

/-- The names that a compiled program declares are those that lines of its entry point bind
to integers. -/
theorem mem_names_compile_iff
    (source name : Text) :
    name ∈ (compile source).bindings.map Binding.name ↔
      ∃ line ∈ (entryLines 1 source.lines).2, Declares line name := by
  refine (Program.mem_names_extendAll_iff _ _ _ _).trans ?_
  simp [Program.empty]

/-! ## Runs of programs that compile -/

/-- A run of a program that compiled: it succeeded, or it printed what a panic prints at
last. -/
def Executed (run : Run) : Prop :=
  run.success = true ∨ ∃ earlier message, run.output = earlier ++ panicText message

/-- A text that ends in a line with a colon does not end as a panic does. -/
theorem append_ne_append_panicText
    {message : Text}
    (newlineFree : '\n' ∉ message)
    (report earlier panicked : Text) :
    report ++ (": ".toList ++ message) ++ ['\n'] ≠ earlier ++ panicText panicked := by
  obtain ⟨before, panicEnds⟩ := exists_panicText_eq panicked
  have ended : '\n' :: "exit status 2\n".toList = '\n' :: "exit status 2".toList ++ ['\n'] := rfl
  rw [panicEnds, ended, ← List.append_assoc before, ← List.append_assoc earlier,
    ← List.append_assoc earlier]
  intro equal
  rcases List.append_eq_append_iff.mp (List.append_cancel_right equal) with
    ⟨between, _, inside⟩ | ⟨between, _, inside⟩
  · have newline : '\n' ∈ ": ".toList ++ message := by
      rw [inside]
      exact List.mem_append_right _ List.mem_cons_self
    rcases List.mem_append.mp newline with sign | rest
    · exact absurd sign (by decide)
    · exact newlineFree rest
  · have colon : ':' ∈ '\n' :: "exit status 2".toList := by
      rw [inside]
      exact List.mem_append_right _ List.mem_cons_self
    exact absurd colon (by decide)

/-- The report about a program ends in a line about a complaint. -/
theorem exists_output_eq_of_wrong
    {source : Text}
    (marker : Text)
    (wrong : (compile source).allComplaints ≠ []) :
    ∃ report message, '\n' ∉ message ∧
      (simulate source marker).output = report ++ (": ".toList ++ message) ++ ['\n'] := by
  obtain ⟨before, last, split⟩ := (List.eq_nil_or_concat' _).resolve_left wrong
  have present : last ∈ (compile source).allComplaints := by
    rw [split]
    exact List.mem_append_right before List.mem_cons_self
  refine ⟨"# command-line-arguments\n".toList ++ (before.flatMap (complaintLine marker) ++
      (marker ++ ":".toList ++ Text.ofNat last.line ++ ":".toList ++ Text.ofNat last.column)),
    last.message, (wellFormed_compile source).newline_not_mem_message present, ?_⟩
  rw [simulate_of_wrong marker wrong, Run.ofOutput, split, List.flatMap_append,
    List.flatMap_singleton]
  simp only [complaintLine, List.append_assoc]
  rfl

/-- A run is that of a program that compiled exactly when nothing is wrong with the
program. -/
theorem executed_simulate_iff
    (source marker : Text) :
    Executed (simulate source marker) ↔ (compile source).allComplaints = [] := by
  constructor
  · intro executed
    by_contra wrong
    rcases executed with succeeded | ⟨earlier, panicked, output⟩
    · rw [simulate_of_wrong marker wrong] at succeeded
      cases succeeded
    · obtain ⟨report, message, newlineFree, reported⟩ :=
        exists_output_eq_of_wrong marker wrong
      exact append_ne_append_panicText newlineFree report earlier panicked
        (reported.symm.trans output)
  · intro sound
    rw [simulate_of_sound marker sound]
    cases ends : (execute (compile source).effects).2 with
    | true => exact .inl rfl
    | false => exact .inr (exists_output_eq_of_stops ends)

/-! ## Discards of the same variables -/

section Discards

variable {session : Session}
variable {candidate : Text}
variable {names others : List Text}

/-- Whether some names are all declared by the program of a session and a new statement,
without discards. -/
def AllDeclared (session : Session) (candidate : Text) (names : List Text) : Prop :=
  ∀ name ∈ names, ∃ line ∈ (entryLines 1 (session.compose .after candidate []).lines).2,
    Declares line name

theorem allDeclared_iff :
    AllDeclared session candidate names ↔
      ∀ name ∈ names,
        name ∈ (compile (session.compose .after candidate [])).bindings.map Binding.name :=
  forall₂_congr fun name _ => (mem_names_compile_iff _ name).symm

theorem AllDeclared.isName
    (declared : AllDeclared session candidate names) :
    ∀ name ∈ names, IsName name := by
  intro name present
  obtain ⟨binding, bound, rfl⟩ := List.mem_map.mp (allDeclared_iff.mp declared name present)
  exact (wellFormed_compile _).named binding bound

/-- A simulated run depends on what is wrong with the program and on what it does. -/
theorem simulate_congr
    {source other : Text}
    (sameComplaints : (compile source).allComplaints = (compile other).allComplaints)
    (sameEffects : (compile source).effects = (compile other).effects)
    (marker : Text) :
    simulate source marker = simulate other marker := by
  simp only [simulate, sameComplaints, sameEffects]

/-- With discards of declared variables after the new statement, a run depends only on which
unused variables remain. -/
theorem simulate_compose_congr
    (declared : AllDeclared session candidate names)
    (othersDeclared : AllDeclared session candidate others)
    (sameUnused :
      (compile (session.compose .after candidate [])).unused.filter
          (fun binding => !isDiscarded names binding.name) =
        (compile (session.compose .after candidate [])).unused.filter
          fun binding => !isDiscarded others binding.name)
    (marker : Text) :
    simulate (session.compose .after candidate (names.map discard)) marker =
      simulate (session.compose .after candidate (others.map discard)) marker := by
  apply simulate_congr
  · rw [Program.allComplaints, Program.allComplaints,
      complaints_compile_compose_after declared.isName (allDeclared_iff.mp declared),
      complaints_compile_compose_after othersDeclared.isName (allDeclared_iff.mp othersDeclared),
      unused_compile_compose_after session candidate declared.isName,
      unused_compile_compose_after session candidate othersDeclared.isName, sameUnused]
  · rw [effects_compile_compose session .after candidate declared.isName,
      effects_compile_compose session .after candidate othersDeclared.isName]

/-- Discards of more names use more variables. -/
theorem isDiscarded_mono
    (subset : names ⊆ others)
    {name : Text}
    (discarded : isDiscarded names name = true) :
    isDiscarded others name = true := by
  simp only [isDiscarded, Bool.and_eq_true, List.contains_iff_mem] at discarded ⊢
  exact ⟨subset discarded.1, discarded.2⟩

theorem isDiscarded_congr
    (same : ∀ name, name ∈ names ↔ name ∈ others)
    (name : Text) :
    isDiscarded names name = isDiscarded others name :=
  Bool.eq_iff_iff.mpr
    ⟨isDiscarded_mono fun _ => (same _).mp, isDiscarded_mono fun _ => (same _).mpr⟩

/-- Discards of more variables leave nothing unused when fewer leave nothing. -/
theorem filter_isDiscarded_eq_nil_of_subset
    (subset : names ⊆ others)
    {bindings : List Binding}
    (clean : bindings.filter (fun binding => !isDiscarded names binding.name) = []) :
    bindings.filter (fun binding => !isDiscarded others binding.name) = [] := by
  simp only [List.filter_eq_nil_iff, Bool.not_eq_true', Bool.not_eq_false] at clean ⊢
  exact fun binding present => isDiscarded_mono subset (clean binding present)

end Discards

/-- Discard variables after a new statement, all of which the program without discards
declares.  The run of the program depends only on which variables they are: its output, its
success and the diagnostics that are read from its output are the same in any order and with
any repetitions.  If the program compiles, so that it succeeds or panics, then discards of
more declared variables do not change its run. -/
theorem simulate_discards_eq
    (session : Session)
    (candidate : Text)
    (names others : List Text)
    (marker : Text)
    (declared : AllDeclared session candidate names)
    (othersDeclared : AllDeclared session candidate others) :
    let first := simulate (session.compose .after candidate (names.map discard)) marker
    let second := simulate (session.compose .after candidate (others.map discard)) marker
    ((∀ name, name ∈ names ↔ name ∈ others) → second = first) ∧
    (names ⊆ others → Executed first → second = first) := by
  intro first second
  constructor
  · intro same
    apply simulate_compose_congr othersDeclared declared
    simp only [isDiscarded_congr same]
  · intro subset executed
    have sound := (executed_simulate_iff _ marker).mp executed
    have clean := ((Program.allComplaints_eq_nil_iff _).mp sound).2
    rw [unused_compile_compose_after session candidate declared.isName] at clean
    apply simulate_compose_congr othersDeclared declared
    rw [clean, filter_isDiscarded_eq_nil_of_subset subset clean]

/-- After `x := 5` has been confirmed, the new statement declares and prints `y`. -/
theorem simulate_discards_eq_resumed :
    let candidate := "y := 6\nprintln(y)".toList
    let run (names : List Text) :=
      simulate (resumed.compose .after candidate (names.map discard)) "./main.go".toList
    AllDeclared resumed candidate ["x".toList] ∧
    AllDeclared resumed candidate ["x".toList, "y".toList] ∧
    AllDeclared resumed candidate ["y".toList, "x".toList, "y".toList] ∧
    Executed (run ["x".toList]) ∧
    run ["x".toList, "y".toList] = run ["x".toList] ∧
    run ["y".toList, "x".toList, "y".toList] = run ["x".toList, "y".toList] ∧
    (run ["x".toList]).output = "6\n".toList := by
  intro candidate run
  have one : AllDeclared resumed candidate ["x".toList] :=
    allDeclared_iff.mpr (by decide)
  have two : AllDeclared resumed candidate ["x".toList, "y".toList] :=
    allDeclared_iff.mpr (by decide)
  have three : AllDeclared resumed candidate ["y".toList, "x".toList, "y".toList] :=
    allDeclared_iff.mpr (by decide)
  have executed : Executed (run ["x".toList]) :=
    (executed_simulate_iff _ _).mpr (by decide +kernel)
  refine ⟨one, two, three, executed, ?_, ?_, by decide +kernel⟩
  · exact (simulate_discards_eq resumed candidate _ _ _ one two).2 (by decide) executed
  · exact (simulate_discards_eq resumed candidate _ _ _ two three).1 (by simp)

end Miniature
end Turnwise
