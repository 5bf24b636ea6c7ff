import Turnwise.Proofs.Miniature.Reports

/-!
# What discards change in a program

A program with discards declares the same variables as the program without them.  Discards
use the variables that are declared before them, and move the lines after them.  So the
variables of the program with discards are those of the program without, repaired one by
one, in either placement and whatever the new statement holds.
-/

namespace Turnwise
namespace Miniature

open Turnwise.Composition (closedStatement discard)

/-! ## Repaired variables -/

/-- Whether discards use a name; one that ends in an opening brace is read as the beginning
of a block. -/
def isDiscarded (names : List Text) (name : Text) : Bool :=
  names.contains name && !Text.endsIn '\x7b' name

theorem isDiscarded_cons
    (head : Text)
    (names : List Text)
    (name : Text) :
    isDiscarded (head :: names) name = (isDiscarded [head] name || isDiscarded names name) := by
  simp only [isDiscarded, List.contains_cons, List.contains_nil, Bool.or_false,
    Bool.and_or_distrib_right]

/-- A name without braces is used by its discard. -/
theorem isDiscarded_of_mem
    {names : List Text}
    {name : Text}
    (present : name ∈ names)
    (braceless : '\x7b' ∉ name) :
    isDiscarded names name = true := by
  rw [isDiscarded, List.contains_iff_mem.mpr present, Text.endsIn_of_not_mem braceless]
  rfl

namespace Binding

/-- A variable after discards of some names. -/
def discarded (names : List Text) (binding : Binding) : Binding :=
  { binding with used := binding.used || isDiscarded names binding.name }

theorem discarded_nil (binding : Binding) : binding.discarded [] = binding := by
  simp [discarded, isDiscarded]

theorem discarded_cons
    (head : Text)
    (names : List Text)
    (binding : Binding) :
    binding.discarded (head :: names) = (binding.discarded [head]).discarded names := by
  simp only [discarded, isDiscarded_cons head names, Bool.or_assoc]

/-- A variable of a program, as it is when discards of some names stand before a given
line. -/
def repaired (names : List Text) (first : Nat) (binding : Binding) : Binding :=
  if binding.line < first then binding.discarded names
  else { binding with line := binding.line + names.length }

variable {names : List Text}
variable {first : Nat}
variable {binding : Binding}

theorem repaired_of_lt
    (before : binding.line < first) :
    binding.repaired names first = binding.discarded names :=
  if_pos before

theorem repaired_of_le
    (after : first ≤ binding.line) :
    binding.repaired names first = { binding with line := binding.line + names.length } :=
  if_neg (Nat.not_lt.mpr after)

@[simp] theorem name_repaired
    (names : List Text)
    (first : Nat)
    (binding : Binding) :
    (binding.repaired names first).name = binding.name := by
  unfold repaired
  split <;> rfl

/-- A repaired variable is used when it was used before or is discarded after its
declaration. -/
theorem used_repaired
    (names : List Text)
    (first : Nat)
    (binding : Binding) :
    (binding.repaired names first).used =
      (binding.used || (decide (binding.line < first) && isDiscarded names binding.name)) := by
  unfold repaired
  split
  · rename_i before
    simp [discarded, before]
  · rename_i after
    simp [after]

theorem line_le_repaired
    (names : List Text)
    (first : Nat)
    (binding : Binding) :
    binding.line ≤ (binding.repaired names first).line := by
  unfold repaired
  split
  · exact Nat.le_refl _
  · exact Nat.le_add_right _ _

theorem repaired_line_le
    (names : List Text)
    (first : Nat)
    (binding : Binding) :
    (binding.repaired names first).line ≤ binding.line + names.length := by
  unfold repaired
  split
  · exact Nat.le_add_right _ _
  · exact Nat.le_refl _

/-- Repairing commutes with using. -/
theorem repaired_used
    (names : List Text)
    (first : Nat)
    (binding : Binding) :
    ({ binding with used := true } : Binding).repaired names first =
      { binding.repaired names first with used := true } := by
  simp only [repaired]
  split <;> rfl

end Binding

/-! ## The lines of discards -/

/-- A discard of a name is one line. -/
theorem lines_discards
    {names : List Text}
    (named : ∀ name ∈ names, IsName name) :
    (names.map discard).flatMap (Text.lines ∘ closedStatement) = names.map discard := by
  rw [List.flatMap_map, List.map_eq_flatMap]
  apply List.flatMap_congr
  intro name present
  have isName := named name present
  obtain ⟨rest, c, whole, visible⟩ := isName.exists_concat
  have other : c ≠ '\r' := by
    rintro rfl
    cases visible
  have kept : Text.dropFinal '\r' (Composition.discard name) = Composition.discard name := by
    rw [Composition.discard, whole, ← List.append_assoc, Text.dropFinal_concat_of_ne other]
  exact (Composition.lines_closedStatement_discard isName.toDiscardable).trans
    (congrArg List.singleton kept)

namespace Program

variable {program other : Program}
variable {number first : Nat}
variable {names : List Text}

theorem bindings_use_of_lookup?_eq_none
    {name : Text}
    (absent : program.lookup? name = none) :
    (program.use name).bindings = program.bindings := by
  have unnamed (binding : Binding) (present : binding ∈ program.bindings) :
      (binding.name == name) = false := by
    simpa using List.find?_eq_none.mp absent binding present
  rw [use]
  nth_rewrite 2 [← List.map_id program.bindings]
  apply List.map_congr_left
  intro binding present
  rw [unnamed binding present]
  rfl

/-- A discard of a name uses the variable with this name, if it is declared. -/
theorem bindings_extend_discard
    {name : Text}
    (isName : IsName name) :
    (program.extend number (.ofLine (Text.trim (discard name)))).bindings =
      program.bindings.map (Binding.discarded [name]) := by
  have marked (braceless : Text.endsIn '\x7b' name = false) :
      (program.use name).bindings = program.bindings.map (Binding.discarded [name]) := by
    apply List.map_congr_left
    intro binding _
    by_cases same : binding.name = name
    · simp [Binding.discarded, isDiscarded, same, braceless]
    · simp [Binding.discarded, isDiscarded, same]
  rw [isName.trim_discard, Statement.ofLine_discard isName]
  split
  · rename_i opens
    -- The line opens a block and uses nothing.
    have kept (binding : Binding) : binding.discarded [name] = binding := by
      by_cases same : binding.name = name
      · subst same
        simp [Binding.discarded, isDiscarded, opens]
      · simp [Binding.discarded, isDiscarded, same]
    rw [funext kept]
    exact (List.map_id _).symm
  · rename_i braceless
    rw [← marked (by simpa using braceless)]
    cases found : program.lookup? name with
    | some binding => simp only [extend, found]
    | none =>
        simp only [extend, found]
        exact (bindings_use_of_lookup?_eq_none found).symm

/-- Discards use the variables with their names. -/
theorem bindings_extendAll_discards
    (named : ∀ name ∈ names, IsName name) :
    (program.extendAll number (names.map discard)).bindings =
      program.bindings.map (Binding.discarded names) := by
  induction names generalizing program number with
  | nil =>
      rw [funext Binding.discarded_nil]
      exact (List.map_id _).symm
  | cons name rest inductionHypothesis =>
      rw [List.map_cons, extendAll,
        inductionHypothesis fun other present => named other (List.mem_cons_of_mem name present),
        bindings_extend_discard (named name List.mem_cons_self), List.map_map]
      apply List.map_congr_left
      intro binding _
      exact (Binding.discarded_cons name rest binding).symm

/-- Discards of declared variables are no mistake. -/
theorem complaints_extendAll_discards
    (named : ∀ name ∈ names, IsName name)
    (declared : names ⊆ program.bindings.map Binding.name) :
    (program.extendAll number (names.map discard)).complaints = program.complaints := by
  induction names generalizing program number with
  | nil => rfl
  | cons name rest inductionHypothesis =>
      have isName := named name List.mem_cons_self
      have sameNames :
          (program.extend number (.ofLine (Text.trim (discard name)))).bindings.map
            Binding.name = program.bindings.map Binding.name := by
        rw [bindings_extend_discard isName, List.map_map]
        rfl
      have sound : (program.extend number (.ofLine (Text.trim (discard name)))).complaints =
          program.complaints := by
        rw [isName.trim_discard, Statement.ofLine_discard isName]
        split
        · rfl
        · cases found : program.lookup? name with
          | some binding =>
              simp only [extend, found]
              rfl
          | none =>
              exact absurd (declared List.mem_cons_self)
                ((program.lookup?_eq_none_iff name).mp found)
      rw [List.map_cons, extendAll, inductionHypothesis, sound]
      · exact fun other present => named other (List.mem_cons_of_mem name present)
      · rw [sameNames]
        exact List.Subset.trans (List.subset_cons_self name rest) declared

/-! ## The lines after discards -/

theorem lookup?_of_repaired
    (corresponds : other.bindings = program.bindings.map (Binding.repaired names first))
    (name : Text) :
    other.lookup? name = (program.lookup? name).map (Binding.repaired names first) := by
  rw [lookup?, corresponds, List.find?_map]
  congr 2
  funext binding
  rw [Function.comp_apply, Binding.name_repaired]

theorem bindings_use_of_repaired
    (corresponds : other.bindings = program.bindings.map (Binding.repaired names first))
    (name : Text) :
    (other.use name).bindings =
      (program.use name).bindings.map (Binding.repaired names first) := by
  rw [use, use, corresponds, List.map_map, List.map_map]
  apply List.map_congr_left
  intro binding _
  rw [Function.comp_apply, Function.comp_apply]
  by_cases same : binding.name = name
  · rw [if_pos (by simp [same]), if_pos (by simp [same])]
    exact (Binding.repaired_used names first binding).symm
  · rw [if_neg (by simp [same]), if_neg (by simp [same])]

/-- A statement after the discards does to the repaired variables what it does to the
variables without discards, further down. -/
theorem bindings_extend_repaired
    (corresponds : other.bindings = program.bindings.map (Binding.repaired names first))
    (after : first ≤ number)
    (statement : Statement) :
    (other.extend (number + names.length) statement).bindings =
      (program.extend number statement).bindings.map (Binding.repaired names first) := by
  have found := lookup?_of_repaired corresponds
  have used := bindings_use_of_repaired corresponds
  cases statement with
  | skip => exact corresponds
  | discard name =>
      simp only [extend, found]
      cases program.lookup? name with
      | some binding => exact used name
      | none => exact corresponds
  | print argument =>
      simp only [extend, found]
      cases argument.int64? with
      | some value => exact corresponds
      | none =>
          cases program.lookup? argument with
          | some binding => exact used argument
          | none => exact corresponds
  | panic message => exact corresponds
  | declare column => exact corresponds
  | bind name value =>
      simp only [extend, found]
      cases program.lookup? name with
      | some binding => exact corresponds
      | none =>
          cases value.int64? with
          | some initial =>
              simp only [Option.map_none, declare, corresponds, List.map_append, List.map_cons,
                List.map_nil]
              rw [Binding.repaired_of_le after]
          | none => exact corresponds
  | unknown word => exact corresponds

/-- The same of all lines after the discards. -/
theorem bindings_extendAll_repaired
    (corresponds : other.bindings = program.bindings.map (Binding.repaired names first))
    (after : first ≤ number)
    (lines : List Text) :
    (other.extendAll (number + names.length) lines).bindings =
      (program.extendAll number lines).bindings.map (Binding.repaired names first) := by
  induction lines generalizing program other number with
  | nil => exact corresponds
  | cons line rest inductionHypothesis =>
      rw [extendAll, extendAll, Nat.add_right_comm]
      exact inductionHypothesis (bindings_extend_repaired corresponds after _) (by omega)

/-- Discards between lines repair the variables of the program without them. -/
theorem WellFormed.bindings_extendAll_discards
    {before : List Text}
    (wellFormed : (program.extendAll number before).WellFormed (number + before.length))
    (named : ∀ name ∈ names, IsName name)
    (after : List Text) :
    (program.extendAll number (before ++ (names.map discard ++ after))).bindings =
      (program.extendAll number (before ++ after)).bindings.map
        (Binding.repaired names (number + before.length)) := by
  rw [extendAll_append, extendAll_append, extendAll_append, List.length_map]
  apply bindings_extendAll_repaired _ (Nat.le_refl _)
  rw [Program.bindings_extendAll_discards named]
  apply List.map_congr_left
  intro binding present
  exact (Binding.repaired_of_lt (wellFormed.bounded binding present)).symm

end Program

/-! ## Composed programs -/

/-- The line of a program where its discards begin. -/
def repairLine (session : Session) (placement : Placement) (candidate : Text) : Nat :=
  match placement with
  | .before => session.confirmed.lines.length + 1
  | .after => session.confirmed.lines.length + 1 + (closedStatement candidate).lines.length

section Compose

variable {names : List Text}
variable {session : Session}
variable {placement : Placement}
variable {candidate : Text}

/-- A program goes on after the confirmed text with the lines of the new statement and of its
discards. -/
theorem compile_compose
    (session : Session)
    (placement : Placement)
    (candidate : Text)
    (fixes : List Text) :
    compile (session.compose placement candidate fixes) =
      (compile session.confirmed).extendAll (session.confirmed.lines.length + 1)
        ((Composition.arrange placement candidate fixes).flatMap
          (Text.lines ∘ closedStatement) ++ [Composition.closing]) := by
  rw [Session.compose_eq_confirmed_append,
    compile_append session.closed_confirmed (exists_entryLine_confirmed session),
    Composition.lines_flatMap_closedStatement_closing]

/-- Without discards, a program is the same in either placement. -/
theorem compile_compose_nil
    (session : Session)
    (placement : Placement)
    (candidate : Text) :
    compile (session.compose placement candidate []) =
      (compile session.confirmed).extendAll (session.confirmed.lines.length + 1)
        (closedStatement candidate).lines := by
  rw [compile_compose, Composition.arrange_nil, List.flatMap_singleton,
    Program.extendAll_append]
  rfl

theorem wellFormed_confirmed_candidate
    (session : Session)
    (candidate : Text) :
    ((compile session.confirmed).extendAll (session.confirmed.lines.length + 1)
      (closedStatement candidate).lines).WellFormed
        (session.confirmed.lines.length + 1 + (closedStatement candidate).lines.length) :=
  (wellFormed_compile session.confirmed).extendAll fun _ present =>
    Text.newline_not_mem_of_mem_lines present

/-- The variables of a program with discards are those of the program without discards,
repaired. -/
theorem bindings_compile_compose
    (session : Session)
    (placement : Placement)
    (candidate : Text)
    (named : ∀ name ∈ names, IsName name) :
    (compile (session.compose placement candidate (names.map discard))).bindings =
      (compile (session.compose placement candidate [])).bindings.map
        (Binding.repaired names (repairLine session placement candidate)) := by
  rw [compile_compose, compile_compose]
  cases placement with
  | before =>
      have wellFormed : ((compile session.confirmed).extendAll
          (session.confirmed.lines.length + 1) []).WellFormed
            (session.confirmed.lines.length + 1 + ([] : List Text).length) :=
        wellFormed_compile session.confirmed
      have repaired := wellFormed.bindings_extendAll_discards named
        ((closedStatement candidate).lines ++ [Composition.closing])
      simpa [Composition.arrange, lines_discards named, repairLine] using repaired
  | after =>
      have wellFormed := wellFormed_confirmed_candidate session candidate
      have repaired := wellFormed.bindings_extendAll_discards named [Composition.closing]
      simpa [Composition.arrange, lines_discards named, repairLine] using repaired

/-- With discards, the variables that nothing uses are those that the discards do not use
either. -/
theorem unused_compile_compose
    (session : Session)
    (placement : Placement)
    (candidate : Text)
    (named : ∀ name ∈ names, IsName name) :
    (compile (session.compose placement candidate (names.map discard))).unused =
      ((compile (session.compose placement candidate [])).unused.filter fun binding =>
        !(decide (binding.line < repairLine session placement candidate) &&
          isDiscarded names binding.name)).map
        (Binding.repaired names (repairLine session placement candidate)) := by
  rw [Program.unused, bindings_compile_compose session placement candidate named,
    List.filter_map, Program.unused, List.filter_filter]
  congr 2
  funext binding
  rw [Function.comp_apply, Binding.used_repaired, Bool.not_or, Bool.and_comm]

/-- Discards add nothing to what is reported. -/
theorem reported_compile_compose_subset
    (session : Session)
    (placement : Placement)
    (candidate : Text)
    (named : ∀ name ∈ names, IsName name) :
    (compile (session.compose placement candidate (names.map discard))).reported ⊆
      (compile (session.compose placement candidate [])).reported := by
  rw [Program.reported, unused_compile_compose session placement candidate named]
  intro name present
  obtain ⟨repaired, chosen, rfl⟩ := List.mem_map.mp present
  obtain ⟨unused, inRange⟩ := List.mem_filter.mp chosen
  obtain ⟨binding, remaining, rfl⟩ := List.mem_map.mp unused
  rw [Binding.name_repaired]
  apply List.mem_map_of_mem
  refine List.mem_filter.mpr ⟨List.mem_of_mem_filter remaining, ?_⟩
  exact decide_eq_true ((binding.line_le_repaired names _).trans_lt (of_decide_eq_true inRange))

/-- Without unused variables left, each variable that nothing used is discarded. -/
theorem mem_of_unused_compile_compose_eq_nil
    {binding : Binding}
    (named : ∀ name ∈ names, IsName name)
    (clean : (compile (session.compose placement candidate (names.map discard))).unused = [])
    (unused : binding ∈ (compile (session.compose placement candidate [])).unused) :
    binding.name ∈ names := by
  rw [unused_compile_compose session placement candidate named, List.map_eq_nil_iff,
    List.filter_eq_nil_iff] at clean
  have repaired := clean binding unused
  simp only [isDiscarded, Bool.not_eq_true, Bool.not_eq_false', Bool.and_eq_true,
    List.contains_iff_mem] at repaired
  exact repaired.2.1

/-- With discards after the new statement, the variables that nothing uses are those that are
not discarded either, and they stand where they stood. -/
theorem unused_compile_compose_after
    (session : Session)
    (candidate : Text)
    (named : ∀ name ∈ names, IsName name) :
    (compile (session.compose .after candidate (names.map discard))).unused =
      (compile (session.compose .after candidate [])).unused.filter fun binding =>
        !isDiscarded names binding.name := by
  have before : ∀ binding ∈ (compile (session.compose .after candidate [])).unused,
      binding.line < repairLine session .after candidate := by
    intro binding unused
    have declared := List.mem_of_mem_filter unused
    rw [compile_compose_nil] at declared
    exact (wellFormed_confirmed_candidate session candidate).bounded binding declared
  have sameFilter : (compile (session.compose .after candidate [])).unused.filter
        (fun binding => !(decide (binding.line < repairLine session .after candidate) &&
          isDiscarded names binding.name)) =
      (compile (session.compose .after candidate [])).unused.filter fun binding =>
        !isDiscarded names binding.name := by
    apply List.filter_congr
    intro binding unused
    rw [decide_eq_true (before binding unused), Bool.true_and]
  rw [unused_compile_compose session .after candidate named, sameFilter]
  nth_rewrite 2 [← List.map_id (List.filter _ _)]
  apply List.map_congr_left
  intro binding remaining
  obtain ⟨unused, kept⟩ := List.mem_filter.mp remaining
  rw [Binding.repaired_of_lt (before binding unused), Binding.discarded]
  rw [Bool.not_eq_true'] at kept
  rw [kept, Bool.or_false]
  rfl

/-- Discards after the new statement use all variables with their names. -/
theorem unused_compile_compose_after_eq_nil
    (named : ∀ name ∈ names, IsName name)
    (covered : ∀ binding ∈ (compile (session.compose .after candidate [])).unused,
      binding.name ∈ names ∧ '\x7b' ∉ binding.name) :
    (compile (session.compose .after candidate (names.map discard))).unused = [] := by
  rw [unused_compile_compose_after session candidate named, List.filter_eq_nil_iff]
  intro binding unused
  obtain ⟨chosen, braceless⟩ := covered binding unused
  rw [isDiscarded_of_mem chosen braceless]
  exact Bool.false_ne_true

/-- Discards before the new statement use the variables of the confirmed text with their
names, and no others. -/
theorem names_unused_compile_compose_before
    (named : ∀ name ∈ names, IsName name)
    (covered : ∀ binding ∈ (compile (session.compose .before candidate [])).unused,
      binding.name ∈ names ∧ '\x7b' ∉ binding.name) :
    (compile (session.compose .before candidate (names.map discard))).unused.map Binding.name =
      ((compile (session.compose .before candidate [])).unused.filter fun binding =>
        session.confirmed.lines.length < binding.line).map Binding.name := by
  rw [unused_compile_compose session .before candidate named, List.map_map]
  have sameNames : Binding.name ∘ Binding.repaired names (repairLine session .before candidate) =
      Binding.name :=
    funext fun binding => binding.name_repaired names _
  rw [sameNames]
  apply congrArg
  apply List.filter_congr
  intro binding unused
  obtain ⟨chosen, braceless⟩ := covered binding unused
  rw [isDiscarded_of_mem chosen braceless, Bool.and_true, repairLine, ← decide_not,
    decide_eq_decide]
  omega

/-- Discards after the new statement are no mistakes when their variables are declared. -/
theorem complaints_compile_compose_after
    (named : ∀ name ∈ names, IsName name)
    (declared : names ⊆ (compile (session.compose .after candidate [])).bindings.map
      Binding.name) :
    (compile (session.compose .after candidate (names.map discard))).complaints =
      (compile (session.compose .after candidate [])).complaints := by
  rw [compile_compose_nil] at declared ⊢
  rw [compile_compose, Composition.arrange, List.flatMap_cons, lines_discards named,
    List.append_assoc, Program.extendAll_append, Program.extendAll_append]
  exact Program.complaints_extendAll_discards named declared

end Compose

end Miniature
end Turnwise
