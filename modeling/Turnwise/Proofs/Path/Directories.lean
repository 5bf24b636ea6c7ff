import Mathlib.Data.List.DropRight
import Turnwise.Proofs.Path.Components

/-!
# A file and its directory

The path of a file is taken apart at its last component: the segments of the directory, void
segments, the name, and void segments.  The directory is what the first of these spell, and
the name is what is left of the path when it is seen from there.  The exception is a path
without a directory: its directory is the current one, written as a dot, and the path does
not begin so.
-/

namespace Turnwise
namespace Path

/-! ## Void segments -/

/-- Segments that all are void are no steps, and only these. -/
theorem steps_eq_nil_iff
    {parts : List Text} :
    steps parts = [] ↔ ∀ segment ∈ parts, isVoid segment = true := by
  rw [steps, List.map_eq_nil_iff, List.filter_eq_nil_iff]
  simp only [Bool.not_eq_true', Bool.not_eq_false]

theorem steps_singleton
    {name : Text}
    (named : isVoid name = false) :
    steps [name] = [Component.ofSegment name] := by
  rw [steps, List.filter_cons_of_pos (by rw [named]; rfl)]
  rfl

/-- Empty segments are no steps. -/
theorem steps_filter (parts : List Text) :
    steps (parts.filter (!·.isEmpty)) = steps parts := by
  rw [steps, List.filter_filter, steps]
  congr 2
  funext segment
  cases empty : segment.isEmpty <;> simp [isVoid, empty]

/-- Void segments at the end are dropped, up to a segment that says something. -/
theorem dropVoidEnd_append
    {back : List Text}
    (void : ∀ segment ∈ back, isVoid segment = true)
    (front : List Text) :
    dropVoidEnd (front ++ back) = dropVoidEnd front := by
  rw [dropVoidEnd, List.reverse_append, List.dropWhile_append_of_pos]
  · rfl
  · simpa using void

theorem dropVoidEnd_concat
    {name : Text}
    (named : isVoid name = false)
    (front : List Text) :
    dropVoidEnd (front ++ [name]) = front ++ [name] :=
  List.rdropWhile_concat_neg isVoid front name (by rw [named]; exact Bool.false_ne_true)

theorem dropVoidEnd_cons
    {name : Text}
    {back : List Text}
    (named : isVoid name = false)
    (void : ∀ segment ∈ back, isVoid segment = true)
    (front : List Text) :
    dropVoidEnd (front ++ name :: back) = front ++ [name] := by
  rw [List.append_cons, dropVoidEnd_append void, dropVoidEnd_concat named]

theorem dropSegments_zero (parts : List Text) : dropSegments 0 parts = parts := by
  cases parts <;> rfl

/-- When as many segments are passed as say something in a first part, what remains begins,
after void segments, where the second part does. -/
theorem dropWhile_dropSegments
    (first second : List Text) :
    (dropSegments (steps first).length (first ++ second)).dropWhile isVoid =
      second.dropWhile isVoid := by
  induction first with
  | nil => exact congrArg (List.dropWhile isVoid) (dropSegments_zero second)
  | cons segment first inductionHypothesis =>
      rw [← List.singleton_append, steps_append, List.length_append, List.append_assoc,
        List.singleton_append]
      cases void : isVoid segment with
      | true =>
          rw [steps_eq_nil_iff.mpr (by simpa using void), List.length_nil, Nat.zero_add]
          -- Passing drops a void segment only on the way to another one.
          cases count : (steps first).length with
          | zero =>
              rw [count, dropSegments_zero] at inductionHypothesis
              rw [dropSegments_zero, List.dropWhile_cons_of_pos void]
              exact inductionHypothesis
          | succ fewer =>
              rw [dropSegments, if_pos void, ← count]
              exact inductionHypothesis
      | false =>
          rw [steps_singleton void, List.length_singleton, Nat.add_comm, dropSegments, void]
          exact inductionHypothesis

/-! ## The last component -/

/-- The segments of a path whose last component is an entry of a directory: those of the
directory, void ones, the name of the entry, and void ones. -/
structure Divides (path : Path) (kept gap : List Text) (name : Text) (back : List Text) :
    Prop where
  /-- These are all segments. -/
  whole : segments path = kept ++ (gap ++ name :: back)
  /-- The directory does not end in void segments. -/
  closed : dropVoidEnd kept = kept
  /-- Between the directory and the name nothing is said. -/
  gap : ∀ segment ∈ gap, isVoid segment = true
  /-- The name says something. -/
  named : isVoid name = false
  /-- The name is the name of an entry. -/
  entry : name ≠ ['.', '.']
  /-- After the name nothing is said. -/
  back : ∀ segment ∈ back, isVoid segment = true

/-- A path shows a directory unless it begins with its name. -/
def Housed (path : Path) (kept : List Text) : Prop :=
  start path = .segment → kept ≠ []

theorem housed_or_bare (path : Path) (kept : List Text) :
    Housed path kept ∨ start path = .segment ∧ kept = [] := by
  by_cases housed : Housed path kept
  · exact .inl housed
  · obtain ⟨begun, empty⟩ := Classical.not_imp.mp housed
    exact .inr ⟨begun, not_not.mp empty⟩

/-- The last step is that of the last segment that says something. -/
theorem exists_last_of_getLast?_steps
    {parts : List Text}
    {last : Component}
    (found : (steps parts).getLast? = some last) :
    ∃ front name back, parts = front ++ name :: back ∧ isVoid name = false ∧
      (∀ segment ∈ back, isVoid segment = true) ∧ Component.ofSegment name = last := by
  obtain ⟨earlier, split⟩ := List.getLast?_eq_some_iff.mp found
  obtain ⟨before, ending, filtered, -, mapped⟩ := List.map_eq_append_iff.mp split
  obtain ⟨name, rfl, component⟩ := List.map_eq_singleton_iff.mp mapped
  obtain ⟨front, rest, rfl, -, remains⟩ := List.filter_eq_append_iff.mp filtered
  obtain ⟨void, back, rfl, -, named, nothing⟩ := List.filter_eq_cons_iff.mp remains
  refine ⟨front ++ void, name, back, (List.append_assoc _ _ _).symm, ?_, ?_, component⟩
  · simpa using named
  · simpa [List.filter_eq_nil_iff] using nothing

/-- A path with a file name divides at this name. -/
theorem exists_divides
    {path : Path}
    {name : Text}
    (found : fileName? path = some name) :
    ∃ kept gap back, Divides path kept gap name back := by
  have last : (components path).getLast? = some (.entry name) := by
    rw [fileName?] at found
    split at found
    next given =>
      cases found
      exact given
    next => cases found
  have stepsLast : (steps (segments path)).getLast? = some (.entry name) := by
    rw [components_eq, List.getLast?_append] at last
    cases final : (steps (segments path)).getLast? with
    | some component =>
        rw [final] at last
        exact last
    | none =>
        -- No beginning is an entry.
        rw [final] at last
        cases begun : start path <;> rw [begun] at last <;> cases last
  obtain ⟨front, final, back, whole, named, void, component⟩ :=
    exists_last_of_getLast?_steps stepsLast
  rw [Component.ofSegment] at component
  split at component
  next => cases component
  next entry =>
    cases component
    refine ⟨dropVoidEnd front, front.rtakeWhile isVoid, back, ?_, ?_, ?_, named, entry, void⟩
    · rw [whole, ← List.append_assoc]
      exact congrArg (· ++ name :: back) (List.rdropWhile_append_rtakeWhile).symm
    · exact List.rdropWhile_idempotent isVoid front
    · exact fun segment => List.mem_rtakeWhile_imp

variable {path : Path}
variable {kept gap back : List Text}
variable {name : Text}

namespace Divides

theorem components
    (divides : Divides path kept gap name back) :
    Path.components path = (start path).components ++ steps kept ++ [.entry name] := by
  rw [components_eq, divides.whole, steps_append, ← List.singleton_append, steps_append,
    steps_append, steps_eq_nil_iff.mpr divides.gap, steps_eq_nil_iff.mpr divides.back,
    steps_singleton divides.named, Component.ofSegment, if_neg divides.entry]
  simp

/-- The parent of a path is spelled by the segments of the directory. -/
theorem parent?
    (divides : Divides path kept gap name back) :
    Path.parent? path = some (assemble (start path) kept) := by
  have ends : dropVoidEnd (segments path) = kept ++ gap ++ [name] := by
    rw [divides.whole, ← List.append_assoc, dropVoidEnd_cons divides.named divides.back]
  rw [Path.parent?, ends]
  split
  next impossible => cases List.append_eq_nil_iff.mp impossible |>.2
  next =>
    rw [List.dropLast_concat, dropVoidEnd_append divides.gap, divides.closed]

theorem slashFree
    (divides : Divides path kept gap name back) :
    ∀ segment ∈ kept, '/' ∉ segment := by
  intro segment present
  refine (Path.spells path).slashFree segment ?_
  rw [divides.whole]
  exact List.mem_append_left _ present

/-- The segments of the directory, if there are any, fit the beginning of the path. -/
theorem spells
    (divides : Divides path kept gap name back)
    (nonempty : kept ≠ []) :
    Spells (start path) kept := by
  obtain ⟨-, slashFree, follow⟩ := Path.spells path
  rw [divides.whole] at slashFree follow
  obtain ⟨first, others, rfl⟩ := List.exists_cons_of_ne_nil nonempty
  refine ⟨nonempty, fun segment present => slashFree segment (List.mem_append_left _ present), ?_⟩
  cases begun : start path with
  | root => trivial
  | here =>
      rw [begun] at follow
      exact follow
  | segment =>
      rw [begun] at follow
      rcases follow with alone | ⟨leading, rest, split, named⟩
      -- The empty path has no name.
      · have impossible := (List.append_eq_nil_iff.mp (List.cons.inj alone).2).2
        cases (List.append_eq_nil_iff.mp impossible).2
      · exact .inr ⟨first, others, rfl, (List.cons.inj split).1 ▸ named⟩

/-- The directory of a path that shows one begins as the path does. -/
theorem start_directory
    (divides : Divides path kept gap name back)
    (housed : Housed path kept) :
    start (assemble (start path) kept) = start path := by
  by_cases empty : kept = []
  · subst empty
    cases begun : start path with
    | root => rfl
    | here => rfl
    | segment => exact absurd rfl (housed begun)
  · exact (divides.spells empty).start_assemble

/-- The directory consists of the steps of its segments. -/
theorem steps_directory
    (divides : Divides path kept gap name back)
    (housed : Housed path kept) :
    steps (segments (assemble (start path) kept)) = steps kept := by
  rw [segments, divides.start_directory housed, assemble, List.drop_left, ← steps_filter,
    filter_splitOn_joinWith divides.slashFree, steps_filter]

theorem components_directory
    (divides : Divides path kept gap name back)
    (housed : Housed path kept) :
    Path.components (assemble (start path) kept) = (start path).components ++ steps kept := by
  rw [components_eq, divides.start_directory housed, divides.steps_directory housed]

/-- The directory has a component. -/
theorem components_directory_ne_nil
    (divides : Divides path kept gap name back)
    (housed : Housed path kept) :
    Path.components (assemble (start path) kept) ≠ [] := by
  rw [divides.components_directory housed]
  intro nothing
  obtain ⟨begun, void⟩ := List.append_eq_nil_iff.mp nothing
  have isSegment : start path = .segment := by
    cases given : start path with
    | root =>
        rw [given] at begun
        cases begun
    | here =>
        rw [given] at begun
        cases begun
    | segment => rfl
  have empty : dropVoidEnd kept = [] :=
    List.rdropWhile_eq_nil_iff.mpr (steps_eq_nil_iff.mp void)
  exact housed isSegment (divides.closed.symm.trans empty)

theorem directory_ne_nil
    (divides : Divides path kept gap name back)
    (housed : Housed path kept) :
    assemble (start path) kept ≠ [] :=
  fun empty => divides.components_directory_ne_nil housed (congrArg Path.components empty)

/-- The directory of a path that has segments before its name. -/
theorem directoryOf_housed
    (divides : Divides path kept gap name back)
    (housed : Housed path kept) :
    directoryOf path = assemble (start path) kept := by
  rw [directoryOf, divides.parent?]
  cases spelled : assemble (start path) kept with
  | nil => exact absurd spelled (divides.directory_ne_nil housed)
  | cons c rest => rfl

/-- What is left of a path seen from its directory is its name. -/
theorem relativeTo?_housed
    (divides : Divides path kept gap name back)
    (housed : Housed path kept) :
    relativeTo? (directoryOf path) path = some name := by
  have directory := divides.components_directory housed
  have begins : (Path.components (assemble (start path) kept)).isPrefixOf
      (Path.components path) = true := by
    rw [divides.components, directory, List.isPrefixOf_iff_prefix]
    exact List.prefix_append _ _
  have passed : (segments (assemble (start path) kept)).countP (!isVoid ·) =
      (steps kept).length := by
    rw [← divides.steps_directory housed, steps, List.length_map, List.countP_eq_length_filter]
  have left : dropVoidEnds (dropSegments (steps kept).length (segments path)) = [name] := by
    rw [dropVoidEnds, divides.whole, dropWhile_dropSegments,
      List.dropWhile_append_of_pos divides.gap,
      List.dropWhile_cons_of_neg (by rw [divides.named]; exact Bool.false_ne_true)]
    exact dropVoidEnd_cons divides.named divides.back []
  have present : ¬ (Path.components (assemble (start path) kept)).isEmpty = true := by
    rw [List.isEmpty_iff]
    exact divides.components_directory_ne_nil housed
  rw [divides.directoryOf_housed housed, relativeTo?, if_pos begins, if_neg present, passed]
  exact congrArg some ((congrArg (Text.joinWith ['/']) left).trans (joinWith_singleton name))

/-- A path without a directory lies in the current one. -/
theorem directoryOf_bare
    (divides : Divides path [] gap name back)
    (begun : start path = .segment) :
    directoryOf path = ['.'] := by
  rw [directoryOf, divides.parent?, begun]
  rfl

/-- A path without a directory does not begin with the dot of the current one. -/
theorem relativeTo?_bare
    (divides : Divides path [] gap name back)
    (begun : start path = .segment) :
    relativeTo? (directoryOf path) path = none := by
  rw [divides.directoryOf_bare begun, relativeTo?, divides.components, begun]
  rfl

/-- The directory is written before the rest of the path. -/
theorem directory_prefix
    (divides : Divides path kept gap name back) :
    assemble (start path) kept <+: path := by
  conv => rhs; rw [← assemble_segments path, divides.whole]
  rw [assemble, assemble, List.prefix_append_right_inj]
  exact joinWith_prefix kept _

theorem name_mem
    (divides : Divides path kept gap name back) :
    name ∈ segments path := by
  rw [divides.whole]
  exact List.mem_append_right _ (List.mem_append_right _ List.mem_cons_self)

theorem name_infix
    (divides : Divides path kept gap name back) :
    name <:+: path := by
  conv => rhs; rw [← assemble_segments path]
  exact (infix_joinWith divides.name_mem).trans (List.suffix_append _ _).isInfix

theorem slash_not_mem
    (divides : Divides path kept gap name back) :
    '/' ∉ name :=
  (Path.spells path).slashFree name divides.name_mem

/-- The name by itself is a path of one component. -/
theorem components_name
    (divides : Divides path kept gap name back) :
    Path.components name = [.entry name] := by
  have alone : Spells .segment [name] :=
    ⟨List.cons_ne_nil _ _, by simpa using divides.slash_not_mem,
      .inr ⟨name, [], rfl, divides.named⟩⟩
  have spelled : assemble .segment [name] = name := joinWith_singleton name
  rw [← spelled, alone.components_assemble, steps_singleton divides.named, spelled,
    Component.ofSegment, if_neg divides.entry]
  rfl

/-- Between slashes, the path says what the directory says, dots, the name, and dots. -/
theorem written
    (divides : Divides path kept gap name back) :
    ∃ dots more, (∀ segment ∈ dots, segment = ['.']) ∧ (∀ segment ∈ more, segment = ['.']) ∧
      (path.splitOn '/').filter (!·.isEmpty) =
        ((assemble (start path) kept).splitOn '/').filter (!·.isEmpty) ++
          (dots ++ name :: more) := by
  have dotted {parts : List Text} (void : ∀ segment ∈ parts, isVoid segment = true) :
      ∀ segment ∈ parts.filter (!·.isEmpty), segment = ['.'] := by
    intro segment present
    obtain ⟨inside, visible⟩ := List.mem_filter.mp present
    have blank := void segment inside
    rw [Bool.not_eq_true'] at visible
    rw [isVoid, visible, Bool.false_or, beq_iff_eq] at blank
    exact blank
  have visible : (!name.isEmpty) = true := by
    rw [Bool.not_eq_true', List.isEmpty_eq_false_iff]
    rintro rfl
    cases divides.named
  have head : (name :: back).filter (!·.isEmpty) = name :: back.filter (!·.isEmpty) :=
    List.filter_cons_of_pos visible
  have fits (here : start path = .here) : kept.headD [] = [] := by
    by_cases empty : kept = []
    · rw [empty]
      rfl
    · exact (divides.spells empty).headD here
  refine ⟨gap.filter (!·.isEmpty), back.filter (!·.isEmpty), dotted divides.gap,
    dotted divides.back, ?_⟩
  conv => lhs; rw [← assemble_segments path]
  rw [filter_splitOn_assemble (Path.spells path).slashFree (Path.spells path).headD,
    filter_splitOn_assemble divides.slashFree fits, divides.whole, List.filter_append,
    List.filter_append, head, List.append_assoc]

end Divides

/-- A path seen from its directory, or as it is when it does not begin as the directory does,
is the file name and nothing else. -/
theorem components_relativeTo?_directoryOf
    (found : fileName? path = some name) :
    components ((relativeTo? (directoryOf path) path).getD path) = [.entry name] := by
  obtain ⟨kept, gap, back, divides⟩ := exists_divides found
  rcases housed_or_bare path kept with housed | ⟨begun, rfl⟩
  · rw [divides.relativeTo?_housed housed]
    exact divides.components_name
  · rw [divides.relativeTo?_bare begun, Option.getD_none, divides.components, begun]
    rfl

example : relativeTo? (directoryOf "main.go/.".toList) "main.go/.".toList = none := by decide

theorem fileName?_of_components
    (alone : components path = [.entry name]) :
    fileName? path = some name := by
  rw [fileName?, alone]
  rfl

end Path
end Turnwise
