import Mathlib.Data.List.Nodup
import Turnwise.Proofs.Diagnostic.Rendering
import Turnwise.Proofs.Miniature.Meaning

/-!
# What compilation declares

A program declares each variable on a line of its own and each name once, so its variables
stand in the order of their lines.  A name is what remains of a part of a line without the
blanks at its ends.  Complaints other than those about unused variables never look like
them.  All this holds of every program that is compiled from lines, whatever the lines are.
-/

namespace Turnwise
namespace Miniature

/-! ## Names -/

/-- A name that a line can declare. -/
structure IsName (name : Text) : Prop extends Diagnostic.Discardable name where
  /-- It has no blanks at its ends. -/
  trimmed : name.trim = name

namespace IsName

variable {name : Text}

theorem ne_nil (isName : IsName name) : name ≠ [] := by
  rintro rfl
  cases isName.visible

/-- A name ends in a visible character. -/
theorem exists_concat (isName : IsName name) :
    ∃ rest c, name = rest ++ [c] ∧ Text.isBlank c = false :=
  Text.exists_concat_of_trimmed isName.trimmed isName.ne_nil

/-- Nothing that is blank is dropped at the end of a name. -/
theorem dropEndWhile_append
    (isName : IsName name)
    {test : Char → Bool}
    (blank : ∀ c, test c = true → Text.isBlank c = true)
    (first : Text) :
    Text.dropEndWhile test (first ++ name) = first ++ name := by
  obtain ⟨rest, c, rfl, visible⟩ := isName.exists_concat
  have kept : test c = false := by
    rw [← Bool.not_eq_true]
    intro drops
    rw [blank c drops] at visible
    cases visible
  rw [← List.append_assoc]
  exact List.rdropWhile_concat_neg _ _ _ (by simp [kept])

theorem trimEnd_append
    (isName : IsName name)
    (first : Text) :
    Text.trimEnd (first ++ name) = first ++ name :=
  isName.dropEndWhile_append (fun _ blank => blank) first

theorem unreturned_append
    (isName : IsName name)
    (first : Text) :
    Diagnostic.unreturned (first ++ name) = first ++ name := by
  apply isName.dropEndWhile_append
  intro c equal
  rw [beq_iff_eq.mp equal]
  rfl

/-- A discard of a name has no blanks at its ends. -/
theorem trim_discard (isName : IsName name) :
    Text.trim (Composition.discard name) = Composition.discard name :=
  (Text.trim_cons_of_visible (c := '_') rfl (" = ".toList ++ name)).trans
    (isName.trimEnd_append "_ = ".toList)

theorem endsIn_append
    (isName : IsName name)
    (final : Char)
    (first : Text) :
    Text.endsIn final (first ++ name) = Text.endsIn final name := by
  rw [Text.endsIn, Text.endsIn, List.getLast?_append_of_ne_nil _ isName.ne_nil]

end IsName

/-! ## Statements on one line -/

namespace Statement

/-- Whether all names and values of a statement stand on one line, and what it declares is a
name. -/
def IsOneLine : Statement → Prop
  | .discard name => '\n' ∉ name
  | .print argument => '\n' ∉ argument
  | .bind name value => IsName name ∧ '\n' ∉ value
  | .unknown word => '\n' ∉ word
  | _ => True

/-- What stands before an assignment is a name. -/
theorem isName_of_cutAt?
    {line before rest : Text}
    (newlineFree : '\n' ∉ line)
    (cut : Text.cutAt? " := ".toList line.trim = some (before, rest)) :
    IsName before.trim := by
  have whole := Text.append_of_cutAt? cut
  -- The line is trimmed, so the blank before the sign of assignment is not its first
  -- character, and something visible stands before it.
  have visible : before.blank = false := by
    cases before with
    | nil => cases Text.visible_of_trim_eq_cons whole.symm
    | cons c tail => simp [Text.blank, Text.visible_of_trim_eq_cons whole.symm]
  refine ⟨⟨Text.blank_trim_of_not_blank visible, ?_⟩, Text.trim_trim before⟩
  intro present
  apply newlineFree
  apply Text.mem_of_mem_trim
  rw [← whole]
  exact List.mem_append_left _ (Text.mem_of_mem_trim present)

/-- A line is read as a statement on one line. -/
theorem isOneLine_ofLine
    {line : Text}
    (newlineFree : '\n' ∉ line) :
    (ofLine line.trim).IsOneLine := by
  have inside {part : Text} (contained : part ⊆ line.trim) : '\n' ∉ part := fun present =>
    newlineFree (Text.mem_of_mem_trim (contained present))
  unfold ofLine
  split
  · trivial
  split
  · rename_i name discards
    rw [Text.after?_eq_some_iff] at discards
    apply inside
    rw [← discards]
    exact List.subset_append_right _ _
  split
  · rename_i argument prints
    rw [between?, Option.bind_eq_some_iff] at prints
    obtain ⟨rest, begins, ends⟩ := prints
    rw [Text.after?_eq_some_iff] at begins
    rw [Text.upTo?_eq_some_iff] at ends
    apply inside
    rw [← begins, ← ends]
    exact List.Subset.trans (List.subset_append_left _ _) (List.subset_append_right _ _)
  split
  · trivial
  split
  · trivial
  split
  · rename_i before rest cut
    refine ⟨isName_of_cutAt? newlineFree cut, ?_⟩
    intro present
    refine inside ?_ (Text.mem_of_mem_trim present)
    rw [← Text.append_of_cutAt? cut]
    exact List.Subset.trans (List.subset_append_right _ _) (List.subset_append_right _ _)
  · rw [IsOneLine]
    cases split : line.trim.words with
    | nil => exact inside (List.Subset.refl _)
    | cons word rest =>
        have first : word ∈ line.trim.words := by
          rw [split]
          exact List.mem_cons_self
        exact inside fun c contained => Text.mem_of_mem_word first contained

/-- A discard of a name is read as such, unless the name ends in an opening brace. -/
theorem ofLine_discard
    {name : Text}
    (isName : IsName name) :
    ofLine (Composition.discard name) =
      if Text.endsIn '\x7b' name then .skip else .discard name := by
  have discards : Text.after? "_ = ".toList (Composition.discard name) = some name :=
    Text.after?_eq_some_iff.mpr rfl
  have opens : Text.endsIn '\x7b' (Composition.discard name) = Text.endsIn '\x7b' name :=
    isName.endsIn_append _ _
  have nonempty : (Composition.discard name).isEmpty = false := rfl
  have closes : (Composition.discard name == ['\x7d']) = false := rfl
  rw [ofLine, discards, opens, nonempty, closes, Bool.false_or, Bool.false_or]

end Statement

/-! ## Complaints -/

/-- A complaint that reads as it is written and is not about an unused variable. -/
structure Complaint.Ordinary (complaint : Complaint) : Prop where
  /-- The message stands on its line. -/
  legible : Diagnostic.Legible complaint.message
  /-- It does not begin as the message about an unused variable. -/
  unmarked : Text.after? Diagnostic.unusedMarker complaint.message = none

theorem legible_append
    {beginning rest : Text}
    (opened : ∃ c tail, beginning = c :: tail ∧ Text.isBlank c = false)
    (first : '\n' ∉ beginning)
    (second : '\n' ∉ rest) :
    Diagnostic.Legible (beginning ++ rest) := by
  obtain ⟨c, tail, rfl, visible⟩ := opened
  refine ⟨⟨c, tail ++ rest, rfl, visible⟩, ?_⟩
  rw [List.mem_append, not_or]
  exact ⟨first, second⟩

theorem ordinary_of_message
    {message : Text}
    (opened : ∃ c tail, message = c :: tail ∧ Text.isBlank c = false)
    (newlineFree : '\n' ∉ message)
    (unmarked : Text.after? Diagnostic.unusedMarker message = none)
    (line column : Nat) :
    Complaint.Ordinary ⟨line, column, message⟩ :=
  ⟨⟨opened, newlineFree⟩, unmarked⟩

namespace Program

theorem ordinary_undefined
    {name : Text}
    (newlineFree : '\n' ∉ name)
    (line column : Nat) :
    Complaint.Ordinary ⟨line, column, undefinedMessage name⟩ :=
  ⟨legible_append ⟨_, _, rfl, rfl⟩ (by decide) newlineFree, rfl⟩

theorem ordinary_unknown
    {word : Text}
    (newlineFree : '\n' ∉ word)
    (line column : Nat) :
    Complaint.Ordinary ⟨line, column, "syntax error: unexpected ".toList ++ word⟩ :=
  ⟨legible_append ⟨_, _, rfl, rfl⟩ (by decide) newlineFree, rfl⟩

theorem legible_unusedComplaint
    {binding : Binding}
    (isName : IsName binding.name) :
    Diagnostic.Legible (unusedComplaint binding).message :=
  legible_append ⟨_, _, rfl, rfl⟩ (by decide) isName.newlineFree

/-! ## Programs from lines -/

/-- A program that was compiled from the lines before a given one. -/
structure WellFormed (program : Program) (number : Nat) : Prop where
  /-- The variables stand in the order of their lines. -/
  increasing : program.bindings.Pairwise (·.line < ·.line)
  /-- They were declared before. -/
  bounded : ∀ binding ∈ program.bindings, binding.line < number
  /-- Each name was declared once. -/
  distinct : (program.bindings.map Binding.name).Nodup
  /-- Names are what lines can declare. -/
  named : ∀ binding ∈ program.bindings, IsName binding.name
  /-- Complaints are ordinary. -/
  ordinary : ∀ complaint ∈ program.complaints, complaint.Ordinary

variable {program : Program}
variable {number : Nat}

theorem wellFormed_empty (number : Nat) : empty.WellFormed number where
  increasing := .nil
  bounded _ present := nomatch present
  distinct := .nil
  named _ present := nomatch present
  ordinary _ present := nomatch present

theorem WellFormed.mono
    (wellFormed : program.WellFormed number)
    {later : Nat}
    (le : number ≤ later) :
    program.WellFormed later :=
  { wellFormed with
    bounded := fun binding present => (wellFormed.bounded binding present).trans_le le }

theorem WellFormed.complain
    {line column : Nat}
    {message : Text}
    (wellFormed : program.WellFormed number)
    (ordinary : Complaint.Ordinary ⟨line, column, message⟩) :
    (program.complain line column message).WellFormed number :=
  { wellFormed with
    ordinary := by
      intro complaint present
      rcases List.mem_append.mp present with old | new
      · exact wellFormed.ordinary complaint old
      · rw [List.mem_singleton.mp new]
        exact ordinary }

theorem WellFormed.perform
    (wellFormed : program.WellFormed number)
    (effect : Effect) :
    (program.perform effect).WellFormed number :=
  { wellFormed with }

/-- Only the marks of a variable change when it is used. -/
theorem exists_bindings_use_eq
    (program : Program)
    (name : Text) :
    ∃ mark : Binding → Binding,
      (program.use name).bindings = program.bindings.map mark ∧
      ∀ binding, (mark binding).name = binding.name ∧ (mark binding).line = binding.line := by
  refine ⟨_, rfl, ?_⟩
  intro binding
  split <;> exact ⟨rfl, rfl⟩

theorem names_use
    (program : Program)
    (name : Text) :
    (program.use name).bindings.map Binding.name = program.bindings.map Binding.name := by
  obtain ⟨mark, bindings, kept⟩ := program.exists_bindings_use_eq name
  rw [bindings, List.map_map]
  exact List.map_congr_left fun binding _ => (kept binding).1

theorem WellFormed.use
    (wellFormed : program.WellFormed number)
    (name : Text) :
    (program.use name).WellFormed number := by
  obtain ⟨mark, bindings, kept⟩ := program.exists_bindings_use_eq name
  have marked (binding : Binding) (present : binding ∈ (program.use name).bindings) :
      ∃ original ∈ program.bindings, binding.name = original.name ∧
        binding.line = original.line := by
    rw [bindings] at present
    obtain ⟨original, old, rfl⟩ := List.mem_map.mp present
    exact ⟨original, old, kept original⟩
  constructor
  · rw [bindings, List.pairwise_map]
    apply wellFormed.increasing.imp
    intro first second less
    rw [(kept first).2, (kept second).2]
    exact less
  · intro binding present
    obtain ⟨original, old, _, line⟩ := marked binding present
    rw [line]
    exact wellFormed.bounded original old
  · rw [names_use]
    exact wellFormed.distinct
  · intro binding present
    obtain ⟨original, old, name, _⟩ := marked binding present
    rw [name]
    exact wellFormed.named original old
  · exact wellFormed.ordinary

theorem lookup?_eq_none_iff
    (program : Program)
    (name : Text) :
    program.lookup? name = none ↔ name ∉ program.bindings.map Binding.name := by
  simp [lookup?, List.find?_eq_none]

/-- A new name that is declared on the next line comes last. -/
theorem WellFormed.declare
    {name : Text}
    (wellFormed : program.WellFormed number)
    (isName : IsName name)
    (fresh : program.lookup? name = none)
    (value : Int) :
    (program.declare name number value).WellFormed (number + 1) := by
  constructor
  · rw [Program.declare, List.pairwise_append]
    refine ⟨wellFormed.increasing, List.pairwise_singleton _ _, ?_⟩
    intro binding present other last
    rw [List.mem_singleton.mp last]
    exact wellFormed.bounded binding present
  · intro binding present
    rcases List.mem_append.mp present with old | new
    · exact (wellFormed.bounded binding old).trans (Nat.lt_succ_self number)
    · rw [List.mem_singleton.mp new]
      exact Nat.lt_succ_self number
  · rw [Program.declare, List.map_append]
    rw [List.map_singleton, List.nodup_append]
    refine ⟨wellFormed.distinct, List.nodup_singleton _, ?_⟩
    intro old present new last equal
    rw [equal, List.mem_singleton.mp last] at present
    exact (program.lookup?_eq_none_iff name).mp fresh present
  · intro binding present
    rcases List.mem_append.mp present with old | new
    · exact wellFormed.named binding old
    · rw [List.mem_singleton.mp new]
      exact isName
  · exact wellFormed.ordinary

/-- Compiling one more statement keeps a program well formed. -/
theorem WellFormed.extend
    {statement : Statement}
    (wellFormed : program.WellFormed number)
    (oneLine : statement.IsOneLine) :
    (program.extend number statement).WellFormed (number + 1) := by
  have later := wellFormed.mono (Nat.le_succ number)
  cases statement with
  | skip => exact later
  | discard name =>
      simp only [Program.extend]
      split
      · exact later.use name
      · exact later.complain (ordinary_undefined oneLine _ _)
  | print argument =>
      simp only [Program.extend]
      split
      · exact later.perform _
      · split
        · exact (later.use argument).perform _
        · exact later.complain (ordinary_undefined oneLine _ _)
  | panic message => exact later.perform _
  | declare column =>
      exact later.complain (ordinary_of_message ⟨_, _, rfl, rfl⟩ (by decide) rfl _ _)
  | bind name value =>
      simp only [Program.extend]
      split
      · exact later.complain (ordinary_of_message ⟨_, _, rfl, rfl⟩ (by decide) rfl _ _)
      · rename_i fresh
        split
        · exact wellFormed.declare oneLine.1 fresh _
        · exact later.complain (ordinary_undefined oneLine.2 _ _)
  | unknown word => exact later.complain (ordinary_unknown oneLine _ _)

theorem WellFormed.extendAll
    {lines : List Text}
    (wellFormed : program.WellFormed number)
    (newlineFree : ∀ line ∈ lines, '\n' ∉ line) :
    (program.extendAll number lines).WellFormed (number + lines.length) := by
  induction lines generalizing program number with
  | nil => exact wellFormed
  | cons line rest inductionHypothesis =>
      have step := wellFormed.extend
        (Statement.isOneLine_ofLine (newlineFree line List.mem_cons_self))
      have run := inductionHypothesis step fun other present =>
        newlineFree other (List.mem_cons_of_mem line present)
      rw [Program.extendAll, List.length_cons]
      exact run.mono (by omega)

/-- Compiling one more statement forgets no variable. -/
theorem names_prefix_extend
    (program : Program)
    (number : Nat)
    (statement : Statement) :
    program.bindings.map Binding.name <+:
      (program.extend number statement).bindings.map Binding.name := by
  have used (name : Text) :
      program.bindings.map Binding.name <+: (program.use name).bindings.map Binding.name := by
    simp only [names_use, List.prefix_refl]
  cases statement with
  | skip => exact List.prefix_refl _
  | discard name =>
      simp only [Program.extend]
      split
      · exact used name
      · exact List.prefix_refl _
  | print argument =>
      simp only [Program.extend]
      split
      · exact List.prefix_refl _
      · split
        · exact used argument
        · exact List.prefix_refl _
  | panic message => exact List.prefix_refl _
  | declare column => exact List.prefix_refl _
  | bind name value =>
      simp only [Program.extend]
      split
      · exact List.prefix_refl _
      · split
        · rw [Program.declare, List.map_append]
          exact List.prefix_append _ _
        · exact List.prefix_refl _
  | unknown word => exact List.prefix_refl _

theorem names_prefix_extendAll
    (program : Program)
    (number : Nat)
    (lines : List Text) :
    program.bindings.map Binding.name <+:
      (program.extendAll number lines).bindings.map Binding.name := by
  induction lines generalizing program number with
  | nil => exact List.prefix_refl _
  | cons line rest inductionHypothesis =>
      exact (program.names_prefix_extend number _).trans (inductionHypothesis _ _)

end Program

/-! ## Compiled programs -/

theorem entryLines_suffix
    (number : Nat)
    (lines : List Text) :
    (entryLines number lines).2 <:+ lines := by
  induction lines generalizing number with
  | nil => exact List.suffix_refl _
  | cons line rest inductionHypothesis =>
      rw [entryLines]
      split
      · exact List.suffix_cons line rest
      · exact (inductionHypothesis _).trans (List.suffix_cons line rest)

/-- Every program that is compiled is well formed. -/
theorem wellFormed_compile (source : Text) :
    (compile source).WellFormed (source.lines.length + 1) := by
  rw [Nat.add_comm, ← entryLines_number 1 source.lines]
  apply (Program.wellFormed_empty _).extendAll
  intro line present
  exact Text.newline_not_mem_of_mem_lines ((entryLines_suffix 1 _).subset present)

end Miniature
end Turnwise
