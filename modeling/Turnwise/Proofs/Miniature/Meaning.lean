import Turnwise.Toolchain.Miniature
import Turnwise.Proofs.Composition.Lines

/-!
# Meanings of miniature programs

A run of a program depends on the values of its variables and on its effects, and on
nothing else that compilation keeps.  This part of a program is its meaning.  A line
extends the meaning in a way that does not depend on its number or on what complaints
there are, so a meaning is read off the lines one by one, and lines that do nothing can
be left out wherever they stand.
-/

namespace Turnwise
namespace Miniature

/-- What a run of a program depends on. -/
structure Meaning where
  /-- The variables with their values, in order of declaration. -/
  values : List (Text × Int)
  /-- What the program does, in order. -/
  effects : List Effect
  deriving DecidableEq, Repr

namespace Meaning

/-- The value of the variable with a given name. -/
def value? (meaning : Meaning) (name : Text) : Option Int :=
  (meaning.values.find? (·.1 == name)).map (·.2)

/-- Add an effect. -/
def perform (meaning : Meaning) (effect : Effect) : Meaning :=
  { meaning with effects := meaning.effects ++ [effect] }

/-- Add a variable. -/
def declare (meaning : Meaning) (name : Text) (value : Int) : Meaning :=
  { meaning with values := meaning.values ++ [(name, value)] }

/-- What a statement adds to a meaning; a statement that is wrong adds nothing. -/
def extend (meaning : Meaning) : Statement → Meaning
  | .print argument =>
      match argument.int64? with
      | some value => meaning.perform (.print value)
      | none =>
          match meaning.value? argument with
          | some value => meaning.perform (.print value)
          | none => meaning
  | .panic message => meaning.perform (.panic message)
  | .bind name value =>
      match meaning.value? name with
      | some _ => meaning
      | none =>
          match value.int64? with
          | some number => meaning.declare name number
          | none => meaning
  | _ => meaning

/-- What lines add to a meaning. -/
def readAll (meaning : Meaning) (lines : List Text) : Meaning :=
  lines.foldl (fun meaning line => meaning.extend (.ofLine line.trim)) meaning

@[simp] theorem readAll_cons (meaning : Meaning) (line : Text) (rest : List Text) :
    meaning.readAll (line :: rest) = (meaning.extend (.ofLine line.trim)).readAll rest := rfl

@[simp] theorem readAll_append (meaning : Meaning) (first second : List Text) :
    meaning.readAll (first ++ second) = (meaning.readAll first).readAll second :=
  List.foldl_append

end Meaning

namespace Program

/-- The part of a program that its run depends on. -/
def meaning (program : Program) : Meaning :=
  ⟨program.bindings.map fun binding => (binding.name, binding.value), program.effects⟩

@[simp] theorem meaning_complain
    (program : Program)
    (line column : Nat)
    (message : Text) :
    (program.complain line column message).meaning = program.meaning := rfl

@[simp] theorem meaning_perform
    (program : Program)
    (effect : Effect) :
    (program.perform effect).meaning = program.meaning.perform effect := rfl

@[simp] theorem meaning_declare
    (program : Program)
    (name : Text)
    (line : Nat)
    (value : Int) :
    (program.declare name line value).meaning = program.meaning.declare name value := by
  simp [meaning, declare, Meaning.declare]

/-- Using a variable changes no value. -/
@[simp] theorem meaning_use
    (program : Program)
    (name : Text) :
    (program.use name).meaning = program.meaning := by
  rw [meaning, meaning, use, List.map_map]
  congr 1
  apply List.map_congr_left
  intro binding _
  rw [Function.comp_apply]
  split <;> rfl

theorem value?_meaning
    (program : Program)
    (name : Text) :
    program.meaning.value? name = (program.lookup? name).map Binding.value := by
  rw [Meaning.value?, meaning, List.find?_map, Option.map_map]
  rfl

/-- What a statement adds to the meaning of a program depends on the meaning alone. -/
theorem meaning_extend
    (program : Program)
    (line : Nat)
    (statement : Statement) :
    (program.extend line statement).meaning = program.meaning.extend statement := by
  cases statement with
  | skip => rfl
  | discard name =>
      simp only [extend, Meaning.extend]
      split <;> simp
  | print argument =>
      simp only [extend, Meaning.extend, value?_meaning]
      cases argument.int64? with
      | some value => rfl
      | none => cases program.lookup? argument <;> simp
  | panic message => rfl
  | declare column => rfl
  | bind name value =>
      simp only [extend, Meaning.extend, value?_meaning]
      cases program.lookup? name with
      | some binding => rfl
      | none => cases value.int64? <;> simp
  | unknown word => rfl

/-- What lines add to the meaning of a program does not depend on their numbers. -/
theorem meaning_extendAll
    (program : Program)
    (number : Nat)
    (lines : List Text) :
    (program.extendAll number lines).meaning = program.meaning.readAll lines := by
  induction lines generalizing program number with
  | nil => rfl
  | cons line rest inductionHypothesis =>
      rw [extendAll, inductionHypothesis, meaning_extend, Meaning.readAll_cons]

theorem extendAll_append
    (program : Program)
    (number : Nat)
    (first second : List Text) :
    program.extendAll number (first ++ second) =
      (program.extendAll number first).extendAll (number + first.length) second := by
  induction first generalizing program number with
  | nil => rfl
  | cons line rest inductionHypothesis =>
      rw [List.cons_append, extendAll, extendAll, inductionHypothesis, List.length_cons]
      congr 1
      omega

end Program

/-! ## Programs that go on -/

/-- Once the entry point is open, all that follows belongs to it. -/
theorem entryLines_append
    {first : List Text}
    (entry : ∃ line ∈ first, line.trim = entryLine)
    (number : Nat)
    (second : List Text) :
    entryLines number (first ++ second) =
      ((entryLines number first).1, (entryLines number first).2 ++ second) := by
  induction first generalizing number with
  | nil =>
      obtain ⟨_, present, _⟩ := entry
      cases present
  | cons line rest inductionHypothesis =>
      simp only [List.cons_append, entryLines]
      split
      · rfl
      · rename_i other
        apply inductionHypothesis
        obtain ⟨opening, present, opens⟩ := entry
        rcases List.mem_cons.mp present with rfl | later
        · exact absurd (beq_iff_eq.mpr opens) other
        · exact ⟨opening, later, opens⟩

/-- The lines of the entry point are counted from the beginning of the source text. -/
theorem entryLines_number
    (number : Nat)
    (lines : List Text) :
    (entryLines number lines).1 + (entryLines number lines).2.length =
      number + lines.length := by
  induction lines generalizing number with
  | nil => rfl
  | cons line rest inductionHypothesis =>
      rw [entryLines]
      split
      · simp only [List.length_cons]
        omega
      · rw [inductionHypothesis, List.length_cons]
        omega

/-- A closed program with an open entry point is compiled before what follows it. -/
theorem compile_append
    {first : Text}
    (closed : first.Closed)
    (entry : ∃ line ∈ first.lines, line.trim = entryLine)
    (second : Text) :
    compile (first ++ second) =
      (compile first).extendAll (first.lines.length + 1) second.lines := by
  rw [Nat.add_comm, ← entryLines_number 1, compile, compile, closed.lines_append,
    entryLines_append entry]
  exact Program.extendAll_append _ _ _ _

theorem meaning_compile_append
    {first : Text}
    (closed : first.Closed)
    (entry : ∃ line ∈ first.lines, line.trim = entryLine)
    (second : Text) :
    (compile (first ++ second)).meaning = (compile first).meaning.readAll second.lines := by
  rw [compile_append closed entry, Program.meaning_extendAll]

/-! ## Lines that do nothing -/

/-- A statement that adds nothing to any meaning. -/
inductive Statement.Inert : Statement → Prop
  /-- The line is empty, or opens or closes a block. -/
  | skip : Inert .skip
  /-- The line uses a variable. -/
  | discard (name : Text) : Inert (.discard name)

theorem Meaning.extend_of_inert
    {statement : Statement}
    (inert : statement.Inert)
    (meaning : Meaning) :
    meaning.extend statement = meaning := by
  cases inert <;> rfl

theorem Meaning.readAll_of_inert
    {lines : List Text}
    (inert : ∀ line ∈ lines, (Statement.ofLine line.trim).Inert)
    (meaning : Meaning) :
    meaning.readAll lines = meaning := by
  induction lines with
  | nil => rfl
  | cons line rest inductionHypothesis =>
      rw [readAll_cons, extend_of_inert (inert line List.mem_cons_self)]
      exact inductionHypothesis fun other present =>
        inert other (List.mem_cons_of_mem line present)

/-- A line that begins as a discard is a discard, or opens a block. -/
theorem Statement.inert_ofLine_discard (identifier : Text) :
    (ofLine ("_ = ".toList ++ identifier)).Inert := by
  have discards : Text.after? "_ = ".toList ("_ = ".toList ++ identifier) = some identifier :=
    Text.after?_eq_some_iff.mpr rfl
  unfold ofLine
  split
  · exact .skip
  · rw [discards]
    exact .discard identifier

/-- The line that a discard becomes in a program does nothing. -/
theorem inert_of_mem_lines_discard
    {identifier line : Text}
    (discardable : Diagnostic.Discardable identifier)
    (present : line ∈ (Composition.closedStatement (Composition.discard identifier)).lines) :
    (Statement.ofLine line.trim).Inert := by
  rw [Composition.lines_closedStatement_discard discardable, List.mem_singleton] at present
  subst present
  have trimmed : Text.trim (Composition.discard identifier) =
      "_ = ".toList ++ Text.trimEnd identifier := by
    rw [← Text.trimEnd_append_of_not_blank _ discardable.visible]
    exact Text.trim_cons_of_visible rfl _
  rw [Text.trim_dropFinal rfl, trimmed]
  exact Statement.inert_ofLine_discard _

/-- Discards in any number and order do nothing. -/
theorem Meaning.readAll_discards
    {fixes : List Text}
    (discards : Composition.AreDiscards fixes)
    (meaning : Meaning) :
    meaning.readAll (fixes.flatMap (Text.lines ∘ Composition.closedStatement)) = meaning := by
  apply readAll_of_inert
  intro line present
  obtain ⟨fix, chosen, contains⟩ := List.mem_flatMap.mp present
  obtain ⟨identifier, discardable, rfl⟩ := discards fix chosen
  exact inert_of_mem_lines_discard discardable contains

/-- The entry point of a session is open at the place of a new statement. -/
theorem exists_entryLine_confirmed (session : Session) :
    ∃ line ∈ session.confirmed.lines, line.trim = entryLine :=
  ⟨_, session.mem_lines_confirmed, by decide⟩

/-- The meaning of a composed program is that of the new statement after the confirmed
ones; discards do nothing to it, in either placement. -/
theorem meaning_compile_compose
    {fixes : List Text}
    (discards : Composition.AreDiscards fixes)
    (session : Session)
    (placement : Placement)
    (candidate : Text) :
    (compile (session.compose placement candidate fixes)).meaning =
      (compile (session.confirmed ++ Composition.closedStatement candidate)).meaning := by
  have entry := exists_entryLine_confirmed session
  have close (meaning : Meaning) : meaning.readAll [Composition.closing] = meaning := rfl
  obtain ⟨first, last, arranged, firstDiscards, lastDiscards⟩ :=
    Composition.exists_arrange_eq discards placement candidate
  rw [Session.compose_eq_confirmed_append, meaning_compile_append session.closed_confirmed entry,
    meaning_compile_append session.closed_confirmed entry,
    Composition.lines_flatMap_closedStatement_closing, arranged, Meaning.readAll_append, close,
    List.flatMap_append, List.flatMap_cons, Meaning.readAll_append, Meaning.readAll_append,
    Meaning.readAll_discards firstDiscards, Meaning.readAll_discards lastDiscards]
  rfl

end Miniature
end Turnwise
