import Turnwise.Toolchain.Scripted
import Turnwise.Proofs.Turn.Accounts

/-!
# Turns that stall

A turn stalls when all bindings that its last run reports are discarded already.  From their
identifiers it leaves out each that equals the one before it.  What remains names every
binding that a discard should have repaired, in the order of their first report; but a
binding is named again whenever another one was reported in between.
-/

namespace Turnwise
namespace Turn

open Session (untitled)
open Store (oneFile)

/-! ## Equal items side by side -/

/-- Equal items stand side by side: no other stands between two of them. -/
def Grouped (items : List α) : Prop :=
  ∀ item other, [item, other, item].Sublist items → other = item

theorem grouped_cons_iff
    (head : α)
    (rest : List α) :
    Grouped (head :: rest) ↔
      Grouped rest ∧ ∀ other, [other, head].Sublist rest → other = head := by
  constructor
  · intro grouped
    refine ⟨fun item other inside => grouped item other (inside.cons head), ?_⟩
    exact fun other inside => grouped head other (inside.cons_cons head)
  · rintro ⟨later, first⟩ item other inside
    rcases List.sublist_cons_iff.mp inside with within | ⟨_, equal, within⟩
    · exact later item other within
    · cases equal
      exact first other within

/-- An item that is repeated at once makes no difference. -/
theorem grouped_cons_cons_self
    (head : α)
    (rest : List α) :
    Grouped (head :: head :: rest) ↔ Grouped (head :: rest) := by
  rw [grouped_cons_iff, and_iff_left_of_imp]
  intro grouped other inside
  rcases List.sublist_cons_iff.mp inside with within | ⟨_, equal, _⟩
  · exact ((grouped_cons_iff head rest).mp grouped).2 other within
  · cases equal
    rfl

/-- An item that another follows does not come again. -/
theorem grouped_cons_cons_of_ne
    {head next : α}
    (different : head ≠ next)
    (rest : List α) :
    Grouped (head :: next :: rest) ↔ head ∉ next :: rest ∧ Grouped (next :: rest) := by
  rw [grouped_cons_iff, and_comm, and_congr_left_iff]
  intro _
  constructor
  · intro first present
    have later : head ∈ rest := (List.mem_cons.mp present).resolve_left different
    exact different (first next ((List.singleton_sublist.mpr later).cons_cons next)).symm
  · intro absent other inside
    exact absurd (inside.subset (List.mem_cons_of_mem other List.mem_cons_self)) absent

/-! ## Leaving out repetitions -/

/-- Repetitions name nothing that is not named without them. -/
theorem mem_destutter'_iff
    (identifier head : Text)
    (rest : List Text) :
    identifier ∈ rest.destutter' (· ≠ ·) head ↔ identifier ∈ head :: rest := by
  induction rest generalizing head with
  | nil => rfl
  | cons next rest inductionHypothesis =>
      by_cases same : head = next
      · subst same
        rw [List.destutter'_cons_neg _ (not_not.mpr rfl), inductionHypothesis]
        simp only [List.mem_cons, or_self_left]
      · rw [List.destutter'_cons_pos _ same, List.mem_cons, inductionHypothesis, ← List.mem_cons]

theorem nodup_destutter'_iff
    (head : Text)
    (rest : List Text) :
    (rest.destutter' (· ≠ ·) head).Nodup ↔ Grouped (head :: rest) := by
  induction rest generalizing head with
  | nil => simp [Grouped, List.sublist_cons_iff]
  | cons next rest inductionHypothesis =>
      by_cases same : head = next
      · subst same
        rw [List.destutter'_cons_neg _ (not_not.mpr rfl), inductionHypothesis,
          grouped_cons_cons_self]
      · rw [List.destutter'_cons_pos _ same, List.nodup_cons, mem_destutter'_iff,
          inductionHypothesis, grouped_cons_cons_of_ne same]

theorem absorb_cons_cons_self
    (known : List Text)
    (head : Text)
    (rest : List Text) :
    absorb known (head :: head :: rest) = absorb known (head :: rest) := by
  by_cases present : head ∈ known
  · rw [absorb, if_pos present]
  · rw [absorb, if_neg present, absorb, if_pos (by simp), absorb, if_neg present]

/-- Absorbing takes no note of repetitions. -/
theorem absorb_destutter'
    (known : List Text)
    (head : Text)
    (rest : List Text) :
    absorb known (rest.destutter' (· ≠ ·) head) = absorb known (head :: rest) := by
  induction rest generalizing known head with
  | nil => rfl
  | cons next rest inductionHypothesis =>
      by_cases same : head = next
      · subst same
        rw [List.destutter'_cons_neg _ (not_not.mpr rfl), inductionHypothesis,
          absorb_cons_cons_self]
      · rw [List.destutter'_cons_pos _ same, absorb, absorb, inductionHypothesis,
          inductionHypothesis]

section Found

variable (found : List Text)

theorem mem_eraseReps_iff (identifier : Text) :
    identifier ∈ found.eraseReps ↔ identifier ∈ found := by
  rw [eraseReps_eq_destutter]
  cases found with
  | nil => rfl
  | cons head rest => exact mem_destutter'_iff identifier head rest

theorem isChain_eraseReps : found.eraseReps.IsChain (· ≠ ·) := by
  rw [eraseReps_eq_destutter]
  exact List.isChain_destutter _ found

/-- All that remain without repetitions are different just when equal ones stood side by
side. -/
theorem nodup_eraseReps_iff : found.eraseReps.Nodup ↔ Grouped found := by
  rw [eraseReps_eq_destutter]
  cases found with
  | nil => simp [Grouped]
  | cons head rest => exact nodup_destutter'_iff head rest

/-- Leaving out repetitions keeps the order of first occurrence. -/
theorem eraseDups_eraseReps : found.eraseReps.eraseDups = found.eraseDups := by
  rw [← absorb_nil, ← absorb_nil, eraseReps_eq_destutter]
  cases found with
  | nil => rfl
  | cons head rest => exact absorb_destutter' [] head rest

/-- Only the first occurrences remain just when equal items stood side by side. -/
theorem eraseReps_eq_eraseDups_iff : found.eraseReps = found.eraseDups ↔ Grouped found := by
  rw [← nodup_eraseReps_iff]
  constructor
  · intro same
    rw [same, ← absorb_nil]
    exact nodup_absorb [] found List.nodup_nil
  · intro nodup
    calc
      found.eraseReps = absorb [] found.eraseReps := (absorb_of_nodup [] _ nodup).symm
      _ = found.eraseDups := by rw [absorb_nil, eraseDups_eraseReps]

end Found

/-! ## The identifiers of a turn that stalls -/

section Stalled

variable {State : Type}
variable {bench : Bench State}
variable {settings : RepairSettings}
variable {session : Session}
variable {input output : Text}
variable {state : State}
variable {identifiers : List Text}
variable {diagnostics : List Diagnostic}

/-- A turn that stalls names the identifiers of its diagnostics, without repetitions. -/
theorem identifiers_eq_of_stalled
    (stalled : (session.turn bench settings input state).result =
      .error (.stalled identifiers output diagnostics)) :
    identifiers = (Diagnostic.targets diagnostics).eraseReps := by
  obtain ⟨attempts, course, _⟩ := exists_courseOf bench settings session input state
  have finishes := course.finishes
  rw [stalled] at finishes
  generalize (session.turn bench settings input state).session = after at finishes
  cases finishes with
  | ended reached sourced ends =>
      cases ends with
      | broken result => cases Attempt.isUncompiled_of_broken result
      | failed result judged =>
          rcases (judge_eq_failed_iff _ _ _ _ _).mp judged with
            ⟨_, other⟩ | ⟨_, _, other⟩ | ⟨_, _, _, equal⟩
          · cases other
          · cases other
          · cases equal
            rfl

/-- A turn that stalls names the bindings that its diagnostics report as unused, all of them
and no others, in the order of their first report and none twice in a row.  It names each of
them once, and so just the first reports, exactly when no other binding is reported between
two reports of the same. -/
theorem nodup_stalled_iff_grouped
    (stalled : (session.turn bench settings input state).result =
      .error (.stalled identifiers output diagnostics)) :
    (∀ identifier,
      identifier ∈ identifiers ↔
        ∃ diagnostic ∈ diagnostics, diagnostic.kind = .recoverable identifier) ∧
    identifiers.eraseDups = (Diagnostic.targets diagnostics).eraseDups ∧
    identifiers.IsChain (· ≠ ·) ∧
    (identifiers.Nodup ↔ Grouped (Diagnostic.targets diagnostics)) ∧
    (identifiers = (Diagnostic.targets diagnostics).eraseDups ↔
      Grouped (Diagnostic.targets diagnostics)) := by
  rw [identifiers_eq_of_stalled stalled]
  refine ⟨?_, eraseDups_eraseReps _, isChain_eraseReps _, nodup_eraseReps_iff _,
    eraseReps_eq_eraseDups_iff _⟩
  intro identifier
  rw [mem_eraseReps_iff, Diagnostic.mem_targets_iff]

end Stalled

/-- The diagnostic of a binding that is not used. -/
def unusedAt (line : Nat) (identifier : Text) : Diagnostic :=
  ⟨"./main.go".toList, line, 1, Diagnostic.unusedMarker ++ identifier, .recoverable identifier⟩

/-- The runner answers twice with a failed run of a given output. -/
def failingTwice (output : Text) : Bytes × Scripted.Replies :=
  ([], ⟨[], List.replicate 2 (.ok (.ofOutput output false))⟩)

/-- Two variables are not used, and one of them is reported twice in a row. -/
theorem nodup_stalled_iff_grouped_twice :
    let diagnostics := [unusedAt 3 ['x'], unusedAt 4 ['x'], unusedAt 5 ['y']]
    let output : Text := Text.joinWith ['\n'] (diagnostics.map Diagnostic.render)
    let turn := untitled.turn (Scripted.bench oneFile) ⟨16, .after⟩ "f()".toList
      (failingTwice output)
    turn.result = .error (.stalled [['x'], ['y']] output diagnostics) ∧
    Grouped (Diagnostic.targets diagnostics) ∧
    [['x'], ['y']] = (Diagnostic.targets diagnostics).eraseDups := by
  intro diagnostics output turn
  have stalled : turn.result = .error (.stalled [['x'], ['y']] output diagnostics) := by
    decide
  obtain ⟨_, _, _, nodup, first⟩ := nodup_stalled_iff_grouped stalled
  have grouped : Grouped (Diagnostic.targets diagnostics) := nodup.mp (by decide)
  exact ⟨stalled, grouped, first.mpr grouped⟩

/-- Two variables are not used, and one of them is reported before and after the other.  The
turn names it twice. -/
theorem not_nodup_stalled_of_between :
    let diagnostics := [unusedAt 3 ['x'], unusedAt 4 ['y'], unusedAt 5 ['x']]
    let output : Text := Text.joinWith ['\n'] (diagnostics.map Diagnostic.render)
    let turn := untitled.turn (Scripted.bench oneFile) ⟨16, .after⟩ "f()".toList
      (failingTwice (output ++ ['\n']))
    turn.result = .error (.stalled [['x'], ['y'], ['x']] output diagnostics) ∧
    ¬ List.Nodup [['x'], ['y'], ['x']] := by
  refine ⟨?_, ?_⟩ <;> decide

end Turn
end Turnwise
