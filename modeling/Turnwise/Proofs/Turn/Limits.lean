import Turnwise.Toolchain.Miniature
import Turnwise.Proofs.Turn.Accounts

/-!
# Limits on the passes of a turn

The number of passes that a turn may make only cuts the turn off.  A turn that ends before
its passes are used up ends in the same way with more of them, and one that uses them up
makes the same attempts with more of them before it makes any others.
-/

namespace Turnwise
namespace Turn

/-! ## Courses with more passes -/

section Course

variable {State : Type}
variable {bench : Bench State}
variable {settings : RepairSettings}
variable {session : Session}
variable {input : Text}
variable {remaining : Nat}
variable {progress : Progress}
variable {start : State}
variable {attempts : List Attempt}
variable {outcome : Outcome State}

/-- A course that does not use up its passes is a course with any number of passes more. -/
theorem Course.of_not_exhausted
    (course : Course bench settings session input remaining progress start attempts outcome)
    (ended : isExhausted outcome.result = false)
    (other : RepairSettings)
    (same : other.placement = settings.placement)
    (more : Nat) :
    Course bench other session input (remaining + more) progress start attempts outcome := by
  induction course with
  | exhausted => cases ended
  | ended sourced was ends =>
      rw [Nat.add_right_comm]
      exact .ended (same ▸ sourced) was ends
  | again sourced was result judged rest inductionHypothesis =>
      rw [Nat.add_right_comm]
      exact .again (same ▸ sourced) was result judged (inductionHypothesis ended)

/-- A course that uses up its passes has one attempt for each of them, and with passes more
it goes on from these attempts. -/
theorem Course.exists_later
    (course : Course bench settings session input remaining progress start attempts outcome)
    (exhausted : isExhausted outcome.result = true)
    (other : RepairSettings)
    (same : other.placement = settings.placement)
    (more : Nat) :
    attempts.length = remaining ∧
    ∃ later final,
      Course bench other session input (remaining + more) progress start
        (attempts ++ later) final ∧
      (later = [] ↔ more = 0) := by
  induction course with
  | @exhausted progress start =>
      obtain ⟨later, course⟩ := exists_course bench other session input more progress start
      refine ⟨rfl, later, _, by rwa [Nat.zero_add], ?_⟩
      cases more with
      | zero => simp [List.eq_nil_of_length_eq_zero (Nat.le_zero.mp course.length_le)]
      | succ more => simp [course.ne_nil]
  | ended sourced was ends =>
      rw [ends.not_exhausted] at exhausted
      cases exhausted
  | again sourced was result judged rest inductionHypothesis =>
      obtain ⟨counted, later, final, course, last⟩ := inductionHypothesis exhausted
      refine ⟨congrArg Nat.succ counted, later, final, ?_, last⟩
      rw [Nat.add_right_comm, List.cons_append]
      exact .again (same ▸ sourced) was result judged course

end Course

/-! ## Turns with more passes -/

/-- Make one turn with few passes, and make it again with as many or more, by the same bench
in the same state.  Unless the first turn uses up its passes, the second makes the same
requests and gets the same answers, returns the same, and leaves the session and the bench
as the first does.  If the first turn uses up its passes, it makes one attempt for each and
at least one, and the second turn makes these attempts before any others.  It makes others
exactly if it has passes left. -/
theorem turn_of_le_maxPasses
    (bench : Bench State)
    (placement : Placement)
    (session : Session)
    (input : Text)
    (state : State)
    (few many : Nat)
    (fewer : few ≤ many) :
    let short := session.turn bench ⟨few, placement⟩ input state
    let long := session.turn bench ⟨many, placement⟩ input state
    (isExhausted short.result = false →
      requests bench ⟨many, placement⟩ session input state =
        requests bench ⟨few, placement⟩ session input state ∧
      long = short) ∧
    (isExhausted short.result = true →
      ∃ attempts later,
        attempts.length = max few 1 ∧
        requests bench ⟨few, placement⟩ session input state =
          attempts.flatMap (Attempt.calls session) ∧
        requests bench ⟨many, placement⟩ session input state =
          (attempts ++ later).flatMap (Attempt.calls session) ∧
        (later = [] ↔ max few 1 = max many 1)) := by
  intro short long
  obtain ⟨attempts, course, requested⟩ :=
    exists_courseOf bench ⟨few, placement⟩ session input state
  obtain ⟨more, total⟩ : ∃ more, max many 1 = max few 1 + more :=
    Nat.exists_eq_add_of_le (by omega)
  constructor
  · intro ended
    have longer := Course.of_not_exhausted course ended ⟨many, placement⟩ rfl more
    rw [← total] at longer
    obtain ⟨same, sameRequests⟩ := longer.turn_eq
    exact ⟨sameRequests.trans requested.symm, same⟩
  · intro exhausted
    obtain ⟨counted, later, final, longer, last⟩ :=
      Course.exists_later course exhausted ⟨many, placement⟩ rfl more
    rw [← total] at longer
    refine ⟨attempts, later, counted, requested, longer.turn_eq.2, last.trans ?_⟩
    omega

end Turn

namespace Miniature

open Session (resumed)
open Store (oneFile)
open Turn (Attempt isExhausted requests turn_of_le_maxPasses)

/-- The first attempt reports a variable that nothing uses, and the second succeeds. -/
theorem turn_of_le_maxPasses_resumed :
    2 ≤ 16 ∧ 0 ≤ 16 ∧
    isExhausted (resumed.turn (bench oneFile) ⟨2, .after⟩ "println(7)".toList []).result =
      false ∧
    resumed.turn (bench oneFile) ⟨16, .after⟩ "println(7)".toList [] =
      resumed.turn (bench oneFile) ⟨2, .after⟩ "println(7)".toList [] ∧
    isExhausted (resumed.turn (bench oneFile) ⟨0, .after⟩ "println(7)".toList []).result =
      true ∧
    ∃ attempts later,
      attempts.length = 1 ∧
      requests (bench oneFile) ⟨16, .after⟩ resumed "println(7)".toList [] =
        (attempts ++ later).flatMap (Attempt.calls resumed) ∧
      later ≠ [] := by
  have enough := turn_of_le_maxPasses (bench oneFile) .after resumed "println(7)".toList []
    2 16 (by decide)
  have scarce := turn_of_le_maxPasses (bench oneFile) .after resumed "println(7)".toList []
    0 16 (by decide)
  have ended : isExhausted
      (resumed.turn (bench oneFile) ⟨2, .after⟩ "println(7)".toList []).result = false := by
    decide +kernel
  have exhausted : isExhausted
      (resumed.turn (bench oneFile) ⟨0, .after⟩ "println(7)".toList []).result = true := by
    decide +kernel
  obtain ⟨attempts, later, counted, _, requested, last⟩ := scarce.2 exhausted
  refine ⟨by decide, by decide, ended, (enough.1 ended).2, exhausted, attempts, later,
    counted, requested, ?_⟩
  exact fun none => absurd (last.mp none) (by decide)

end Miniature
end Turnwise
