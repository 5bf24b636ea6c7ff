import Mathlib.Data.List.Chain
import Turnwise.Toolchain.Scripted
import Turnwise.Proofs.Output.Slicing
import Turnwise.Proofs.Turn.History

/-!
# Outputs that grow

Every turn runs the whole program again, so the output of a committed run should
begin with all that the run committed before it printed.  When it does, a turn shows
what is new, after the line that the earlier output left open.  Nothing new is lost,
and nothing else is shown twice.
-/

namespace Turnwise
namespace Session

open Turn (Event)

/-- The raw output of the last committed run, and nothing before the first. -/
def lastOutput (events : List Event) : Text :=
  (committedOutputs events).getLast?.getD []

/-- Each committed run begins with the output of the run committed before it. -/
def Growing (events : List Event) : Prop :=
  (committedOutputs events).IsChain (· <+: ·)

/-- A session that began with no lines shown has shown those of the last committed
run. -/
theorem Recorded.shownLines_eq
    {start session : Session}
    {events : List Event}
    (recorded : Recorded start events session)
    (unseen : start.shownLines = 0) :
    session.shownLines = (lastOutput events).newlineCount := by
  rw [recorded.shownLines, unseen, lastOutput]
  cases (committedOutputs events).getLast? <;> rfl

/-- In a growing history a committed run begins with the last output before it. -/
theorem Growing.lastOutput_prefix
    {earlier later : List Event}
    {event : Event}
    {run : Run}
    (growing : Growing (earlier ++ event :: later))
    (committed : event.committedRun? = some run) :
    lastOutput earlier <+: run.output := by
  rw [Growing, committedOutputs_append, committedOutputs_cons committed,
    List.isChain_append] at growing
  rw [lastOutput]
  cases last : (committedOutputs earlier).getLast? with
  | none => exact List.nil_prefix
  | some output => exact growing.2.2 output last run.output rfl

variable {State : Type}
variable {bench : Bench State}
variable {settings : RepairSettings}
variable {start : Session}
variable {inputs : List Text}
variable {state : State}

/-- Suppose that no lines are shown at first and that every committed run begins with
the output of the run committed before it, if any, and adds something to it.  Then
every successful turn shows the line that the earlier output left open and what was
added, without a final newline; only what was added can lose that newline.  The number
of lines shown never decreases, whichever turns fail. -/
theorem visible_of_growing
    (bench : Bench State)
    (settings : RepairSettings)
    (start : Session)
    (inputs : List Text)
    (state : State)
    (unseen : start.shownLines = 0)
    (growing : Growing (start.history bench settings inputs state)) :
    (∀ earlier event later report,
      start.history bench settings inputs state = earlier ++ event :: later →
      event.result = .ok report →
      ∃ run added,
        event.committedRun? = some run ∧
        run.output = lastOutput earlier ++ added ∧
        report.output =
          Text.dropFinal '\n' (Output.openLine (lastOutput earlier) ++ added) ∧
        report.output =
          Output.openLine (lastOutput earlier) ++ Text.dropFinal '\n' added) ∧
    ∀ event ∈ start.history bench settings inputs state,
      event.before.shownLines ≤ event.after.shownLines := by
  constructor
  · intro earlier event later report split succeeded
    have shown := (recorded_before split).shownLines_eq unseen
    obtain ⟨_, _, _, turned⟩ := eq_ofTurn_of_history_eq split
    rw [turned] at succeeded
    obtain ⟨run, committed, _, reported, _⟩ := Event.committed_of_ok succeeded
    rw [← turned] at committed
    rw [split] at growing
    obtain ⟨added, extended⟩ := growing.lastOutput_prefix committed
    have visible : report.output =
        Text.dropFinal '\n' (Output.openLine (lastOutput earlier) ++ added) := by
      rw [reported, shown, ← extended, Output.visible_append_newlineCount]
    refine ⟨run, added, committed, extended.symm, visible, ?_⟩
    rw [visible, Output.dropFinal_openLine_append]
  · intro event present
    obtain ⟨earlier, later, split⟩ := List.append_of_mem present
    have shown := (recorded_before split).shownLines_eq unseen
    cases result : event.result with
    | error error => rw [after_eq_before_of_error split result]
    | ok report =>
        obtain ⟨_, _, _, turned⟩ := eq_ofTurn_of_history_eq split
        rw [turned] at result
        obtain ⟨run, committed, _, _, after⟩ := Event.committed_of_ok result
        rw [← turned] at committed after
        rw [split] at growing
        obtain ⟨added, extended⟩ := growing.lastOutput_prefix committed
        rw [after, shown, commit, ← extended, Text.newlineCount_append]
        exact Nat.le_add_right _ _

/-- Three turns: the run of the first leaves a line open, that of the second fails, and
that of the third completes the line. -/
def completedLine : List Event :=
  (Session.fresh [] [] []).history (Scripted.bench Store.forgetful) ⟨16, .after⟩
    ["a".toList, "b".toList, "c".toList]
    ((),
      { formats := []
        runs := [.ok (.ofOutput "1\n2".toList true),
          .ok (.ofOutput "1\n2\nexit status 1\n".toList false),
          .ok (.ofOutput "1\n23\n".toList true)] })

theorem visible_of_growing_completedLine :
    Growing completedLine ∧
    ∃ earlier event report run added,
      completedLine = earlier ++ [event] ∧
      event.result = .ok report ∧
      event.committedRun? = some run ∧
      run.output = lastOutput earlier ++ added ∧
      report.output = Text.dropFinal '\n' (Output.openLine (lastOutput earlier) ++ added) ∧
      report.output = "23".toList := by
  have growing : Growing completedLine := by
    unfold Growing
    decide
  have split : completedLine =
      completedLine.take 2 ++ [completedLine.getLast (List.cons_ne_nil _ _)] := rfl
  have succeeded : (completedLine.getLast (List.cons_ne_nil _ _)).result =
      .ok ⟨"23".toList, 1, [], [⟨1, .success, [], 0⟩], 0⟩ := rfl
  obtain ⟨run, added, committed, extended, reported, _⟩ :=
    (visible_of_growing _ _ _ _ _ rfl growing).1 _ _ [] _ split succeeded
  exact ⟨growing, _, _, _, run, added, split, succeeded, committed, extended, reported, rfl⟩

end Session
end Turnwise
