import Turnwise.Toolchain.Scripted
import Turnwise.Proofs.Composition.Rows
import Turnwise.Proofs.Turn.Repairs

/-!
# The lines that a turn inserts

Identifiers are taken from what the tools print, whatever that is, and stand in programs as
they are.  None of them can leave its line, so all that the attempts of a turn do to the
program of the first one is to insert a block of whole lines, one for each identifier
reported so far.
-/

namespace Turnwise
namespace Turn

variable {State : Type}

/-- What is discarded fills its part of a line. -/
theorem fitsLine_of_mem_discardsBefore
    {attempts : List Attempt}
    {index : Nat}
    {identifier : Text}
    (present : identifier ∈ discardsBefore attempts index) :
    Diagnostic.FitsLine identifier := by
  obtain ⟨output, found⟩ := exists_output_of_mem_discardsBefore present
  exact Diagnostic.fitsLine_of_mem_targets found

/-- The program of an attempt, split at its newlines. -/
theorem CourseOf.pieces_source
    {bench : Bench State}
    {settings : RepairSettings}
    {session : Session}
    {input : Text}
    {state : State}
    {attempts : List Attempt}
    (course : CourseOf bench settings session input state attempts)
    (index : Nat)
    (bound : index < attempts.length) :
    attempts[index].source.pieces =
      session.linesAbove input settings.placement ++
        ((discardsBefore attempts index).map Composition.discard ++
          Session.linesBelow input settings.placement) := by
  have sourced := Course.source_eq course index bound
  rw [← discardsBefore_eq_absorb] at sourced
  rw [sourced]
  exact Session.pieces_compose_discards
    (fun _ present => (fitsLine_of_mem_discardsBefore present).newlineFree) session _ input

/-- Every identifier that an output reports as unused is visible at both ends and stands on
one line.  Therefore the program of each attempt of a turn is that of the first attempt with
one whole line for each identifier that the earlier attempts reported, all of them different
and their lines side by side: directly above the closing brace, or directly above the first
line of the new statement.  All other lines are as they were, in their order. -/
theorem exists_attempts_inserting
    (bench : Bench State)
    (settings : RepairSettings)
    (session : Session)
    (input : Text)
    (state : State) :
    (∀ output, ∀ identifier ∈ Diagnostic.targets (Diagnostic.parseAll output),
      Diagnostic.FitsLine identifier) ∧
    ∃ first later,
      let attempts : List Attempt := first :: later
      let above := session.linesAbove input settings.placement
      let below := Session.linesBelow input settings.placement
      requests bench settings session input state =
        attempts.flatMap (Attempt.calls session) ∧
      (requests bench settings session input state).filterMap Bench.Call.source? =
        attempts.map Attempt.source ∧
      first.source.pieces = above ++ below ∧
      ∀ (index : Nat) (bound : index < attempts.length),
        attempts[index].source.pieces =
          above ++ ((discardsBefore attempts index).map Composition.discard ++ below) ∧
        (discardsBefore attempts index).Nodup ∧
        ∀ identifier ∈ discardsBefore attempts index, Diagnostic.FitsLine identifier := by
  refine ⟨fun output identifier => Diagnostic.fitsLine_of_mem_targets, ?_⟩
  obtain ⟨attempts, course, requested⟩ := exists_courseOf bench settings session input state
  obtain ⟨first, later, rfl⟩ := List.exists_cons_of_ne_nil course.ne_nil
  refine ⟨first, later, requested, ?_, ?_, ?_⟩
  · rw [requested, Attempt.filterMap_source_flatMap_calls]
  · exact course.pieces_source 0 (Nat.zero_lt_succ _)
  · intro index bound
    exact ⟨course.pieces_source index bound, nodup_discardsBefore _ index,
      fun identifier => fitsLine_of_mem_discardsBefore⟩

/-- An output that reports two odd identifiers, one of them twice. -/
def oddReport : Text :=
  Text.joinWith ['\n']
    ["./main.go:4:1: declared and not used:  x y\t".toList,
      "./main.go:5:1: declared and not used: é\r\r".toList,
      "./main.go:6:1: declared and not used: x y".toList]

/-- A session with one confirmed statement. -/
def begun : Session :=
  (Session.fresh [] "main.go".toList "package main".toList).commit "a := 1".toList 0

/-- Two identifiers are discarded between a confirmed statement and a new one of two lines. -/
theorem exists_attempts_inserting_oddReport :
    let sources := (requests (Scripted.bench Store.forgetful) ⟨16, .before⟩ begun
      "f()\ng()\n".toList ((), ⟨[], [.ok (.ofOutput oddReport false)]⟩)).filterMap
        Bench.Call.source?
    let above := ["package main".toList, "func main() \x7b".toList, "a := 1".toList]
    let inserted := ["_ = x y".toList, "_ = é".toList]
    let below := ["f()".toList, "g()".toList, "\x7d".toList]
    "x y".toList ∈ Diagnostic.targets (Diagnostic.parseAll oddReport) ∧
    Diagnostic.FitsLine "x y".toList ∧
    sources.map Text.pieces = [above ++ below, above ++ (inserted ++ below)] ∧
    ∃ first last : Attempt,
      sources = [first.source, last.source] ∧
      (discardsBefore [first, last] 1).map Composition.discard = inserted := by
  intro sources above inserted below
  have reported : "x y".toList ∈ Diagnostic.targets (Diagnostic.parseAll oddReport) := by
    decide
  have listed : sources.map Text.pieces = [above ++ below, above ++ (inserted ++ below)] := by
    decide
  obtain ⟨fits, first, later, _, sourced, _, block⟩ :=
    exists_attempts_inserting (Scripted.bench Store.forgetful) ⟨16, .before⟩ begun
      "f()\ng()\n".toList ((), ⟨[], [.ok (.ofOutput oddReport false)]⟩)
  refine ⟨reported, fits oddReport _ reported, listed, ?_⟩
  rw [show sources = _ from sourced] at listed
  obtain ⟨last, rfl⟩ : ∃ last, later = [last] := by
    apply List.length_eq_one_iff.mp
    simpa using congrArg List.length listed
  have split := (block 1 Nat.one_lt_two).1
  have second : last.source.pieces = above ++ (inserted ++ below) :=
    List.head_eq_of_cons_eq (List.tail_eq_of_cons_eq listed)
  refine ⟨first, last, sourced, ?_⟩
  rw [List.getElem_cons_succ, List.getElem_cons_zero, second] at split
  exact (List.append_cancel_right (List.append_cancel_left split)).symm

end Turn
end Turnwise
