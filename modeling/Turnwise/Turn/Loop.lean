import Turnwise.Composition
import Turnwise.Output
import Turnwise.Turn.Error

/-!
# Turns

A turn composes the whole program with the new statement, formats it, writes it and
runs it.  When compilation fails because bindings are not used, the turn discards
them and tries again, up to a number of passes.  The discards live for one turn:
the session records the statement alone, and only when the program has succeeded.
-/

namespace Turnwise

/-- How a turn repairs unused bindings. -/
structure RepairSettings where
  /-- How often a turn may compile; at least one pass is always made. -/
  maxPasses : Nat
  /-- Where discards stand. -/
  placement : Placement
  deriving DecidableEq, Repr

namespace Turn

/-- One compile-and-run within a turn. -/
structure Record where
  /-- The number of the attempt, from one. -/
  attempt : Nat
  /-- How the attempt ended. -/
  outcome : Run.Class
  /-- The unused identifiers it reported. -/
  found : List Text
  /-- Milliseconds it took, where a clock was read; a pure turn reads none. -/
  milliseconds : Nat
  deriving DecidableEq, Repr

/-- What is known of a turn that succeeded. -/
structure Report where
  /-- The output this turn added, without its final newline. -/
  output : Text
  /-- The number of attempts. -/
  attempts : Nat
  /-- The identifiers discarded to make the program compile. -/
  discarded : List Text
  /-- All attempts, in order. -/
  records : List Record
  /-- Milliseconds the turn took, where a clock was read. -/
  milliseconds : Nat
  deriving DecidableEq, Repr

/-- The end of a turn: what it led to, the session, and the state of the bench. -/
structure Outcome (State : Type) where
  /-- A report, or the reason why the session is as it was. -/
  result : Except TurnError Report
  /-- The session after the turn. -/
  session : Session
  /-- The state of the bench after the turn. -/
  state : State

/-- What the attempts of a turn have come to so far. -/
structure Progress where
  /-- The identifiers discarded from now on, each once. -/
  discarded : List Text
  /-- The attempts made. -/
  records : List Record
  /-- What the last attempt printed, without its final newline. -/
  output : Text
  /-- The diagnostics of the last attempt. -/
  diagnostics : List Diagnostic
  deriving DecidableEq, Repr

namespace Progress

/-- Before the first attempt. -/
def initial : Progress := ⟨[], [], [], []⟩

/-- The number of the next attempt. -/
def attempt (progress : Progress) : Nat :=
  progress.records.length + 1

/-- The repairs for the next attempt. -/
def fixes (progress : Progress) : List Text :=
  progress.discarded.map Composition.discard

end Progress

/-- Add the identifiers that are not in a list yet, in order. -/
def absorb (known : List Text) : List Text → List Text
  | [] => known
  | identifier :: rest =>
      if identifier ∈ known then absorb known rest
      else absorb (known ++ [identifier]) rest

/-- Where one run leaves a turn. -/
inductive Verdict where
  /-- The turn succeeded, and the session moves on. -/
  | committed (report : Report) (session : Session)
  /-- The turn failed. -/
  | failed (error : TurnError)
  /-- Another attempt may succeed. -/
  | again (progress : Progress)

/-- What the program of the next attempt is. -/
def source
    (placement : Placement)
    (session : Session)
    (input : Text)
    (progress : Progress) : Text :=
  session.compose placement input progress.fixes

/-- Judge the run of an attempt. -/
def judge
    (session : Session)
    (input : Text)
    (progress : Progress)
    (run : Run) : Verdict :=
  let record (found : List Text) : List Record :=
    progress.records ++ [⟨progress.attempt, run.classify, found, 0⟩]
  match run.classify with
  | .success =>
      .committed
        { output := Output.visible run.output session.shownLines
          attempts := progress.attempt
          discarded := progress.discarded
          records := record []
          milliseconds := 0 }
        (session.commit input run.output.newlineCount)
  | .runtimeFailure =>
      .failed (.runtime (Output.failure run.output session.shownLines))
  | .compileFailure =>
      let diagnostics := Diagnostic.parseAll run.output
      let found := Diagnostic.targets diagnostics
      let output := Text.dropFinal '\n' run.output
      let discarded := absorb progress.discarded found
      if !(Diagnostic.summarize diagnostics).fixable then
        .failed (.compile output diagnostics)
      else if discarded.length = progress.discarded.length then
        .failed (.stalled found.eraseReps output diagnostics)
      else
        .again ⟨discarded, record found, output, diagnostics⟩

/-- Format, write and run one source text. -/
def attempt
    (bench : Bench State)
    (session : Session)
    (source : Text)
    (state : State) : Except TurnError Run × State :=
  match bench.organize source session.directory state with
  | (.error failure, state) => (.error (.ofFormatter failure), state)
  | (.ok formatted, state) =>
      match bench.write session.file formatted state with
      | (.error cause, state) => (.error (.unwritten cause), state)
      | (.ok (), state) =>
          match bench.run session.file session.directory state with
          | (.error failure, state) => (.error (.ofTool failure), state)
          | (.ok run, state) => (.ok run, state)

/-- Make attempts until one ends the turn or none remain. -/
def passes
    (bench : Bench State)
    (settings : RepairSettings)
    (session : Session)
    (input : Text) : (remaining : Nat) → Progress → State → Outcome State
  | 0, progress, state =>
      { result :=
          .error (.exhausted (max settings.maxPasses 1) progress.output progress.diagnostics)
        session := session
        state := state }
  | remaining + 1, progress, state =>
      match attempt bench session (source settings.placement session input progress) state with
      | (.error error, state) => ⟨.error error, session, state⟩
      | (.ok run, state) =>
          match judge session input progress run with
          | .committed report committed => ⟨.ok report, committed, state⟩
          | .failed error => ⟨.error error, session, state⟩
          | .again progress => passes bench settings session input remaining progress state

end Turn

/-- Run one turn of a session. -/
def Session.turn
    (bench : Bench State)
    (settings : RepairSettings)
    (session : Session)
    (input : Text)
    (state : State) : Turn.Outcome State :=
  Turn.passes bench settings session input (max settings.maxPasses 1) .initial state

end Turnwise
