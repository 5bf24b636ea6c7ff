import Turnwise.Host.Shell.State

/-!
# Scripts and child processes of a shell

A script is read and run one command at a time.  A part of a script may run in a child
process, which begins with the state of its parent but without its traps and jobs, and
whose own state is gone when it ends.
-/

namespace Turnwise
namespace Host
namespace Shell

open Script (Command)

/-- Complain about a fault in a script, whose rest begins with a line and is given. -/
def complainAbout (first : Nat) (text : Octets) (fault : Script.Fault) : Act α := do
  let state ← get
  let origin : Octets :=
    match state.command with
    | some command => command ++ ": ".toList
    | none => if state.dictated then "-c: ".toList else []
  let lead (line : Nat) : Octets :=
    state.title ++ ": ".toList ++ origin ++ "line ".toList ++ Text.ofNat line ++ ": ".toList
  match fault with
  | .incomplete => Act.fail 2
  | .malformed line message =>
      if state.dialect = .plain then do
        modify fun state => { state with line := line }
        Act.raise message
      else do
        Act.emit 2 (lead line ++ message ++ ['\n'])
        Act.fail 2
  | .surprising line token => do
      let source := ((text.splitOn '\n')[line - first]?).getD []
      Act.emit 2 (lead line ++ "syntax error near unexpected token \x60".toList ++ token ++
        "'\n".toList ++ lead line ++ '\x60' :: source ++ "'\n".toList)
      Act.fail 2
  | .unfinished line => do
      let line := if text.getLast? = some '\n' then line else line + 1
      Act.emit 2 (lead line ++ "syntax error: unexpected end of file\n".toList)
      Act.fail 2

/-- Run a script from a line on; the last command may be told that nothing follows. -/
def runText (engine : Engine) (line : Nat) (text : Octets) (flags : Flags) : Act Unit := do
  let ran ← Act.repeating (line, text, false) fun (line, text, ran) => do
    let state ← get
    match Script.next state.dialect state.aliases true line text with
    | .error .incomplete => return .inr ran
    | .error fault => complainAbout line text fault
    | .ok .finished => return .inr ran
    | .ok (.command .nothing rest line _) => return .inl (line, rest, ran)
    | .ok (.command body rest line last) => do
        engine.run body { flags with exits := flags.exits && last }
        return .inl (line, rest, true)
  if !ran then Act.finish 0

/-- What is done about signals that have been caught. -/
def runTraps (engine : Engine) : Act Unit := do
  let state ← get
  if state.traps.any (fun trap => trap.1 != 0 && !trap.2.isEmpty) then
    let caught ← Act.program .caught
    modify fun state => { state with noticed := [] }
    for signal in state.noticed ++ caught do
      match (← get).traps.find? (·.1 == signal) with
      | some (_, action) =>
          if !action.isEmpty then
            let status := (← get).status
            Act.keeping
              (fun before after => { after with command := before.command, line := before.line })
              (do
                modify fun state => { state with command := none }
                runText engine 1 action .none)
            Act.finish status
      | none => pure ()

/-- The status with which a shell exits after an outcome. -/
def exitStatus (state : State) : Except Halt Unit → Nat
  | .ok () => state.status
  | .error (.exit status) => status
  | .error (.failure status) => status
  | .error _ => state.status

/-- All that is left to do after an outcome: the trap for the exit, then the end. -/
def conclude (engine : Engine) (outcome : Except Halt Unit) (state : State) : Task :=
  let status := exitStatus state outcome
  match state.traps.find? (·.1 == 0) with
  | none => .done (.exited (status % 256))
  | some (_, action) =>
      let last : Act Unit := do
        modify fun state =>
          { state with
            traps := state.traps.filter (·.1 != 0), status := status, command := none }
        runText engine 1 action .none
        Act.finish status
      last.run.run state fun (outcome, state) =>
        .done (.exited (exitStatus state outcome % 256))

/-- The task of a shell. -/
def task (engine : Engine) (act : Act Unit) (state : State) : Task :=
  act.run.run state fun (outcome, state) => conclude engine outcome state

/-- A child forgets the traps of its parent; signals that were ignored stay ignored. -/
def resetTraps : Act Unit := do
  for trap in (← get).traps do
    if trap.1 != 0 && !trap.2.isEmpty then Act.program (.dispose trap.1 .standard)
  modify fun state =>
    { state with traps := state.traps.filter fun trap => trap.1 != 0 && trap.2.isEmpty }

/-- Forget the job, done and waited for, whose number something new takes. -/
def recycle : Act Unit :=
  modify fun state =>
    let number := Job.freeNumber state.jobs
    { state with jobs := state.jobs.filter (·.number != number) }

/-- Run an act in a child process and give its number. -/
def fork (engine : Engine) (act : Act Unit) : Act Nat := do
  recycle
  let child : Act Unit := do
    modify fun state => { state with jobs := [], loops := 0 }
    resetTraps
    act
  Act.program (.fork (task engine child (← get)))

/-- Whether the shell tells how a child was ended by a signal. -/
def isReported (signal : Signal) : Bool :=
  signal != .interrupt && signal != .pipe

/-- Tell that a signal ended a child. -/
def report (ending : Ending) : Act Unit := do
  match ending with
  | .signalled signal =>
      if isReported signal then Act.emit 2 (signal.description ++ ['\n'])
  | .exited _ => return

/-- Wait for a child, tell when a signal ended it, and give its status. -/
def await (child : Nat) : Act Nat := do
  match ← Act.program (.wait (some child) .deaf) with
  | .ok (some (_, ending)) => do
      report ending
      return ending.status
  | _ => return 127

end Shell
end Host
end Turnwise
