import Turnwise.Host.Shell.Builtin.Options
import Turnwise.Host.Shell.Fork
import Turnwise.Host.Shell.Naming

/-!
# Builtin commands about processes and signals

A shell waits for the jobs that it has started, tells about them, sends signals, and
says what is to be done when it gets signals itself.
-/

namespace Turnwise
namespace Host
namespace Shell

/-- The signal that a word names, by its number or its name, not below a bound. -/
def signalNamed? (dialect : Script.Dialect) (least : Nat) (word : Octets) : Option Signal :=
  match Text.digits? word with
  | some number => if number ≤ Signal.highest then some number else none
  | none =>
      let upper := word.map Char.toUpper
      let name :=
        match dialect, Text.after? "SIG".toList upper with
        | .rich, some rest => rest
        | _, _ => upper
      if name = "EXIT".toList && least = 0 then some 0 else Signal.named? name

/-- The name of a signal; zero stands for the exit. -/
def signalName (signal : Signal) : Octets :=
  if signal = 0 then "EXIT".toList else signal.name

/-- Let a signal have the effect that the shell wants: its trap, none, or its own. -/
def settleSignal (signal : Signal) (action : Option Octets) : Act Unit := do
  let fixed ← do
    if (← get).traps.any (·.1 == signal) then pure false
    else do
      let disposition ← Act.program (.disposition signal)
      pure (disposition == .ignored)
  if !fixed then
    Act.program (.dispose signal
      (match action with
      | none => .standard
      | some [] => .ignored
      | some _ => .caught))

/-- Say what is to be done about signals, or list what is. -/
def trapBuiltin (words : List Octets) : Act Nat := do
  let (_, operands) ← options "" words
  let dialect := (← get).dialect
  match operands with
  | [] => do
      let traps := (← get).traps.mergeSort fun a b => a.1 ≤ b.1
      Act.print <| traps.flatMap fun (signal, action) =>
        "trap -- ".toList ++ singleQuoted action ++ ' ' ::
          (if dialect = .rich && signal != 0 then "SIG".toList else []) ++
          signalName signal ++ ['\n']
      return 0
  | [only] => setAll dialect none [only]
  | action :: signals =>
      setAll dialect (if action = ['-'] then none else some action) signals
where
  /-- Set the action for signals, up to the first word that names none. -/
  setAll (dialect : Script.Dialect) (action : Option Octets) : List Octets → Act Nat
    | [] => return 0
    | word :: rest => do
        match signalNamed? dialect 0 word with
        | none => do
            match dialect with
            | .plain => Act.emit 2 ("trap: ".toList ++ word ++ ": bad trap\n".toList)
            | .rich => Act.complain (word ++ ": invalid signal specification".toList)
            return 1
        | some signal => do
            if signal != 0 then settleSignal signal action
            modify fun state =>
              let others := state.traps.filter (·.1 != signal)
              { state with
                traps :=
                  match action with
                  | some action => (signal, action) :: others
                  | none => others }
            setAll dialect action rest

/-- The job that a word with a percent sign names. -/
def jobNamed (word : Octets) : Act Job := do
  let jobs := (← get).jobs
  let found :=
    match word.drop 1 with
    | [] => jobs.head?
    | ['%'] => jobs.head?
    | ['+'] => jobs.head?
    | ['-'] => jobs[1]?
    | digits => (Text.digits? digits).bind fun number => jobs.find? (·.number == number)
  match found with
  | some job => return job
  | none => Act.raise ("No such job: ".toList ++ word)

/-- Note how a process of a job ended. -/
def noteEnd (process status : Nat) : Act Unit :=
  modify fun state =>
    { state with
      jobs := state.jobs.map fun job =>
        { job with
          processes := job.processes.map fun entry =>
            if entry.1 = process then (process, some status) else entry } }

/-- Note that somebody has waited for jobs. -/
def noteWaited (test : Job → Bool) : Act Unit :=
  modify fun state =>
    { state with
      jobs := state.jobs.map fun job => if test job then { job with waited := true } else job }

/-- Note which processes of jobs have ended. -/
def updateJobs : Act Unit := do
  for job in (← get).jobs do
    for (process, known) in job.processes do
      if known.isNone then
        match ← Act.program (.wait (some process) .none) with
        | .ok (some (_, ending)) => noteEnd process ending.status
        | .ok none => pure ()
        | .error _ => noteEnd process 127

/-- Wait for a process of a job; a signal that is caught comes first. -/
def awaitProcess (reports : Bool) (process : Nat) : Act (Option Signal) := do
  match ← Act.program (.wait (some process) .endless) with
  | .ok (some (_, ending)) => do
      if reports then report ending
      noteEnd process ending.status
      return none
  | .error .interrupted => do
      let caught ← Act.program .caught
      modify fun state => { state with noticed := state.noticed ++ caught }
      return caught.getLast?
  | _ => do
      noteEnd process 127
      return none

/-- Wait for processes, up to the first signal that is caught. -/
def awaitProcesses (reports : Bool) : List (Nat × Option Nat) → Act (Option Signal)
  | [] => return none
  | (process, known) :: rest => do
      if known.isSome then awaitProcesses reports rest
      else
        match ← awaitProcess reports process with
        | some signal => return some signal
        | none => awaitProcesses reports rest

/-- Wait for a job and give its status. -/
def awaitJob (number : Nat) : Act Nat := do
  match (← get).jobs.find? (·.number == number) with
  | none => return 127
  | some job =>
      match ← awaitProcesses true job.processes.reverse with
      | some signal => return 128 + signal
      | none => do
          noteWaited (·.number == number)
          let settled := (← get).jobs.find? (·.number == number)
          return ((settled.bind (·.processes.head?)).bind (·.2)).getD 127

/-- Wait for jobs. -/
def waitBuiltin (words : List Octets) : Act Nat := do
  let (_, operands) ← options "" words
  match operands with
  | [] => do
      let processes := ((← get).jobs.reverse).flatMap (·.processes.reverse)
      match ← awaitProcesses false processes with
      | some signal => return 128 + signal
      | none => do
          noteWaited Job.isDone
          return 0
  | operands => awaitAll 127 operands
where
  /-- Wait for the jobs that words name; the last one gives the status. -/
  awaitAll (status : Nat) : List Octets → Act Nat
    | [] => return status
    | word :: rest => do
        let status ←
          if word.head? = some '%' then awaitJob (← jobNamed word).number
          else do
            let process ← number word
            match (← get).jobs.find? fun job =>
                (job.processes.head?.map (·.1)) == some process with
            | some job => awaitJob job.number
            | none => pure 127
        awaitAll status rest

/-- What is told about a job. -/
def jobTitle (job : Job) : Octets :=
  if !job.isDone then "Running".toList
  else
    match job.processes.head?.bind (·.2) with
    | some 0 => "Done".toList
    | some status =>
        if 128 < status && status ≤ 192 then Signal.description (status - 128)
        else "Done(".toList ++ Text.ofNat status ++ [')']
    | none => "Done".toList

/-- The mark of the jobs that are told about, the last one first; those that are done are
forgotten at once, so that they do not count for the ones after them. -/
def jobMarks : (before : Nat) → List Job → List (Job × Char)
  | _, [] => []
  | before, job :: rest =>
      let mark := if before = 0 then '+' else if before = 1 then '-' else ' '
      (job, mark) :: jobMarks (if job.isDone then before else before + 1) rest

/-- Tell about the jobs, and forget those that are done. -/
def jobsBuiltin (words : List Octets) : Act Nat := do
  let (chosen, _) ← options "lp" words
  updateJobs
  for (job, mark) in jobMarks 0 (← get).jobs do
    if chose chosen 'p' then
      Act.printLine (Text.ofNat ((job.processes.getLast?.map (·.1)).getD 0))
    else
      let beginning := '[' :: Text.ofNat job.number ++ "] ".toList ++ [mark, ' ']
      let process :=
        if chose chosen 'l' then
          Text.ofNat ((job.processes.getLast?.map (·.1)).getD 0) ++ [' ']
        else []
      Act.printLine (Octets.padRight 33 ' ' (beginning ++ process ++ jobTitle job))
  modify fun state =>
    { state with jobs := state.jobs.filter (!·.isDone) }
  return 0

/-- Jobs cannot be moved to the foreground or to the background without a terminal. -/
def moveJobBuiltin (words : List Octets) : Act Nat := do
  match words with
  | [] =>
      if (← get).jobs.isEmpty then Act.raise "No current job".toList
      else Act.raise "job (null) not created under job control".toList
  | word :: _ => do
      let _ ← jobNamed word
      Act.raise ("job ".toList ++ word ++ " not created under job control".toList)

/-- How signals are sent. -/
def killUsage : Octets :=
  "Usage: kill [-s sigspec | -signum | -sigspec] [pid | job]... or\nkill -l [exitstatus]".toList

/-- Send a signal to processes or jobs. -/
def sendAll (signal : Signal) : (status : Nat) → List Octets → Act Nat
  | status, [] => return status
  | status, word :: rest => do
      let target : Int ←
        match word with
        | '%' :: _ => do
            let job ← jobNamed word
            pure (-(((job.processes.getLast?.map (·.1)).getD 0 : Nat) : Int))
        | '-' :: digits => do pure (-((← number digits) : Int))
        | word => do pure ((← number word) : Int)
      match ← Act.program (.signal target signal) with
      | .ok () => sendAll signal status rest
      | .error code => do
          match (← get).dialect with
          | .plain => Act.complain (code.title ++ ['\n'])
          | .rich =>
              Act.complain ('(' :: word ++ ") - ".toList ++ code.title)
          sendAll signal 1 rest

/-- List the names of signals, or tell the name of one. -/
def listSignals (operands : List Octets) : Act Nat := do
  match operands with
  | [] => do
      Act.print <| "0\n".toList ++
        (List.range Signal.highest).flatMap fun number => Signal.name (number + 1) ++ ['\n']
      return 0
  | word :: _ => do
      let number ← number word
      let signal := if 128 < number then number - 128 else number
      if 0 < signal && signal ≤ Signal.highest then do
        Act.printLine (Signal.name signal)
        return 0
      else Act.raise ("invalid signal number or exit status: ".toList ++ word)

/-- Send signals, or list them. -/
def killBuiltin (words : List Octets) : Act Nat := do
  let dialect := (← get).dialect
  let send (signal : Signal) (operands : List Octets) : Act Nat :=
    if operands.isEmpty then Act.raise killUsage else sendAll signal 0 operands
  match words with
  | [] => Act.raise killUsage
  | ('-' :: name) :: rest =>
      match signalNamed? dialect 1 name with
      | some signal => send signal rest
      | none => do
          let (chosen, operands) ← options "ls:" words
          if chose chosen 'l' then listSignals operands
          else
            match chosen.find? (·.letter == 's') with
            | some option =>
                match signalNamed? dialect 1 option.argument with
                | some signal => send signal operands
                | none =>
                    Act.raise ("invalid signal number or name: ".toList ++ option.argument)
            | none => send .terminate operands
  | words => send .terminate words

end Shell
end Host
end Turnwise
