import Turnwise.Host.Glob
import Turnwise.Host.Image
import Turnwise.Host.Script.Grammar

/-!
# The state of a shell

A shell interprets scripts.  It has variables, functions and arguments, options that
change how it works, traps for signals, and the jobs in the background.  A
step of a shell may halt it: it may exit, fail, leave a loop or return from a function.
-/

namespace Turnwise
namespace Host
namespace Shell

open SystemError (Code)
open Script (Dialect Command)

/-- What a variable holds. -/
inductive Value where
  /-- A text. -/
  | text (text : Octets)
  /-- Texts by number, in order. -/
  | items (items : List (Nat × Octets))
  deriving DecidableEq, Repr

/-- A binding. -/
structure Binding where
  /-- What it holds; it may be known without holding anything. -/
  value : Option Value
  /-- Whether started programs inherit it. -/
  exported : Bool
  /-- Whether it may not be changed. -/
  fixed : Bool
  deriving DecidableEq, Repr

/-- A function. -/
structure Function where
  /-- The line of its definition. -/
  line : Nat
  /-- What it does. -/
  body : Command

/-- A job in the background: its processes, each with its status once that is known. -/
structure Job where
  /-- The number of the job. -/
  number : Nat
  /-- The processes, the last one first. -/
  processes : List (Nat × Option Nat)
  /-- Somebody has waited for it. -/
  waited : Bool
  deriving DecidableEq, Repr

namespace Job

/-- Whether all processes of a job have ended. -/
def isDone (job : Job) : Bool :=
  job.processes.all (·.2.isSome)

/-- The least number that a new job can have, given the jobs; those that are done and have
been waited for leave theirs. -/
def freeNumber (jobs : List Job) : Nat :=
  let held := (jobs.filter fun job => !(job.isDone && job.waited)).map (·.number)
  ((List.range (held.length + 1)).find? fun index => !held.contains (index + 1)).getD 0 + 1

end Job

/-- What comes back when a function ends. -/
structure Scope where
  /-- The variables that it hides. -/
  bindings : List (Octets × Option Binding)
  /-- The options, if they come back too. -/
  flags : Option (List Char)

/-- The state of a shell. -/
structure State where
  /-- The dialect that it interprets. -/
  dialect : Dialect
  /-- The name that it has in complaints. -/
  title : Octets
  /-- The name of its script. -/
  name : Octets
  /-- Its arguments. -/
  arguments : List Octets
  /-- Its variables. -/
  bindings : List (Octets × Binding)
  /-- For each function that runs, what comes back after it. -/
  hidden : List Scope
  /-- Its functions. -/
  functions : List (Octets × Function)
  /-- Words that stand for other texts. -/
  aliases : List (Octets × Octets)
  /-- The letters of its options. -/
  flags : List Char
  /-- Whether a pipeline fails when one of its commands does. -/
  failsInPipes : Bool
  /-- What is done about signals; zero stands for the exit. -/
  traps : List (Signal × Octets)
  /-- Signals that were caught and are still to be acted on. -/
  noticed : List Signal
  /-- The status of the last command. -/
  status : Nat
  /-- The status of the last command that was substituted. -/
  substituted : Option Nat
  /-- The last process that was not waited for. -/
  lastJob : Option Nat
  /-- The number of the first process of the shell. -/
  root : Nat
  /-- The number of its parent. -/
  parent : Nat
  /-- The jobs. -/
  jobs : List Job
  /-- The builtin command that is running. -/
  command : Option Octets
  /-- The line that complaints mention. -/
  line : Nat
  /-- Whether the script was given as a word. -/
  dictated : Bool
  /-- The line at which the current function begins. -/
  functionLine : Nat
  /-- How many loops the current command is in. -/
  loops : Nat
  /-- How many functions are running. -/
  depth : Nat
  /-- How many files are being interpreted inside each other. -/
  sourcing : Nat
  /-- The current directory, as it was reached. -/
  directory : Octets
  /-- The number of the argument whose options are looked at next. -/
  optionIndex : Nat
  /-- How far the options have been looked at within the argument before it. -/
  optionOffset : Option Nat
  /-- The files that names of commands were found to stand for. -/
  located : List (Octets × Octets)
  /-- The limits that were set, by their letters. -/
  limits : List (Char × Nat)
  /-- Whether something could not be printed. -/
  broken : Bool
  /-- Whether a command is being shown. -/
  tracing : Bool

/-- Why a shell does not go on with the next command. -/
inductive Halt where
  /-- It exits with a status. -/
  | exit (status : Nat)
  /-- Something failed that ends a shell unless it is being tried out. -/
  | failure (status : Nat)
  /-- It leaves a number of loops. -/
  | leave (count : Nat)
  /-- It goes on with the next round of a loop, leaving some inner ones. -/
  | next (count : Nat)
  /-- It returns from a function. -/
  | back
  deriving DecidableEq, Repr

/-- A step of a shell, which may halt it. -/
abbrev Act := ExceptT Halt (StateT State Program)

/-- How a command is run. -/
structure Flags where
  /-- Nothing comes after the command. -/
  exits : Bool
  /-- The status of the command is being tested. -/
  tested : Bool
  deriving DecidableEq, Repr

namespace Flags

/-- Something comes after the command, and its status counts. -/
def none : Flags := ⟨false, false⟩

/-- The status is being tested. -/
def testing : Flags := ⟨false, true⟩

end Flags

/-- How commands are run, and programs started. -/
structure Engine where
  /-- Run a command. -/
  run : Command → Flags → Act Unit
  /-- Start a utility. -/
  launch : Launch

namespace State

/-- A binding. -/
def binding? (state : State) (name : Octets) : Option Binding :=
  (state.bindings.find? (·.1 == name)).map (·.2)

/-- The text of a value: a list counts as its first item. -/
def textOf : Value → Option Octets
  | .text text => some text
  | .items items => (items.find? (·.1 == 0)).map (·.2)

/-- The text that a variable holds. -/
def value? (state : State) (name : Octets) : Option Octets :=
  ((state.binding? name).bind (·.value)).bind textOf

/-- The text of a variable with a known name. -/
def text (state : State) (name : String) : Octets :=
  (state.value? name.toList).getD []

/-- Set a variable as a whole. -/
def put (state : State) (name : Octets) (binding : Binding) : State :=
  { state with
    bindings :=
      if state.bindings.any (·.1 == name) then
        state.bindings.map fun entry => if entry.1 == name then (name, binding) else entry
      else (name, binding) :: state.bindings }

/-- Forget a binding. -/
def forget (state : State) (name : Octets) : State :=
  { state with bindings := state.bindings.filter (·.1 != name) }

/-- Set the text of a variable, whether it may be changed or not. -/
def force (state : State) (name : String) (value : Octets) : State :=
  let name := name.toList
  let old := (state.binding? name).getD ⟨none, false, false⟩
  state.put name { old with value := some (.text value) }

/-- How the sets of characters in patterns are read. -/
def manner (state : State) : Glob.Manner :=
  match state.dialect with
  | .plain => .signed
  | .rich => .common

/-- Whether an option is set. -/
def has (state : State) (flag : Char) : Bool :=
  state.flags.contains flag

/-- The place of a name among a number of places. -/
def bucket (places : Nat) (name : Octets) : Nat :=
  let first := (name.head?.map Char.toNat).getD 0
  name.foldl (fun total c => total + c.toNat) (16 * first) % places

/-- How many places there are for variables. -/
def variablePlaces : Nat := 39

/-- The variables that started programs inherit, by their places. -/
def environment (state : State) : List (Octets × Octets) :=
  let entries := state.bindings.reverse.filterMap fun (name, binding) =>
    if binding.exported then
      (binding.value.bind textOf).map fun value => (name, value)
    else none
  entries.mergeSort fun a b => bucket variablePlaces a.1 ≤ bucket variablePlaces b.1

/-- The characters at which fields fall apart. -/
def separators (state : State) : Octets :=
  (state.value? "IFS".toList).getD " \t\n".toList

/-- The search path. -/
def path (state : State) : Octets :=
  (state.value? "PATH".toList).getD []

/-- The name in complaints of functions: a rich shell tells where they come from. -/
def functionTitle (state : State) : Octets :=
  if state.dialect = .plain then state.title
  else if state.dictated then "environment".toList
  else if state.flags.contains 's' then "main".toList
  else state.title

/-- How a complaint begins. -/
def lead (state : State) : Octets :=
  let command :=
    match state.command with
    | some command => command ++ ": ".toList
    | none => []
  match state.dialect with
  | .plain => state.title ++ ": ".toList ++ Text.ofNat state.line ++ ": ".toList ++ command
  | .rich =>
      state.title ++ ": line ".toList ++ Text.ofNat state.line ++ ": ".toList ++ command

end State

namespace Act

/-- Make a program a step of a shell. -/
def program (program : Program α) : Act α :=
  liftM program

/-- Write to a descriptor, whatever comes of it. -/
def emit (descriptor : Nat) (octets : Octets) : Act Unit := do
  let _ ← program (.write descriptor octets)
  return

/-- Print to the standard output, and note when that fails. -/
def print (octets : Octets) : Act Unit := do
  match ← program (.write 1 octets) with
  | .ok _ => return
  | .error _ => modify fun state => { state with broken := true }

/-- Print a line. -/
def printLine (line : Octets) : Act Unit :=
  print (line ++ ['\n'])

/-- Complain. -/
def complain (message : Octets) : Act Unit := do
  emit 2 ((← get).lead ++ message ++ ['\n'])

/-- Set the status. -/
def finish (status : Nat) : Act Unit :=
  modify fun state => { state with status := status }

/-- Fail with a status. -/
def fail (status : Nat) : Act α := do
  finish status
  throw (.failure status)

/-- Complain and fail. -/
def raise (message : Octets) : Act α := do
  complain message
  fail 2

/-- The outcome of an act, without passing its halt on. -/
def observe (act : Act α) : Act (Except Halt α) :=
  ExceptT.mk do return .ok (← act.run)

/-- Run an act and mend the state afterwards, whether the act halts or not. -/
def mending (act : Act α) (mend : Act Unit) : Act α := do
  let outcome ← observe act
  mend
  match outcome with
  | .ok result => return result
  | .error halt => throw halt

/-- Run an act and put a part of the state back afterwards. -/
def keeping (restore : (before after : State) → State) (act : Act α) : Act α := do
  let before ← get
  mending act (modify (restore before))

/-- Repeat a step with a value until it gives a result. -/
def iterate (step : σ → Act (σ ⊕ α)) : (limit : Nat) → σ → Act α
  | 0, _ => program .spin
  | limit + 1, value => do
      match ← step value with
      | .inl value => iterate step limit value
      | .inr result => return result

/-- Repeat a step with a value until it gives a result. -/
def repeating (value : σ) (step : σ → Act (σ ⊕ α)) : Act α :=
  iterate step Program.patience value

/-- The text of a binding. -/
def lookup (name : Octets) : Act (Option Octets) := do
  return (← get).value? name

/-- Complain about a variable that may not be changed. -/
def checkFixed (name : Octets) : Act Unit := do
  let state ← get
  if (state.binding? name).any (·.fixed) then
    match state.dialect with
    | .plain => raise (name ++ ": is read only".toList)
    | .rich => do
        complain (name ++ ": readonly variable".toList)
        fail 1

/-- What setting some variables changes beside them. -/
def noteChange (name : Octets) (value : Value) : Act Unit := do
  if name = "OPTIND".toList then
    let digits := (State.textOf value).map (·.dropWhile Octets.isSpace)
    let index := (digits.bind (Text.natBelow? 0x80000000)).getD 1
    modify fun state => { state with optionIndex := max 1 index, optionOffset := none }
  else if name = "PATH".toList then modify fun state => { state with located := [] }

/-- Complain about a value that a variable of a plain shell cannot have. -/
def checkValue (name : Octets) (value : Option Octets) : Act Unit := do
  if name = "OPTIND".toList && (← get).dialect = .plain then
    let text := value.getD []
    match Text.natBelow? 0x80000000 (text.dropWhile Octets.isSpace) with
    | some _ => return
    | none => raise ("Illegal number: ".toList ++ text)

/-- Set a variable to a value. -/
def assignValue (name : Octets) (value : Value) : Act Unit := do
  checkFixed name
  checkValue name (State.textOf value)
  modify fun state =>
    let old := (state.binding? name).getD ⟨none, false, false⟩
    state.put name
      { old with value := some value, exported := old.exported || state.has 'a' }
  noteChange name value

/-- Set a variable to a text; of a list only the first item changes. -/
def assign (name text : Octets) : Act Unit := do
  match ((← get).binding? name).bind (·.value) with
  | some (.items items) =>
      assignValue name (.items ((0, text) :: items.filter (·.1 != 0)))
  | _ => assignValue name (.text text)

/-- Let programs inherit a binding. -/
def exportName (name : Octets) : Act Unit :=
  modify fun state =>
    let old := (state.binding? name).getD ⟨none, false, false⟩
    state.put name { old with exported := true }

/-- Hide a variable until the current function ends. -/
def hide (name : Octets) : Act Unit :=
  modify fun state =>
    match state.hidden with
    | scope :: rest =>
        if scope.bindings.any (·.1 == name) then state
        else
          let bindings := (name, state.binding? name) :: scope.bindings
          { state with hidden := { scope with bindings := bindings } :: rest }
    | [] => state

/-- Keep the options for the end of the current function. -/
def hideFlags : Act Unit :=
  modify fun state =>
    match state.hidden with
    | scope :: rest =>
        { state with
          hidden := { scope with flags := some (scope.flags.getD state.flags) } :: rest }
    | [] => state

/-- Begin to hide variables. -/
def openScope : Act Unit :=
  modify fun state => { state with hidden := ⟨[], none⟩ :: state.hidden }

/-- Bring back what was hidden since the last scope was opened. -/
def closeScope : Act Unit :=
  modify fun state =>
    match state.hidden with
    | scope :: rest =>
        let restored := scope.bindings.foldl
          (fun state entry =>
            match entry.2 with
            | some binding => state.put entry.1 binding
            | none => state.forget entry.1) state
        { restored with hidden := rest, flags := scope.flags.getD restored.flags }
    | [] => state

end Act

/-- The number that digits denote, if there are no more than fit. -/
def number? (text : Octets) : Option Nat :=
  Text.digitsBelow? 0x80000000 text

end Shell
end Host
end Turnwise
