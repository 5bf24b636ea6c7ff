import Turnwise.Host.Shell.Builtin.Jobs
import Turnwise.Host.Shell.Builtin.System
import Turnwise.Host.Shell.Builtin.Variables
import Turnwise.Host.Shell.Execution
import Turnwise.Host.Shell.Redirection

/-!
# Builtin commands that change what runs next

Some builtin commands run a text or a file as a script, become another program, or leave
a loop, a function or the shell.  All builtin commands are called from here.
-/

namespace Turnwise
namespace Host
namespace Shell

/-- The number that the first word is, if there is one. -/
def firstNumber? (words : List Octets) : Act (Option Nat) := do
  match words with
  | [] => return none
  | word :: _ => do return some (← number word)

/-- Exit. -/
def exitBuiltin (words : List Octets) : Act Nat := do
  let status := (← firstNumber? words).getD (← get).status
  Act.finish (status % 256)
  throw (.exit (status % 256))

/-- Return from a function or a script. -/
def returnBuiltin (words : List Octets) : Act Nat := do
  let status := (← firstNumber? words).getD (← get).status
  Act.finish status
  throw .back

/-- How many loops are meant, no more than there are. -/
def loopCount (words : List Octets) : Act Nat := do
  let count := (← firstNumber? words).getD 1
  if count = 0 then Act.raise ("Illegal number: ".toList ++ words.head?.getD [])
  return min count (← get).loops

/-- Leave loops. -/
def breakBuiltin (words : List Octets) : Act Nat := do
  let count ← loopCount words
  if count = 0 then return 0
  else do
    Act.finish 0
    throw (.leave count)

/-- Go on with the next round of a loop. -/
def continueBuiltin (words : List Octets) : Act Nat := do
  let count ← loopCount words
  if count = 0 then return 0
  else do
    Act.finish 0
    throw (.next count)

/-- Run words as a script. -/
def evalBuiltin (engine : Engine) (flags : Flags) (words : List Octets) : Act Nat := do
  runText engine 1 (Text.joinWith [' '] words) { flags with exits := false }
  return (← get).status

/-- Look for a readable file in the directories of the search path. -/
def searchScript : List Octets → Program (Option Octets)
  | [] => pure none
  | path :: rest => do
      match ← Program.status path with
      | .ok status => if status.form = .file then pure (some path) else searchScript rest
      | .error _ => searchScript rest

/-- The file of a script that is to be run in this shell. -/
def scriptFile (name : Octets) : Act Octets := do
  if name.contains '/' then return name
  else
    let state ← get
    match ← Act.program (searchScript (Image.candidates state.path name)) with
    | some path => return path
    | none =>
        if state.dialect = .rich then return name
        else Act.raise (name ++ ": not found".toList)

/-- Run a file as a script in this shell. -/
def dotBuiltin (engine : Engine) (words : List Octets) : Act Nat := do
  let (_, operands) ← options "" words
  match operands with
  | [] =>
      if (← get).dialect = .rich then do
        Act.complain "filename argument required".toList
        return 2
      else return 0
  | name :: arguments => do
      let path ← scriptFile name
      let content ←
        match ← Act.program (.readFile path) with
        | .ok content => pure content
        | .error code =>
            match (← get).dialect with
            | .plain => if code = .isDirectory then pure [] else refuse .input path code
            | .rich => do
                modify fun state => { state with command := none }
                Act.complain (path ++ ": ".toList ++ code.title)
                Act.fail 1
      let before ← get
      let rich := before.dialect = .rich
      modify fun state =>
        { state with
          command := if rich then none else some path
          title := if rich then path else state.title
          dictated := state.dictated && !rich
          sourcing := state.sourcing + 1
          arguments := if rich && !arguments.isEmpty then arguments else state.arguments }
      let outcome ← Act.observe (runText engine 1 content .none)
      modify fun state =>
        { state with
          command := before.command
          title := before.title
          dictated := before.dictated
          sourcing := before.sourcing
          arguments := if rich && !arguments.isEmpty then before.arguments
            else state.arguments }
      match outcome with
      | .ok () => return (← get).status
      | .error .back => return (← get).status
      | .error halt => throw halt

/-- Become another program, or keep the redirections. -/
def execBuiltin (engine : Engine) (words : List Octets) : Act Nat := do
  if !words.isEmpty then
    for trap in (← get).traps do
      if trap.1 != 0 && !trap.2.isEmpty then Act.program (.dispose trap.1 .standard)
    execute engine (← get).path words
  return 0

/-- Say what a name stands for; to run it without functions is done elsewhere. -/
def commandBuiltin (words : List Octets) : Act Nat := do
  let (chosen, operands) ← options "pvV" words
  match operands with
  | [] => return 0
  | name :: _ => do
      let verbose := (chosen.getLast?.map (·.letter)) = some 'V'
      let rich := (← get).dialect = .rich
      match ← describe? verbose (verbose && !rich) name with
      | some sentence => do
          Act.printLine sentence
          return 0
      | none => do
          if verbose then
            match (← get).dialect with
            | .plain => Act.printLine (name ++ ": not found".toList)
            | .rich => Act.complain (name ++ ": not found".toList)
          return if rich then 1 else 127

/-- Call a builtin command by its name. -/
def callBuiltin (engine : Engine) (flags : Flags) (name : Octets) (words : List Octets) :
    Act Nat :=
  match String.ofList name with
  | "." => dotBuiltin engine words
  | "source" => dotBuiltin engine words
  | ":" => return 0
  | "true" => return 0
  | "false" => return 1
  | "[" => testBuiltin true words
  | "test" => testBuiltin false words
  | "alias" => aliasBuiltin words
  | "unalias" => unaliasBuiltin words
  | "bg" => moveJobBuiltin words
  | "fg" => moveJobBuiltin words
  | "break" => breakBuiltin words
  | "continue" => continueBuiltin words
  | "cd" => cdBuiltin words
  | "chdir" => cdBuiltin words
  | "pwd" => pwdBuiltin words
  | "command" => commandBuiltin words
  | "echo" => echoBuiltin words
  | "printf" => printfBuiltin words
  | "eval" => evalBuiltin engine flags words
  | "exec" => execBuiltin engine words
  | "exit" => exitBuiltin words
  | "return" => returnBuiltin words
  | "export" => exportBuiltin words
  | "readonly" => readonlyBuiltin words
  | "local" => localBuiltin words
  | "unset" => unsetBuiltin words
  | "set" => setBuiltin words
  | "shift" => shiftBuiltin words
  | "getopts" => getoptsBuiltin words
  | "read" => readBuiltin words
  | "hash" => hashBuiltin words
  | "type" => typeBuiltin words
  | "jobs" => jobsBuiltin words
  | "kill" => killBuiltin words
  | "wait" => waitBuiltin words
  | "trap" => trapBuiltin words
  | "times" => timesBuiltin words
  | "ulimit" => ulimitBuiltin words
  | "umask" => umaskBuiltin words
  | "declare" => declareBuiltin words
  | "typeset" => declareBuiltin words
  | "let" => letBuiltin words
  | _ => return 0

/-- Run a builtin command.  A failure ends the shell only if the command is a special
one. -/
def runBuiltin
    (engine : Engine)
    (flags : Flags)
    (special : Bool)
    (name : Octets)
    (words : List Octets) : Act Unit := do
  let before := (← get).command
  modify fun state => { state with command := some name, broken := false }
  let outcome ← Act.observe (callBuiltin engine flags name words)
  let broken := (← get).broken
  if broken then
    match (← get).dialect with
    | .plain => Act.complain (name ++ ": I/O error".toList)
    | .rich => Act.complain "write error: No space left on device".toList
  modify fun state => { state with command := before, broken := false }
  match outcome with
  | .ok status => Act.finish (if broken && status = 0 then 1 else status)
  | .error (.failure status) =>
      if special then throw (.failure status) else Act.finish status
  | .error halt => throw halt

end Shell
end Host
end Turnwise
