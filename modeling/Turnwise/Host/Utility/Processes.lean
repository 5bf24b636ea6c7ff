import Turnwise.Host.Quantity
import Turnwise.Host.Utility.Files

/-!
# Tools that start programs

They wait, or become another program, or run other programs and look at how these end.
A program that is not there gives the status 127, and one that cannot be executed 126.
-/

namespace Turnwise
namespace Host
namespace Utility

open SystemError (Code)

/-- The nanoseconds that a number with a unit stands for; nothing is said about a time
without end. -/
def duration? (text : Octets) : Option (Option Nat) := do
  let (quantity, rest) ← Quantity.read? text
  let unit ←
    match rest with
    | [] => some 1
    | ['s'] => some 1
    | ['m'] => some 60
    | ['h'] => some 3600
    | ['d'] => some 86400
    | _ => none
  match quantity with
  | .finite negative numerator denominator =>
      if negative && numerator != 0 then none
      else
        let scaled := numerator * unit * 1000000000
        some (some ((scaled + denominator - 1) / denominator))
  | .infinite false => some none
  | _ => none

/-- Sleep. -/
def sleep : Work := fun start => do
  let (_, operands) ← (⟨[], true, 1⟩ : Grammar).read start.arguments
  if operands.isEmpty then Tool.misuse 1 "missing operand".toList
  let times := operands.map duration?
  for (operand, time) in operands.zip times do
    if time.isNone then
      Tool.grumble 1 ("invalid time interval ".toList ++ Tool.quoted operand)
  if times.any Option.isNone then
    let _ ← Tool.program (.write 2 (← Tool.hint))
    Tool.exit 1
  if times.any fun time => time == some none then Tool.program .spin
  else
    let total := times.foldl (fun total time => total + (time.join).getD 0) 0
    let _ ← Tool.program (.sleep total)
    return

/-- The status for a program that could not be started. -/
def startStatus (code : Code) : Nat :=
  if code = .noEntry then 127 else 126

/-- Become the program that words name; this goes on only if that is impossible. -/
def becomeWords
    (launch : Launch)
    (environment : List (Octets × Octets))
    (words : List Octets) : Tool Code := do
  Tool.flush
  Tool.program (Image.becomeNamed launch ⟨words.headD [], words.drop 1, environment⟩)

/-- Become the program that words name, or complain in the usual way. -/
def becomeOrDie
    (launch : Launch)
    (start : Start)
    (what : String)
    (words : List Octets) : Tool Unit := do
  let code ← becomeWords launch start.environment words
  Tool.die (startStatus code)
    (what.toList ++ Tool.quoted (words.headD []) ++ ": ".toList ++ code.title)

/-- Set a variable among others, in its place or at the end. -/
def assign (environment : List (Octets × Octets)) (name value : Octets) :
    List (Octets × Octets) :=
  if environment.any (·.1 == name) then
    environment.map fun entry => if entry.1 == name then (name, value) else entry
  else environment ++ [(name, value)]

/-- The options of the tool that changes variables. -/
def envGrammar : Grammar :=
  ⟨[.flag 'i' "ignore-environment", .flag '0' "null", .value 'u' "unset", .value 'C' "chdir",
    .value 'S' "split-string", .flag 'v' "debug"], false, 125⟩

/-- The assignments that words begin with, and the rest. -/
def leadingAssignments : List Octets → List (Octets × Octets) × List Octets
  | [] => ([], [])
  | word :: rest =>
      if word.contains '=' then
        let name := word.takeWhile (· != '=')
        let (more, rest) := leadingAssignments rest
        ((name, word.drop (name.length + 1)) :: more, rest)
      else ([], word :: rest)

/-- Become a program with other variables, or print them. -/
def env (launch : Launch) : Work := fun start => do
  let (given, operands) ← envGrammar.read start.arguments
  let (given, operands) : List Given × List Octets ←
    match Given.last? given 'S' with
    | some text => do
        let words := (text.splitBy fun a b => Octets.isSpace a == Octets.isSpace b).filter
          fun word => !word.all Octets.isSpace
        let (more, operands) ← envGrammar.read (words ++ operands)
        pure (given ++ more, operands)
    | none => pure (given, operands)
  let (bare, operands) : Bool × List Octets :=
    match operands with
    | ['-'] :: rest => (true, rest)
    | operands => (Given.has given 'i', operands)
  let removed := (given.filter (·.letter == 'u')).filterMap (·.value)
  let kept := if bare then []
    else start.environment.filter fun entry => !removed.contains entry.1
  let (assignments, words) := leadingAssignments operands
  let environment := assignments.foldl (fun all (name, value) => assign all name value) kept
  match Given.last? given 'C' with
  | some path =>
      match ← Tool.program (.moveTo path) with
      | .ok () => pure ()
      | .error code => Tool.die 125 (because "cannot change directory to " path code)
  | none => pure ()
  if words.isEmpty then
    for (name, value) in environment do
      Tool.print (name ++ '=' :: value ++ [if Given.has given '0' then '\x00' else '\n'])
  else
    let code ← becomeWords launch environment words
    let name := words.headD []
    Tool.complain (Tool.quoted name ++ ": ".toList ++ code.title)
    if code = .noEntry && name.any Octets.isSpace then
      Tool.complain "use -[v]S to pass options in shebang lines".toList
    Tool.exit (startStatus code)

/-- Become a program that goes on when its terminal is gone. -/
def nohup (launch : Launch) : Work := fun start => do
  let (_, operands) ← (⟨[], false, 125⟩ : Grammar).read start.arguments
  if operands.isEmpty then Tool.misuse 125 "missing operand".toList
  Tool.program (.dispose .hangup .ignored)
  becomeOrDie launch start "failed to run command " operands

/-- Become a program that lets others go first. -/
def nice (launch : Launch) : Work := fun start => do
  let (given, operands) ← (⟨[.value 'n' "adjustment"], false, 125⟩ : Grammar).read start.arguments
  match Given.last? given 'n' with
  | some text =>
      if (Text.int64? text).isNone then
        Tool.die 125 ("invalid adjustment ".toList ++ Tool.quoted text)
      else if operands.isEmpty then
        Tool.misuse 125 "a command must be given with an adjustment".toList
  | none => pure ()
  if operands.isEmpty then Tool.printLine ['0'] else becomeOrDie launch start "" operands

/-- Become a program in a group of its own. -/
def setsid (launch : Launch) : Work := fun start => do
  let (_, operands) ← (⟨[.flag 'c' "ctty", .flag 'f' "fork", .flag 'w' "wait"], false, 1⟩ :
    Grammar).read start.arguments
  if operands.isEmpty then Tool.misuse 1 "no command specified".toList
  let name := (← get).name
  let detached : Program Nat := do
    Program.lead
    let code ← Image.becomeNamed launch ⟨operands.headD [], operands.drop 1, start.environment⟩
    let _ ← Program.write 2 (name ++ ": failed to execute ".toList ++ operands.headD [] ++
      ": ".toList ++ code.title ++ ['\n'])
    pure (startStatus code)
  let self ← Tool.program .identity
  if self.number = self.group then
    let _ ← Tool.program (.fork detached.task)
    return
  else Tool.exit (← Tool.program detached)

/-- The signal that a word names. -/
def signalOf? (word : Octets) : Option Signal :=
  let upper := word.map Char.toUpper
  let bare := (Text.after? "SIG".toList upper).getD upper
  match Text.digits? word with
  | some number => if number ≤ Signal.highest then some number else none
  | none => Signal.named? bare

/-- The time that a word stands for, or a complaint. -/
def intervalOf (word : Octets) : Tool (Option Nat) := do
  match duration? word with
  | some time => return time
  | none => Tool.misuse 125 ("invalid time interval ".toList ++ Tool.quoted word)

/-- Run a program, and end it when a time is over. -/
def timeout (launch : Launch) : Work := fun start => do
  let grammar : Grammar :=
    ⟨[.value 'k' "kill-after", .value 's' "signal", .flag 'v' "verbose",
      .flag '\x01' "preserve-status", .flag '\x02' "foreground"], false, 125⟩
  let (given, operands) ← grammar.read start.arguments
  let signal : Signal ←
    match Given.last? given 's' with
    | none => pure Signal.terminate
    | some word =>
        match signalOf? word with
        | some signal => pure signal
        | none => Tool.misuse 125 (Tool.quoted word ++ ": invalid signal".toList)
  let after : Option Nat ←
    match Given.last? given 'k' with
    | some word => intervalOf word
    | none => pure none
  match operands with
  | length :: command :: arguments => do
      let time ← intervalOf length
      let name := (← get).name
      if !Given.has given '\x02' then Tool.program .lead
      let child : Program Nat := do
        let code ← Image.becomeNamed launch ⟨command, arguments, start.environment⟩
        let _ ← Program.write 2 (name ++ ": failed to run command ".toList ++
          Tool.quoted command ++ ": ".toList ++ code.title ++ ['\n'])
        pure (startStatus code)
      let number ← Tool.program (.fork child.task)
      let send (signal : Signal) : Tool Unit := do
        if Given.has given 'v' then
          Tool.complain ("sending signal ".toList ++ Signal.name signal ++
            " to command ".toList ++ Tool.quoted command)
        let _ ← Tool.program (.signal number signal)
        if !Given.has given '\x02' then
          if signal != .kill then Tool.program (.dispose signal .ignored)
          let _ ← Tool.program (.signal 0 signal)
      let await (limit : Option Nat) : Tool (Option Ending) := do
        let now ← Tool.program .now
        let patience : Patience :=
          match limit with
          | some time => .upTo (now + time)
          | none => .deaf
        match ← Tool.program (.wait (some number) patience) with
        | .ok (some (_, ending)) => return some ending
        | _ => return none
      let limit := if time = some 0 then none else time
      match ← await limit with
      | some (.exited status) => Tool.exit status
      | some (.signalled signal) => do
          Tool.program (.dispose signal .standard)
          let self ← Tool.program .identity
          let _ ← Tool.program (.signal self.number signal)
          Tool.exit (128 + signal)
      | none => do
          send signal
          let ending : Option Ending ←
            match after with
            | some _ =>
                match ← await after with
                | some ending => pure (some ending)
                | none => do
                    send .kill
                    await none
            | none => await none
          let preserved := Given.has given '\x01' || ending == some (.signalled .kill)
          Tool.exit (if preserved then (ending.map Ending.status).getD 124 else 124)
  | _ => do
      let _ ← Tool.program (.write 2 (← Tool.hint))
      Tool.exit 125

/-- Find the programs that names stand for. -/
def which : Work := fun start => do
  let (given, operands) ← (⟨[.flag 'a' "", .flag 's' ""], false, 2⟩ : Grammar).read start.arguments
  if operands.isEmpty then Tool.exit 1
  for name in operands do
    let candidates := if name.contains '/' then [name]
      else Image.candidates ((start.value? "PATH").getD []) name
    let mut found := false
    for path in candidates do
      if !found || Given.has given 'a' then
        match ← Tool.program (.status path) with
        | .ok status =>
            if status.form = .file && status.mode &&& 0o111 != 0 then
              if !Given.has given 's' then Tool.printLine path
              found := true
        | .error _ => pure ()
    if !found then Tool.fail 1

/-- Print the name of the host. -/
def hostname : Work := fun _ =>
  Tool.printLine "localhost".toList

/-- Print the number of processors. -/
def nproc : Work := fun _ =>
  Tool.printLine ['4']

end Utility
end Host
end Turnwise
