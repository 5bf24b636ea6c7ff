import Turnwise.Host.Regex
import Turnwise.Host.Shell.Braces
import Turnwise.Host.Shell.Control

/-!
# Running commands

Each kind of command has its rule.  A command that contains others runs them through an
engine, so that the rules do not refer to each other; the interpreter is the engine that
refers to itself, up to a depth.
-/

namespace Turnwise
namespace Host
namespace Shell

open Script (Assignment Arm Command Condition Comparison Redirect Word)

/-- Whether the shell has to act on signals or on its exit. -/
def hasTraps (state : State) : Bool :=
  state.traps.any fun trap => !trap.2.isEmpty

/-- What follows a command: traps, the exit after a failure that counts, and the exit when
nothing comes after it. -/
def conclusion (engine : Engine) (flags : Flags) (counts : Bool) : Act Unit := do
  runTraps engine
  let state ← get
  if (counts && !flags.tested && state.has 'e' && state.status != 0) || flags.exits then
    throw (.exit state.status)

/-- Whether a word is an assignment, by its beginning. -/
def assignmentName? : Word → Option (Octets × Word)
  | .literal text false :: rest =>
      let name := text.takeWhile Script.isNameChar
      match text.drop name.length with
      | '=' :: value =>
          if Script.isName name then
            some (name ++ ['='], if value.isEmpty then rest else .literal value false :: rest)
          else none
      | _ => none
  | _ => none

/-- The fields of an argument; an assignment among the arguments of some commands stays
one field. -/
def argumentFields (engine : Engine) (assigning : Bool) (word : Word) : Act (List Octets) := do
  match if assigning then assignmentName? word else none with
  | some (beginning, value) => do
      return [beginning ++ (← expandText engine .assigned value)]
  | none =>
      if (← get).dialect = .rich then
        let mut fields : List (List Octets) := []
        for word in expandBraces word do
          fields := (← expandFields engine word) :: fields
        return fields.reverse.flatten
      else expandFields engine word

/-- The fields of arguments. -/
def argumentsFields (engine : Engine) (assigning : Bool) (words : List Word) :
    Act (List Octets) := do
  let mut fields : List (List Octets) := []
  for word in words do
    fields := (← argumentFields engine assigning word) :: fields
  return fields.reverse.flatten

/-- The fields of the first word that has any, and the words after it. -/
def leadingFields (engine : Engine) : List Word → Act (List Octets × List Word)
  | [] => return ([], [])
  | word :: rest => do
      match ← argumentFields engine false word with
      | [] => leadingFields engine rest
      | fields => return (fields, rest)

/-- The fields of a command, its name first. -/
def commandFields (engine : Engine) (words : List Word) : Act (List Octets) := do
  let (fields, rest) ← leadingFields engine words
  let assigning := (fields.head?.map takesAssignments).getD false
  return fields ++ (← argumentsFields engine assigning rest)

/-- The items of a list with one more text at its end. -/
def appendItem (items : List (Nat × Octets)) (text : Octets) : List (Nat × Octets) :=
  items ++ [(items.foldl (fun next item => max next (item.1 + 1)) 0, text)]

/-- Carry out an assignment, and tell what is shown of it; something may have to be done with
the name between the expansion of the value and the assignment. -/
def assignOne (engine : Engine) (prepare : Octets → Act Unit) : Assignment → Act Octets
  | .value name none appends value => do
      let text ← expandText engine .assigned value
      let old := ((← get).value? name).getD []
      let text := if appends then old ++ text else text
      prepare name
      Act.assign name text
      return name ++ '=' :: text
  | .value name (some item) appends value => do
      let index ← expandText engine .single item
      let text ← expandText engine .assigned value
      let items := ((((← get).binding? name).bind (·.value)).map itemsOf).getD []
      let place := (← calculate index).toNat
      let old := ((items.find? (·.1 == place)).map (·.2)).getD []
      let text := if appends then old ++ text else text
      let others := items.filter (·.1 != place)
      prepare name
      Act.assignValue name
        (.items (((place, text) :: others).mergeSort fun a b => a.1 ≤ b.1))
      return name ++ '[' :: index ++ "]=".toList ++ text
  | .values name appends values => do
      let fields ← argumentsFields engine false values
      let old := ((((← get).binding? name).bind (·.value)).map itemsOf).getD []
      prepare name
      Act.assignValue name (.items (fields.foldl appendItem (if appends then old else [])))
      return name ++ "=(".toList ++ Text.joinWith [' '] fields ++ [')']

/-- The name that an assignment sets. -/
def assignedName : Assignment → Octets
  | .value name _ _ _ => name
  | .values name _ _ => name

/-- Carry out assignments, which may be for one command alone; the answer is what is shown
of them. -/
def assignAll (engine : Engine) (passing : Bool) :
    List Assignment → (reversed : List Octets) → Act (List Octets)
  | [], reversed => return reversed.reverse
  | assignment :: rest, reversed => do
      let shown ← assignOne engine (if passing then Act.hide else fun _ => return) assignment
      if passing then Act.exportName (assignedName assignment)
      assignAll engine passing rest (shown :: reversed)

/-- What stands before a command that is shown: a text that is expanded, unless that
fails. -/
def traceLead (engine : Engine) : Act Octets := do
  let state ← get
  let text := (state.value? "PS4".toList).getD []
  let outcome ← Act.observe do
    match Script.documentWord state.dialect text with
    | .error fault => complainAbout state.line text fault
    | .ok word => expandText engine .single word
  modify fun after =>
    { after with status := state.status, line := state.line, substituted := state.substituted }
  match outcome with
  | .ok expanded => return expanded
  | .error (.failure _) => return text
  | .error halt => throw halt

/-- Show a command before it runs. -/
def trace (engine : Engine) (descriptor : Nat) (words : List Octets) : Act Unit := do
  let state ← get
  if state.has 'x' && !state.tracing then
    modify fun state => { state with tracing := true }
    let lead ← Act.mending (traceLead engine)
      (modify fun state => { state with tracing := false })
    Act.emit descriptor (lead ++ Text.joinWith [' '] words ++ ['\n'])

/-- How deep functions may call each other. -/
def callLimit : Nat := 1000

/-- Call a function. -/
def callFunction
    (engine : Engine)
    (flags : Flags)
    (function : Function)
    (words : List Octets) : Act Unit := do
  let before ← get
  if callLimit ≤ before.depth then
    Act.raise "Maximum function recursion depth (1000) reached".toList
  modify fun state =>
    { state with
      arguments := words
      title := state.functionTitle
      loops := 0
      depth := state.depth + 1
      functionLine := function.line
      optionIndex := 1
      optionOffset := none }
  Act.openScope
  let outcome ← Act.observe (engine.run function.body ⟨false, flags.tested⟩)
  let hidden := (((← get).hidden.head?).map (·.bindings)).getD []
  Act.closeScope
  modify fun state =>
    { state with
      arguments := before.arguments
      title := before.title
      loops := before.loops
      depth := before.depth
      functionLine := before.functionLine
      optionIndex := before.optionIndex
      optionOffset := before.optionOffset }
  match hidden.find? (!Script.isName ·.1) with
  | some (name, _) => Act.raise (name ++ ": bad variable name".toList)
  | none =>
      match outcome with
      | .ok () => return
      | .error .back => return
      | .error halt => throw halt

/-- Run a file as a program, in a child unless nothing comes after it. -/
def runFile (engine : Engine) (flags : Flags) (path : Octets) (words : List Octets) :
    Act Unit := do
  if flags.exits && !hasTraps (← get) then execute engine path words
  else do
    let child ← fork engine (execute engine path words)
    Act.finish (← await child)

/-- The arguments of a command that is run without functions, if words ask for that: with
whether the standard path is used. -/
def unprefixed : List Octets → (standard : Bool) → Option (Bool × List Octets)
  | [], _ => none
  | ['-', '-'] :: rest, standard => if rest.isEmpty then none else some (standard, rest)
  | ['-', 'p'] :: rest, _ => unprefixed rest true
  | ('-' :: _ :: _) :: _, _ => none
  | words, standard => some (standard, words)

/-- Where commands are looked for when the search path is not trusted. -/
def trustedPath : Octets :=
  "/usr/local/sbin:/usr/local/bin:/usr/sbin:/usr/bin:/sbin:/bin".toList

/-- What a command is called, how it is looked for, and whether its failure can end the
shell. -/
structure Calling where
  /-- The name and the arguments. -/
  words : List Octets
  /-- Whether functions count. -/
  functions : Bool
  /-- Whether the standard path is used. -/
  standard : Bool
  /-- Whether the command is a special builtin one. -/
  special : Bool

/-- Find out how a command is called. -/
def calling (state : State) (words : List Octets) : Calling :=
  let plain := state.dialect = .plain
  match words with
  | name :: rest =>
      let shadowed := state.functions.any (·.1 == name)
      if name = "command".toList && !shadowed then
        match unprefixed rest false with
        | some (standard, words) => ⟨words, false, standard, false⟩
        | none => ⟨words, true, false, false⟩
      else if name = "builtin".toList && !plain && !shadowed then
        ⟨rest, false, false, false⟩
      else ⟨words, true, false, plain && isSpecialBuiltin name && !shadowed⟩
  | [] => ⟨[], true, false, false⟩

/-- Run a command by its name. -/
def runCalled (engine : Engine) (flags : Flags) (call : Calling) : Act Unit := do
  match call.words with
  | [] => Act.finish ((← get).substituted.getD 0)
  | name :: words => do
      let searched := (← get).path
      let path := if call.standard then trustedPath else searched
      match ← meaning call.functions path name with
      | .builtin => runBuiltin engine flags call.special name words
      | .function function => callFunction engine flags function words
      | .file _ => runFile engine flags path (name :: words)
      | .unknown code => do
          match (← get).dialect with
          | .plain => Act.complain (name ++ ": ".toList ++ executionTitle code)
          | .rich => Act.complain (name ++ ": command not found".toList)
          Act.finish 127

/-- Run a simple command. -/
def runSimple
    (engine : Engine)
    (flags : Flags)
    (line : Nat)
    (assignments : List Assignment)
    (words : List Word)
    (redirects : List Redirect) : Act Unit := do
  Act.program .pause
  modify fun state => { state with line := line, substituted := none }
  let fields ← commandFields engine words
  let call := calling (← get) fields
  let passing := !call.words.isEmpty && !call.special
  let targets ← expandRedirects engine redirects
  let (saved, outcome) ← redirect engine false [] targets
  let keeps := call.words.head? = some "exec".toList
  match outcome with
  | .error (.failure status) => do
      if keeps && (← get).dialect = .plain then discard saved else restore saved
      Act.finish status
      if call.special then throw (.failure status)
  | .error halt => do
      restore saved
      throw halt
  | .ok () => do
      if passing && !assignments.isEmpty then Act.openScope
      let run : Act Unit := do
        let shown ← assignAll engine passing assignments []
        trace engine (errorsBefore saved) (shown ++ fields)
        runCalled engine flags call
      Act.mending run do
        if passing && !assignments.isEmpty then Act.closeScope
        if keeps then discard saved else restore saved

/-- Prepare a child that runs in the background. -/
def detach (first : Bool) : Act Unit := do
  Act.program (.dispose .interrupt .ignored)
  Act.program (.dispose 3 .ignored)
  if first then
    Act.program (.close 0)
    let _ ← Act.program (.openFile "/dev/null".toList .reading)

/-- Remember a job that is not waited for. -/
def noteJob (processes : List Nat) : Act Unit :=
  modify fun state =>
    let job : Job :=
      { number := Job.freeNumber state.jobs
        processes := processes.map fun process => (process, none)
        waited := false }
    { state with
      jobs := job :: state.jobs
      lastJob := processes.head? }

/-- Start the commands of a pipeline, each with the output of the one before as its input;
the processes are given in reverse. -/
def startPipeline (engine : Engine) (flags : Flags) (background : Bool) :
    (input : Option Nat) → (started : List Nat) → List Command → Act (List Nat)
  | _, started, [] => return started
  | input, started, command :: rest => do
      let link ←
        if rest.isEmpty then pure none
        else do
          let ends ← Act.program .pipe
          pure (some ends)
      let child ← fork engine do
        if background then detach started.isEmpty
        match link with
        | some (reader, _) => Act.program (.close reader)
        | none => pure ()
        match input with
        | some descriptor => do
            let _ ← Act.program (.connect descriptor 0)
            if descriptor != 0 then Act.program (.close descriptor)
        | none => pure ()
        match link with
        | some (_, writer) => do
            let _ ← Act.program (.connect writer 1)
            if writer != 1 then Act.program (.close writer)
        | none => pure ()
        engine.run command ⟨true, flags.tested⟩
      match input with
      | some descriptor => Act.program (.close descriptor)
      | none => pure ()
      match link with
      | some (_, writer) => Act.program (.close writer)
      | none => pure ()
      startPipeline engine flags background (link.map (·.1)) (child :: started) rest

/-- Wait for the processes of a pipeline; the last one gives the status, or the last one
that failed. -/
def awaitPipeline (processes : List Nat) : Act Nat := do
  let mut statuses : List Nat := []
  for process in processes do
    statuses := (← await process) :: statuses
  let last := statuses.head?.getD 0
  if (← get).failsInPipes then
    return (statuses.find? (· != 0)).getD 0
  else return last

/-- Run a pipeline. -/
def runPipeline (engine : Engine) (flags : Flags) (commands : List Command) : Act Unit := do
  Act.program .pause
  let processes ← startPipeline engine flags false none [] commands
  Act.finish (← awaitPipeline processes.reverse)

/-- Start a command that is not waited for. -/
def runBackground (engine : Engine) (body : Command) : Act Unit := do
  Act.program .pause
  match body with
  | .pipeline commands => do
      noteJob (← startPipeline engine .none true none [] commands)
  | body => do
      let child ← fork engine do
        detach true
        match body with
        | .subshell line body redirects => inside line body redirects
        | .redirected line body redirects => inside line body redirects
        | body => engine.run body ⟨true, false⟩
      noteJob [child]
  Act.finish 0
where
  /-- Run a command in this process, with redirections. -/
  inside (line : Nat) (body : Command) (redirects : List Redirect) : Act Unit := do
    modify fun state => { state with line := line }
    let targets ← expandRedirects engine redirects
    let (saved, outcome) ← redirect engine true [] targets
    discard saved
    match outcome with
    | .ok () => engine.run body ⟨true, false⟩
    | .error halt => throw halt

/-- Run a command in a process of its own. -/
def runSubshell
    (engine : Engine)
    (flags : Flags)
    (line : Nat)
    (body : Command)
    (redirects : List Redirect) : Act Unit := do
  Act.program .pause
  modify fun state => { state with line := line }
  let targets ← expandRedirects engine redirects
  let inside : Act Unit := do
    let (saved, outcome) ← redirect engine true [] targets
    discard saved
    match outcome with
    | .ok () => engine.run body ⟨true, flags.tested⟩
    | .error halt => throw halt
  if flags.exits && !hasTraps (← get) then do
    modify fun state => { state with jobs := [], loops := 0 }
    inside
  else do
    let child ← fork engine inside
    Act.finish (← await child)

/-- Run a command with redirections. -/
def runRedirected
    (engine : Engine)
    (flags : Flags)
    (line : Nat)
    (body : Command)
    (redirects : List Redirect) : Act Unit := do
  modify fun state => { state with line := line }
  let targets ← expandRedirects engine redirects
  let (saved, outcome) ← redirect engine false [] targets
  match outcome with
  | .ok () => Act.mending (engine.run body ⟨false, flags.tested⟩) (restore saved)
  | .error (.failure status) => do
      restore saved
      Act.finish status
  | .error halt => do
      restore saved
      throw halt

/-- How a round of a loop ends. -/
inductive Round where
  /-- The loop goes on. -/
  | again
  /-- The loop is left. -/
  | left
  deriving DecidableEq, Repr

/-- Run a part of a loop, and see whether the loop goes on. -/
def round (act : Act Unit) : Act Round := do
  match ← Act.observe act with
  | .ok () => return .again
  | .error (.leave count) => if count ≤ 1 then return .left else throw (.leave (count - 1))
  | .error (.next count) => if count ≤ 1 then return .again else throw (.next (count - 1))
  | .error halt => throw halt

/-- Run an act as a loop: one more loop can be left. -/
def looping (act : Act Unit) : Act Unit := do
  modify fun state => { state with loops := state.loops + 1 }
  Act.mending act (modify fun state => { state with loops := state.loops - 1 })

/-- Repeat a body as long as a condition succeeds, or until it does. -/
def runLoop (engine : Engine) (flags : Flags) (untilTrue : Bool) (condition body : Command) :
    Act Unit :=
  looping do
    let status ← Act.repeating 0 fun status => do
      Act.program .pause
      let checked ← Act.observe (engine.run condition .testing)
      match checked with
      | .ok () =>
          if ((← get).status = 0) = untilTrue then return .inr status
          else
            match ← round (engine.run body ⟨false, flags.tested⟩) with
            | .again => return .inl (← get).status
            | .left => return .inr (← get).status
      | .error halt =>
          match ← round (throw halt) with
          | .again => return .inl status
          | .left => return .inr status
    Act.finish status

/-- Run a body for each of some words. -/
def eachRound (engine : Engine) (flags : Flags) (name : Octets) (body : Command) :
    List Octets → Act Unit
  | [] => return
  | word :: rest => do
      Act.program .pause
      Act.assign name word
      match ← round (engine.run body ⟨false, flags.tested⟩) with
      | .again => eachRound engine flags name body rest
      | .left => return

/-- Repeat a body for words. -/
def runEach
    (engine : Engine)
    (flags : Flags)
    (line : Nat)
    (name : Octets)
    (words : List Word)
    (body : Command) : Act Unit := do
  modify fun state => { state with line := line }
  let fields ← argumentsFields engine false words
  if fields.isEmpty then Act.finish 0
  else looping (eachRound engine flags name body fields)

/-- The value of an arithmetic expression that stands in a command; a missing one counts
as one. -/
def computed (engine : Engine) (expression : Word) : Act Int := do
  let text ← expandText engine .single expression
  if text.all Octets.isSpace then return 1 else calculate text

/-- Repeat a body with a counter. -/
def runCount
    (engine : Engine)
    (flags : Flags)
    (start condition step : Word)
    (body : Command) : Act Unit :=
  looping do
    let _ ← computed engine start
    Act.finish 0
    Act.repeating () fun _ => do
      Act.program .pause
      if (← computed engine condition) = 0 then return .inr ()
      else
        match ← round (engine.run body ⟨false, flags.tested⟩) with
        | .again => do
            let _ ← computed engine step
            return .inl ()
        | .left => return .inr ()

/-- Whether one of some patterns matches a text. -/
def anyMatches (engine : Engine) (subject : Octets) : List Word → Act Bool
  | [] => return false
  | word :: rest => do
      if Glob.isMatch (← expandPattern engine word) subject then return true
      else anyMatches engine subject rest

/-- Run the arm that matches a text; an arm may fall through to the next. -/
def runArms (engine : Engine) (flags : Flags) (subject : Octets) :
    (falling : Bool) → List Arm → Act Unit
  | _, [] => return
  | falling, .arm patterns body next :: rest => do
      let chosen ← if falling then pure true else anyMatches engine subject patterns
      if chosen then
        match next with
        | none =>
            match body with
            | .nothing => return
            | body => engine.run body flags
        | some falls => do
            engine.run body { flags with exits := false }
            runArms engine flags subject falls rest
      else runArms engine flags subject false rest

/-- Run a choice by patterns. -/
def runChoice
    (engine : Engine)
    (flags : Flags)
    (line : Nat)
    (subject : Word)
    (arms : List Arm) : Act Unit := do
  modify fun state => { state with line := line }
  let text ← expandText engine .single subject
  Act.finish 0
  runArms engine flags text false arms

/-- Whether a regular expression matches a text somewhere; what its groups match is kept
in a list. -/
def matchesExpression (pattern text : Octets) : Act Bool := do
  match Regex.parse ⟨true, false, false⟩ pattern with
  | .error _ => Act.fail 2
  | .ok regex =>
      match regex.search text with
      | none => do
          Act.assignValue "BASH_REMATCH".toList (.items [])
          return false
      | some found => do
          let groups := (List.range (regex.groups + 1)).map fun index =>
            (index, (found.group? index).getD [])
          Act.assignValue "BASH_REMATCH".toList (.items groups)
          return true

/-- Whether a condition in double brackets holds. -/
def holds (engine : Engine) : Condition → Act Bool
  | .given text => do return !(← expandText engine .single text).isEmpty
  | .unary operator operand => do
      let text ← expandText engine .single operand
      if operator = "-v".toList then return ((← get).value? text).isSome
      else verdict (← Act.program (Host.Condition.unary .rich operator text).run)
  | .binary (.operator operator) first second => do
      let first ← expandText engine .single first
      let second ← expandText engine .single second
      if ["-eq", "-ne", "-lt", "-le", "-gt", "-ge"].contains (String.ofList operator) then do
        let a ← calculate first
        let b ← calculate second
        verdict (← Act.program
          (Host.Condition.binary .rich operator (Text.ofInt a) (Text.ofInt b)).run)
      else verdict (← Act.program (Host.Condition.binary .rich operator first second).run)
  | .binary (.pattern wanted) first second => do
      let text ← expandText engine .single first
      return Glob.isMatch (← expandPattern engine second) text == wanted
  | .binary .expression first second => do
      let text ← expandText engine .single first
      matchesExpression (← expandText engine .single second) text
  | .negation condition => do return !(← holds engine condition)
  | .both first second => do
      if ← holds engine first then holds engine second else return false
  | .either first second => do
      if ← holds engine first then return true else holds engine second
where
  /-- The outcome of a test; a faulty one counts as failed. -/
  verdict : Except Octets Bool → Act Bool
    | .ok holds => return holds
    | .error message => do
        Act.complain message
        return false

/-- Run a command through an engine for the commands inside it. -/
def evaluate (engine : Engine) (command : Command) (flags : Flags) : Act Unit := do
  if (← get).has 'n' then return
  match command with
  | .nothing => return
  | .simple line assignments words redirects => do
      runSimple engine flags line assignments words redirects
      conclusion engine flags true
  | .sequence first second => do
      engine.run first ⟨false, flags.tested⟩
      engine.run second flags
  | .both first second => do
      engine.run first .testing
      if (← get).status = 0 then engine.run second flags
      else conclusion engine flags false
  | .either first second => do
      engine.run first .testing
      if (← get).status = 0 then conclusion engine flags false
      else engine.run second flags
  | .negation body => do
      engine.run body .testing
      Act.finish (if (← get).status = 0 then 1 else 0)
      conclusion engine flags false
  | .pipeline commands => do
      runPipeline engine flags commands
      conclusion engine flags true
  | .background body => do
      runBackground engine body
      conclusion engine flags true
  | .redirected line body redirects => do
      runRedirected engine flags line body redirects
      conclusion engine flags false
  | .subshell line body redirects => do
      runSubshell engine flags line body redirects
      conclusion engine flags true
  | .conditional condition consequence alternative => do
      engine.run condition .testing
      if (← get).status = 0 then engine.run consequence flags
      else
        match alternative with
        | .nothing => do
            Act.finish 0
            conclusion engine flags false
        | alternative => engine.run alternative flags
  | .loop untilTrue condition body => do
      runLoop engine flags untilTrue condition body
      conclusion engine flags false
  | .each line name words body => do
      runEach engine flags line name words body
      conclusion engine flags false
  | .count line start condition step body => do
      modify fun state => { state with line := line }
      runCount engine flags start condition step body
      conclusion engine flags false
  | .choice line subject arms => do
      runChoice engine flags line subject arms
      conclusion engine flags false
  | .define line name body => do
      modify fun state =>
        { state with
          functions := (name, ⟨line, body⟩) :: state.functions.filter (·.1 != name) }
      Act.finish 0
      conclusion engine flags false
  | .test line condition => do
      modify fun state => { state with line := line }
      Act.program .pause
      Act.finish (if ← holds engine condition then 0 else 1)
      conclusion engine flags true
  | .compute line expression => do
      modify fun state => { state with line := line }
      Act.program .pause
      let value ← calculate (← expandText engine .single expression)
      Act.finish (if value = 0 then 1 else 0)
      conclusion engine flags true

/-- Run a command, up to a depth of commands inside each other. -/
def interpret (launch : Launch) : (depth : Nat) → Command → Flags → Act Unit
  | 0, _, _ => Act.program .spin
  | depth + 1, command, flags => evaluate ⟨interpret launch depth, launch⟩ command flags

/-- How deep commands may be inside each other. -/
def commandDepth : Nat := 10000000

/-- The engine of a shell. -/
def engine (launch : Launch) : Engine :=
  ⟨interpret launch commandDepth, launch⟩

end Shell
end Host
end Turnwise
