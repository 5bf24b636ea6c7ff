import Turnwise.Host.Shell.Evaluation

/-!
# Starting a shell

A shell is started with options and with a script: a text, a file, or its standard
input.  It takes its variables from its environment, and sets some of its own.
-/

namespace Turnwise
namespace Host
namespace Shell

open Script (Dialect)

/-- What the words after the name of a shell ask for. -/
structure Invocation where
  /-- Whether a script stands among the words. -/
  hasText : Bool
  /-- The words that are left. -/
  words : List Octets

/-- Switch the settings of one word's letters; the words after it may be needed. -/
def startWord (value : Bool) :
    Octets → (hasText : Bool) → List Octets → Act (Bool × List Octets)
  | [], hasText, rest => return (hasText, rest)
  | 'c' :: more, _, rest => startWord value more true rest
  | 'l' :: more, hasText, rest => startWord value more hasText rest
  | 'o' :: more, hasText, [] => do
      listSettings value
      startWord value more hasText []
  | 'o' :: more, hasText, name :: rest => do
      switchName name value
      startWord value more hasText rest
  | letter :: more, hasText, rest => do
      switchLetter letter value
      startWord value more hasText rest

/-- The options of a rich shell that have long names and change nothing here. -/
def longNames : List String :=
  ["norc", "noprofile", "posix", "login", "verbose", "noediting"]

/-- Switch the settings that words ask for. -/
def startWords : (limit : Nat) → Invocation → Act Invocation
  | 0, invocation => return invocation
  | limit + 1, invocation => do
      match invocation.words with
      | ['-'] :: rest => return { invocation with words := rest }
      | ['-', '-'] :: rest => return { invocation with words := rest }
      | ('-' :: letters) :: rest => do
          let rich := (← get).dialect = .rich
          if rich && longNames.any (fun name => '-' :: name.toList == letters) then
            startWords limit { invocation with words := rest }
          else if rich && letters.head? = some '-' then do
            Act.emit 2 ((← get).title ++ ": -".toList ++ letters ++ ": invalid option\n".toList)
            Act.fail 2
          else do
            let (hasText, rest) ← startWord true letters invocation.hasText rest
            startWords limit ⟨hasText, rest⟩
      | ('+' :: letters) :: rest => do
          let (hasText, rest) ← startWord false letters invocation.hasText rest
          startWords limit ⟨hasText, rest⟩
      | _ => return invocation

/-- Run a script that is read from a descriptor, block by block. -/
def runInput (engine : Engine) (descriptor : Nat) : Act Unit := do
  let ran ← Act.repeating (([] : Octets), 1, false, false) fun (text, line, ended, ran) => do
    let state ← get
    let more : Act ((Octets × Nat × Bool × Bool) ⊕ Bool) := do
      match ← Act.program (.read descriptor 8192) with
      | .ok [] => return .inl (text, line, true, ran)
      | .ok block => return .inl (text ++ block.filter (· != '\x00'), line, false, ran)
      | .error _ => return .inl (text, line, true, ran)
    if text.isEmpty && !ended then more
    else
      match Script.next state.dialect state.aliases ended line text with
      | .error .incomplete => if ended then return .inr ran else more
      | .error fault => complainAbout line text fault
      | .ok .finished => if ended then return .inr ran else more
      | .ok (.command .nothing rest line _) => return .inl (rest, line, ended, ran)
      | .ok (.command body rest line _) => do
          engine.run body .none
          return .inl (rest, line, ended, true)
  if !ran then Act.finish 0

/-- Where a script that runs is kept open. -/
def openScript (path : Octets) : Act Nat := do
  match ← Act.program (.openFile path .reading) with
  | .ok descriptor => do
      match ← Act.program (.duplicate descriptor leastCopy true) with
      | .ok kept => do
          Act.program (.close descriptor)
          return kept
      | .error _ => return descriptor
  | .error code =>
      match (← get).dialect with
      | .plain => refuse .input path code
      | .rich => do
          Act.emit 2 ((← get).title ++ ": ".toList ++ path ++ ": ".toList ++ code.title ++ ['\n'])
          Act.fail (if code = .noEntry then 127 else 126)

/-- Find the current directory: the one that a variable tells, if that is right. -/
def settleDirectory : Act Unit := do
  let state ← get
  let told := (state.value? "PWD".toList).filter Disk.isAbsolute
  let right ←
    match told with
    | none => pure false
    | some path =>
        match ← Act.program (.status path), ← Act.program (.status ['.']) with
        | .ok there, .ok here => pure (there.serial == here.serial)
        | _, _ => pure false
  let place ←
    match told, right with
    | some path, true => pure path
    | _, _ =>
        match ← Act.program .current with
        | .ok path => pure path
        | .error code => do
            Act.complain ("getcwd() failed: ".toList ++ code.title)
            pure []
  modify fun state =>
    { (state.put "PWD".toList ⟨some (.text place), true, false⟩) with directory := place }

/-- Run what the words after the name of a shell ask for. -/
def startAct (engine : Engine) (words : List Octets) : Act Unit := do
  settleDirectory
  let invocation ← startWords (words.length + 1) ⟨false, words⟩
  let interactive := (← get).has 'i'
  if interactive then Act.complain "can't access tty; job control turned off".toList
  let begin (name : Option Octets) (arguments : List Octets) (dictated : Bool) : Act Unit :=
    modify fun state =>
      { state with
        name := name.getD state.name
        title := name.getD state.title
        arguments := arguments
        dictated := dictated
        line := 1 }
  let fromInput : Act Unit := do
    modify (·.switch 's' true)
    begin none invocation.words false
    runInput engine 0
  if invocation.hasText then
    match invocation.words with
    | [] =>
        match (← get).dialect with
        | .plain => Act.raise "-c requires an argument".toList
        | .rich => do
            Act.emit 2 ((← get).title ++ ": -c: option requires an argument\n".toList)
            Act.fail 2
    | text :: rest => do
        begin rest.head? (rest.drop 1) true
        runText engine 1 (text.filter (· != '\x00')) ⟨!(← get).has 's', false⟩
        if (← get).has 's' then runInput engine 0
  else
    match invocation.words with
    | [] => fromInput
    | path :: rest => do
        if (← get).has 's' then fromInput
        else do
          let descriptor ← openScript path
          begin (some path) rest false
          runInput engine descriptor

/-- The variables that a shell begins with: its own, and those of its environment. -/
def startBindings (dialect : Dialect) (parent : Nat) (environment : List (Octets × Octets)) :
    List (Octets × Binding) :=
  let own (name : String) (value : String) : Octets × Binding :=
    (name.toList, ⟨some (.text value.toList), false, false⟩)
  let named := environment.filter fun entry =>
    Script.isName entry.1 && !(["IFS", "OPTIND", "PS1", "PS2", "PPID"].any (·.toList == entry.1))
  let given := named.map fun (name, value) =>
    (name, (⟨some (.text value), true, false⟩ : Binding))
  let standard :=
    [own "IFS" " \t\n", own "PATH" (String.ofList trustedPath), own "PS1" "# ", own "PS2" "> ",
      own "PS4" "+ ", own "OPTIND" "1", own "PPID" (toString parent)] ++
      (match dialect with
      | .plain => []
      | .rich => [own "BASH" "/usr/bin/bash", own "BASH_VERSION" "5.2.21(1)-release"])
  let merged := given.foldl
    (fun found (entry : Octets × Binding) =>
      if found.any (·.1 == entry.1) then
        found.map fun old => if old.1 == entry.1 then entry else old
      else found ++ [entry]) standard
  merged.reverse

/-- The state in which a shell begins. -/
def startState (dialect : Dialect) (start : Start) (identity : Identity) : State where
  dialect := dialect
  title := start.name
  name := start.name
  arguments := []
  bindings := startBindings dialect identity.parent start.environment
  hidden := []
  functions := []
  aliases := []
  flags := []
  failsInPipes := false
  traps := []
  noticed := []
  status := 0
  substituted := none
  lastJob := none
  root := identity.number
  parent := identity.parent
  jobs := []
  command := none
  line := 0
  dictated := false
  functionLine := 0
  loops := 0
  depth := 0
  sourcing := 0
  directory := []
  optionIndex := 1
  optionOffset := none
  located := []
  limits := []
  broken := false
  tracing := false

/-- What a rich shell says about its version. -/
def versionText : Octets :=
  "GNU bash, version 5.2.21(1)-release (x86_64-pc-linux-gnu)\n".toList

/-- All that a shell will do. -/
def run (dialect : Dialect) (launch : Launch) (start : Start) : Task :=
  if dialect = .rich && start.arguments.head? = some "--version".toList then
    (do
      let _ ← Program.write 1 versionText
      return 0 : Program Nat).task
  else
    (Program.identity) fun identity =>
      task (engine launch) (startAct (engine launch) start.arguments)
        (startState dialect start identity)

end Shell
end Host
end Turnwise
