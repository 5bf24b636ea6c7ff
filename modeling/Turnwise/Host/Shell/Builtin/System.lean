import Turnwise.Host.Condition
import Turnwise.Host.Mode
import Turnwise.Host.Shell.Builtin.Options
import Turnwise.Host.Shell.Naming

/-!
# Builtin commands about the system

The current directory, permissions and limits, names that stand for other texts, and
commands that print or compare.
-/

namespace Turnwise
namespace Host
namespace Shell

/-- Follow a segment of a path, given the segments so far, the last one first. -/
def followSegment (reversed : List Octets) (segment : Octets) : List Octets :=
  if segment = ['.'] then reversed
  else if segment = ['.', '.'] then reversed.drop 1
  else segment :: reversed

/-- Where a path leads from a directory, by its text alone. -/
def logicalPath (current path : Octets) : Octets :=
  let whole :=
    if Disk.isAbsolute path then path
    else if Text.endsIn '/' current then current ++ path
    else current ++ '/' :: path
  let double : Bool :=
    match whole with
    | '/' :: '/' :: '/' :: _ => false
    | '/' :: '/' :: _ => true
    | _ => false
  let segments := (Disk.segments whole).foldl followSegment []
  let start : Octets := if double then ['/', '/'] else ['/']
  start ++ Text.joinWith ['/'] segments.reverse

/-- Note a change of the current directory. -/
def noteDirectory (path : Octets) : Act Unit :=
  modify fun state =>
    let set (name : String) (value : Octets) (state : State) : State :=
      let old := (state.binding? name.toList).getD ⟨none, false, false⟩
      state.put name.toList { old with value := some (.text value), exported := true }
    { (set "PWD" path (set "OLDPWD" state.directory state)) with directory := path }

/-- Go to a directory, by its text or by its place on the disk; the answer tells the
failure. -/
def goTo (physical : Bool) (path : Octets) : Act (Option SystemError.Code) := do
  let state ← get
  let target := if physical || state.directory.isEmpty then path
    else logicalPath state.directory path
  match ← Act.program (.moveTo target) with
  | .error code => return some code
  | .ok () => do
      let place ←
        if physical || state.directory.isEmpty then do
          match ← Act.program .current with
          | .ok path => pure path
          | .error _ => pure []
        else pure target
      noteDirectory place
      return none

/-- Whether a path begins with a dot segment. -/
def isDotted (path : Octets) : Bool :=
  match Disk.segments path with
  | first :: _ => first = ['.'] || first = ['.', '.']
  | [] => false

/-- Look for a directory in the directories of a search path. -/
def searchDirectory (path : Octets) : List Octets → Program (Option (Octets × Bool))
  | [] => pure none
  | start :: rest => do
      let candidate := if start.isEmpty then path else start ++ '/' :: path
      match ← Program.status candidate with
      | .ok status =>
          if status.form = .directory then pure (some (candidate, !start.isEmpty))
          else searchDirectory path rest
      | .error _ => searchDirectory path rest

/-- Change the current directory. -/
def cdBuiltin (words : List Octets) : Act Nat := do
  let (chosen, operands) ← options "LP" words
  let physical := (chosen.getLast?.map (·.letter)) = some 'P'
  let state ← get
  let rich := state.dialect = .rich
  let (wanted, prints) ←
    match operands with
    | [] =>
        if rich && (state.value? "HOME".toList).isNone then do
          Act.complain "HOME not set".toList
          Act.fail 1
        else pure (state.text "HOME", false)
    | ['-'] :: _ =>
        if rich && (state.value? "OLDPWD".toList).isNone then do
          Act.complain "OLDPWD not set".toList
          Act.fail 1
        else pure (state.text "OLDPWD", true)
    | path :: _ => pure (path, false)
  let path := if wanted.isEmpty then ['.'] else wanted
  let (target, found) ← do
    if Disk.isAbsolute wanted || isDotted wanted then pure (wanted, false)
    else
      let starts := ((state.value? "CDPATH".toList).getD []).splitOn ':'
      match ← Act.program (searchDirectory path starts) with
      | some (candidate, prints) => pure (candidate, prints)
      | none => pure (path, false)
  match ← goTo physical target with
  | none => do
      if prints || found then Act.printLine (← get).directory
      return 0
  | some code =>
      if rich then do
        Act.complain (wanted ++ ": ".toList ++ code.title)
        return 1
      else Act.raise ("can't cd to ".toList ++ path)

/-- Print the current directory. -/
def pwdBuiltin (words : List Octets) : Act Nat := do
  let (chosen, _) ← options "LP" words
  if (chosen.getLast?.map (·.letter)) = some 'P' then
    match ← Act.program .current with
    | .ok path => Act.printLine path
    | .error _ => Act.printLine []
  else Act.printLine (← get).directory
  return 0

/-- What letters after a sign grant one of the three, given what is granted so far. -/
def grantedBits (granted : Nat) (letters : Octets) : Nat :=
  let bits (c : Char) : Nat :=
    match c with
    | 'r' => 4
    | 'w' => 2
    | 'x' => 1
    | 'X' => if granted &&& 0o111 != 0 then 1 else 0
    | 'u' => granted / 64 % 8
    | 'g' => granted / 8 % 8
    | 'o' => granted % 8
    | _ => 0
  letters.foldl (fun total c => total ||| bits c) 0

/-- Change what new objects are granted, given what was granted before and who is meant;
the limit bounds the clauses. -/
def changeGranted (before : Nat) : (limit : Nat) → (whose : Nat) → Octets → Nat → Option Nat
  | 0, _, _, _ => none
  | _ + 1, _, [], granted => some granted
  | limit + 1, whose, text, granted =>
      let who := text.takeWhile fun c => "augo".toList.contains c
      let place (c : Char) : Nat :=
        match c with
        | 'u' => 0o100
        | 'g' => 0o10
        | 'o' => 1
        | _ => 0o111
      let whose := who.foldl (fun total c => total ||| place c) whose
      let whose := if whose = 0 then 0o111 else whose
      match text.drop who.length with
      | [] => none
      | sign :: rest =>
          let letters := rest.takeWhile fun c => "rwxugoXs".toList.contains c
          let bits := grantedBits before letters * whose
          let after := rest.drop letters.length
          let next? : Option Nat :=
            match sign with
            | '-' => some (Mode.without granted bits)
            | '+' => some (granted ||| bits)
            | '=' => some (bits ||| Mode.without granted (7 * whose))
            | _ => none
          match after with
          | [] => next?
          | ',' :: more => next?.bind (changeGranted before limit 0 more)
          | _ => next?.bind (changeGranted before limit whose after)

/-- Show or set the permissions that new files do not get. -/
def umaskBuiltin (words : List Octets) : Act Nat := do
  let (chosen, operands) ← options "S" words
  let mask ← Act.program (.mask none)
  match operands with
  | [] => do
      if chose chosen 'S' then
        let part (shift : Nat) : Octets :=
          Mode.shortLetters (7 - mask / shift % 8)
        Act.printLine ("u=".toList ++ part 64 ++ ",g=".toList ++ part 8 ++
          ",o=".toList ++ part 1)
      else Act.printLine (Octets.octal 4 mask)
      return 0
  | word :: _ =>
      if word.head?.any Char.isDigit then
        match Octets.octalValue? word with
        | some value => do
            let _ ← Act.program (.mask (some (value % 0o1000)))
            return 0
        | none => Act.raise ("Illegal number: ".toList ++ word)
      else
        let granted := 0o777 - mask
        match changeGranted granted (word.length + 1) 0 word granted with
        | some mode => do
            let _ ← Act.program (.mask (some (0o777 - mode % 0o1000)))
            return 0
        | none => Act.raise ("Illegal mode: ".toList ++ word)

/-- The limits: a letter, a title, and the value where there is one. -/
def standardLimits : List (Char × String × Option Nat) :=
  [('t', "time(seconds)", none), ('f', "file(blocks)", none), ('d', "data(kbytes)", none),
    ('s', "stack(kbytes)", some 8192), ('c', "coredump(blocks)", some 0),
    ('m', "memory(kbytes)", none), ('l', "locked memory(kbytes)", some 8192),
    ('p', "process", some 127862), ('n', "nofiles", some 1048576),
    ('v', "vmemory(kbytes)", none), ('w', "locks", none), ('r', "rtprio", some 0)]

/-- The value of a limit. -/
def limitText (state : State) (letter : Char) : Octets :=
  match (state.limits.find? (·.1 == letter)).map (·.2) with
  | some value => Text.ofNat value
  | none =>
      match (standardLimits.find? (·.1 == letter)).bind (·.2.2) with
      | some value => Text.ofNat value
      | none => "unlimited".toList

/-- Show or set limits. -/
def ulimitBuiltin (words : List Octets) : Act Nat := do
  let (chosen, operands) ← options "HSatfdscmlpnvwr" words
  let letter := ((chosen.filter fun option =>
    !"HSa".toList.contains option.letter).getLast?.map (·.letter)).getD 'f'
  let state ← get
  match operands with
  | _ :: _ :: _ => Act.raise "too many arguments".toList
  | [word] =>
      if word = "unlimited".toList then do
        modify fun state => { state with limits := state.limits.filter (·.1 != letter) }
        return 0
      else
        match Text.digits? word with
        | some value => do
            modify fun state =>
              { state with
                limits := (letter, value) :: state.limits.filter (·.1 != letter) }
            return 0
        | none => Act.raise "bad number".toList
  | [] => do
      if chose chosen 'a' then
        Act.print <| standardLimits.flatMap fun (letter, title, _) =>
          Octets.padRight 20 ' ' title.toList ++ ' ' :: limitText state letter ++ ['\n']
      else Act.printLine (limitText state letter)
      return 0

/-- Show how much time the shell and its children have taken, which is next to none. -/
def timesBuiltin (_ : List Octets) : Act Nat := do
  let line := "0m0.000000s 0m0.000000s".toList
  Act.printLine line
  Act.printLine line
  return 0

/-- How many places there are for names that stand for other texts. -/
def aliasPlaces : Nat := 39

/-- Show such a name with its text. -/
def aliasLine (dialect : Script.Dialect) (entry : Octets × Octets) : Octets :=
  (if dialect = .rich then "alias ".toList else []) ++
    entry.1 ++ '=' :: singleQuoted entry.2 ++ ['\n']

/-- Let names stand for other texts, or show for which they do. -/
def aliasBuiltin (words : List Octets) : Act Nat := do
  let state ← get
  if words.isEmpty then
    let entries := state.aliases.mergeSort fun a b =>
      State.bucket aliasPlaces a.1 ≤ State.bucket aliasPlaces b.1
    Act.print (entries.flatMap (aliasLine state.dialect))
    return 0
  else
    let mut status := 0
    for word in words do
      let name := word.takeWhile (· != '=')
      match word.drop name.length with
      | _ :: text =>
          modify fun state =>
            { state with
              aliases :=
                if state.aliases.any (·.1 == name) then
                  state.aliases.map fun entry => if entry.1 == name then (name, text) else entry
                else state.aliases ++ [(name, text)] }
      | [] =>
          match (← get).aliases.find? (·.1 == name) with
          | some entry => Act.print (aliasLine state.dialect entry)
          | none => do
              match state.dialect with
              | .plain => Act.emit 2 ("alias: ".toList ++ name ++ " not found\n".toList)
              | .rich => Act.complain (name ++ ": not found".toList)
              status := 1
    return status

/-- Let names stand for themselves again. -/
def unaliasBuiltin (words : List Octets) : Act Nat := do
  let (chosen, operands) ← options "a" words
  if chose chosen 'a' then
    modify fun state => { state with aliases := [] }
    return 0
  else
    let mut status := 0
    for name in operands do
      if (← get).aliases.any (·.1 == name) then
        modify fun state => { state with aliases := state.aliases.filter (·.1 != name) }
      else
        match (← get).dialect with
        | .plain => Act.emit 2 ("unalias: ".toList ++ name ++ " not found\n".toList)
        | .rich => Act.complain (name ++ ": not found".toList)
        status := 1
    return status

/-- How many places there are for names of commands. -/
def commandPlaces : Nat := 31

/-- Look for the files that names of commands stand for, or show those that were found. -/
def hashBuiltin (words : List Octets) : Act Nat := do
  let (chosen, operands) ← options "r" words
  if chose chosen 'r' then
    modify fun state => { state with located := [] }
    return 0
  else if operands.isEmpty then
    let entries := (← get).located.reverse.mergeSort fun a b =>
      State.bucket commandPlaces a.1 ≤ State.bucket commandPlaces b.1
    Act.print (entries.flatMap fun entry => entry.2 ++ ['\n'])
    return 0
  else
    let mut status := 0
    for name in operands do
      match ← meaning true (← get).path name with
      | .unknown code => do
          Act.complain (name ++ ": ".toList ++ executionTitle code)
          status := 1
      | _ => pure ()
    return status

/-- Say what names stand for as commands. -/
def typeBuiltin (words : List Octets) : Act Nat := do
  let mut status := 0
  for name in words do
    match ← describe? true false name with
    | some sentence =>
        if (← get).dialect = .rich && Script.keywords.contains name then
          Act.printLine (name ++ " is a shell keyword".toList)
        else Act.printLine sentence
    | none => do
        match (← get).dialect with
        | .plain => do
            Act.printLine (name ++ ": not found".toList)
            status := 127
        | .rich => do
            Act.complain (name ++ ": not found".toList)
            status := 1
  return status

/-- The options of a rich shell before the texts to print: whether the newline is left
out, and whether escapes are replaced. -/
def echoOptions : (bare escapes : Bool) → List Octets → Bool × Bool × List Octets
  | bare, escapes, word :: rest =>
      match word with
      | '-' :: c :: more =>
          if (c :: more).all fun c => "neE".toList.contains c then
            let last := (c :: more).reverse.find? fun c => c == 'e' || c == 'E'
            echoOptions (bare || (c :: more).contains 'n')
              (match last with
              | some 'e' => true
              | some _ => false
              | none => escapes) rest
          else (bare, escapes, word :: rest)
      | word => (bare, escapes, word :: rest)
  | bare, escapes, [] => (bare, escapes, [])

/-- Print texts with blanks between them. -/
def echoBuiltin (words : List Octets) : Act Nat := do
  let (bare, escapes, texts) : Bool × Bool × List Octets :=
    match (← get).dialect, words with
    | .rich, words => echoOptions false false words
    | .plain, ['-', 'n'] :: rest => (true, true, rest)
    | .plain, words => (false, true, words)
  let style : Style := match (← get).dialect with | .plain => .plain | .rich => .rich
  let joined := Text.joinWith [' '] texts
  let (text, stops) := if escapes then style.textEscapes.expand joined else (joined, false)
  Act.print (if bare || stops then text else text ++ ['\n'])
  return 0

/-- Print values by a format. -/
def printfBuiltin (words : List Octets) : Act Nat := do
  let rich := (← get).dialect = .rich
  let (chosen, operands) ← options (if rich then "v:" else "") words
  match operands with
  | [] =>
      if rich then do
        Act.complain "usage: printf [-v var] format [arguments]".toList
        return 2
      else Act.raise "usage: printf format [arg ...]".toList
  | format :: values => do
      let result := Host.printed (if rich then .rich else .plain) format values
      for message in result.complaints do
        Act.complain message
      match chosen.find? (·.letter == 'v') with
      | some option => Act.assign option.argument result.output
      | none => Act.print result.output
      if result.malformed && !rich then Act.fail 2
      else return if result.faulty then 1 else 0

/-- Test a condition. -/
def testBuiltin (bracketed : Bool) (words : List Octets) : Act Nat := do
  let rich := (← get).dialect = .rich
  let closed :=
    match words.getLast? with
    | some (']' :: rest) => !rich || rest.isEmpty
    | _ => false
  if bracketed && !closed then
    if rich then do
      Act.complain "missing \x60]'".toList
      return 2
    else Act.raise "missing ]".toList
  else do
    let operands := if bracketed then words.dropLast else words
    match ← Act.program (Condition.evaluate (if rich then .rich else .plain) operands) with
    | .ok holds => return if holds then 0 else 1
    | .error message => do
        Act.complain message
        Act.fail 2

end Shell
end Host
end Turnwise
