import Turnwise.Host.Utility.Listing
import Turnwise.Host.Utility.Processes

/-!
# Walking through directories

A tree is walked from given paths on, and for each object in it an expression is
evaluated, which asks about the object and does something with it.
-/

namespace Turnwise
namespace Host
namespace Utility
namespace Find

open SystemError (Code)

/-- A question about an object, or something that is done with it. -/
inductive Predicate where
  /-- Whether the last segment of the path matches a pattern. -/
  | name (pattern : Octets) (folds : Bool)
  /-- Whether the path matches a pattern. -/
  | path (pattern : Octets) (folds : Bool)
  /-- Whether the path matches an expression. -/
  | regex (regex : Regex)
  /-- Whether the form has one of some letters. -/
  | form (letters : List Char)
  /-- Whether the form has one of some letters, that of a link where links are followed and
  that of what it leads to where they are not. -/
  | otherForm (letters : List Char)
  /-- Whether what a symbolic link says matches a pattern. -/
  | target (pattern : Octets) (folds : Bool)
  /-- Whether it is a certain object. -/
  | object (serial : Nat)
  /-- Whether the number of its names compares with a number in a way. -/
  | links (order : Ordering) (count : Nat)
  /-- Whether somebody may execute it, or enter it. -/
  | executable
  /-- Whether nothing is in it. -/
  | empty
  /-- Whether the size in units compares with a number in a way. -/
  | size (order : Ordering) (unit count : Nat)
  /-- Whether the age in units of time compares with a number in a way. -/
  | age (order : Ordering) (unit count : Nat)
  /-- Whether it was changed after a time. -/
  | newer (time : Nat)
  /-- Whether the permissions are these, or include all of these or some of these. -/
  | mode (mark : Option Char) (bits : Nat)
  /-- Always the same answer. -/
  | constant (answer : Bool)
  /-- Print the path with something after it. -/
  | print (ending : Char)
  /-- Print in a format. -/
  | format (format : Octets)
  /-- Remove it. -/
  | delete
  /-- Run a command for it. -/
  | run (words : List Octets)
  /-- Run a command for many at once; the command has a number. -/
  | gather (number : Nat)
  /-- Do not go into it. -/
  | prune
  /-- Go no further at all. -/
  | quit

/-- An expression. -/
inductive Test where
  /-- A single question. -/
  | one (predicate : Predicate)
  /-- The opposite. -/
  | opposite (test : Test)
  /-- Both, the second only after the first. -/
  | both (first second : Test)
  /-- Either, the second only if not the first. -/
  | either (first second : Test)
  /-- Both in any case; the second answers. -/
  | also (first second : Test)

/-- What was read of an expression. -/
structure Reading where
  /-- The words that are left. -/
  words : List Octets
  /-- The word before them. -/
  before : Octets
  /-- The least depth. -/
  least : Nat
  /-- The greatest depth. -/
  most : Option Nat
  /-- What a directory holds comes before it. -/
  inner : Bool
  /-- Something is done. -/
  acts : Bool
  /-- The commands for many objects at once. -/
  commands : List (List Octets)
  /-- The time. -/
  now : Nat

/-- A step of reading. -/
abbrev Reader := StateT Reading Tool

namespace Reader

/-- Complain and exit. -/
def refuse (message : Octets) : Reader α := do
  liftM (Tool.die 1 message : Tool α)

/-- The next word, which is not passed. -/
def peek : Reader (Option Octets) := do
  return (← get).words.head?

/-- Pass the next word. -/
def pass : Reader Unit :=
  modify fun reading =>
    { reading with words := reading.words.drop 1, before := reading.words.headD [] }

/-- The argument of a word. -/
def argument (word : Octets) : Reader Octets := do
  match ← peek with
  | some value => do
      pass
      return value
  | none => refuse ("missing argument to \x60".toList ++ word ++ ['\''])

/-- A depth. -/
def depth (word : Octets) : Reader Nat := do
  let value ← argument word
  match Text.digits? value with
  | some number => return number
  | none =>
      refuse ("Expected a positive decimal integer argument to ".toList ++ word ++
        ", but got ".toList ++ Tool.quoted value)

/-- The way in which a number is meant, and the number. -/
def comparison (text : Octets) : Ordering × Octets :=
  match text with
  | '+' :: rest => (.gt, rest)
  | '-' :: rest => (.lt, rest)
  | rest => (.eq, rest)

/-- The letters of forms. -/
def forms (word : Octets) : Reader (List Char) := do
  let value ← argument word
  for part in value.splitOn ',' do
    match part with
    | [c] =>
        if !"bcdpfls".toList.contains c then
          refuse ("Unknown argument to ".toList ++ word ++ ": ".toList ++ [c])
    | _ => refuse ("Unknown argument to ".toList ++ word ++ ": ".toList ++ part.take 1)
  return value.filter (· != ',')

/-- A size. -/
def size : Reader Predicate := do
  let value ← argument "-size".toList
  let (order, rest) := comparison value
  let digits := rest.takeWhile Char.isDigit
  let unit : Option Nat :=
    match rest.drop digits.length with
    | [] => some 512
    | ['b'] => some 512
    | ['c'] => some 1
    | ['w'] => some 2
    | ['k'] => some 1024
    | ['M'] => some 1048576
    | ['G'] => some 1073741824
    | _ => none
  match unit, Text.digits? digits with
  | some unit, some count => return .size order unit count
  | none, _ => refuse ("invalid -size type \x60".toList ++ rest.drop digits.length ++ ['\''])
  | _, none => refuse ("Invalid argument \x60".toList ++ value ++ "' to -size".toList)

/-- An age in units of some nanoseconds. -/
def age (word : Octets) (unit : Nat) : Reader Predicate := do
  let value ← argument word
  let (order, digits) := comparison value
  match Text.digits? digits with
  | some count => return .age order unit count
  | none =>
      refuse ("invalid argument \x60".toList ++ value ++ "' to \x60".toList ++ word ++ ['\''])

/-- Permissions. -/
def mode : Reader Predicate := do
  let value ← argument "-perm".toList
  let (mark, rest) : Option Char × Octets :=
    match value with
    | '-' :: rest => (some '-', rest)
    | '/' :: rest => (some '/', rest)
    | rest => (none, rest)
  let bits := (Octets.octalValue? rest).or (Mode.apply false 0 rest 0)
  match bits with
  | some bits => return .mode mark bits
  | none => refuse ("invalid mode ".toList ++ Tool.quoted value)

/-- The words of a command, up to the mark that ends it, and whether that asks for many
objects at once; the limit bounds their number. -/
def commandWords (word : Octets) : (limit : Nat) → (done : List Octets) →
    Reader (List Octets × Bool)
  | 0, _ => refuse ("missing argument to \x60".toList ++ word ++ ['\''])
  | limit + 1, done => do
      let part ← argument word
      if part = [';'] then return (done.reverse, false)
      else if part = ['+'] && done.head? = some "\x7b\x7d".toList then
        return (done.reverse, true)
      else commandWords word limit (part :: done)

/-- The time of the last change of a file. -/
def timeOf (path : Octets) : Reader Nat := do
  match ← liftM (Tool.program (.status path) : Tool _) with
  | .ok status => return status.modified
  | .error code => refuse (Tool.quoted path ++ ": ".toList ++ code.title)

/-- Note that something is done. -/
def acting : Reader Unit :=
  modify fun reading => { reading with acts := true }

/-- A question or something to do, given its word; nothing is found if the word is not
known. -/
def predicate? (word : Octets) : Reader (Option Predicate) := do
  let is (name : String) : Bool := word = name.toList
  let yes : Reader (Option Predicate) := return some (.constant true)
  if is "-name" then return some (.name (← argument word) false)
  else if is "-iname" then return some (.name (← argument word) true)
  else if is "-path" || is "-wholename" then return some (.path (← argument word) false)
  else if is "-ipath" then return some (.path (← argument word) true)
  else if is "-regex" then
    let pattern ← argument word
    match Regex.parse ⟨false, false, false⟩ pattern with
    | .ok regex => return some (.regex regex)
    | .error fault => refuse fault.title
  else if is "-type" then return some (.form (← forms word))
  else if is "-xtype" then return some (.otherForm (← forms word))
  else if is "-lname" then return some (.target (← argument word) false)
  else if is "-ilname" then return some (.target (← argument word) true)
  else if is "-samefile" then
    let path ← argument word
    match ← liftM (Tool.program (.statusHere path) : Tool _) with
    | .ok status => return some (.object status.serial)
    | .error code => refuse (Tool.quoted path ++ ": ".toList ++ code.title)
  else if is "-links" then
    let value ← argument word
    let (order, digits) := comparison value
    match Text.digits? digits with
    | some count => return some (.links order count)
    | none =>
        refuse ("invalid argument \x60".toList ++ value ++ "' to \x60".toList ++ word ++ ['\''])
  else if is "-readable" || is "-writable" then yes
  else if is "-executable" then return some .executable
  else if is "-empty" then return some .empty
  else if is "-size" then return some (← size)
  else if is "-mtime" || is "-ctime" || is "-atime" then
    return some (← age word 86400000000000)
  else if is "-mmin" || is "-cmin" || is "-amin" then return some (← age word 60000000000)
  else if is "-newer" then return some (.newer (← timeOf (← argument word)))
  else if is "-perm" then return some (← mode)
  else if is "-true" then yes
  else if is "-false" then return some (.constant false)
  else if is "-user" || is "-group" then
    let _ ← argument word
    yes
  else if is "-maxdepth" then
    let limit ← depth word
    modify fun reading => { reading with most := some limit }
    yes
  else if is "-mindepth" then
    let limit ← depth word
    modify fun reading => { reading with least := limit }
    yes
  else if is "-depth" then
    modify fun reading => { reading with inner := true }
    yes
  else if is "-follow" || is "-noleaf" || is "-xdev" || is "-mount" then yes
  else if is "-prune" then return some .prune
  else if is "-quit" then
    acting
    return some .quit
  else if is "-print" then
    acting
    return some (.print '\n')
  else if is "-print0" then
    acting
    return some (.print '\x00')
  else if is "-printf" then
    acting
    return some (.format (← argument word))
  else if is "-delete" then
    acting
    modify fun reading => { reading with inner := true }
    return some .delete
  else if is "-exec" || is "-execdir" || is "-ok" || is "-okdir" then
    acting
    let (words, many) ← commandWords word (← get).words.length.succ []
    if words.isEmpty then refuse ("invalid argument \x60;' to \x60".toList ++ word ++ ['\''])
    if many then
      let number := (← get).commands.length
      modify fun reading => { reading with commands := reading.commands ++ [words.dropLast] }
      return some (.gather number)
    else return some (.run words)
  else return none

/-- What is to be read of an expression. -/
inductive Level where
  /-- Expressions with commas between them. -/
  | list
  /-- Alternatives. -/
  | either
  /-- Questions one after the other. -/
  | both
  /-- One question. -/
  | one

/-- Whether a word joins or closes. -/
def closes (word : Octets) : Bool :=
  [")", "-o", "-or", ","].any (·.toList == word)

/-- Read an expression; the limit bounds its depth. -/
def read : (limit : Nat) → Level → Reader Test
  | 0, _ => return .one (.constant true)
  | limit + 1, .list => do
      let first ← read limit .either
      if (← peek) = some [','] then
        pass
        return .also first (← read limit .list)
      else return first
  | limit + 1, .either => do
      let first ← read limit .both
      match ← peek with
      | some word => do
          if word = "-o".toList || word = "-or".toList then
            pass
            if (← peek).isNone then
              refuse ("expected an expression after ".toList ++ Tool.quoted word)
            return .either first (← read limit .either)
          else return first
      | none => return first
  | limit + 1, .both => do
      let first ← read limit .one
      match ← peek with
      | some word => do
          if closes word then return first
          else
            if word = "-a".toList || word = "-and".toList then
              pass
              if (← peek).isNone then
                refuse ("expected an expression after ".toList ++ Tool.quoted word)
            return .both first (← read limit .both)
      | none => return first
  | limit + 1, .one => do
      match ← peek with
      | none => refuse ("expected an expression after ".toList ++ Tool.quoted (← get).before)
      | some word => do
          if closes word || word = "-a".toList || word = "-and".toList then
            if word = [')'] then
              refuse "invalid expression; you have too many ')'".toList
            else
              refuse ("invalid expression; you have used a binary operator ".toList ++
                Tool.quoted word ++ " with nothing before it.".toList)
          pass
          if word = ['!'] || word = "-not".toList then
            return .opposite (← read limit .one)
          else if word = ['('] then
            if (← peek).isNone then
              refuse ("invalid expression; expected to find a ')' but didn't see one. ".toList ++
                "Perhaps you need an extra predicate after '('".toList)
            let inside ← read limit .list
            if (← peek) = some [')'] then
              pass
              return inside
            else
              refuse ("invalid expression; I was expecting to find a ')' somewhere ".toList ++
                "but did not see one.".toList)
          else
            match ← predicate? word with
            | some predicate => return .one predicate
            | none =>
                if word.head? = some '-' then
                  refuse ("unknown predicate \x60".toList ++ word ++ ['\''])
                else
                  refuse ("paths must precede expression: \x60".toList ++ word ++ ['\''])

end Reader

/-- How a tree is walked. -/
structure Walk where
  /-- How commands are started. -/
  launch : Launch
  /-- With what the tool was started. -/
  start : Start
  /-- The expression. -/
  test : Test
  /-- The least depth. -/
  least : Nat
  /-- The greatest depth. -/
  most : Option Nat
  /-- What a directory holds comes before it. -/
  inner : Bool
  /-- Symbolic links are followed. -/
  follows : Bool
  /-- Those at which the walk begins are followed. -/
  followsFirst : Bool
  /-- The time at the beginning. -/
  now : Nat

/-- An object that was found. -/
structure Found where
  /-- Its path. -/
  path : Octets
  /-- The path at which the walk began. -/
  top : Octets
  /-- What is known about it. -/
  status : Status
  /-- How deep it lies. -/
  depth : Nat
  /-- What it says, if it is a symbolic link. -/
  target : Option Octets

/-- What is remembered during a walk. -/
structure Memory where
  /-- The objects for each command that takes many, the last one first. -/
  gathered : List (List Octets)
  /-- The walk is over. -/
  ended : Bool

/-- A step of a walk. -/
abbrev Step := StateT Memory Tool

/-- The letter of a form. -/
def letter : Form → Char
  | .file => 'f'
  | .directory => 'd'
  | .link => 'l'
  | .queue => 'p'
  | .device => 'c'

/-- Whether a pattern matches a text. -/
def fits (pattern : Octets) (folds : Bool) (text : Octets) : Bool :=
  if folds then Glob.isMatch (Glob.ofText (pattern.map Char.toLower)) (text.map Char.toLower)
  else Glob.isMatch (Glob.ofText pattern) text

/-- A format with what it stands for. -/
def written (found : Found) : Octets → Octets
  | '%' :: c :: rest =>
      let value : Octets :=
        match c with
        | 'p' => found.path
        | 'f' => lastSegment found.path
        | 'h' => parentPath found.path
        | 'P' => (found.path.drop found.top.length).dropWhile (· == '/')
        | 's' => Text.ofNat found.status.size
        | 'd' => Text.ofNat found.depth
        | 'y' => [letter found.status.form]
        | 'm' => Octets.octal 1 (found.status.mode % 4096)
        | 'n' => Text.ofNat found.status.links
        | 'i' => Text.ofNat found.status.serial
        | 'u' => "root".toList
        | 'g' => "root".toList
        | 'U' => ['0']
        | 'G' => ['0']
        | 'l' => found.target.getD []
        | 'H' => found.top
        | 'M' => formLetter found.status.form :: Mode.allLetters found.status.mode
        | '%' => ['%']
        | c => ['%', c]
      value ++ written found rest
  | '\\' :: c :: rest =>
      let value : Octets :=
        match c with
        | 'n' => ['\n']
        | 't' => ['\t']
        | '0' => ['\x00']
        | '\\' => ['\\']
        | c => ['\\', c]
      value ++ written found rest
  | c :: rest => c :: written found rest
  | [] => []

/-- Run a command and wait for it; the answer is its status. -/
def runCommand (launch : Launch) (start : Start) (words : List Octets) : Tool Nat := do
  Tool.flush
  let name := (← get).name
  let child : Program Nat := do
    let code ← Image.becomeNamed launch
      ⟨words.headD [], words.drop 1, start.environment⟩
    let _ ← Program.write 2 (name ++ ": ".toList ++ Tool.quoted (words.headD []) ++
      ": ".toList ++ code.title ++ ['\n'])
    pure 1
  let number ← Tool.program (.fork child.task)
  match ← Tool.program (.wait (some number) .deaf) with
  | .ok (some (_, ending)) => return ending.status
  | _ => return 1

/-- Put a path in the places that are left for it. -/
def filled (path : Octets) : (limit : Nat) → (word : Octets) → Octets
  | 0, word => word
  | limit + 1, word =>
      match word with
      | '\x7b' :: '\x7d' :: rest => path ++ filled path limit rest
      | c :: rest => c :: filled path limit rest
      | [] => []

/-- Whether a directory or a file holds nothing. -/
def holdsNothing (found : Found) : Tool Bool := do
  match found.status.form with
  | .file => return found.status.size = 0
  | .directory =>
      match ← Tool.program (.names found.path) with
      | .ok names => return names.isEmpty
      | .error _ => return false
  | _ => return false

/-- Answer a question, or do something; the second answer tells whether the walk goes into
the object. -/
def answer (walk : Walk) (found : Found) (predicate : Predicate) : Step (Bool × Bool) := do
  let plain (answer : Bool) : Step (Bool × Bool) := return (answer, true)
  match predicate with
  | .name pattern folds => plain (fits pattern folds (lastSegment found.path))
  | .path pattern folds => plain (fits pattern folds found.path)
  | .regex regex =>
      let whole := Regex.ends (regex.subject found.path) regex.node [0]
      plain (whole.contains found.path.length)
  | .form letters => plain (letters.contains (letter found.status.form))
  | .otherForm letters => do
      let outcome ← liftM (Tool.program
        (if walk.follows then .statusHere found.path else .status found.path) : Tool _)
      match outcome with
      | .ok status => plain (letters.contains (letter status.form))
      | .error .tooManyLinks => do
          liftM (Tool.grumble 1 (Tool.quoted found.path ++ ": ".toList ++
            Code.tooManyLinks.title))
          plain false
      | .error _ => plain (letters.contains (letter found.status.form))
  | .target pattern folds => plain (found.target.any (fits pattern folds))
  | .object serial => plain (found.status.serial = serial)
  | .links order count => plain (compare found.status.links count == order)
  | .executable => do
      match ← liftM (Tool.program (.status found.path) : Tool _) with
      | .ok status => plain (status.form = .directory || status.mode &&& 0o111 != 0)
      | .error _ => plain false
  | .empty => do plain (← liftM (holdsNothing found))
  | .size order unit count =>
      plain (compare ((found.status.size + unit - 1) / unit) count == order)
  | .age order unit count =>
      plain (compare ((walk.now - found.status.modified) / unit) count == order)
  | .newer time => plain (time < found.status.modified)
  | .mode mark bits =>
      let own := found.status.mode % 4096
      plain (match mark with
        | none => own = bits
        | some '-' => own &&& bits = bits
        | some _ => bits = 0 || own &&& bits != 0)
  | .constant answer => plain answer
  | .print ending => do
      liftM (Tool.print (found.path ++ [ending]))
      plain true
  | .format format => do
      liftM (Tool.print (written found format))
      plain true
  | .delete => do
      let change : Disk.Change := if found.status.form = .directory
        then .removeDirectory found.path else .unlink found.path
      if found.path = ['.'] then plain true
      else
        match ← liftM (Tool.program (.change change) : Tool _) with
        | .ok () => plain true
        | .error code => do
            liftM (Tool.grumble 1 ("cannot delete ".toList ++ Tool.quoted found.path ++
              ": ".toList ++ code.title))
            plain false
  | .run words => do
      let words := words.map fun word => filled found.path word.length.succ word
      let status ← liftM (runCommand walk.launch walk.start words)
      plain (status = 0)
  | .gather number => do
      modify fun memory =>
        { memory with gathered := memory.gathered.modify number (found.path :: ·) }
      plain true
  | .prune => return (true, false)
  | .quit => do
      modify fun memory => { memory with ended := true }
      plain true

/-- Evaluate an expression for an object; the second answer tells whether the walk goes
into the object. -/
def evaluate (walk : Walk) (found : Found) : Test → Step (Bool × Bool)
  | .one predicate => answer walk found predicate
  | .opposite test => do
      let (answer, enters) ← evaluate walk found test
      return (!answer, enters)
  | .both first second => do
      let (answer, enters) ← evaluate walk found first
      if answer && !(← get).ended then
        let (answer, more) ← evaluate walk found second
        return (answer, enters && more)
      else return (answer, enters)
  | .either first second => do
      let (answer, enters) ← evaluate walk found first
      if answer || (← get).ended then return (answer, enters)
      else
        let (answer, more) ← evaluate walk found second
        return (answer, enters && more)
  | .also first second => do
      let (_, enters) ← evaluate walk found first
      if (← get).ended then return (false, enters)
      let (answer, more) ← evaluate walk found second
      return (answer, enters && more)

/-- Walk through what a path leads to; the limit bounds the depth. -/
def walkFrom (walk : Walk) (top : Octets) : (limit : Nat) → (depth : Nat) → (path : Octets) →
    Step Unit
  | 0, _, _ => return
  | limit + 1, depth, path => do
      if (← get).ended then return
      let here ← liftM (Tool.program (.statusHere path) : Tool _)
      let outcome : Except Code Status ←
        if walk.follows || (walk.followsFirst && depth = 0) then do
          match ← liftM (Tool.program (.status path) : Tool _) with
          | .ok status => pure (.ok status)
          | .error .tooManyLinks => pure (.error .tooManyLinks)
          | .error _ => pure here
        else pure here
      match outcome with
      | .error code =>
          liftM (Tool.grumble 1 (Tool.quoted path ++ ": ".toList ++ code.title))
      | .ok status => do
          let target : Option Octets ←
            if status.form = .link then do
              match ← liftM (Tool.program (.target path) : Tool _) with
              | .ok target => pure (some target)
              | .error _ => pure none
            else pure none
          let found : Found := ⟨path, top, status, depth, target⟩
          let visit : Step Bool := do
            if depth < walk.least then return true
            return (← evaluate walk found walk.test).2
          let enters : Bool ← if walk.inner then pure true else visit
          let deeper := walk.most.all fun most => depth < most
          if enters && deeper && status.form = .directory then
            match ← liftM (Tool.program (.names path) : Tool _) with
            | .ok names =>
                for name in names do walkFrom walk top limit (depth + 1) (
                  if path.getLast? = some '/' then path ++ name else path ++ '/' :: name)
            | .error code =>
                liftM (Tool.grumble 1 (Tool.quoted path ++ ": ".toList ++ code.title))
          if walk.inner && !(← get).ended then
            let _ ← visit

end Find

/-- Walk through directories. -/
def find (launch : Launch) : Work := fun start => do
  let (leading, rest) := start.arguments.span fun word =>
    ["-H", "-L", "-P"].any (·.toList == word)
  let rest := if rest.head? = some "--".toList then rest.drop 1 else rest
  let begins (word : Octets) : Bool :=
    match word with
    | '-' :: _ :: _ => true
    | ['('] => true
    | ['!'] => true
    | _ => false
  let (paths, words) := rest.span (!begins ·)
  let now ← Tool.program .now
  let (test, reading) ← (do
      if words.isEmpty then return Find.Test.one (.constant true)
      else
        let test ← Find.Reader.read (4 * words.length + 8) .list
        match (← get).words with
        | [] => return test
        | _ => Find.Reader.refuse "invalid expression; you have too many ')'".toList :
      Find.Reader Find.Test).run
    { words := words, before := [], least := 0, most := none, inner := false, acts := false
      commands := [], now := now }
  let test := if reading.acts then test else .both test (.one (.print '\n'))
  let walk : Find.Walk :=
    { launch := launch, start := start, test := test, least := reading.least
      most := reading.most, inner := reading.inner
      follows := leading.getLast? == some "-L".toList
      followsFirst := leading.getLast? == some "-H".toList, now := now }
  let tops := if paths.isEmpty then [['.']] else paths
  let fresh : Find.Memory := ⟨reading.commands.map fun _ => [], false⟩
  let ((), memory) ← (do
      for path in tops do Find.walkFrom walk path depthLimit 0 path : Find.Step Unit).run fresh
  for (words, paths) in reading.commands.zip memory.gathered do
    if !paths.isEmpty then
      let status ← Find.runCommand launch start (words ++ paths.reverse)
      if status != 0 then Tool.fail 1

end Utility
end Host
end Turnwise
