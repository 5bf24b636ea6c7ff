import Turnwise.Host.Image

/-!
# Tools

A tool is a program that reads its options, does its work, prints through a buffer, and
complains in its own name.  It goes on after most failures and tells by its status that
there were some.
-/

namespace Turnwise
namespace Host

open SystemError (Code)

/-- What a tool knows while it runs. -/
structure Console where
  /-- The name in its complaints. -/
  name : Octets
  /-- What it has printed and not written, the newest piece first. -/
  pending : List Octets
  /-- How much that is. -/
  size : Nat
  /-- The status with which it will exit. -/
  status : Nat
  /-- Why something could not be written. -/
  failure : Option Code
  /-- What is said after a complaint about how it was called, if that is not the usual
  line. -/
  usage : Option Octets
  /-- The complaint about output that could not be written. -/
  lament : Code → Octets
  /-- The status after that complaint. -/
  lamentStatus : Nat

/-- A step of a tool, which may exit with a status. -/
abbrev Tool := ExceptT Nat (StateT Console Program)

namespace Tool

/-- Make a program a step of a tool. -/
def program (program : Program α) : Tool α :=
  liftM program

/-- How much a tool prints before it writes. -/
def bufferSize : Nat := 4096

/-- Write what was printed. -/
def flush : Tool Unit := do
  let console ← get
  if 0 < console.size then
    set { console with pending := [], size := 0 }
    match ← program (.write 1 console.pending.reverse.flatten) with
    | .ok _ => return
    | .error code => modify fun console => { console with failure := some code }

/-- Print. -/
def print (octets : Octets) : Tool Unit := do
  modify fun console =>
    { console with
      pending := octets :: console.pending, size := console.size + octets.length }
  if bufferSize ≤ (← get).size then flush

/-- Print a line. -/
def printLine (line : Octets) : Tool Unit :=
  print (line ++ ['\n'])

/-- Complain, after what was printed before. -/
def complain (message : Octets) : Tool Unit := do
  flush
  let _ ← program (.write 2 ((← get).name ++ ": ".toList ++ message ++ ['\n']))
  return

/-- Exit with a status. -/
def exit (status : Nat) : Tool α :=
  throw status

/-- Note a failure by a status, and go on. -/
def fail (status : Nat) : Tool Unit :=
  modify fun console => { console with status := max status console.status }

/-- Complain and exit. -/
def die (status : Nat) (message : Octets) : Tool α := do
  complain message
  exit status

/-- Complain and go on. -/
def grumble (status : Nat) (message : Octets) : Tool Unit := do
  complain message
  fail status

/-- The line that shows the way to the manual of a tool. -/
def manualLine : Tool Octets := do
  return "Try '".toList ++ (← get).name ++ " --help' for more information.\n".toList

/-- What is said after a complaint about how a tool was called. -/
def hint : Tool Octets := do
  match (← get).usage with
  | some usage => return usage
  | none => manualLine

/-- Complain about how the tool was called, and exit. -/
def misuse (status : Nat) (message : Octets) : Tool α := do
  complain message
  let _ ← program (.write 2 (← hint))
  exit status

/-- Whether an octet can be shown as it is. -/
def isShown (c : Char) : Bool :=
  ' ' ≤ c && c < '\x7f'

/-- How an octet that cannot be shown is written. -/
def escapedOctet (c : Char) : Octets :=
  match c with
  | '\x07' => "\\a".toList
  | '\x08' => "\\b".toList
  | '\t' => "\\t".toList
  | '\n' => "\\n".toList
  | '\x0b' => "\\v".toList
  | '\x0c' => "\\f".toList
  | '\r' => "\\r".toList
  | c => '\\' :: Octets.octal 3 c.toNat

/-- A text between quotes. -/
def quoted (text : Octets) : Octets :=
  '\'' :: (text.flatMap fun c =>
    if c = '\'' || c = '\\' then ['\\', c] else if isShown c then [c] else escapedOctet c) ++
    ['\'']

/-- The rest of a text between single quotes as a shell would read it; what cannot be shown
stands in quotes of its own. -/
def shellRest : (escaping : Bool) → Octets → Octets
  | _, [] => ['\'']
  | escaping, c :: rest =>
      if !isShown c then
        (if escaping then [] else "'$'".toList) ++ escapedOctet c ++ shellRest true rest
      else
        (if escaping then "''".toList else []) ++
          (if c = '\'' then "'\\''".toList else [c]) ++ shellRest false rest

/-- A text in quotes as a shell would read it. -/
def shellQuoted (text : Octets) : Octets :=
  let doubled := text.contains '\'' &&
    text.all fun c => isShown c && !"\"$\\\x60!".toList.contains c
  if doubled then '"' :: text ++ ['"'] else '\'' :: shellRest false text

/-- A text as a shell would read it, quoted only where it must be. -/
def named (text : Octets) : Octets :=
  let special (c : Char) : Bool :=
    !isShown c || " !\"$&'()*;<=>?[\\^\x60|".toList.contains c
  let risky := text.any special ||
    (match text with
    | [] => true
    | ['\x7b'] => true
    | ['\x7d'] => true
    | c :: _ => c = '~' || c = '#')
  if risky then shellQuoted text else text

/-- The whole number between two bounds that an argument denotes, perhaps after blanks and a
sign; another argument is complained about. -/
def wholeNumber (complaint : String) (least greatest : Int) (text : Octets) : Tool Int := do
  let trimmed := text.dropWhile Octets.isSpace
  let (negative, digits) :=
    match trimmed with
    | '-' :: digits => (true, digits)
    | '+' :: digits => (false, digits)
    | digits => (false, digits)
  let refuse (reason : String) : Tool Int :=
    die 1 (complaint.toList ++ ": ".toList ++ quoted text ++ reason.toList)
  match Text.digits? digits with
  | none => refuse ""
  | some amount =>
      let value : Int := if negative then -amount else amount
      if least ≤ value && value ≤ greatest then return value
      else if value < -0x40000000 || 0x3fffffff < value then
        refuse ": Value too large for defined data type"
      else refuse ": Numerical result out of range"

/-- The number without a minus sign, up to a bound and no less than another, that an argument
denotes; another argument is complained about. -/
def naturalNumber (complaint : String) (least greatest : Nat) (text : Octets) : Tool Nat := do
  if (text.dropWhile Octets.isSpace).head? = some '-' then
    die 1 (complaint.toList ++ ": ".toList ++ quoted text)
  else
    return (← wholeNumber complaint least greatest text).toNat

/-- The letter that a word stands for, by one of its names or the beginning of names that
all stand for one letter; other words are complained about. -/
def chosen (status : Nat) (option : String) (choices : List (Char × List String))
    (word : Octets) : Tool Char := do
  let named (test : Octets → Bool) : List Char :=
    (choices.filter fun (_, names) => names.any (test ·.toList)).map (·.1)
  match named (· == word), named word.isPrefixOf with
  | letter :: _, _ => return letter
  | [], [letter] => return letter
  | [], found =>
      let list := choices.map fun (_, names) =>
        "\n  - ".toList ++ Text.joinWith ", ".toList (names.map fun name => quoted name.toList)
      misuse status
        ((if found.isEmpty then "invalid" else "ambiguous").toList ++ " argument ".toList ++
          quoted word ++ " for ".toList ++ quoted option.toList ++
          "\nValid arguments are:".toList ++ list.flatten)

/-- Write what is left, complain if that fails, and give the status. -/
def finish : StateT Console Program Nat := do
  let closing : Tool Unit := do
    flush
    match (← get).failure with
    | some code => do
        let console ← get
        let _ ← program (.write 2
          (console.name ++ ": ".toList ++ console.lament code ++ ['\n']))
        modify fun console => { console with status := console.lamentStatus }
    | none => return
  let _ ← ExceptT.run closing
  return (← get).status

/-- The usual complaint about output that could not be written. -/
def writeError (code : Code) : Octets :=
  "write error: ".toList ++ code.title

/-- Change the complaint about output that could not be written, and the status then. -/
def lamenting (status : Nat) (lament : Code → Octets) : Tool Unit :=
  modify fun console => { console with lament := lament, lamentStatus := status }

/-- Run a tool under a name. -/
def run (name : Octets) (tool : Tool Unit) : Program Nat := do
  let whole : StateT Console Program Nat := do
    match ← ExceptT.run tool with
    | .ok () => pure ()
    | .error status => modify fun console => { console with status := status }
    finish
  let (status, _) ← whole.run ⟨name, [], 0, 0, none, none, writeError, 1⟩
  pure status

/-- Repeat a step with a value until it gives a result. -/
def iterate (step : σ → Tool (σ ⊕ α)) : (limit : Nat) → σ → Tool α
  | 0, _ => program .spin
  | limit + 1, value => do
      match ← step value with
      | .inl value => iterate step limit value
      | .inr result => return result

/-- Repeat a step with a value until it gives a result. -/
def repeating (value : σ) (step : σ → Tool (σ ⊕ α)) : Tool α :=
  iterate step Program.patience value

/-- Run an act even if the step before it exits. -/
def mending (tool : Tool α) (mend : Tool Unit) : Tool α := do
  let outcome : Except Nat α ← ExceptT.mk do return .ok (← ExceptT.run tool)
  mend
  match outcome with
  | .ok result => return result
  | .error status => throw status

/-- The descriptor of an input; a dash stands for the standard input. -/
def openInput (path : Octets) : Tool (Except Code Nat) := do
  if path = ['-'] then return .ok 0 else program (.openFile path .reading)

/-- Close an input, unless it is the standard input. -/
def closeInput (descriptor : Nat) : Tool Unit := do
  if descriptor != 0 then program (.close descriptor)

/-- All that an input holds; a failure may come after a beginning. -/
def readInput (path : Octets) : Tool (Except Code Octets) := do
  match ← openInput path with
  | .error code => return .error code
  | .ok descriptor => do
      let (content, failure) ← program (.readAll descriptor)
      closeInput descriptor
      match failure with
      | some code => return .error code
      | none => return .ok content

/-- All that an input holds, or a complaint. -/
def readOrGrumble (status : Nat) (path : Octets) : Tool (Option Octets) := do
  match ← readInput path with
  | .ok content => return some content
  | .error code => do
      grumble status (named path ++ ": ".toList ++ code.title)
      return none

/-- The name of an input in a complaint. -/
def inputName (path : Octets) : Octets :=
  if path = ['-'] then "'standard input'".toList else named path

/-- Complain if the standard input was among the inputs and is closed. -/
def closeStandard (paths : List Octets) (title : String) : Tool Unit := do
  if paths.contains ['-'] then
    match ← program (.statusOf 0) with
    | .error code => grumble 1 (title.toList ++ ": ".toList ++ code.title)
    | .ok _ => return

/-- The inputs that operands name; without any it is the standard input. -/
def inputs (operands : List Octets) : List Octets :=
  if operands.isEmpty then [['-']] else operands

end Tool

/-- Whether an option takes an argument. -/
inductive Takes where
  | nothing
  | value
  | optional
  deriving DecidableEq, Repr

/-- An option of a tool. -/
structure Switch where
  /-- Its letter, by which it is known. -/
  letter : Char
  /-- Its long name, which may be empty. -/
  long : String
  /-- Whether it takes an argument. -/
  takes : Takes
  deriving DecidableEq, Repr

namespace Switch

/-- An option without an argument. -/
def flag (letter : Char) (long : String) : Switch :=
  ⟨letter, long, .nothing⟩

/-- An option with an argument. -/
def value (letter : Char) (long : String) : Switch :=
  ⟨letter, long, .value⟩

end Switch

/-- An option that was given. -/
structure Given where
  /-- Its letter. -/
  letter : Char
  /-- Its argument. -/
  value : Option Octets
  deriving DecidableEq, Repr

/-- How a tool reads its options. -/
structure Grammar where
  /-- The options. -/
  switches : List Switch
  /-- Options may stand after operands. -/
  permutes : Bool
  /-- The status after a fault. -/
  status : Nat
  deriving DecidableEq, Repr

namespace Grammar

/-- The option with a letter. -/
def short? (grammar : Grammar) (letter : Char) : Option Switch :=
  if letter = '\x00' then none else grammar.switches.find? (·.letter == letter)

/-- The options that a long name may mean: those with this name, or else those whose name
it begins. -/
def long (grammar : Grammar) (name : Octets) : List Switch :=
  match grammar.switches.filter (·.long.toList == name) with
  | [] => grammar.switches.filter fun switch =>
      !switch.long.isEmpty && name.isPrefixOf switch.long.toList
  | exact => exact

/-- What was read of the words so far, each kind in reverse. -/
structure Reading where
  /-- The options. -/
  given : List Given
  /-- The operands. -/
  operands : List Octets

/-- Read the letters of one word; an argument may be the rest of it or the next word. -/
def readLetters (grammar : Grammar) :
    Octets → List Octets → (given : List Given) → Tool (List Given × List Octets)
  | [], rest, given => return (given, rest)
  | c :: more, rest, given => do
      match grammar.short? c with
      | none =>
          Tool.misuse grammar.status ("invalid option -- '".toList ++ [c, '\''])
      | some switch =>
          match switch.takes with
          | .nothing => readLetters grammar more rest (⟨c, none⟩ :: given)
          | .optional =>
              return (⟨c, if more.isEmpty then none else some more⟩ :: given, rest)
          | .value =>
              match more, rest with
              | [], [] =>
                  Tool.misuse grammar.status
                    ("option requires an argument -- '".toList ++ [c, '\''])
              | [], argument :: rest => return (⟨c, some argument⟩ :: given, rest)
              | more, rest => return (⟨c, some more⟩ :: given, rest)

/-- Read an option with a long name, given the word after its dashes. -/
def readLong (grammar : Grammar) (word : Octets) (rest : List Octets) :
    Tool (Given × List Octets) := do
  let name := word.takeWhile (· != '=')
  let argument : Option Octets :=
    match word.drop name.length with
    | _ :: value => some value
    | [] => none
  match grammar.long name with
  | [] =>
      Tool.misuse grammar.status ("unrecognized option '--".toList ++ word ++ ['\''])
  | [switch] =>
      let title := '\'' :: '-' :: '-' :: switch.long.toList ++ ['\'']
      match switch.takes, argument, rest with
      | .nothing, none, rest => return (⟨switch.letter, none⟩, rest)
      | .nothing, some _, _ =>
          Tool.misuse grammar.status
            ("option ".toList ++ title ++ " doesn't allow an argument".toList)
      | .optional, argument, rest => return (⟨switch.letter, argument⟩, rest)
      | .value, some value, rest => return (⟨switch.letter, some value⟩, rest)
      | .value, none, value :: rest => return (⟨switch.letter, some value⟩, rest)
      | .value, none, [] =>
          Tool.misuse grammar.status
            ("option ".toList ++ title ++ " requires an argument".toList)
  | several =>
      Tool.misuse grammar.status
        ("option '--".toList ++ word ++ "' is ambiguous; possibilities:".toList ++
          several.flatMap fun switch => " '--".toList ++ switch.long.toList ++ ['\''])

/-- Read words; the limit bounds their number. -/
def readWords (grammar : Grammar) : (limit : Nat) → List Octets → Reading → Tool Reading
  | 0, _, reading => return reading
  | limit + 1, words, reading => do
      match words with
      | [] => return reading
      | ['-', '-'] :: rest =>
          return { reading with operands := rest.reverse ++ reading.operands }
      | ('-' :: '-' :: name) :: rest => do
          let (found, rest) ← grammar.readLong name rest
          readWords grammar limit rest { reading with given := found :: reading.given }
      | ('-' :: c :: more) :: rest => do
          let (given, rest) ← grammar.readLetters (c :: more) rest reading.given
          readWords grammar limit rest { reading with given := given }
      | word :: rest =>
          if grammar.permutes then
            readWords grammar limit rest
              { reading with operands := word :: reading.operands }
          else return { reading with operands := (word :: rest).reverse ++ reading.operands }

/-- The options and the operands among words. -/
def read (grammar : Grammar) (words : List Octets) : Tool (List Given × List Octets) := do
  let reading ← grammar.readWords (words.length + 1) words ⟨[], []⟩
  return (reading.given.reverse, reading.operands.reverse)

end Grammar

namespace Given

/-- Whether an option was given. -/
def has (given : List Given) (letter : Char) : Bool :=
  given.any (·.letter == letter)

/-- The last argument that was given to an option. -/
def last? (given : List Given) (letter : Char) : Option Octets :=
  (given.reverse.find? (·.letter == letter)).bind (·.value)

/-- The option among some letters that was given last. -/
def final? (given : List Given) (letters : String) : Option Char :=
  (given.reverse.find? fun option => letters.toList.contains option.letter).map (·.letter)

end Given

/-- The work of a tool, with what it was started with. -/
abbrev Work := Start → Tool Unit

namespace Work

/-- The task of a tool. -/
def task (work : Work) (start : Start) : Task :=
  (Tool.run start.name (work start)).task

end Work
end Host
end Turnwise
