import Turnwise.Host.Quantity
import Turnwise.Host.Utility.Reading
import Turnwise.Host.Version

/-!
# Sorting lines

Lines are sorted by keys, each a stretch of fields with a way to compare; lines whose keys
are equal are sorted as a whole, unless their order is to be kept.
-/

namespace Turnwise
namespace Host
namespace Utility

open SystemError (Code)

/-- How a key is compared. -/
structure Collation where
  /-- The letters of the options that apply. -/
  letters : List Char
  deriving DecidableEq, Repr

namespace Collation

/-- Whether an option applies. -/
def has (collation : Collation) (letter : Char) : Bool :=
  collation.letters.contains letter

/-- The letters of the options that say how a key is compared. -/
def options : List Char := "bdfghiMnRrV".toList

/-- Whether no option applies, apart from the one that reverses the order. -/
def isStandard (collation : Collation) : Bool :=
  collation.letters.all (· == 'r')

/-- The options that cannot apply together, if such are given: at most one of the kinds of
numbers, months and ways to compare texts is possible. -/
def conflict? (collation : Collation) : Option Octets :=
  let count (letters : String) : Nat := if letters.toList.any collation.has then 1 else 0
  if 1 < count "n" + count "g" + count "h" + count "M" + count "VRdi" then
    some ("dfghiMnRV".toList.filter fun c =>
      collation.has c && !(c == 'i' && collation.has 'd'))
  else none

/-- Whether blanks before a field end at an octet. -/
def isGap (c : Char) : Bool :=
  Octets.isBlank c || c == '\n'

/-- The number that a text begins with, as an integer with a number of decimal places. -/
def number (text : Octets) : Int × Nat :=
  let trimmed := text.dropWhile isGap
  let (negative, body) :=
    match trimmed with
    | '-' :: rest => (true, rest)
    | rest => (false, rest)
  let whole := body.takeWhile Char.isDigit
  let fraction : Octets :=
    match body.drop whole.length with
    | '.' :: rest => rest.takeWhile Char.isDigit
    | _ => []
  let value : Int := Nat.ofDigitChars 10 (whole ++ fraction) 0
  (if negative then -value else value, fraction.length)

/-- Compare two numbers with decimal places. -/
def compareNumbers (first second : Int × Nat) : Ordering :=
  compare (first.1 * (Nat.pow 10 second.2 : Nat)) (second.1 * (Nat.pow 10 first.2 : Nat))

/-- The rank of the unit that stands after a number; that of a negative number is
negative, and zero has no unit. -/
def unitRank (text : Octets) : Int :=
  let trimmed := text.dropWhile isGap
  let (sign, body) : Int × Octets :=
    match trimmed with
    | '-' :: rest => (-1, rest)
    | rest => (1, rest)
  let whole := body.takeWhile Char.isDigit
  let (fraction, rest) : Octets × Octets :=
    match body.drop whole.length with
    | '.' :: rest => (rest.takeWhile Char.isDigit, rest.dropWhile Char.isDigit)
    | rest => ([], rest)
  if (whole ++ fraction).all (· == '0') then 0
  else
    match rest.head? with
    | some 'k' => sign
    | some c => sign * ((("KMGTPEZYRQ".toList.findIdx? (· == c)).map (· + 1)).getD 0 : Nat)
    | none => 0

/-- The rank of a month by its name. -/
def monthRank (text : Octets) : Nat :=
  let name := ((text.dropWhile isGap).take 3).map Char.toUpper
  let months :=
    ["JAN", "FEB", "MAR", "APR", "MAY", "JUN", "JUL", "AUG", "SEP", "OCT", "NOV", "DEC"]
  ((months.findIdx? (·.toList == name)).map (· + 1)).getD 0

/-- Compare two quantities that texts begin with; what is none comes first. -/
def compareQuantities (first second : Octets) : Ordering :=
  let key (text : Octets) : Nat × Int × Nat :=
    match Quantity.read? text with
    | none => (0, 0, 1)
    | some (.undefined _, _) => (1, 0, 1)
    | some (.infinite true, _) => (2, 0, 1)
    | some (.finite negative numerator denominator, _) =>
        (3, if negative then -(numerator : Int) else numerator, denominator)
    | some (.infinite false, _) => (4, 0, 1)
  let (rankA, a, unitA) := key first
  let (rankB, b, unitB) := key second
  if rankA != rankB then compare rankA rankB else compare (a * unitB) (b * unitA)

/-- The text that is compared. -/
def textKey (collation : Collation) (text : Octets) : Octets :=
  let kept :=
    if collation.has 'd' then text.filter fun c => c.isAlphanum || isGap c
    else if collation.has 'i' then text.filter Tool.isShown
    else text
  if collation.has 'f' then kept.map Char.toUpper else kept

/-- Compare two keys. -/
def compareKeys (collation : Collation) (first second : Octets) : Ordering :=
  let first := collation.textKey first
  let second := collation.textKey second
  let result :=
    if collation.has 'n' then compareNumbers (number first) (number second)
    else if collation.has 'g' then compareQuantities first second
    else if collation.has 'h' then
      let ranks := compare (unitRank first) (unitRank second)
      if ranks != .eq then ranks else compareNumbers (number first) (number second)
    else if collation.has 'M' then compare (monthRank first) (monthRank second)
    else if collation.has 'R' then Octets.before.compareLex first second
    else if collation.has 'V' then Version.order first second
    else Octets.before.compareLex first second
  if collation.has 'r' then result.swap else result

end Collation

/-- A place in a line: a field, and a character in it. -/
structure KeyPlace where
  /-- How many fields stand before it. -/
  field : Nat
  /-- How many characters of its field stand before it; at an end, zero stands for the whole
  field. -/
  char : Nat
  /-- Whether blanks before the field are passed over. -/
  skips : Bool
  deriving DecidableEq, Repr

/-- A key. -/
structure SortKey where
  /-- Where it begins. -/
  start : KeyPlace
  /-- Where it ends; it may go on to the end of the line. -/
  stop : Option KeyPlace
  /-- How it is compared; without options of its own as the lines are. -/
  collation : Collation
  deriving DecidableEq, Repr

/-- A field without a separator: blanks, and what stands up to the next. -/
def blankField (line : Octets) : Nat :=
  let blanks := (line.takeWhile Collation.isGap).length
  blanks + ((line.drop blanks).takeWhile (!Collation.isGap ·)).length

/-- What is left of a line after some fields, each with the separator after it. -/
def afterFields (separator : Option Char) : (count : Nat) → Octets → Octets
  | 0, line => line
  | _ + 1, [] => []
  | count + 1, line =>
      match separator with
      | some c => afterFields separator count ((line.dropWhile (· != c)).drop 1)
      | none => afterFields separator count (line.drop (blankField line))

/-- What is left of a line after some fields, without the separator after the last. -/
def afterWholeFields (separator : Option Char) (count : Nat) (line : Octets) : Octets :=
  match separator, count with
  | some c, count + 1 => (afterFields separator count line).dropWhile (· != c)
  | _, count => afterFields separator count line

/-- What is left of a line from a place on. -/
def fromPlace (separator : Option Char) (place : KeyPlace) (line : Octets) : Octets :=
  let rest := afterFields separator place.field line
  (if place.skips then rest.dropWhile Collation.isGap else rest).drop place.char

/-- What is left of a line after the end of a key. -/
def afterPlace (separator : Option Char) (place : KeyPlace) (line : Octets) : Octets :=
  if place.char = 0 then afterWholeFields separator (place.field + 1) line
  else fromPlace separator place line

/-- The text of a key in a line. -/
def keyText (separator : Option Char) (key : SortKey) (line : Octets) : Octets :=
  let text := fromPlace separator key.start line
  match key.stop with
  | some place => text.take (text.length - (afterPlace separator place line).length)
  | none => text

/-- The number at the beginning of a text, perhaps after blanks and a plus sign, and the
rest. -/
def leadingNumber? (text : Octets) : Option (Nat × Octets) :=
  let trimmed := text.dropWhile Octets.isSpace
  let body := if trimmed.head? = some '+' then trimmed.drop 1 else trimmed
  let digits := body.takeWhile Char.isDigit
  if digits.isEmpty then none
  else some (Nat.ofDigitChars 10 digits 0, body.drop digits.length)

/-- Read a number of a key. -/
def readKeyNumber (title : String) (text : Octets) : Tool (Nat × Octets) := do
  match leadingNumber? text with
  | some found => return found
  | none =>
      Tool.die 2 (title.toList ++ ": invalid count at start of ".toList ++ Tool.quoted text)

/-- Read the number of a character of a key; without one it is a standard. -/
def readKeyChar (standard : Nat) (text : Octets) : Tool (Nat × Octets) := do
  match text with
  | '.' :: rest => readKeyNumber "invalid number after '.'" rest
  | text => return (standard, text)

/-- Read a key. -/
def readKey (text : Octets) : Tool SortKey := do
  let refuse (reason : String) : Tool Unit :=
    Tool.die 2 (reason.toList ++ ": invalid field specification ".toList ++ Tool.quoted text)
  let isOption (c : Char) : Bool := Collation.options.contains c
  let (field, rest) ← readKeyNumber "invalid number at field start" text
  if field = 0 then refuse "field number is zero"
  let (char, rest) ← readKeyChar 1 rest
  if char = 0 then refuse "character offset is zero"
  let letters := rest.takeWhile isOption
  let start : KeyPlace := ⟨field - 1, char - 1, letters.contains 'b'⟩
  match rest.drop letters.length with
  | [] => return ⟨start, none, ⟨letters⟩⟩
  | ',' :: rest => do
      let (field, rest) ← readKeyNumber "invalid number after ','" rest
      if field = 0 then refuse "field number is zero"
      let (char, rest) ← readKeyChar 0 rest
      let more := rest.takeWhile isOption
      if !(rest.drop more.length).isEmpty then refuse "stray character in field spec"
      return ⟨start, some ⟨field - 1, char, more.contains 'b'⟩, ⟨letters ++ more⟩⟩
  | _ => do
      refuse "stray character in field spec"
      return ⟨start, none, ⟨letters⟩⟩

/-- The options of the tool that sorts. -/
def sortGrammar : Grammar :=
  ⟨[.flag 'b' "ignore-leading-blanks", ⟨'\x01', "check", .optional⟩, .flag 'c' "",
    .flag 'C' "", .value '\x02' "compress-program", .flag '\x03' "debug",
    .flag 'd' "dictionary-order", .flag 'f' "ignore-case", .value '\x04' "files0-from",
    .flag 'g' "general-numeric-sort", .flag 'i' "ignore-nonprinting", .value 'k' "key",
    .flag 'm' "merge", .flag 'M' "month-sort", .flag 'n' "numeric-sort",
    .flag 'h' "human-numeric-sort", .flag 'V' "version-sort", .flag 'R' "random-sort",
    .value '\x05' "random-source", .value '\x06' "sort", .value 'o' "output",
    .flag 'r' "reverse", .flag 's' "stable", .value '\x07' "batch-size",
    .value 'S' "buffer-size", .value 't' "field-separator",
    .value 'T' "temporary-directory", .flag 'u' "unique", .flag 'z' "zero-terminated",
    .value '\x08' "parallel"], true, 2⟩

/-- How lines are compared. -/
structure LineOrder where
  /-- What separates fields. -/
  separator : Option Char
  /-- The keys. -/
  keys : List SortKey
  /-- Equal lines are in the reverse order. -/
  reversed : Bool
  /-- Equal keys keep their order. -/
  stable : Bool

namespace LineOrder

/-- The order by some keys; keys without options take those of the lines, and without keys
the options make the whole line one. -/
def ofKeys (separator : Option Char) (keys : List SortKey) (collation : Collation)
    (stable : Bool) : LineOrder :=
  let inherited (key : SortKey) : SortKey :=
    if key.collation.letters.isEmpty then
      let skips := collation.has 'b'
      { key with
        start := { key.start with skips := skips },
        stop := key.stop.map ({ · with skips := skips }),
        collation := collation }
    else key
  let whole : List SortKey :=
    if keys.isEmpty && !collation.isStandard then
      [⟨⟨0, 0, collation.has 'b'⟩, none, collation⟩]
    else []
  ⟨separator, keys.map inherited ++ whole, collation.has 'r', stable⟩

/-- Compare two lines as a whole. -/
def compareWhole (order : LineOrder) (first second : Octets) : Ordering :=
  let result := Octets.before.compareLex first second
  if order.reversed then result.swap else result

/-- Compare two lines by their keys, if there are any. -/
def compareKeys (order : LineOrder) (first second : Octets) : Ordering :=
  if order.keys.isEmpty then order.compareWhole first second
  else
    (order.keys.findSome? fun key =>
      match key.collation.compareKeys (keyText order.separator key first)
          (keyText order.separator key second) with
      | .eq => none
      | result => some result).getD .eq

/-- Compare two lines. -/
def compareLines (order : LineOrder) (first second : Octets) : Ordering :=
  match order.compareKeys first second with
  | .eq => if order.stable then .eq else order.compareWhole first second
  | result => result

/-- Whether a line may stand before another. -/
def admits (order : LineOrder) (first second : Octets) : Bool :=
  order.compareLines first second != .gt

/-- Leave out lines whose keys equal those of the line before. -/
def distinct (order : LineOrder) : List Octets → List Octets
  | [] => []
  | line :: rest => line :: go line rest
where
  /-- Leave out lines that equal the last one that was kept. -/
  go (kept : Octets) : List Octets → List Octets
    | [] => []
    | line :: rest =>
        if order.compareKeys kept line = .eq then go kept rest else line :: go line rest

/-- The first line that is out of order, with its number. -/
def disorder? (order : LineOrder) (unique : Bool) :
    (number : Nat) → List Octets → Option (Nat × Octets)
  | number, first :: second :: rest =>
      let result := order.compareLines first second
      if result = .gt || (unique && order.compareKeys first second = .eq) then
        some (number + 1, second)
      else order.disorder? unique (number + 1) (second :: rest)
  | _, _ => none

end LineOrder

/-- The kinds of order that have words. -/
def sortWords : List (Char × List String) :=
  [('g', ["general-numeric"]), ('h', ["human-numeric"]), ('M', ["month"]), ('n', ["numeric"]),
    ('R', ["random"]), ('V', ["version"])]

/-- The ways to check that have words. -/
def checkWords : List (Char × List String) :=
  [('C', ["quiet", "silent"]), ('c', ["diagnose-first"])]

/-- Put letters for options that are given by words. -/
def sortLetters (option : Given) : Tool Given := do
  match option.letter, option.value with
  | '\x01', some word => return ⟨← Tool.chosen 1 "--check" checkWords word, none⟩
  | '\x01', none => return ⟨'c', none⟩
  | '\x06', some word => return ⟨← Tool.chosen 1 "--sort" sortWords word, none⟩
  | _, _ => return option

/-- What was asked of the tool that sorts. -/
structure SortJob where
  /-- The options for whole lines. -/
  letters : List Char
  /-- The keys. -/
  keys : List SortKey
  /-- What separates fields. -/
  separator : Option Char
  /-- Where the result goes. -/
  output : Option Octets
  /-- How the order is checked, if it is only checked. -/
  check : Option Char

/-- Refuse options that exclude each other. -/
def refuseOptions (letters : Octets) : Tool Unit :=
  Tool.die 2 ("options '-".toList ++ letters ++ "' are incompatible".toList)

/-- Take an option of the tool that sorts. -/
def SortJob.take (job : SortJob) (option : Given) : Tool SortJob := do
  let text := option.value.getD []
  match option.letter with
  | 'k' => do
      let key ← readKey text
      return { job with keys := job.keys ++ [key] }
  | 't' => do
      let separator ←
        match text with
        | [] => Tool.die 2 "empty tab".toList
        | [c] => pure c
        | ['\\', '0'] => pure '\x00'
        | text => Tool.die 2 ("multi-character tab ".toList ++ Tool.quoted text)
      if job.separator.any (· != separator) then Tool.die 2 "incompatible tabs".toList
      return { job with separator := some separator }
  | 'o' => do
      if job.output.any (· != text) then Tool.die 2 "multiple output files specified".toList
      return { job with output := some text }
  | letter => do
      if letter = 'c' || letter = 'C' then
        if job.check.any (· != letter) then refuseOptions ['c', 'C']
        return { job with check := some letter }
      else if Collation.options.contains letter then
        return { job with letters := job.letters ++ [letter] }
      else return job

/-- Check the order of the lines of an input. -/
def checkSorted (order : LineOrder) (unique : Bool) (ending letter : Char) (path : Octets) :
    Tool Unit := do
  let lines ←
    match ← Tool.openInput path with
    | .error code =>
        Tool.die 2 ("open failed: ".toList ++ Tool.named path ++ ": ".toList ++ code.title)
    | .ok descriptor => do
        match ← Tool.program (.readAll descriptor) with
        | (_, some .badDescriptor) =>
            Tool.die 2 ("stat failed: ".toList ++ Tool.named path ++ ": ".toList ++
              Code.badDescriptor.title)
        | (_, some code) =>
            Tool.die 2 ("read failed: ".toList ++ Tool.named path ++ ": ".toList ++ code.title)
        | (content, none) => pure (Octets.pieces ending content)
  match order.disorder? unique 1 lines with
  | none => return
  | some (number, line) => do
      if letter = 'c' then
        let name := (← get).name
        let _ ← Tool.program (.write 2
          (name ++ ": ".toList ++ path ++ ':' :: Text.ofNat number ++ ": disorder: ".toList ++
            line ++ [ending]))
      Tool.exit 1

/-- Complain about an input that cannot be read at all. -/
def checkReadable (path : Octets) : Tool Unit := do
  if path != ['-'] then
    match ← Tool.openInput path with
    | .ok descriptor => Tool.closeInput descriptor
    | .error code =>
        Tool.die 2 ("cannot read: ".toList ++ Tool.named path ++ ": ".toList ++ code.title)

/-- The lines of inputs, each input for itself. -/
def sortedInputs (ending : Char) (paths : List Octets) : Tool (List (List Octets)) := do
  let mut inputs : List (List Octets) := []
  for path in paths do
    match ← Tool.readInput path with
    | .ok content => inputs := Octets.pieces ending content :: inputs
    | .error .isDirectory =>
        Tool.die 2 ("read failed: ".toList ++ Tool.named path ++ ": Is a directory".toList)
    | .error .badDescriptor =>
        Tool.die 2 ("stat failed: ".toList ++ Tool.named path ++ ": ".toList ++
          Code.badDescriptor.title)
    | .error code =>
        Tool.die 2 ("cannot read: ".toList ++ Tool.named path ++ ": ".toList ++ code.title)
  return inputs.reverse

/-- Sort the lines of inputs. -/
def sort : Work := fun start => do
  Tool.lamenting 2 fun code =>
    "fflush failed: 'standard output': ".toList ++ code.title ++ '\n' :: start.name ++
      ": ".toList ++
      (if code = .badDescriptor then Tool.writeError code else "write error".toList)
  let (given, operands) ← sortGrammar.read start.arguments
  let mut job : SortJob := ⟨[], [], none, none, none⟩
  for option in given do
    job ← job.take (← sortLetters option)
  let unique := Given.has given 'u'
  let ending := if Given.has given 'z' then '\x00' else '\n'
  let order :=
    LineOrder.ofKeys job.separator job.keys ⟨job.letters⟩ (Given.has given 's' || unique)
  for key in order.keys do
    match key.collation.conflict? with
    | some letters => refuseOptions letters
    | none => pure ()
  let paths := Tool.inputs operands
  match job.check with
  | some letter => do
      match operands with
      | _ :: extra :: _ =>
          Tool.die 2 ("extra operand ".toList ++ Tool.quoted extra ++
            " not allowed with -".toList ++ [letter])
      | _ => pure ()
      if job.output.isSome then refuseOptions [letter, 'o']
      checkSorted order unique ending letter (operands.head?.getD ['-'])
  | none => do
      for path in paths do checkReadable path
      let output ←
        match job.output with
        | none => pure none
        | some path =>
            match ← Tool.program (.openFile path { writes := true, creates := true }) with
            | .ok descriptor => do
                Tool.program (.close descriptor)
                pure (some path)
            | .error code =>
                Tool.die 2 ("open failed: ".toList ++ Tool.named path ++ ": ".toList ++ code.title)
      let inputs ← sortedInputs ending paths
      let sorted :=
        if Given.has given 'm' then
          inputs.foldl (fun merged lines => merged.merge lines order.admits) []
        else inputs.flatten.mergeSort order.admits
      let result := (if unique then order.distinct sorted else sorted).flatMap (· ++ [ending])
      match output with
      | none => Tool.print result
      | some path =>
          match ← Tool.program (.openFile path .writing) with
          | .ok descriptor => do
              let _ ← Tool.program (.write descriptor result)
              Tool.program (.close descriptor)
          | .error code =>
              Tool.die 2 ("open failed: ".toList ++ Tool.named path ++ ": ".toList ++ code.title)

end Utility
end Host
end Turnwise
