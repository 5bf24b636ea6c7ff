import Turnwise.Host.Condition
import Turnwise.Host.Regex
import Turnwise.Host.Utility.Reading

/-!
# Tools that compute values

They print texts and numbers, test conditions, evaluate expressions, and tell about the
system and its time.
-/

namespace Turnwise
namespace Host
namespace Utility

/-- The options before the texts to print: whether the newline is left out, and whether
escapes are replaced. -/
def echoFlags : (bare escapes : Bool) → List Octets → Bool × Bool × List Octets
  | bare, escapes, ('-' :: c :: more) :: rest =>
      if (c :: more).all fun c => "neE".toList.contains c then
        let last := (c :: more).reverse.find? fun c => c == 'e' || c == 'E'
        let escapes := match last with
          | some 'e' => true
          | some _ => false
          | none => escapes
        echoFlags (bare || (c :: more).contains 'n') escapes rest
      else (bare, escapes, ('-' :: c :: more) :: rest)
  | bare, escapes, words => (bare, escapes, words)

/-- Print texts with blanks between them. -/
def echo : Work := fun start => do
  let (bare, escapes, texts) := echoFlags false false start.arguments
  let joined := Text.joinWith [' '] texts
  let (text, stops) :=
    if escapes then Style.textEscapes .standalone |>.expand joined else (joined, false)
  Tool.print (if bare || stops then text else text ++ ['\n'])

/-- Print values by a format. -/
def printf : Work := fun start => do
  let words :=
    match start.arguments with
    | ['-', '-'] :: rest => rest
    | words => words
  match words with
  | [] => Tool.misuse 1 "missing operand".toList
  | format :: values => do
      let result := printed .standalone format values
      for event in result.events do
        match event with
        | .output octets => Tool.print octets
        | .complaint message => Tool.complain message
      if !result.malformed then
        match result.unused with
        | first :: _ =>
            Tool.complain ("warning: ignoring excess arguments, starting with ".toList ++
              Tool.quoted first)
        | [] => pure ()
      if result.faulty then Tool.exit 1

/-- Succeed. -/
def succeed : Work := fun _ => return

/-- Fail. -/
def failing : Work := fun _ => Tool.exit 1

/-- Test a condition. -/
def test (bracketed : Bool) : Work := fun start => do
  let words := start.arguments
  if bracketed && words.getLast? != some [']'] then Tool.die 2 "missing ']'".toList
  else
    let operands := if bracketed then words.dropLast else words
    match ← Tool.program (Condition.evaluate .standalone operands) with
    | .ok true => return
    | .ok false => Tool.exit 1
    | .error message => Tool.die 2 message

/-- Print a line again and again. -/
def yes : Work := fun start => do
  let words :=
    match start.arguments with
    | ['-', '-'] :: rest => rest
    | words => words
  match words.head? with
  | some ('-' :: '-' :: name) =>
      Tool.misuse 1 ("unrecognized option '--".toList ++ name ++ ['\''])
  | some ('-' :: c :: _) => Tool.misuse 1 ("invalid option -- '".toList ++ [c, '\''])
  | _ =>
      let line := if words.isEmpty then "y\n".toList
        else Text.joinWith [' '] words ++ ['\n']
      let block := (List.replicate (max 1 (4096 / line.length)) line).flatten
      Tool.repeating () fun _ => do
        match ← Tool.program (.write 1 block) with
        | .ok _ => return .inl ()
        | .error code => Tool.die 1 ("standard output: ".toList ++ code.title)

/-- A path without slashes at its end. -/
def withoutSlashes (path : Octets) : Octets :=
  let kept : Octets := path.dropEndWhile (· == '/')
  if kept.isEmpty && !path.isEmpty then ['/'] else kept

/-- The last segment of a path. -/
def lastSegment (path : Octets) : Octets :=
  let kept := withoutSlashes path
  if kept = ['/'] then kept else ((kept.splitOn '/').getLast?).getD []

/-- The path to the last segment of a path. -/
def parentPath (path : Octets) : Octets :=
  let kept := withoutSlashes path
  if kept = ['/'] then kept
  else if !kept.contains '/' then ['.']
  else withoutSlashes (kept.reverse.dropWhile (· != '/')).reverse

/-- A name without an ending, unless it is nothing but that. -/
def withoutEnding (ending name : Octets) : Octets :=
  if ending.length < name.length && ending.isSuffixOf name then
    name.take (name.length - ending.length)
  else name

/-- Print the last segments of paths. -/
def basename : Work := fun start => do
  let grammar : Grammar :=
    ⟨[.flag 'a' "multiple", .value 's' "suffix", .flag 'z' "zero"], false, 1⟩
  let (given, operands) ← grammar.read start.arguments
  let ending := (Given.last? given 's').getD []
  let several := Given.has given 'a' || Given.has given 's'
  let newline : Octets := if Given.has given 'z' then ['\x00'] else ['\n']
  match operands with
  | [] => Tool.misuse 1 "missing operand".toList
  | [path] => Tool.print (withoutEnding ending (lastSegment path) ++ newline)
  | path :: second :: rest =>
      if several then
        for path in operands do
          Tool.print (withoutEnding ending (lastSegment path) ++ newline)
      else
        match rest with
        | [] => Tool.print (withoutEnding second (lastSegment path) ++ newline)
        | extra :: _ => Tool.misuse 1 ("extra operand ".toList ++ Tool.quoted extra)

/-- Print the paths to the last segments of paths. -/
def dirname : Work := fun start => do
  let grammar : Grammar := ⟨[.flag 'z' "zero"], true, 1⟩
  let (given, operands) ← grammar.read start.arguments
  if operands.isEmpty then Tool.misuse 1 "missing operand".toList
  for path in operands do
    Tool.print (parentPath path ++ (if Given.has given 'z' then ['\x00'] else ['\n']))

/-- A decimal number: an integer with a number of places. -/
structure Decimal where
  /-- The digits as an integer. -/
  value : Int
  /-- How many of them stand after the point. -/
  places : Nat
  deriving DecidableEq, Repr

/-- The decimal number that a text is. -/
def decimal? (text : Octets) : Option Decimal :=
  let (negative, body) : Bool × Octets :=
    match text.dropWhile Octets.isSpace with
    | '-' :: rest => (true, rest)
    | '+' :: rest => (false, rest)
    | rest => (false, rest)
  let whole := body.takeWhile Char.isDigit
  let (fraction, rest) : Octets × Octets :=
    match body.drop whole.length with
    | '.' :: rest =>
        let fraction := rest.takeWhile Char.isDigit
        (fraction, rest.drop fraction.length)
    | rest => ([], rest)
  let (exponent, rest) := Quantity.readExponent ['e', 'E'] rest
  if !rest.isEmpty || (whole.isEmpty && fraction.isEmpty) then none
  else
    let value : Int := Nat.ofDigitChars 10 (whole ++ fraction) 0
    let value := if negative then -value else value
    let places : Int := (fraction.length : Int) - exponent
    some (if places < 0 then ⟨value * (Nat.pow 10 (-places).toNat : Nat), 0⟩
      else ⟨value, places.toNat⟩)

namespace Decimal

/-- The digits of a number with more places. -/
def scaled (number : Decimal) (places : Nat) : Int :=
  number.value * (Nat.pow 10 (places - number.places) : Nat)

/-- The text of digits with a number of places. -/
def text (places : Nat) (value : Int) : Octets :=
  let digits := Quantity.fixed places value.natAbs (Nat.pow 10 places)
  if value < 0 then '-' :: digits else digits

end Decimal

/-- Split options from numbers, some of which may begin with a dash. -/
def seqWords : List Octets → List Octets × List Octets
  | ['-', '-'] :: rest => ([], rest)
  | ('-' :: c :: more) :: rest =>
      if c.isDigit || c = '.' then ([], ('-' :: c :: more) :: rest)
      else
        let takes := (c :: more).length = 1 && "fs".toList.contains c
        let (options, numbers) :=
          match takes, rest with
          | true, value :: rest =>
              let (options, numbers) := seqWords rest
              (value :: options, numbers)
          | _, rest => seqWords rest
        (('-' :: c :: more) :: options, numbers)
  | words => ([], words)

/-- The numbers from a first one to a last one, by a step; the limit bounds how many. -/
def series (step last : Int) : (limit : Nat) → Int → List Int
  | 0, _ => []
  | limit + 1, value =>
      if (0 < step && last < value) || (step < 0 && value < last) then []
      else value :: series step last limit (value + step)

/-- Write a number by a format with one directive. -/
def formatted (format : Octets) (value : Int) (places : Nat) : Octets :=
  let lead := format.takeWhile (· != '%')
  let pattern := Pattern.read (format.drop (lead.length + 1))
  let width := match pattern.width with | .given width => width | _ => 0
  let precision := match pattern.precision with | .given count => some count | _ => none
  let letter := (pattern.rest.head?).getD 'g'
  let quantity : Quantity := .finite (value < 0) value.natAbs (Nat.pow 10 places)
  let directive : Directive := ⟨pattern.flags, width, precision⟩
  lead ++ directive.quantity Quantity.extendedBits letter quantity ++ pattern.rest.drop 1

/-- Print a series of numbers. -/
def seq : Work := fun start => do
  let grammar : Grammar :=
    ⟨[.value 'f' "format", .value 's' "separator", .flag 'w' "equal-width"], false, 1⟩
  let (options, numbers) := seqWords start.arguments
  let (given, _) ← grammar.read options
  match numbers[3]? with
  | some extra => Tool.misuse 1 ("extra operand ".toList ++ Tool.quoted extra)
  | none => pure ()
  if numbers.isEmpty then Tool.misuse 1 "missing operand".toList
  let mut parsed : List Decimal := []
  for text in numbers do
    match decimal? text with
    | some number => parsed := parsed ++ [number]
    | none => Tool.misuse 1 ("invalid floating point argument: ".toList ++ Tool.quoted text)
  let one : Decimal := ⟨1, 0⟩
  let (first, step, last) : Decimal × Decimal × Decimal :=
    match parsed with
    | [last] => (one, one, last)
    | [first, last] => (first, one, last)
    | first :: step :: last :: _ => (first, step, last)
    | [] => (one, one, one)
  if step.value = 0 then
    Tool.misuse 1 ("invalid Zero increment value: ".toList ++
      Tool.quoted ((numbers[1]?).getD []))
  let shown := max first.places step.places
  let places := max shown last.places
  let values := series (step.scaled places) (last.scaled places) Program.patience
    (first.scaled places)
  let plain (value : Int) : Octets :=
    Decimal.text shown (value / (Nat.pow 10 (places - shown) : Nat))
  let width :=
    if Given.has given 'w' then
      max (plain (first.scaled places)).length
        (Decimal.text shown (last.scaled places / (Nat.pow 10 (places - shown) : Nat))).length
    else 0
  let text (value : Int) : Octets :=
    match Given.last? given 'f' with
    | some format => formatted format value places
    | none =>
        let digits := plain value
        match digits with
        | '-' :: rest => '-' :: Octets.padLeft (width - 1) '0' rest
        | digits => Octets.padLeft width '0' digits
  let separator := (Given.last? given 's').getD ['\n']
  let mut started := false
  for value in values do
    if started then Tool.print separator
    Tool.print (text value)
    started := true
  if started then Tool.print ['\n']

namespace Expression

/-- A step of an expression over the words that are left, which may fail with a status and
a complaint. -/
abbrev Walk := StateT (List Octets) (Except Octets)

/-- Whether a value counts as nothing. -/
def isNull (value : Octets) : Bool :=
  value.isEmpty || (Text.int64? value) == some 0

/-- The truth of a condition. -/
def truth (condition : Bool) : Octets :=
  if condition then ['1'] else ['0']

/-- The integer that a value is. -/
def integer (value : Octets) : Walk Int :=
  match Text.int64? value with
  | some number => return number
  | none => throw "non-integer argument".toList

/-- Pass a word if it is one of some. -/
def accept? (words : List String) : Walk (Option String) := do
  match ← get with
  | word :: rest =>
      match words.find? (·.toList == word) with
      | some found => do
          set rest
          return some found
      | none => return none
  | [] => return none

/-- What the beginning of a text matches: the first group, or how much. -/
def matching (text pattern : Octets) : Walk Octets := do
  match Regex.parse ⟨false, false, false⟩ ('^' :: (if pattern.head? = some '^' then pattern.drop 1
      else pattern)) with
  | .error fault => throw fault.title
  | .ok regex =>
      let found := regex.matchAt? (regex.subject text) 0
      if 0 < regex.groups then return (found.bind (·.group? 1)).getD []
      else return Text.ofNat ((found.map (·.stop)).getD 0)

/-- The place of the first character of a text that is in a set, from one on. -/
def indexOf (text set : Octets) : Nat :=
  ((text.findIdx? fun c => set.contains c).map (· + 1)).getD 0

/-- A piece of a text. -/
def piece (text : Octets) (start count : Int) : Octets :=
  if start ≤ 0 || count ≤ 0 then [] else (text.drop (start.toNat - 1)).take count.toNat

/-- The last word that was read, for complaints. -/
def missing (words : List Octets) : Octets :=
  "syntax error: missing argument after ".toList ++ Tool.quoted (words.getLast?.getD [])

/-- An operand: a word, something in parentheses, or a function of words. -/
def operand (all : List Octets) (inner : Walk Octets) : (limit : Nat) → Walk Octets
  | 0 => throw "syntax error".toList
  | limit + 1 => do
      let next : Walk Octets := operand all inner limit
      match ← get with
      | [] => throw (missing all)
      | ['('] :: rest => do
          set rest
          let value ← inner
          match ← get with
          | [')'] :: rest => do
              set rest
              return value
          | [] =>
              throw ("syntax error: expecting ')' after ".toList ++
                Tool.quoted (all.getLast?.getD []))
          | word :: _ =>
              throw ("syntax error: expecting ')' instead of ".toList ++ Tool.quoted word)
      | [')'] :: _ => throw "syntax error: unexpected ')'".toList
      | ['+'] :: word :: rest => do
          set rest
          return word
      | word :: rest => do
          set rest
          if rest.isEmpty then return word
          else
            match String.ofList word with
            | "length" => do return Text.ofNat (← next).length
            | "match" => do
                let text ← next
                matching text (← next)
            | "index" => do
                let text ← next
                return Text.ofNat (indexOf text (← next))
            | "substr" => do
                let text ← next
                let start ← next
                let count ← next
                return piece text ((Text.int64? start).getD 0) ((Text.int64? count).getD 0)
            | _ => return word

/-- Operands joined by operators of one level, from the left. -/
def level (operators : List String) (next : Walk Octets)
    (apply : String → Octets → Octets → Walk Octets) : (limit : Nat) → Octets → Walk Octets
  | 0, first => return first
  | limit + 1, first => do
      match ← accept? operators with
      | none => return first
      | some operator => do
          let second ← next
          level operators next apply limit (← apply operator first second)

/-- Compare two values, as numbers if both are. -/
def comparison (operator : String) (first second : Octets) : Walk Octets :=
  let result : Ordering :=
    match Text.int64? first, Text.int64? second with
    | some a, some b => compare a b
    | _, _ => Octets.before.compareLex first second
  return truth <|
    match operator with
    | "<" => result == .lt
    | "<=" => result != .gt
    | "=" => result == .eq
    | "==" => result == .eq
    | "!=" => result != .eq
    | ">=" => result != .lt
    | _ => result == .gt

/-- Calculate with two values. -/
def calculation (operator : String) (first second : Octets) : Walk Octets := do
  let a ← integer first
  let b ← integer second
  match operator with
  | "+" => return Text.ofInt (a + b)
  | "-" => return Text.ofInt (a - b)
  | "*" => return Text.ofInt (a * b)
  | operator =>
      if b = 0 then throw "division by zero".toList
      else return Text.ofInt (if operator = "/" then Int.tdiv a b else Int.tmod a b)

/-- An expression, in which parentheses may be nested up to a depth. -/
def expression (all : List Octets) : (depth : Nat) → Walk Octets
  | 0 => throw "syntax error".toList
  | depth + 1 => do
      let limit := all.length + 1
      let first : Walk Octets := operand all (expression all depth) limit
      let chain (operators : List String) (next : Walk Octets)
          (apply : String → Octets → Octets → Walk Octets) : Walk Octets := do
        level operators next apply limit (← next)
      let matches_ := chain [":"] first fun _ text pattern => matching text pattern
      let products := chain ["*", "/", "%"] matches_ calculation
      let sums := chain ["+", "-"] products calculation
      let comparisons := chain ["<", "<=", "=", "==", "!=", ">=", ">"] sums comparison
      let conjunctions := chain ["&"] comparisons fun _ a b =>
        return if isNull a || isNull b then ['0'] else a
      chain ["|"] conjunctions fun _ a b =>
        return if !isNull a then a else if isNull b then ['0'] else b

end Expression

/-- Evaluate an expression. -/
def expr : Work := fun start => do
  let words :=
    match start.arguments with
    | ['-', '-'] :: rest => rest
    | words => words
  if words.isEmpty then Tool.misuse 2 "missing operand".toList
  match (Expression.expression words (words.length + 1)).run words with
  | .error message => Tool.die 2 message
  | .ok (value, []) => do
      Tool.printLine value
      if Expression.isNull value then Tool.exit 1
  | .ok (_, word :: _) =>
      Tool.die 2 ("syntax error: unexpected argument ".toList ++ Tool.quoted word)

/-- Print variables of the environment. -/
def printenv : Work := fun start => do
  let grammar : Grammar := ⟨[.flag '0' "null"], true, 2⟩
  let (given, operands) ← grammar.read start.arguments
  let newline : Octets := if Given.has given '0' then ['\x00'] else ['\n']
  if operands.isEmpty then
    for (name, value) in start.environment do
      Tool.print (name ++ '=' :: value ++ newline)
  for name in operands do
    match start.environment.find? (·.1 == name) with
    | some (_, value) => Tool.print (value ++ newline)
    | none => Tool.fail 1

/-- Tell who the user is. -/
def whoami : Work := fun start => do
  let grammar : Grammar := ⟨[], true, 1⟩
  let (_, operands) ← grammar.read start.arguments
  match operands with
  | extra :: _ => Tool.misuse 1 ("extra operand ".toList ++ Tool.quoted extra)
  | [] => Tool.printLine "root".toList

/-- Tell the numbers and names of the user and his groups. -/
def idTool : Work := fun start => do
  let grammar : Grammar :=
    ⟨[.flag 'u' "user", .flag 'g' "group", .flag 'G' "groups", .flag 'n' "name",
      .flag 'r' "real", .flag 'z' "zero"], true, 1⟩
  let (given, _) ← grammar.read start.arguments
  let one := Given.has given 'u' || Given.has given 'g' || Given.has given 'G'
  if Given.has given 'z' && !one then
    Tool.die 1 "option --zero not permitted in default format".toList
  if one then Tool.printLine (if Given.has given 'n' then "root".toList else ['0'])
  else Tool.printLine "uid=0(root) gid=0(root) groups=0(root)".toList

/-- Tell about the system. -/
def uname : Work := fun start => do
  let grammar : Grammar :=
    ⟨[.flag 'a' "all", .flag 's' "kernel-name", .flag 'n' "nodename", .flag 'r' "kernel-release",
      .flag 'v' "kernel-version", .flag 'm' "machine", .flag 'p' "processor",
      .flag 'i' "hardware-platform", .flag 'o' "operating-system"], true, 1⟩
  let (given, _) ← grammar.read start.arguments
  let wants (letter : Char) : Bool := Given.has given letter || Given.has given 'a'
  let parts :=
    (if given.isEmpty || wants 's' then ["Linux"] else []) ++
      (if wants 'n' then ["localhost"] else []) ++ (if wants 'r' then ["6.1.0"] else []) ++
      (if wants 'v' then ["#1 SMP"] else []) ++ (if wants 'm' then ["x86_64"] else []) ++
      (if Given.has given 'p' then ["x86_64"] else []) ++
      (if Given.has given 'i' then ["x86_64"] else []) ++
      (if wants 'o' then ["GNU/Linux"] else [])
  Tool.printLine (Text.joinWith [' '] (parts.map String.toList))

/-- Tell that there is no terminal. -/
def tty : Work := fun start => do
  let grammar : Grammar := ⟨[.flag 's' "silent"], true, 2⟩
  let (given, operands) ← grammar.read start.arguments
  match operands with
  | extra :: _ => Tool.misuse 2 ("extra operand ".toList ++ Tool.quoted extra)
  | [] => do
      if !Given.has given 's' then Tool.printLine "not a tty".toList
      Tool.exit 1

/-- A date: a year, a month and a day, from the days since 1970. -/
def dateOf (days : Int) : Int × Nat × Nat :=
  let shifted := days + 719468
  let era := Int.fdiv shifted 146097
  let dayOfEra := (shifted - era * 146097).toNat
  let yearOfEra := (dayOfEra - dayOfEra / 1460 + dayOfEra / 36524 - dayOfEra / 146096) / 365
  let dayOfYear := dayOfEra - (365 * yearOfEra + yearOfEra / 4 - yearOfEra / 100)
  let month := (5 * dayOfYear + 2) / 153
  let day := dayOfYear - (153 * month + 2) / 5 + 1
  let number := if month < 10 then month + 3 else month - 9
  (era * 400 + yearOfEra + (if number ≤ 2 then 1 else 0), number, day)

/-- The names of the days, from Thursday on, on which 1970 began. -/
def dayNames : List String :=
  ["Thursday", "Friday", "Saturday", "Sunday", "Monday", "Tuesday", "Wednesday"]

/-- The names of the months. -/
def monthNames : List String :=
  ["January", "February", "March", "April", "May", "June", "July", "August", "September",
    "October", "November", "December"]

/-- What a letter of a date format stands for, at a time in seconds. -/
def datePart (seconds : Int) (letter : Char) : Octets :=
  let days := Int.fdiv seconds 86400
  let rest := (seconds - days * 86400).toNat
  let (year, month, day) := dateOf days
  let two (number : Nat) : Octets := Octets.padLeft 2 '0' (Text.ofNat number)
  let weekday := ((dayNames[((days % 7 + 7) % 7).toNat]?).getD "").toList
  let monthName := ((monthNames[month - 1]?).getD "").toList
  let hour := rest / 3600
  match letter with
  | 'Y' => Text.ofInt year
  | 'y' => two (year % 100).toNat
  | 'm' => two month
  | 'd' => two day
  | 'e' => Octets.padLeft 2 ' ' (Text.ofNat day)
  | 'H' => two hour
  | 'I' => two (if hour % 12 = 0 then 12 else hour % 12)
  | 'M' => two (rest / 60 % 60)
  | 'S' => two (rest % 60)
  | 'p' => (if hour < 12 then "AM" else "PM").toList
  | 's' => Text.ofInt seconds
  | 'N' => "000000000".toList
  | 'Z' => "UTC".toList
  | 'z' => "+0000".toList
  | 'A' => weekday
  | 'a' => weekday.take 3
  | 'B' => monthName
  | 'b' => monthName.take 3
  | 'h' => monthName.take 3
  | 'n' => ['\n']
  | 't' => ['\t']
  | '%' => ['%']
  | 'F' =>
      Text.ofInt year ++ '-' :: two month ++ '-' :: two day
  | 'T' => two hour ++ ':' :: two (rest / 60 % 60) ++ ':' :: two (rest % 60)
  | 'R' => two hour ++ ':' :: two (rest / 60 % 60)
  | 'D' => two month ++ '/' :: two day ++ '/' :: two (year % 100).toNat
  | letter => ['%', letter]

/-- Write a time by a format. -/
def dateText (seconds : Int) : Octets → Octets
  | '%' :: c :: rest => datePart seconds c ++ dateText seconds rest
  | c :: rest => c :: dateText seconds rest
  | [] => []

/-- Tell the time. -/
def date : Work := fun start => do
  let grammar : Grammar :=
    ⟨[.flag 'u' "utc", .value 'd' "date", .value 'r' "reference", .flag 'R' "rfc-email",
      ⟨'I', "iso-8601", .optional⟩], true, 1⟩
  let (given, operands) ← grammar.read start.arguments
  match operands[1]? with
  | some extra => Tool.misuse 1 ("extra operand ".toList ++ Tool.quoted extra)
  | none => pure ()
  let now ← Tool.program .now
  let seconds : Int ←
    match Given.last? given 'd' with
    | some ('@' :: digits) => pure ((Text.int64? digits).getD 0)
    | some text => Tool.die 1 ("invalid date ".toList ++ Tool.quoted text)
    | none => pure ((now / 1000000000 : Nat) : Int)
  match operands with
  | ('+' :: format) :: _ => Tool.printLine (dateText seconds format)
  | text :: _ => Tool.die 1 ("invalid date ".toList ++ Tool.quoted text)
  | [] =>
      Tool.printLine (dateText seconds
        (if Given.has given 'R' then "%a, %d %b %Y %T %z".toList
        else if Given.has given 'I' then "%F".toList
        else "%a %b %e %T %Z %Y".toList))

/-- The digits of a text of sixty-four characters. -/
def sixtyFour : Array Char :=
  "ABCDEFGHIJKLMNOPQRSTUVWXYZabcdefghijklmnopqrstuvwxyz0123456789+/".toList.toArray

/-- Write octets in characters of which each stands for six bits. -/
def encodeSixtyFour : Octets → Octets
  | a :: b :: c :: rest =>
      let number := a.toNat * 65536 + b.toNat * 256 + c.toNat
      [digit (number / 262144), digit (number / 4096 % 64), digit (number / 64 % 64),
        digit (number % 64)] ++ encodeSixtyFour rest
  | [a, b] =>
      let number := a.toNat * 65536 + b.toNat * 256
      [digit (number / 262144), digit (number / 4096 % 64), digit (number / 64 % 64), '=']
  | [a] =>
      let number := a.toNat * 65536
      [digit (number / 262144), digit (number / 4096 % 64), '=', '=']
  | [] => []
where
  /-- The character of six bits. -/
  digit (value : Nat) : Char := (sixtyFour[value]?).getD '='

/-- Read octets from characters of which each stands for six bits; the answer also tells
whether all was right. -/
def decodeSixtyFour : Octets → Octets × Bool
  | a :: b :: c :: d :: rest =>
      let value (c : Char) : Option Nat := sixtyFour.toList.findIdx? (· == c)
      match value a, value b, value c, value d with
      | some a, some b, some c, some d =>
          let number := a * 262144 + b * 4096 + c * 64 + d
          let (more, right) := decodeSixtyFour rest
          ([Octets.octet (number / 65536), Octets.octet (number / 256),
            Octets.octet number] ++ more, right)
      | some a, some b, some c, none =>
          let number := a * 262144 + b * 4096 + c * 64
          ([Octets.octet (number / 65536), Octets.octet (number / 256)], d = '=' && rest.isEmpty)
      | some a, some b, none, _ =>
          ([Octets.octet ((a * 262144 + b * 4096) / 65536)],
            c = '=' && d = '=' && rest.isEmpty)
      | _, _, _, _ => ([], false)
  | [] => ([], true)
  | _ => ([], false)

/-- Encode or decode an input. -/
def base64 : Work := fun start => do
  let grammar : Grammar :=
    ⟨[.flag 'd' "decode", .value 'w' "wrap", .flag 'i' "ignore-garbage"], true, 1⟩
  let (given, operands) ← grammar.read start.arguments
  let source := operands.head?.getD ['-']
  match ← Tool.readInput source with
  | .error code =>
      if source = ['-'] || code = .isDirectory then
        Tool.die 1 ("read error: ".toList ++ code.title)
      else Tool.die 1 (Tool.named source ++ ": ".toList ++ code.title)
  | .ok content =>
      if Given.has given 'd' then
        let (decoded, right) := decodeSixtyFour (content.filter (· != '\n'))
        Tool.print decoded
        if !right then Tool.die 1 "invalid input".toList
      else
        let width := ((Given.last? given 'w').bind Text.digits?).getD 76
        let text := encodeSixtyFour content
        if width = 0 then Tool.print text
        else if !text.isEmpty then
          let count := (text.length + width - 1) / width
          for index in List.range count do
            Tool.printLine ((text.drop (index * width)).take width)

end Utility
end Host
end Turnwise
