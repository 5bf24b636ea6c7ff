import Turnwise.Host.Printing
import Turnwise.Host.Task

/-!
# Conditions

A condition compares texts or numbers, or asks about files.  Shells and programs read
its words in two ways: plain shells look for operators from left to right, the others
go by the number of words first.
-/

namespace Turnwise
namespace Host
namespace Condition

/-- A step of a test, which may fail with a complaint. -/
abbrev Test := ExceptT Octets Program

/-- Operators with one operand. -/
def unaryOperators : List Octets :=
  ["-r", "-w", "-x", "-e", "-f", "-d", "-c", "-b", "-p", "-u", "-g", "-k", "-s", "-t", "-z",
    "-n", "-h", "-L", "-O", "-G", "-S"].map String.toList

/-- Operators with two operands. -/
def binaryOperators : List Octets :=
  ["=", "!=", "<", ">", "-eq", "-ne", "-ge", "-gt", "-le", "-lt", "-nt", "-ot", "-ef"].map
    String.toList

/-- Operators with two operands that programs and rich shells know. -/
def moreOperators : List Octets :=
  "==".toList :: binaryOperators

/-- What is known about a file, if there is one. -/
def status? (path : Octets) : Test (Option Status) := do
  match ← (liftM (Program.status path) : Test (Except SystemError.Code Status)) with
  | .ok status => return some status
  | .error _ => return none

/-- Whether a file is there and satisfies a test. -/
def fileIs (path : Octets) (test : Status → Bool) : Test Bool := do
  return (← status? path).any test

/-- Whether a symbolic link stands at a path. -/
def isLink (path : Octets) : Test Bool := do
  match ← (liftM (Program.statusHere path) : Test (Except SystemError.Code Status)) with
  | .ok status => return status.form == .link
  | .error _ => return false

/-- The number that a text is, which blanks may surround. -/
def number? (text : Octets) : Option Int :=
  let trimmed : Octets := text.dropWhile Octets.isSpace
  let trimmed : Octets := trimmed.dropEndWhile Octets.isSpace
  let (negative, digits) :=
    match trimmed with
    | '-' :: rest => (true, rest)
    | '+' :: rest => (false, rest)
    | rest => (false, rest)
  match Text.digits? digits with
  | some value =>
      let value : Int := if negative then -value else value
      if Printer.lowest ≤ value && value ≤ Printer.highest then some value else none
  | none => none

/-- The complaint about a text that is no number. -/
def noNumber (style : Style) (text : Octets) : Octets :=
  match style with
  | .plain => "Illegal number: ".toList ++ text
  | .rich => text ++ ": integer expression expected".toList
  | .standalone => "invalid integer '".toList ++ text ++ ['\'']

/-- The number that a text is. -/
def number (style : Style) (text : Octets) : Test Int :=
  match number? text with
  | some value => return value
  | none => throw (noNumber style text)

/-- Whether a file may be executed by somebody. -/
def isExecutable (status : Status) : Bool :=
  status.form == .directory || status.mode &&& 0o111 != 0

/-- A test with one operand. -/
def unary (style : Style) (operator operand : Octets) : Test Bool := do
  match String.ofList operator with
  | "-z" => return operand.isEmpty
  | "-n" => return !operand.isEmpty
  | "-t" => do
      let _ ← number style operand
      return false
  | "-h" => isLink operand
  | "-L" => isLink operand
  | "-f" => fileIs operand (·.form == .file)
  | "-d" => fileIs operand (·.form == .directory)
  | "-c" => fileIs operand (·.form == .device)
  | "-p" => fileIs operand (·.form == .queue)
  | "-b" => return false
  | "-S" => return false
  | "-s" => fileIs operand fun status => 0 < status.size
  | "-x" => fileIs operand isExecutable
  | "-u" => fileIs operand fun status => status.mode &&& 0o4000 != 0
  | "-g" => fileIs operand fun status => status.mode &&& 0o2000 != 0
  | "-k" => fileIs operand fun status => status.mode &&& 0o1000 != 0
  | _ => fileIs operand fun _ => true

/-- Whether a file was changed later than another one. -/
def isNewer (style : Style) (first second : Octets) : Test Bool := do
  match ← status? first, ← status? second with
  | some first, some second => return second.modified < first.modified
  | some _, none => return style != .plain
  | none, _ => return false

/-- A test with two operands. -/
def binary (style : Style) (operator first second : Octets) : Test Bool := do
  let numbers (test : Int → Int → Bool) : Test Bool := do
    let a ← number style first
    let b ← number style second
    return test a b
  match String.ofList operator with
  | "=" => return first == second
  | "==" => return first == second
  | "!=" => return first != second
  | "<" => return Octets.before first second
  | ">" => return Octets.before second first
  | "-eq" => numbers (· == ·)
  | "-ne" => numbers (· != ·)
  | "-ge" => numbers (· ≥ ·)
  | "-gt" => numbers (· > ·)
  | "-le" => numbers (· ≤ ·)
  | "-lt" => numbers (· < ·)
  | "-nt" => isNewer style first second
  | "-ot" => isNewer style second first
  | _ => do
      match ← status? first, ← status? second with
      | some first, some second => return first.serial == second.serial
      | _, _ => return false

namespace Plain

/-- What a word is where it stands. -/
inductive Lexeme where
  /-- There is no word. -/
  | finish
  /-- An operand. -/
  | operand
  /-- An operator with one operand. -/
  | unary
  /-- An operator with two operands. -/
  | binary
  /-- Both sides must hold. -/
  | conjunction
  /-- One side must hold. -/
  | disjunction
  /-- The opposite. -/
  | negation
  /-- An opening parenthesis. -/
  | opening
  /-- A closing parenthesis. -/
  | closing
  deriving DecidableEq, Repr

/-- The operator that a word is. -/
def operator? (word : Octets) : Option Lexeme :=
  if unaryOperators.contains word then some .unary
  else if binaryOperators.contains word then some .binary
  else
    match word with
    | ['-', 'a'] => some .conjunction
    | ['-', 'o'] => some .disjunction
    | ['!'] => some .negation
    | ['('] => some .opening
    | [')'] => some .closing
    | _ => none

/-- Whether an operator stands where only an operand can, given the words after it. -/
def isOperand : List Octets → Bool
  | [] => true
  | [_] => false
  | next :: _ => operator? next == some .binary

/-- What the first of some words is. -/
def lexeme : List Octets → Lexeme
  | [] => .finish
  | word :: rest =>
      match operator? word with
      | none => .operand
      | some .unary => if isOperand rest then .operand else .unary
      | some .opening => if rest.isEmpty then .operand else .opening
      | some found => found

/-- A step of a test over the words that are left; the first of them is the current
one. -/
abbrev Walk := StateT (List Octets) Test

/-- Pass some words. -/
def advance (count : Nat) : Walk Unit :=
  modify (·.drop count)

/-- A complaint about a word, which is named unless it is empty. -/
def about (word : Octets) (complaint : String) : Octets :=
  (if word.isEmpty then [] else word ++ ": ".toList) ++ complaint.toList

/-- A test of one or two operands, a text, or something in parentheses. -/
def primary (inner : Lexeme → Walk Bool) (current : Lexeme) : Walk Bool := do
  match current with
  | .finish => return false
  | .opening => do
      advance 1
      let first := lexeme (← get)
      if first = .closing then return false
      else do
        let result ← inner first
        advance 1
        if lexeme (← get) = .closing then return result
        else throw "closing paren expected".toList
  | .unary => do
      match ← get with
      | operator :: operand :: rest => do
          set (operand :: rest)
          unary .plain operator operand
      | operator :: [] => throw (about operator "argument expected")
      | [] => return false
  | _ => do
      match ← get with
      | first :: operator :: rest =>
          if lexeme (operator :: rest) = .binary then
            match rest with
            | second :: _ => do
                set rest
                binary .plain operator first second
            | [] => throw (about operator "argument expected")
          else return !first.isEmpty
      | [word] => return !word.isEmpty
      | [] => return false

/-- A test that may be negated. -/
def negated (inner : Lexeme → Walk Bool) : (limit : Nat) → Lexeme → Walk Bool
  | 0, _ => return false
  | limit + 1, .negation => do
      let next := lexeme ((← get).drop 1)
      if next != .finish then advance 1
      return !(← negated inner limit next)
  | _ + 1, current => primary inner current

/-- Tests that all must hold. -/
def conjunction (inner : Lexeme → Walk Bool) : (limit : Nat) → Lexeme → Walk Bool
  | 0, _ => return false
  | limit + 1, current => do
      let first ← negated inner (limit + 1) current
      if lexeme ((← get).drop 1) = .conjunction then
        advance 2
        let rest ← conjunction inner limit (lexeme (← get))
        return first && rest
      else return first

/-- Tests one of which must hold. -/
def alternatives (inner : Lexeme → Walk Bool) : (limit : Nat) → Lexeme → Walk Bool
  | 0, _ => return false
  | limit + 1, current => do
      let first ← conjunction inner (limit + 1) current
      if lexeme ((← get).drop 1) = .disjunction then
        advance 2
        let rest ← alternatives inner limit (lexeme (← get))
        return first || rest
      else return first

/-- A condition, in which parentheses may be nested up to a depth. -/
def condition : (depth : Nat) → Lexeme → Walk Bool
  | 0, _ => return false
  | depth + 1, current => alternatives (condition depth) (depth + 1) current

/-- Test words from a first one on. -/
def test (negative : Bool) (first : Lexeme) (words : List Octets) : Test Bool := do
  let (result, rest) ← (condition (words.length + 1) first).run words
  match rest with
  | word :: _ :: _ => throw (about word "unexpected operator")
  | _ => return result != negative

/-- Test words; the number of them decides what some of them are. -/
def evaluate : (limit : Nat) → (negative : Bool) → List Octets → Test Bool
  | 0, negative, _ => return negative
  | limit + 1, negative, words => do
      let enclosed : Bool :=
        words.head? == some ['('] && words.getLast? == some [')']
      match words with
      | [] => return negative
      | [_, operator, _] =>
          if operator? operator = some .binary then test negative .operand words
          else if enclosed then evaluate limit negative (words.drop 1).dropLast
          else if words.head? == some ['!'] then evaluate limit true (words.drop 1)
          else test negative (lexeme words) words
      | [_, _, _, _] =>
          if enclosed then evaluate limit negative (words.drop 1).dropLast
          else if words.head? == some ['!'] then evaluate limit true (words.drop 1)
          else test negative (lexeme words) words
      | words => test negative (lexeme words) words

end Plain

namespace Counted

/-- A step of a test over the words that are left. -/
abbrev Walk := StateT (List Octets) Test

/-- A word in a complaint. -/
def quoted (style : Style) (word : Octets) : Octets :=
  if style = .standalone then '\'' :: word ++ ['\''] else word

/-- The complaint that a word is missing. -/
def missing (style : Style) (last : Octets) : Octets :=
  if style = .standalone then "missing argument after ".toList ++ quoted style last
  else "argument expected".toList

/-- The complaint that there are too many words. -/
def extra (style : Style) (word : Octets) : Octets :=
  if style = .standalone then "extra argument ".toList ++ quoted style word
  else "too many arguments".toList

/-- A test of two words. -/
def two (style : Style) (first second : Octets) : Test Bool := do
  if first = ['!'] then return second.isEmpty
  else if unaryOperators.contains first then unary style first second
  else if first.head? = some '-' && first.length = 2 then
    throw (quoted style first ++ ": unary operator expected".toList)
  else if style = .standalone then throw (missing style second)
  else throw (first ++ ": unary operator expected".toList)

/-- A term: a negated one, one in parentheses, a test with operands, or a text. -/
def term (style : Style) (inner : Walk Bool) : (limit : Nat) → Walk Bool
  | 0 => return false
  | limit + 1 => do
      match ← get with
      | [] => throw (missing style [])
      | ['!'] :: rest => do
          set rest
          return !(← term style inner limit)
      | ['('] :: rest => do
          set rest
          let result ← inner
          match ← get with
          | [')'] :: rest => do
              set rest
              return result
          | word :: _ =>
              throw ("')' expected, found ".toList ++ quoted style word)
          | [] => throw "')' expected".toList
      | first :: operator :: second :: rest =>
          if moreOperators.contains operator then do
            set rest
            binary style operator first second
          else simple first (operator :: second :: rest)
      | first :: rest => simple first rest
where
  /-- A test with one operand, or a text. -/
  simple (first : Octets) : List Octets → Walk Bool
    | operand :: rest =>
        if unaryOperators.contains first then do
          set rest
          unary style first operand
        else do
          set (operand :: rest)
          return !first.isEmpty
    | [] => do
        set ([] : List Octets)
        return !first.isEmpty

/-- Terms that all must hold. -/
def conjunction (style : Style) (inner : Walk Bool) : (limit : Nat) → Walk Bool
  | 0 => return false
  | limit + 1 => do
      let first ← term style inner (limit + 1)
      match ← get with
      | ['-', 'a'] :: rest => do
          set rest
          let second ← conjunction style inner limit
          return first && second
      | _ => return first

/-- Conditions one of which must hold. -/
def alternatives (style : Style) (inner : Walk Bool) : (limit : Nat) → Walk Bool
  | 0 => return false
  | limit + 1 => do
      let first ← conjunction style inner (limit + 1)
      match ← get with
      | ['-', 'o'] :: rest => do
          set rest
          let second ← alternatives style inner limit
          return first || second
      | _ => return first

/-- A condition, in which parentheses may be nested up to a depth. -/
def condition (style : Style) : (depth : Nat) → Walk Bool
  | 0 => return false
  | depth + 1 => alternatives style (condition style depth) (depth + 1)

/-- Test words as a condition of any length. -/
def whole (style : Style) (words : List Octets) : Test Bool := do
  let (result, rest) ← (condition style (words.length + 1)).run words
  match rest with
  | word :: _ => throw (extra style word)
  | [] => return result

/-- A test of three words. -/
def three (style : Style) (first operator second : Octets) : Test Bool := do
  if moreOperators.contains operator then binary style operator first second
  else if first = ['!'] then return !(← two style operator second)
  else if first = ['('] && second = [')'] then return !operator.isEmpty
  else if operator = ['-', 'a'] || operator = ['-', 'o'] then
    whole style [first, operator, second]
  else throw (quoted style operator ++ ": binary operator expected".toList)

/-- Test words; their number decides what some of them are. -/
def evaluate (style : Style) (words : List Octets) : Test Bool := do
  match words with
  | [] => return false
  | [word] => return !word.isEmpty
  | [first, second] => two style first second
  | [first, operator, second] => three style first operator second
  | [['!'], first, operator, second] => return !(← three style first operator second)
  | [['('], first, second, [')']] => two style first second
  | words => whole style words

end Counted

/-- Whether a condition holds, or the complaint about it. -/
def evaluate (style : Style) (words : List Octets) : Program (Except Octets Bool) :=
  match style with
  | .plain => (Plain.evaluate (words.length + 1) false words).run
  | style => (Counted.evaluate style words).run

end Condition
end Host
end Turnwise
