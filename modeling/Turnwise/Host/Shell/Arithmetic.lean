import Turnwise.Host.Script.Syntax

/-!
# Arithmetic of the command language

Expressions over integers of 64 bits and variables, with the operators of the usual
programming languages and their precedence.  Comparisons and logical operators give one
for true and zero for false, and the side of a logical operator that does not matter is
read but not evaluated.
-/

namespace Turnwise
namespace Host
namespace Arithmetic

/-- A symbol of an expression. -/
inductive Symbol where
  /-- A number. -/
  | number (value : Int)
  /-- The name of a variable. -/
  | name (name : Octets)
  /-- An operator. -/
  | operator (symbol : Octets)
  /-- Something that cannot stand in an expression. -/
  | unknown
  deriving DecidableEq, Repr

/-- Why an expression has no value. -/
inductive Fault where
  /-- The expression is wrong, or divides by zero. -/
  | wrong (problem : Octets)
  /-- A variable holds no number. -/
  | noNumber (text : Octets)
  /-- A quotient is one more than the greatest integer, which stops the processor. -/
  | overflow
  deriving DecidableEq, Repr

/-- An integer of 64 bits with the same remainder. -/
def wrap (value : Int) : Int :=
  Int.bmod value 0x10000000000000000

/-- The greatest integer of 64 bits. -/
def greatest : Int := 0x7FFFFFFFFFFFFFFF

/-- The operators of which longer ones come first. -/
def operators : List Octets :=
  ["<<=", ">>=", "<<", ">>", "<=", ">=", "==", "!=", "&&", "||", "+=", "-=", "*=", "/=", "%=",
    "&=", "^=", "|=", "<", ">", "=", "!", "~", "?", ":", "*", "/", "%", "+", "-", "&", "^", "|",
    "(", ")"].map String.toList

/-- The operators that only the rich dialect has. -/
def richOperators : List Octets :=
  ["++", "--", "**", ","].map String.toList

/-- The digits of a numeral in a base from 8 to 16 at the beginning of a text. -/
def digitsIn (base : Nat) (text : Octets) : Octets :=
  text.takeWhile fun c => (Octets.hexValue? c).any (· < base)

/-- The number that digits denote in a base. -/
def valueIn (base : Nat) (digits : Octets) : Nat :=
  digits.foldl (fun value c => value * base + (Octets.hexValue? c).getD 0) 0

/-- Read a numeral at the beginning of a text: decimal, octal after a zero, hexadecimal
after `0x`.  The numeral is the greatest number when it denotes more. -/
def numeral (text : Octets) : Nat × Octets :=
  match text with
  | '0' :: x :: c :: rest =>
      if (x == 'x' || x == 'X') && (Octets.hexValue? c).isSome then
        let digits := digitsIn 16 (c :: rest)
        (valueIn 16 digits, (c :: rest).drop digits.length)
      else
        let digits := digitsIn 8 text
        (valueIn 8 digits, text.drop digits.length)
  | '0' :: _ =>
      let digits := digitsIn 8 text
      (valueIn 8 digits, text.drop digits.length)
  | text =>
      let digits := digitsIn 10 text
      (valueIn 10 digits, text.drop digits.length)

/-- The symbols of an expression. -/
def symbols (rich : Bool) : (limit : Nat) → Octets → List Symbol
  | 0, _ => []
  | _ + 1, [] => []
  | limit + 1, c :: rest =>
      if c == ' ' || c == '\t' || c == '\n' then symbols rich limit rest
      else if c.isDigit then
        let (value, rest) := numeral (c :: rest)
        .number (min (value : Int) greatest) :: symbols rich limit rest
      else if Script.isNameStart c then
        let name := (c :: rest).takeWhile Script.isNameChar
        .name name :: symbols rich limit ((c :: rest).drop name.length)
      else
        let known := if rich then richOperators ++ operators else operators
        match known.find? (Text.beginsWith · (c :: rest)) with
        | some symbol =>
            .operator symbol :: symbols rich limit ((c :: rest).drop symbol.length)
        | none => [.unknown]

/-- The number that a text denotes, blanks around it left out; nothing denotes zero. -/
def number? (text : Octets) : Option Int :=
  let text := text.dropWhile Octets.isSpace
  let (sign, digits) : Int × Octets :=
    match text with
    | '-' :: rest => (-1, rest)
    | '+' :: rest => (1, rest)
    | rest => (1, rest)
  if (digits.head?).any Char.isDigit then
    let (value, rest) := numeral digits
    if !(rest.all Octets.isSpace) then none
    else
      let value := sign * (value : Int)
      if value < -greatest - 1 ∨ greatest < value then none else some value
  else if text.isEmpty then some 0
  else none

/-- The state of an evaluation. -/
structure State where
  /-- The symbols that have not been read. -/
  rest : List Symbol
  /-- The variables that were set, the last first. -/
  assigned : List (Octets × Octets)

/-- A step of an evaluation. -/
abbrev Evaluation := StateT State (Except Fault)

/-- What an evaluation asks about variables. -/
structure Scope where
  /-- The text of a variable. -/
  lookup : Octets → Octets
  /-- Whether the text of a variable may be an expression itself. -/
  rich : Bool
  /-- The value of such an expression. -/
  nested : Octets → Except Fault Int

/-- The truth value of a condition. -/
def truth (condition : Bool) : Int := if condition then 1 else 0

/-- The next symbol. -/
def peek : Evaluation (Option Symbol) := do
  return (← get).rest.head?

/-- Pass a symbol. -/
def advance : Evaluation Unit :=
  modify fun state => { state with rest := state.rest.drop 1 }

/-- Complain. -/
def wrong (problem : String) : Evaluation α :=
  throw (.wrong problem.toList)

/-- Pass an operator if it comes next. -/
def accept (symbol : String) : Evaluation Bool := do
  if (← peek) = some (.operator symbol.toList) then
    advance
    return true
  else return false

/-- The value of a variable. -/
def value (scope : Scope) (name : Octets) : Evaluation Int := do
  let state ← get
  let text := ((state.assigned.find? (·.1 == name)).map (·.2)).getD (scope.lookup name)
  match number? text with
  | some value => return value
  | none => if scope.rich then scope.nested text else throw (.noNumber text)

/-- Set a variable. -/
def assign (name : Octets) (value : Int) : Evaluation Int := do
  modify fun state => { state with assigned := (name, Text.ofInt value) :: state.assigned }
  return value

/-- How strongly a binary operator binds; smaller numbers bind more strongly. -/
def precedence? (symbol : Octets) : Option Nat :=
  match String.ofList symbol with
  | "**" => some 0
  | "*" => some 1
  | "/" => some 1
  | "%" => some 1
  | "+" => some 2
  | "-" => some 2
  | "<<" => some 3
  | ">>" => some 3
  | "<" => some 4
  | "<=" => some 4
  | ">" => some 4
  | ">=" => some 4
  | "==" => some 5
  | "!=" => some 5
  | "&" => some 6
  | "^" => some 7
  | "|" => some 8
  | _ => none

/-- A bitwise operation on integers of 64 bits. -/
def bitwise (operation : Nat → Nat → Nat) (a b : Int) : Int :=
  wrap (operation (a % 0x10000000000000000).toNat (b % 0x10000000000000000).toNat)

/-- Check the operands of a division; the processor does not divide the least integer by
minus one, which a rich shell knows. -/
def checkDivision (rich : Bool) (a b : Int) : Evaluation Unit := do
  if b = 0 then wrong "division by zero"
  else if !rich && b = -1 && a = -greatest - 1 then throw .overflow

/-- Apply a binary operator. -/
def apply (rich : Bool) (symbol : Octets) (a b : Int) : Evaluation Int :=
  match String.ofList symbol with
  | "**" => return wrap (Int.pow a b.toNat)
  | "*" => return wrap (a * b)
  | "/" => do
      checkDivision rich a b
      return wrap (Int.tdiv a b)
  | "%" => do
      checkDivision rich a b
      return Int.tmod a b
  | "+" => return wrap (a + b)
  | "-" => return wrap (a - b)
  | "<<" => return wrap (a * Nat.pow 2 (b % 64).toNat)
  | ">>" => return a / Nat.pow 2 (b % 64).toNat
  | "<" => return truth (a < b)
  | "<=" => return truth (a ≤ b)
  | ">" => return truth (b < a)
  | ">=" => return truth (b ≤ a)
  | "==" => return truth (a = b)
  | "!=" => return truth (a ≠ b)
  | "&" => return bitwise Nat.land a b
  | "^" => return bitwise Nat.xor a b
  | _ => return bitwise Nat.lor a b

/-- The operator that an assignment applies first. -/
def compound? (symbol : Octets) : Option (Option Octets) :=
  match String.ofList symbol with
  | "=" => some none
  | "+=" => some (some ['+'])
  | "-=" => some (some ['-'])
  | "*=" => some (some ['*'])
  | "/=" => some (some ['/'])
  | "%=" => some (some ['%'])
  | "&=" => some (some ['&'])
  | "^=" => some (some ['^'])
  | "|=" => some (some ['|'])
  | "<<=" => some (some ['<', '<'])
  | ">>=" => some (some ['>', '>'])
  | _ => none

mutual

/-- A value without binary operators around it; it is not evaluated when it is idle. -/
def primary (scope : Scope) (idle : Bool) : (limit : Nat) → Evaluation Int
  | 0 => wrong "expecting primary"
  | limit + 1 => do
      match ← peek with
      | some (.number number) => do
          advance
          return number
      | some (.name name) => do
          advance
          if scope.rich && (← accept "++") then step name 1 true
          else if scope.rich && (← accept "--") then step name (-1) true
          else if idle then return 0
          else value scope name
      | some (.operator symbol) => do
          match String.ofList symbol with
          | "(" => do
              advance
              let inner ← expression scope idle limit
              if ← accept ")" then return inner else wrong "expecting ')'"
          | "+" => do
              advance
              primary scope idle limit
          | "-" => do
              advance
              return wrap (-(← primary scope idle limit))
          | "!" => do
              advance
              return truth ((← primary scope idle limit) = 0)
          | "~" => do
              advance
              return -(← primary scope idle limit) - 1
          | "++" => stepped 1
          | "--" => stepped (-1)
          | _ => wrong "expecting primary"
      | _ => wrong "expecting primary"
where
  /-- Change a variable by a step; the value is the one before or after. -/
  step (name : Octets) (change : Int) (before : Bool) : Evaluation Int := do
    if idle then return 0
    else do
      let old ← value scope name
      let new ← assign name (wrap (old + change))
      return if before then old else new
  /-- Change the variable that comes next by a step. -/
  stepped (change : Int) : Evaluation Int := do
    advance
    match ← peek with
    | some (.name name) => do
        advance
        step name change false
    | _ => wrong "expecting primary"

/-- Operators that bind more strongly than a bound, after a first value. -/
def operations (scope : Scope) (idle : Bool) :
    (limit : Nat) → (bound : Nat) → (first : Int) → Evaluation Int
  | 0, _, first => return first
  | limit + 1, bound, first => do
      match ← peek with
      | some (.operator symbol) =>
          match precedence? symbol with
          | some strength =>
              if strength < bound then do
                advance
                let second ← primary scope idle limit
                let second ← operations scope idle limit
                  (if symbol = ['*', '*'] then 1 else strength) second
                let result ← if idle then pure second else apply scope.rich symbol first second
                operations scope idle limit bound result
              else return first
          | none => return first
      | _ => return first

/-- A conjunction. -/
def conjunction (scope : Scope) (idle : Bool) : (limit : Nat) → Evaluation Int
  | 0 => wrong "expecting primary"
  | limit + 1 => do
      let first ← operations scope idle limit 9 (← primary scope idle limit)
      if ← accept "&&" then
        let second ← conjunction scope (idle || first = 0) limit
        return truth (first ≠ 0 ∧ second ≠ 0)
      else return first

/-- A disjunction. -/
def disjunction (scope : Scope) (idle : Bool) : (limit : Nat) → Evaluation Int
  | 0 => wrong "expecting primary"
  | limit + 1 => do
      let first ← conjunction scope idle limit
      if ← accept "||" then
        let second ← disjunction scope (idle || first ≠ 0) limit
        return truth (first ≠ 0 ∨ second ≠ 0)
      else return first

/-- A choice between two values. -/
def choice (scope : Scope) (idle : Bool) : (limit : Nat) → Evaluation Int
  | 0 => wrong "expecting primary"
  | limit + 1 => do
      let condition ← disjunction scope idle limit
      if ← accept "?" then
        let consequence ← assignment scope (idle || condition = 0) limit
        if ← accept ":" then
          let alternative ← choice scope (idle || condition ≠ 0) limit
          return if condition ≠ 0 then consequence else alternative
        else wrong "expecting ':'"
      else return condition

/-- An assignment, or a value. -/
def assignment (scope : Scope) (idle : Bool) : (limit : Nat) → Evaluation Int
  | 0 => wrong "expecting primary"
  | limit + 1 => do
      match (← get).rest with
      | .name name :: .operator symbol :: _ =>
          match compound? symbol with
          | some operation => do
              advance
              advance
              let result ← assignment scope idle limit
              if idle then return result
              else
                match operation with
                | none => assign name result
                | some operation => do
                    assign name (← apply scope.rich operation (← value scope name) result)
          | none => choice scope idle limit
      | _ => choice scope idle limit

/-- Assignments one after the other; the last gives the value. -/
def expression (scope : Scope) (idle : Bool) : (limit : Nat) → Evaluation Int
  | 0 => wrong "expecting primary"
  | limit + 1 => do
      let first ← assignment scope idle limit
      if scope.rich && (← accept ",") then expression scope idle limit else return first

end

/-- The value of an expression and the variables that it sets, in order. -/
def evaluateIn (scope : Scope) (expression : Octets) :
    Except Fault (Int × List (Octets × Octets)) := do
  let found := symbols scope.rich (expression.length + 1) expression
  if scope.rich && found.isEmpty then return (0, [])
  let whole : Evaluation Int := do
    let result ← Arithmetic.expression scope false (8 * found.length + 8)
    if (← peek).isSome then wrong "expecting EOF"
    return result
  let (result, state) ← StateT.run whole ⟨found, []⟩
  return (result, state.assigned.reverse)

/-- The value of an expression whose variables may hold expressions, up to a depth. -/
def evaluateNested (lookup : Octets → Octets) : (depth : Nat) → Octets → Except Fault Int
  | 0, _ => .error (.wrong "expression recursion level exceeded".toList)
  | depth + 1, expression =>
      (evaluateIn ⟨lookup, true, evaluateNested lookup depth⟩ expression).map (·.1)

/-- The value of an expression and the variables that it sets, in order. -/
def evaluate (rich : Bool) (lookup : Octets → Octets) (expression : Octets) :
    Except Fault (Int × List (Octets × Octets)) :=
  evaluateIn ⟨lookup, rich, evaluateNested lookup 100⟩ expression

end Arithmetic
end Host
end Turnwise
