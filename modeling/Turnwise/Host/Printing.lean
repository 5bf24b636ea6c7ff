import Turnwise.Host.Format

/-!
# Printing

Commands that print texts replace escapes in them, and put values into formats.  They
come in three styles, which differ in the escapes that they know and in the words of
their complaints: that of plain shells, that of rich ones, and that of programs.
-/

namespace Turnwise
namespace Host

/-- The escapes that are replaced in a text. -/
structure Escapes where
  /-- Octal digits may follow the backslash. -/
  octal : Bool
  /-- A zero may stand before the octal digits. -/
  zeroed : Bool
  /-- Hexadecimal digits may follow an `x`. -/
  hexadecimal : Bool
  /-- A `c` ends all printing. -/
  stops : Bool
  deriving DecidableEq, Repr

namespace Escapes

/-- What an escape is replaced by. -/
inductive Replacement where
  /-- An octet, with the text that follows. -/
  | octet (c : Char) (rest : Octets)
  /-- Nothing, and printing ends. -/
  | stop
  /-- Itself. -/
  | none
  deriving DecidableEq, Repr

/-- The octet that a letter stands for. -/
def letter? : Char → Option Char
  | 'a' => some '\x07'
  | 'b' => some '\x08'
  | 'e' => some '\x1b'
  | 'f' => some '\x0c'
  | 'n' => some '\n'
  | 'r' => some '\r'
  | 't' => some '\t'
  | 'v' => some '\x0b'
  | '\\' => some '\\'
  | _ => .none

/-- Whether a character is an octal digit. -/
def isOctal (c : Char) : Bool :=
  '0' ≤ c && c ≤ '7'

/-- Whether a character is a hexadecimal digit. -/
def isHexadecimal (c : Char) : Bool :=
  (Octets.hexValue? c).isSome

/-- The octet of some digits at the beginning of a text. -/
def numbered (base count : Nat) (test : Char → Bool) (text : Octets) : Replacement :=
  let digits := (text.take count).takeWhile test
  .octet (Octets.octet (Quantity.digitsValue base digits)) (text.drop digits.length)

/-- What stands for an escape, given the text after its backslash. -/
def replacement (escapes : Escapes) (text : Octets) : Replacement :=
  match text with
  | [] => .none
  | c :: rest =>
      if c = 'c' && escapes.stops then .stop
      else
        match letter? c with
        | some replaced => .octet replaced rest
        | .none =>
            if c = '0' && escapes.zeroed then numbered 8 3 isOctal rest
            else if escapes.octal && isOctal c then numbered 8 3 isOctal text
            else if c = 'x' && escapes.hexadecimal && (rest.head?.any isHexadecimal) then
              numbered 16 2 isHexadecimal rest
            else .none

/-- Replace the escapes in a text, which are no more than a limit; the answer also tells
whether printing ends. -/
def expandUpTo (escapes : Escapes) :
    (limit : Nat) → Octets → (reversed : Octets) → Octets × Bool
  | 0, text, reversed => (reversed.reverse ++ text, false)
  | _ + 1, [], reversed => (reversed.reverse, false)
  | limit + 1, '\\' :: rest, reversed =>
      match escapes.replacement rest with
      | .octet c rest => expandUpTo escapes limit rest (c :: reversed)
      | .stop => (reversed.reverse, true)
      | .none => expandUpTo escapes limit rest ('\\' :: reversed)
  | limit + 1, c :: rest, reversed => expandUpTo escapes limit rest (c :: reversed)

/-- Replace the escapes in a text. -/
def expand (escapes : Escapes) (text : Octets) : Octets × Bool :=
  escapes.expandUpTo (text.length + 1) text []

end Escapes

/-- A style of printing. -/
inductive Style where
  /-- That of plain shells. -/
  | plain
  /-- That of rich shells. -/
  | rich
  /-- That of programs. -/
  | standalone
  deriving DecidableEq, Repr

namespace Style

/-- The escapes in a text that is printed as it is. -/
def textEscapes : Style → Escapes
  | .plain => ⟨true, true, false, true⟩
  | .rich => ⟨false, true, true, true⟩
  | .standalone => ⟨true, true, true, true⟩

/-- The escapes in a format. -/
def formatEscapes : Style → Escapes
  | .plain => ⟨true, false, false, false⟩
  | .rich => ⟨true, false, true, false⟩
  | .standalone => ⟨true, false, true, true⟩

/-- The escapes in a value of a format. -/
def valueEscapes : Style → Escapes
  | .plain => ⟨true, true, false, true⟩
  | .rich => ⟨true, true, true, true⟩
  | .standalone => ⟨true, true, true, true⟩

/-- The binary digits that are kept of quantities. -/
def bits : Style → Nat
  | .plain => Quantity.doubleBits
  | _ => Quantity.extendedBits

/-- The complaint about a value that is no number. -/
def notNumeric (style : Style) (value : Octets) : Octets :=
  match style with
  | .plain => value ++ ": expected numeric value".toList
  | .rich => value ++ ": invalid number".toList
  | .standalone => '\'' :: value ++ "': expected a numeric value".toList

/-- The complaint about a value that is a number only at its beginning. -/
def notComplete (style : Style) (value : Octets) : Octets :=
  match style with
  | .plain => value ++ ": not completely converted".toList
  | .rich => value ++ ": invalid number".toList
  | .standalone => '\'' :: value ++ "': value not completely converted".toList

/-- The complaint about a value that is too large. -/
def outOfRange (style : Style) (value : Octets) : Octets :=
  match style with
  | .plain => value ++ ": Numerical result out of range".toList
  | .rich => "warning: ".toList ++ value ++ ": Numerical result out of range".toList
  | .standalone => '\'' :: value ++ "': Numerical result out of range".toList

/-- The complaint about a directive that makes no sense. -/
def badDirective (style : Style) (directive : Octets) (letter : Char) : Octets :=
  match style with
  | .plain => '%' :: directive ++ letter :: ": invalid directive".toList
  | .rich => '\x60' :: letter :: "': invalid format character".toList
  | .standalone => '%' :: directive ++ letter :: ": invalid conversion specification".toList

/-- The complaint about a format that ends in the middle of a directive. -/
def noLetter (style : Style) (directive : Octets) : Octets :=
  match style with
  | .plain => "missing format character".toList
  | .rich => '\x60' :: "%".toList ++ directive ++ "': missing format character".toList
  | .standalone => '%' :: directive ++ ": invalid conversion specification".toList

end Style

/-- Something that printing does. -/
inductive Event where
  /-- Print. -/
  | output (octets : Octets)
  /-- Complain. -/
  | complaint (message : Octets)
  deriving DecidableEq, Repr

/-- How far printing has come. -/
structure Printing where
  /-- What was done, the last thing first. -/
  events : List Event
  /-- The values that are left. -/
  values : List Octets
  /-- Whether something was wrong with a value. -/
  faulty : Bool
  deriving DecidableEq, Repr

/-- Why printing stops before the end of a format. -/
inductive Interruption where
  /-- It was asked for. -/
  | stopped (printing : Printing)
  /-- Something is wrong with the format. -/
  | malformed (printing : Printing)

/-- A step of printing. -/
abbrev Printer := StateT Printing (Except Interruption)

namespace Printer

/-- Print. -/
def output (octets : Octets) : Printer Unit :=
  modify fun printing => { printing with events := .output octets :: printing.events }

/-- Complain. -/
def complain (message : Octets) : Printer Unit :=
  modify fun printing =>
    { printing with events := .complaint message :: printing.events, faulty := true }

/-- Complain about a format and stop. -/
def refuse (message : Octets) : Printer α := do
  complain message
  throw (.malformed (← get))

/-- Stop. -/
def stop : Printer α := do
  throw (.stopped (← get))

/-- The next value, if there is one. -/
def next? : Printer (Option Octets) := do
  let printing ← get
  match printing.values with
  | [] => return none
  | value :: rest => do
      set { printing with values := rest }
      return some value

/-- The integer that a text begins with, in the base that its beginning tells, and the
rest. -/
def readInteger? (text : Octets) : Option (Int × Octets) :=
  let trimmed := text.dropWhile Octets.isSpace
  let (negative, body) :=
    match trimmed with
    | '-' :: rest => (true, rest)
    | '+' :: rest => (false, rest)
    | rest => (false, rest)
  let found : Octets × Nat × Octets :=
    match body with
    | '0' :: x :: rest =>
        let digits := rest.takeWhile Escapes.isHexadecimal
        if (x = 'x' || x = 'X') && !digits.isEmpty then
          (digits, 16, rest.drop digits.length)
        else
          let digits := body.takeWhile Escapes.isOctal
          (digits, 8, body.drop digits.length)
    | body =>
        let digits := body.takeWhile Char.isDigit
        (digits, 10, body.drop digits.length)
  if found.1.isEmpty then none
  else
    let value : Int := Quantity.digitsValue found.2.1 found.1
    some (if negative then -value else value, found.2.2)

/-- Complain about what is left of a value after a number was read. -/
def checkRest (style : Style) (value rest : Octets) : Printer Unit := do
  if !rest.isEmpty then complain (style.notComplete value)

/-- Keep a number in bounds. -/
def clamp (style : Style) (value : Octets) (low high number : Int) : Printer Int := do
  if number < low then
    complain (style.outOfRange value)
    return low
  else if high < number then
    complain (style.outOfRange value)
    return high
  else return number

/-- The number of a value that is a character after a quote. -/
def character? : Octets → Option Nat
  | '"' :: rest => some ((rest.head?.map Char.toNat).getD 0)
  | '\'' :: rest => some ((rest.head?.map Char.toNat).getD 0)
  | _ => none

/-- The next value as an integer. -/
def integer (style : Style) (low high : Int) : Printer Int := do
  match ← next? with
  | none => return 0
  | some value =>
      match character? value with
      | some number => return number
      | none =>
          match readInteger? value with
          | some (number, rest) => do
              checkRest style value rest
              clamp style value low high number
          | none => do
              if !value.isEmpty || style = .standalone then complain (style.notNumeric value)
              return 0

/-- The least number that a value can have. -/
def lowest : Int := -0x8000000000000000

/-- The greatest number that a value can have. -/
def highest : Int := 0x7FFFFFFFFFFFFFFF

/-- The greatest number without a sign that a value can have. -/
def highestNatural : Int := 0xFFFFFFFFFFFFFFFF

/-- The next value as a quantity. -/
def quantity (style : Style) : Printer Quantity := do
  match ← next? with
  | none => return .finite false 0 1
  | some value =>
      match character? value with
      | some number => return .finite false number 1
      | none =>
          match Quantity.read? value with
          | some (found, rest) => do
              let (kept, outside) := found.confine style.bits
              if !rest.isEmpty then complain (style.notComplete value)
              else if outside then complain (style.outOfRange value)
              return kept
          | none => do
              if !value.isEmpty || style = .standalone then complain (style.notNumeric value)
              return .finite false 0 1

/-- A width or a precision. -/
def amount (style : Style) : Amount → Printer (Option Int)
  | .none => return none
  | .given number => return some number
  | .next => do return some (← integer style lowest highest)

/-- A text in a form in which a shell reads it as one word. -/
def shellQuoted (text : Octets) : Octets :=
  let safe (c : Char) : Bool :=
    c.isAlphanum || "_-./,:@%+=".toList.contains c
  if text.isEmpty then "''".toList
  else if text.all safe then text
  else '\'' :: (text.flatMap fun c => if c = '\'' then "'\\''".toList else [c]) ++ ['\'']

/-- Print the next value by a directive with a letter. -/
def value (style : Style) (pattern : Pattern) (directive : Directive) (letter : Char) :
    Printer Unit := do
  match letter with
  | 'b' => do
      let (text, stops) := style.valueEscapes.expand ((← next?).getD [])
      output (directive.text text)
      if stops then stop
  | 'c' => do
      let text := (← next?).getD []
      let shown := if text.isEmpty && style = .plain then ['\x00'] else text.take 1
      output (directive.pad shown)
  | 's' => do output (directive.text ((← next?).getD []))
  | 'q' =>
      if style = .plain then refuse (style.badDirective pattern.source letter)
      else do output (directive.text (shellQuoted ((← next?).getD [])))
  | letter =>
      if letter = 'd' || letter = 'i' then do
        output (directive.integer (← integer style lowest highest))
      else if "ouxX".toList.contains letter then do
        let number ← integer style (-highestNatural) highestNatural
        output (directive.natural letter (number % (highestNatural + 1)).toNat)
      else if "aAeEfFgG".toList.contains letter then do
        output (directive.quantity style.bits letter (← quantity style))
      else refuse (style.badDirective pattern.source letter)

/-- Print a format once, piece by piece; the limit bounds the number of pieces. -/
def once (style : Style) : (limit : Nat) → Octets → Printer Unit
  | 0, _ => return
  | _ + 1, [] => return
  | limit + 1, '\\' :: rest => do
      match style.formatEscapes.replacement rest with
      | .octet c rest => do
          output [c]
          once style limit rest
      | .stop => stop
      | .none =>
          match rest with
          | '"' :: rest => do
              output (if style = .plain then ['\\', '"'] else ['"'])
              once style limit rest
          | rest => do
              output ['\\']
              once style limit rest
  | limit + 1, '%' :: '%' :: rest => do
      output ['%']
      once style limit rest
  | limit + 1, '%' :: rest => do
      let pattern := Pattern.read rest
      let width ← amount style pattern.width
      let precision ← amount style pattern.precision
      let directive : Directive := ⟨pattern.flags, 0, none⟩
      let directive := (width.map directive.withWidth).getD directive
      let directive := (precision.map directive.withPrecision).getD directive
      match pattern.rest with
      | [] => refuse (style.noLetter pattern.source)
      | letter :: rest => do
          value style pattern directive letter
          once style limit rest
  | limit + 1, text => do
      let piece := text.takeWhile fun c => c != '%' && c != '\\'
      output piece
      once style limit (text.drop piece.length)

/-- Print a format again and again until no value is left. -/
def all (style : Style) (format : Octets) : (limit : Nat) → Printer Unit
  | 0 => return
  | limit + 1 => do
      let before := (← get).values.length
      once style (format.length + 1) format
      let after := (← get).values
      if !after.isEmpty && after.length < before then all style format limit

end Printer

/-- What printing values by a format does: what happens, in order, whether the format was
malformed, and whether a value was faulty. -/
structure Printed where
  /-- What happens. -/
  events : List Event
  /-- The values that the format had no place for. -/
  unused : List Octets
  /-- Whether the format was malformed. -/
  malformed : Bool
  /-- Whether something was wrong. -/
  faulty : Bool
  deriving DecidableEq, Repr

/-- Print values by a format. -/
def printed (style : Style) (format : Octets) (values : List Octets) : Printed :=
  match (Printer.all style format (values.length + 1)).run ⟨[], values, false⟩ with
  | .ok (_, printing) => ⟨printing.events.reverse, printing.values, false, printing.faulty⟩
  | .error (.stopped printing) => ⟨printing.events.reverse, [], false, printing.faulty⟩
  | .error (.malformed printing) => ⟨printing.events.reverse, [], true, true⟩

namespace Printed

/-- All that is printed. -/
def output (printed : Printed) : Octets :=
  printed.events.flatMap fun event =>
    match event with
    | .output octets => octets
    | .complaint _ => []

/-- All complaints. -/
def complaints (printed : Printed) : List Octets :=
  printed.events.filterMap fun event =>
    match event with
    | .output _ => none
    | .complaint message => some message

end Printed
end Host
end Turnwise
