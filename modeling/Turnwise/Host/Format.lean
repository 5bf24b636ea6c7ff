import Turnwise.Host.Quantity

/-!
# Formats

A directive of a format says how a value is written: with which letter, in what width,
with how many digits, and with which flags.
-/

namespace Turnwise
namespace Host

/-- How a value is written. -/
structure Directive where
  /-- The flags. -/
  flags : List Char
  /-- The least width. -/
  width : Nat
  /-- The number of digits or characters. -/
  precision : Option Nat
  deriving DecidableEq, Repr

namespace Directive

/-- A value as it is. -/
def plain : Directive := ⟨[], 0, none⟩

/-- Whether a flag is given. -/
def has (directive : Directive) (flag : Char) : Bool :=
  directive.flags.contains flag

/-- A width that is given as a value; a negative one asks for the left side. -/
def withWidth (directive : Directive) (width : Int) : Directive :=
  if width < 0 then
    { directive with flags := '-' :: directive.flags, width := width.natAbs }
  else { directive with width := width.toNat }

/-- A precision that is given as a value; a negative one counts as none. -/
def withPrecision (directive : Directive) (precision : Int) : Directive :=
  { directive with precision := if precision < 0 then none else some precision.toNat }

/-- Fill a text up to the width with blanks. -/
def pad (directive : Directive) (text : Octets) : Octets :=
  if directive.has '-' then Octets.padRight directive.width ' ' text
  else Octets.padLeft directive.width ' ' text

/-- Fill digits after a sign up to the width, with zeros if that is asked for. -/
def padNumber (directive : Directive) (zeros : Bool) (sign digits : Octets) : Octets :=
  if zeros && directive.has '0' && !directive.has '-' then
    sign ++ Octets.padLeft (directive.width - sign.length) '0' digits
  else directive.pad (sign ++ digits)

/-- A text, perhaps only its beginning. -/
def text (directive : Directive) (value : Octets) : Octets :=
  directive.pad <|
    match directive.precision with
    | some count => value.take count
    | none => value

/-- The sign of a number. -/
def sign (directive : Directive) (negative : Bool) : Octets :=
  if negative then ['-']
  else if directive.has '+' then ['+']
  else if directive.has ' ' then [' ']
  else []

/-- The digits of a number, with leading zeros up to the precision. -/
def digits (directive : Directive) (base value : Nat) : Octets :=
  match directive.precision with
  | some 0 => if value = 0 then [] else Nat.toDigits base value
  | some count => Octets.padLeft count '0' (Nat.toDigits base value)
  | none => Nat.toDigits base value

/-- A number with a sign. -/
def integer (directive : Directive) (value : Int) : Octets :=
  directive.padNumber directive.precision.isNone (directive.sign (value < 0))
    (directive.digits 10 value.natAbs)

/-- A number without a sign, in the base that a letter stands for. -/
def natural (directive : Directive) (letter : Char) (value : Nat) : Octets :=
  let zeros := directive.precision.isNone
  match letter with
  | 'o' =>
      let found := directive.digits 8 value
      let found := if directive.has '#' && found.head? != some '0' then '0' :: found else found
      directive.padNumber zeros [] found
  | 'x' =>
      directive.padNumber zeros (if directive.has '#' && 0 < value then ['0', 'x'] else [])
        (directive.digits 16 value)
  | 'X' =>
      directive.padNumber zeros (if directive.has '#' && 0 < value then ['0', 'X'] else [])
        ((directive.digits 16 value).map Char.toUpper)
  | _ => directive.padNumber zeros [] (directive.digits 10 value)

/-- A number with a fraction of which a number of binary digits is kept, in the form that a
letter stands for. -/
def quantity (directive : Directive) (bits : Nat) (letter : Char) (value : Quantity) : Octets :=
  let recase (text : Octets) : Octets :=
    if letter.isUpper then text.map Char.toUpper else text
  let sign := directive.sign value.isNegative
  match value with
  | .infinite _ => directive.padNumber false sign (recase "inf".toList)
  | .undefined _ => directive.padNumber false sign (recase "nan".toList)
  | .finite _ numerator denominator =>
      if letter.toLower = 'a' then
        directive.padNumber true (sign ++ recase ['0', 'x'])
          (recase (Quantity.hexadecimal bits (directive.has '#') directive.precision
            numerator denominator))
      else
        let places := directive.precision.getD 6
        let found :=
          match letter.toLower with
          | 'e' => Quantity.scientific places numerator denominator
          | 'g' => Quantity.general (directive.has '#') places numerator denominator
          | _ => Quantity.fixed places numerator denominator
        directive.padNumber true sign (recase found)

/-- Whether a character is a flag. -/
def isFlag (c : Char) : Bool :=
  "#-+ 0".toList.contains c

end Directive

/-- A width or a precision of a directive in a format. -/
inductive Amount where
  /-- Not given. -/
  | none
  /-- Given. -/
  | given (number : Nat)
  /-- The next value. -/
  | next
  deriving DecidableEq, Repr

/-- A directive as it stands in a format. -/
structure Pattern where
  /-- The flags. -/
  flags : List Char
  /-- The width. -/
  width : Amount
  /-- The precision. -/
  precision : Amount
  /-- The directive up to its letter. -/
  source : Octets
  /-- The format from the letter on. -/
  rest : Octets
  deriving DecidableEq, Repr

namespace Pattern

/-- Read a number or a star. -/
def readAmount (text : Octets) : Amount × Octets :=
  match text with
  | '*' :: rest => (.next, rest)
  | text =>
      let digits := text.takeWhile Char.isDigit
      (if digits.isEmpty then .none else .given (Nat.ofDigitChars 10 digits 0),
        text.drop digits.length)

/-- Read a directive after its percent sign, up to its letter. -/
def read (text : Octets) : Pattern :=
  let flags := text.takeWhile Directive.isFlag
  let (width, rest) := readAmount (text.drop flags.length)
  let (precision, rest) : Amount × Octets :=
    match rest with
    | '.' :: rest =>
        let (precision, rest) := readAmount rest
        (if precision = .none then .given 0 else precision, rest)
    | rest => (.none, rest)
  ⟨flags, width, precision, text.take (text.length - rest.length), rest⟩

end Pattern
end Host
end Turnwise
