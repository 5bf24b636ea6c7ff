import Turnwise.Text.Blank

/-!
# Decimal numerals

Natural numbers are written in base ten with no leading zero, and read from a
non-empty run of the ten ASCII digits.  A reader takes the numbers up to a given
bound, which stands for the width of the field the number goes to.
-/

namespace Turnwise
namespace Text

/-- The decimal numeral of a natural number. -/
def ofNat (n : Nat) : Text :=
  Nat.toDigits 10 n

/-- The numeral of an integer, with a minus sign when it is negative. -/
def ofInt : Int → Text
  | .ofNat n => ofNat n
  | .negSucc n => '-' :: ofNat (n + 1)

/-- The number a non-empty run of decimal digits denotes. -/
def digits? (text : Text) : Option Nat :=
  if !text.isEmpty && text.all Char.isDigit then some (Nat.ofDigitChars 10 text 0) else none

/-- The number below a bound that a run of decimal digits denotes. -/
def digitsBelow? (bound : Nat) (text : Text) : Option Nat :=
  text.digits?.filter (· < bound)

/-- The number below a bound that a numeral denotes; the numeral may begin with a
plus sign. -/
def natBelow? (bound : Nat) : Text → Option Nat
  | '+' :: text => digitsBelow? bound text
  | text => digitsBelow? bound text

/-- The signed number of 64 bits that a numeral denotes. -/
def int64? : Text → Option Int
  | '-' :: text => (digitsBelow? 0x8000000000000001 text).map fun n => -(n : Int)
  | text => (natBelow? 0x8000000000000000 text).map Int.ofNat

end Text
end Turnwise
