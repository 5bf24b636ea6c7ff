import Turnwise.Host.Octets

/-!
# Quantities

Tools read numbers with fractions, keep a limited number of binary digits of them, and
write them with a limited number of decimal digits.  Both roundings go to the nearest
value, and a half goes to the even neighbour.  In between a quantity is exact.
-/

namespace Turnwise
namespace Host

/-- A number with a fraction. -/
inductive Quantity where
  /-- A fraction. -/
  | finite (negative : Bool) (numerator denominator : Nat)
  /-- Larger than every fraction. -/
  | infinite (negative : Bool)
  /-- No number. -/
  | undefined (negative : Bool)
  deriving DecidableEq, Repr

namespace Quantity

/-- The integer nearest to a fraction; a half goes to the even neighbour. -/
def nearest (numerator denominator : Nat) : Nat :=
  let quotient := numerator / denominator
  let twice := 2 * (numerator % denominator)
  if twice < denominator then quotient
  else if denominator < twice then quotient + 1
  else quotient + quotient % 2

/-- A fraction times a power of a base, which may be negative. -/
def scale (base numerator denominator : Nat) (power : Int) : Nat × Nat :=
  if power < 0 then (numerator, denominator * Nat.pow base (-power).toNat)
  else (numerator * Nat.pow base power.toNat, denominator)

/-- Keep a number of binary digits of a fraction. -/
def roundFraction (bits numerator denominator : Nat) : Nat × Nat :=
  if numerator = 0 then (0, 1)
  else
    let guess : Int := (bits : Int) + Nat.log2 denominator - Nat.log2 numerator
    let (scaled, unit) := scale 2 numerator denominator guess
    let shift := if Nat.pow 2 bits ≤ scaled / unit then guess - 1 else guess
    let (scaled, unit) := scale 2 numerator denominator shift
    scale 2 (nearest scaled unit) 1 (-shift)

/-- The binary digits that most tools keep. -/
def doubleBits : Nat := 53

/-- The binary digits that more careful tools keep. -/
def extendedBits : Nat := 64

/-- The exponent of the highest binary digit of a fraction that is not zero. -/
def binaryMagnitude (numerator denominator : Nat) : Int :=
  let guess : Int := (Nat.log2 numerator : Int) - Nat.log2 denominator
  let (scaled, unit) := scale 2 numerator denominator (-guess)
  if scaled < unit then guess - 1 else guess

/-- The least exponent of numbers that are kept with all their binary digits. -/
def leastExponent (bits : Nat) : Int :=
  if bits = 24 then -126 else if bits = doubleBits then -1022 else -16382

/-- The greatest exponent of numbers that are kept. -/
def greatestExponent (bits : Nat) : Int :=
  1 - leastExponent bits

/-- Keep a number of binary digits, and tell whether the quantity was too large, or too small
for all of them. -/
def confine (bits : Nat) : Quantity → Quantity × Bool
  | .finite negative numerator denominator =>
      if numerator = 0 then (.finite negative 0 1, false)
      else if binaryMagnitude numerator denominator < leastExponent bits then
        let shift := (bits : Int) - 1 - leastExponent bits
        let (scaled, unit) := scale 2 numerator denominator shift
        let kept := scale 2 (nearest scaled unit) 1 (-shift)
        (.finite negative kept.1 kept.2, scaled % unit != 0)
      else
        let kept := roundFraction bits numerator denominator
        if greatestExponent bits < binaryMagnitude kept.1 kept.2 then (.infinite negative, true)
        else (.finite negative kept.1 kept.2, false)
  | other => (other, false)

/-- Keep a number of binary digits. -/
def round (bits : Nat) (quantity : Quantity) : Quantity :=
  (quantity.confine bits).1

/-- The largest exponent that is read. -/
def exponentLimit : Nat := 20000

/-- The exponent after a mark, if digits follow, and the rest. -/
def readExponent (marks : List Char) (text : Octets) : Int × Octets :=
  match text with
  | c :: rest =>
      if marks.contains c then
        let (negative, digits) :=
          match rest with
          | '-' :: rest => (true, rest)
          | '+' :: rest => (false, rest)
          | rest => (false, rest)
        let found := digits.takeWhile Char.isDigit
        if found.isEmpty then (0, text)
        else
          let value := min exponentLimit (Nat.ofDigitChars 10 found 0)
          (if negative then -(value : Int) else value, digits.drop found.length)
      else (0, text)
  | [] => (0, text)

/-- The digits before and after a point, and the rest. -/
def readDigits (test : Char → Bool) (text : Octets) : Octets × Octets × Octets :=
  let whole := text.takeWhile test
  match text.drop whole.length with
  | '.' :: rest =>
      let fraction := rest.takeWhile test
      if whole.isEmpty && fraction.isEmpty then ([], [], text)
      else (whole, fraction, rest.drop fraction.length)
  | rest => (whole, [], rest)

/-- The value of digits in a base. -/
def digitsValue (base : Nat) (digits : Octets) : Nat :=
  digits.foldl (fun value c => value * base + (Octets.hexValue? c).getD 0) 0

/-- Whether a text begins with a word in small letters or capitals. -/
def begins (word : String) (text : Octets) : Bool :=
  (text.take word.length).map Char.toLower == word.toList

/-- The quantity that a text begins with, without a sign, and the rest. -/
def readUnsigned? (negative : Bool) (text : Octets) : Option (Quantity × Octets) :=
  if begins "infinity" text then some (.infinite negative, text.drop 8)
  else if begins "inf" text then some (.infinite negative, text.drop 3)
  else if begins "nan" text then some (.undefined negative, text.drop 3)
  else
    let (whole, fraction, rest) := readDigits (fun c => (Octets.hexValue? c).isSome)
      (text.drop 2)
    if begins "0x" text && !(whole.isEmpty && fraction.isEmpty) then
      let (exponent, rest) := readExponent ['p', 'P'] rest
      let (numerator, denominator) := scale 2 (digitsValue 16 (whole ++ fraction))
        (Nat.pow 16 fraction.length) exponent
      some (.finite negative numerator denominator, rest)
    else
      let (whole, fraction, rest) := readDigits Char.isDigit text
      if whole.isEmpty && fraction.isEmpty then none
      else
        let (exponent, rest) := readExponent ['e', 'E'] rest
        let (numerator, denominator) := scale 10 (digitsValue 10 (whole ++ fraction))
          (Nat.pow 10 fraction.length) exponent
        some (.finite negative numerator denominator, rest)

/-- The quantity that a text begins with, after blanks and a sign, and the rest. -/
def read? (text : Octets) : Option (Quantity × Octets) :=
  match text.dropWhile Octets.isSpace with
  | '-' :: rest => readUnsigned? true rest
  | '+' :: rest => readUnsigned? false rest
  | rest => readUnsigned? false rest

/-- Whether a quantity is negative. -/
def isNegative : Quantity → Bool
  | .finite negative _ _ => negative
  | .infinite negative => negative
  | .undefined negative => negative

/-- A fraction with a number of digits after the point. -/
def fixed (places numerator denominator : Nat) : Octets :=
  let value := nearest (numerator * Nat.pow 10 places) denominator
  let digits := Octets.padLeft (places + 1) '0' (Text.ofNat value)
  let whole := digits.take (digits.length - places)
  if places = 0 then whole else whole ++ '.' :: digits.drop whole.length

/-- How many decimal digits a fraction has before the point, less one; negative for small
fractions. -/
def magnitude (numerator denominator : Nat) : Int :=
  let guess : Int := (Nat.toDigits 10 numerator).length - (Nat.toDigits 10 denominator).length
  let (scaled, unit) := scale 10 numerator denominator (-guess)
  if scaled < unit then guess - 1 else guess

/-- The digits of a fraction in scientific form, and its exponent. -/
def scientificDigits (places numerator denominator : Nat) : Octets × Int :=
  if numerator = 0 then (List.replicate (places + 1) '0', 0)
  else
    let exponent := magnitude numerator denominator
    let (scaled, unit) := scale 10 numerator denominator (places - exponent)
    let value := nearest scaled unit
    if value = Nat.pow 10 (places + 1) then (Text.ofNat (value / 10), exponent + 1)
    else (Text.ofNat value, exponent)

/-- An exponent with its sign and at least two digits. -/
def exponentText (exponent : Int) : Octets :=
  (if exponent < 0 then '-' else '+') :: Octets.padLeft 2 '0' (Text.ofNat exponent.natAbs)

/-- A fraction in scientific form with a number of digits after the point. -/
def scientific (places numerator denominator : Nat) : Octets :=
  let (digits, exponent) := scientificDigits places numerator denominator
  digits.take 1 ++ (if places = 0 then [] else '.' :: digits.drop 1) ++
    'e' :: exponentText exponent

/-- Leave out zeros at the end of a fraction, and the point if nothing follows it. -/
def stripZeros (text : Octets) : Octets :=
  if text.contains '.' then
    let kept : Octets := text.dropEndWhile (· == '0')
    kept.dropEndWhile (· == '.')
  else text

/-- A fraction in the shorter of the two forms, with a number of digits. -/
def general (keepsZeros : Bool) (digits numerator denominator : Nat) : Octets :=
  let digits := max 1 digits
  let (_, exponent) := scientificDigits (digits - 1) numerator denominator
  let strip (text : Octets) : Octets := if keepsZeros then text else stripZeros text
  if exponent < -4 || (digits : Int) ≤ exponent then
    let text := scientific (digits - 1) numerator denominator
    strip (text.takeWhile (· != 'e')) ++ text.dropWhile (· != 'e')
  else strip (fixed ((digits : Int) - 1 - exponent).toNat numerator denominator)

/-- The hexadecimal digit before the point, those after it, and the exponent of a fraction of
which a number of binary digits is kept.  Without a number of digits there are as many as are
needed. -/
def hexadecimalDigits (bits : Nat) (places : Option Nat) (numerator denominator : Nat) :
    Nat × Octets × Int :=
  let leading := (bits - 1) % 4 + 1
  let available := (bits - leading) / 4
  let count := places.getD available
  let magnitude :=
    if numerator = 0 then (leading : Int) - 1
    else max (leastExponent bits) (binaryMagnitude numerator denominator)
  let exponent := magnitude - ((leading : Int) - 1)
  let (scaled, unit) := scale 2 numerator denominator (4 * (available : Int) - exponent)
  let kept := nearest scaled unit
  let value :=
    if count < available then nearest kept (Nat.pow 16 (available - count))
    else kept * Nat.pow 16 (count - available)
  let first := value / Nat.pow 16 count
  let digits : Octets :=
    if count = 0 then []
    else Octets.padLeft count '0' (Nat.toDigits 16 (value % Nat.pow 16 count))
  let shown : Octets := if places.isNone then digits.dropEndWhile (· == '0') else digits
  if first = 16 then (1, shown, exponent + 4) else (first, shown, exponent)

/-- A fraction in hexadecimal form, after its mark; the point may be kept in any case. -/
def hexadecimal (bits : Nat) (keepsPoint : Bool) (places : Option Nat)
    (numerator denominator : Nat) : Octets :=
  let (first, digits, exponent) := hexadecimalDigits bits places numerator denominator
  Nat.toDigits 16 first ++ (if digits.isEmpty && !keepsPoint then [] else '.' :: digits) ++
    'p' :: (if exponent < 0 then '-' else '+') :: Text.ofNat exponent.natAbs

end Quantity
end Host
end Turnwise
