import Std.Data.TreeMap
import Turnwise.Host.Format

/-!
# Values of a pattern language

Programs that are made of patterns and actions compute with texts and with numbers, and
take one for the other.  What comes from an input counts as a number if it looks like
one.  Numbers have the binary digits that most tools keep.
-/

namespace Turnwise
namespace Host
namespace Quantity

/-- Nothing. -/
def zero : Quantity := .finite false 0 1

/-- An integer. -/
def ofInt (value : Int) : Quantity :=
  .finite (value < 0) value.natAbs 1

/-- The sum, the product or the quotient of nothing that makes sense. -/
def senseless : Quantity := .undefined true

/-- The fraction with a sign, in the binary digits that most tools keep; what is too large
for them is larger than every fraction. -/
def ofFraction (negative : Bool) (numerator denominator : Nat) : Quantity :=
  let (numerator, denominator) := roundFraction doubleBits numerator denominator
  if denominator * Nat.pow 2 1024 ≤ numerator then .infinite negative
  else .finite negative numerator denominator

/-- The numerator with its sign. -/
def signed (negative : Bool) (numerator : Nat) : Int :=
  if negative then -(numerator : Int) else numerator

/-- The quantity with the other sign. -/
def negated : Quantity → Quantity
  | .finite negative numerator denominator => .finite (!negative) numerator denominator
  | .infinite negative => .infinite (!negative)
  | .undefined negative => .undefined (!negative)

/-- The sum. -/
def add : Quantity → Quantity → Quantity
  | .finite n a b, .finite m c d =>
      let total := signed n a * d + signed m c * b
      ofFraction (total < 0) total.natAbs (b * d)
  | .undefined n, _ => .undefined n
  | _, .undefined n => .undefined n
  | .infinite n, .infinite m => if n = m then .infinite n else senseless
  | .infinite n, _ => .infinite n
  | _, .infinite n => .infinite n

/-- The difference. -/
def sub (first second : Quantity) : Quantity :=
  first.add second.negated

/-- The product. -/
def mul : Quantity → Quantity → Quantity
  | .finite n a b, .finite m c d => ofFraction (n != m) (a * c) (b * d)
  | .undefined n, _ => .undefined n
  | _, .undefined n => .undefined n
  | .infinite n, .infinite m => .infinite (n != m)
  | .infinite n, .finite m c _ => if c = 0 then senseless else .infinite (n != m)
  | .finite n a _, .infinite m => if a = 0 then senseless else .infinite (n != m)

/-- The quotient. -/
def div : Quantity → Quantity → Quantity
  | .finite n a b, .finite m c d =>
      if c = 0 then (if a = 0 then senseless else .infinite (n != m))
      else ofFraction (n != m) (a * d) (b * c)
  | .undefined n, _ => .undefined n
  | _, .undefined n => .undefined n
  | .infinite _, .infinite _ => senseless
  | .infinite n, .finite m _ _ => .infinite (n != m)
  | .finite n _ _, .infinite m => .finite (n != m) 0 1

/-- The remainder, which has the sign of the first. -/
def mod : Quantity → Quantity → Quantity
  | .finite n a b, .finite _ c d =>
      if c = 0 then senseless else ofFraction n ((a * d) % (c * b)) (b * d)
  | .undefined n, _ => .undefined n
  | _, .undefined n => .undefined n
  | .infinite _, _ => senseless
  | first, .infinite _ => first

/-- The integer part. -/
def whole : Quantity → Quantity
  | .finite negative numerator denominator => .finite negative (numerator / denominator) 1
  | other => other

/-- The integer part, if it is finite. -/
def whole? : Quantity → Option Int
  | .finite negative numerator denominator => some (signed negative (numerator / denominator))
  | _ => none

/-- Whether this is an integer. -/
def isWhole : Quantity → Bool
  | .finite _ numerator denominator => numerator % denominator = 0
  | _ => false

/-- Whether this is nothing. -/
def isZero : Quantity → Bool
  | .finite _ numerator _ => numerator = 0
  | _ => false

/-- The order of two quantities; something that is no number is in none. -/
def order? : Quantity → Quantity → Option Ordering
  | .undefined _, _ => none
  | _, .undefined _ => none
  | .finite n a b, .finite m c d => some (compare (signed n a * d) (signed m c * b))
  | .infinite n, .infinite m => some (compare (if n then 0 else 1) (if m then 0 else 1))
  | .infinite n, _ => some (if n then .lt else .gt)
  | _, .infinite n => some (if n then .gt else .lt)

/-- The binary number nearest to a quantity. -/
def toFloat : Quantity → Float
  | .finite negative numerator denominator =>
      let size := Float.ofNat numerator / Float.ofNat denominator
      if negative then -size else size
  | .infinite negative => if negative then -1 / 0 else 1 / 0
  | .undefined _ => 0 / 0

/-- The quantity of a binary number. -/
def ofFloat (value : Float) : Quantity :=
  let bits := value.toBits.toNat
  let negative : Bool := bits / Nat.pow 2 63 = 1
  let exponent := bits / Nat.pow 2 52 % 2048
  let digits := bits % Nat.pow 2 52
  if exponent = 2047 then (if digits = 0 then .infinite negative else .undefined negative)
  else
    let (numerator, denominator) :=
      if exponent = 0 then scale 2 digits 1 (-1074)
      else scale 2 (digits + Nat.pow 2 52) 1 ((exponent : Int) - 1075)
    .finite negative numerator denominator

/-- The largest exponent for which powers are computed exactly. -/
def exactPowers : Nat := 1100

/-- A power. -/
def pow (base exponent : Quantity) : Quantity :=
  match base, exponent with
  | .finite n a b, .finite m c d =>
      if c % d = 0 && c / d ≤ exactPowers then
        let count := c / d
        let negative := n && count % 2 = 1
        let power := ofFraction negative (Nat.pow a count) (Nat.pow b count)
        if m then (ofInt 1).div power else power
      else ofFloat (Float.pow base.toFloat exponent.toFloat)
  | _, _ => ofFloat (Float.pow base.toFloat exponent.toFloat)

end Quantity

namespace Utility
namespace Awk

/-- A value. -/
inductive Value where
  /-- Nothing was given. -/
  | unset
  /-- A number. -/
  | number (quantity : Quantity)
  /-- A text. -/
  | text (octets : Octets)
  /-- A text from an input. -/
  | input (octets : Octets)
  deriving DecidableEq, Repr

namespace Value

/-- An integer. -/
def ofInt (value : Int) : Value :=
  .number (.ofInt value)

/-- A truth value. -/
def ofBool (value : Bool) : Value :=
  ofInt (if value then 1 else 0)

/-- The number that a text begins with. -/
def numberOf (octets : Octets) : Quantity :=
  match Quantity.read? octets with
  | some (.finite negative numerator denominator, _) =>
      .ofFraction negative numerator denominator
  | some (quantity, _) => quantity
  | none => .zero

/-- Whether a text looks like a number. -/
def looksNumeric (octets : Octets) : Bool :=
  match Quantity.read? octets with
  | some (_, rest) => rest.all Octets.isSpace
  | none => false

/-- A value as a number. -/
def quantity : Value → Quantity
  | .unset => .zero
  | .number quantity => quantity
  | .text octets => numberOf octets
  | .input octets => numberOf octets

/-- A value that counts as a number. -/
def numeric? : Value → Option Quantity
  | .unset => some .zero
  | .number quantity => some quantity
  | .text _ => none
  | .input octets => if looksNumeric octets then some (numberOf octets) else none

/-- Whether a value counts as true. -/
def isTrue : Value → Bool
  | .unset => false
  | .number quantity => !quantity.isZero
  | .text octets => !octets.isEmpty
  | .input octets =>
      if looksNumeric octets then !(numberOf octets).isZero else !octets.isEmpty

/-- An integer as a text, if it is not too large. -/
def wholeText? (quantity : Quantity) : Option Octets :=
  match quantity.whole? with
  | some value =>
      if quantity.isWhole && -0x8000000000000000 ≤ value && value ≤ 0x10000000000000000 then
        some (Text.ofInt (min value 0xFFFFFFFFFFFFFFFF))
      else none
  | none => none

end Value

/-- What is wrong with a format. -/
inductive Misfit where
  /-- There are too few values. -/
  | tooFew
  /-- A directive makes no sense; its number is given. -/
  | improper (number : Nat)
  deriving DecidableEq, Repr

/-- An integer that a number is written as: what is too large is cut off. -/
def formatInteger (quantity : Quantity) : Int :=
  match quantity with
  | .finite .. =>
      max (-0x7FFFFFFFFFFFFFFF) (min ((quantity.whole?).getD 0) 0xFFFFFFFFFFFFFFFF)
  | .infinite true => -0x7FFFFFFFFFFFFFFF
  | .infinite false => 0xFFFFFFFFFFFFFFFF
  | .undefined _ => -0x8000000000000000

/-- A value in the form of a directive with a letter, given how values become texts. -/
def formatValue (texts : Value → Octets) (directive : Directive) (letter : Char)
    (value : Value) : Option Octets :=
  match letter with
  | 'd' => some (directive.integer (formatInteger value.quantity))
  | 'i' => some (directive.integer (formatInteger value.quantity))
  | 'c' =>
      let octets : Octets :=
        match value with
        | .number quantity =>
            [Octets.octet ((formatInteger quantity) % 256).toNat]
        | other => (texts other).take 1
      some (directive.pad octets)
  | 's' => some (directive.text (texts value))
  | letter =>
      if "ouxX".toList.contains letter then
        some (directive.natural letter
          ((formatInteger value.quantity) % 0x10000000000000000).toNat)
      else if "eEfFgG".toList.contains letter then
        some (directive.quantity Quantity.doubleBits letter value.quantity)
      else none

/-- Write values in a format; what was written before a fault is given with it. -/
def formatFrom (texts : Value → Octets) :
    (limit : Nat) → (number : Nat) → (format : Octets) → List Value → (done : List Octets) →
    Octets × Option Misfit
  | 0, _, _, _, done => (done.reverse.flatten, none)
  | limit + 1, number, format, values, done =>
      match format with
      | [] => (done.reverse.flatten, none)
      | '%' :: '%' :: rest => formatFrom texts limit number rest values (['%'] :: done)
      | '%' :: rest =>
          let pattern := Pattern.read rest
          let taken (amount : Amount) (values : List Value) :
              Option (Option Int × List Value) :=
            match amount, values with
            | .none, values => some (none, values)
            | .given count, values => some (some count, values)
            | .next, value :: values => some (some (formatInteger value.quantity), values)
            | .next, [] => none
          let letters := pattern.rest.dropWhile fun c => c = 'l' || c = 'h'
          let stop (misfit : Misfit) : Octets × Option Misfit :=
            (done.reverse.flatten, some misfit)
          match taken pattern.width values with
          | none => stop .tooFew
          | some (width, values) =>
              match taken pattern.precision values with
              | none => stop .tooFew
              | some (precision, values) =>
                  let plain : Directive := ⟨pattern.flags, 0, none⟩
                  let wide := (width.map plain.withWidth).getD plain
                  let directive := (precision.map wide.withPrecision).getD wide
                  match values, letters with
                  | [], _ => stop .tooFew
                  | _ :: _, [] => stop (.improper number)
                  | value :: values, letter :: rest =>
                      match formatValue texts directive letter value with
                      | some octets =>
                          formatFrom texts limit (number + 1) rest values (octets :: done)
                      | none => stop (.improper number)
      | c :: rest =>
          let plain := c :: rest.takeWhile (· != '%')
          formatFrom texts limit number (rest.dropWhile (· != '%')) values (plain :: done)

/-- Write values in a format. -/
def formatted (texts : Value → Octets) (format : Octets) (values : List Value) :
    Octets × Option Misfit :=
  formatFrom texts (format.length + 1) 1 format values []

/-- A value as a text, numbers that are no integers in a format. -/
def Value.toText (format : Octets) : Value → Octets
  | .unset => []
  | .text octets => octets
  | .input octets => octets
  | .number quantity =>
      match Value.wholeText? quantity with
      | some octets => octets
      | none => (formatted (fun _ => []) format [.number quantity]).1

/-- Compare two values: as numbers if both count as numbers, and else as texts. -/
def Value.order? (format : Octets) (first second : Value) : Option Ordering :=
  match first.numeric?, second.numeric? with
  | some a, some b => a.order? b
  | _, _ => some (Octets.before.compareLex (first.toText format) (second.toText format))

/-- An entry of a table. -/
structure Entry where
  /-- When it was made. -/
  serial : Nat
  /-- Its value. -/
  value : Value

/-- A table of values under keys. -/
structure Table where
  /-- The entries. -/
  entries : Std.TreeMap Octets Entry
  /-- How many entries were ever made. -/
  serial : Nat

namespace Table

/-- The table without entries. -/
def empty : Table := ⟨.empty, 0⟩

/-- The value under a key. -/
def get? (table : Table) (key : Octets) : Option Value :=
  table.entries[key]?.map (·.value)

/-- Set the value under a key. -/
def set (table : Table) (key : Octets) (value : Value) : Table :=
  match table.entries[key]? with
  | some entry => { table with entries := table.entries.insert key { entry with value } }
  | none => ⟨table.entries.insert key ⟨table.serial, value⟩, table.serial + 1⟩

/-- Remove a key. -/
def erase (table : Table) (key : Octets) : Table :=
  { table with entries := table.entries.erase key }

/-- A checksum of a key. -/
def checksum (key : Octets) : Nat :=
  key.foldl (fun sum c => (sum ^^^ c.toNat) * 16777619 % 0x100000000) 2166136261

/-- Over how many lists the keys of a table of some size are spread. -/
def spread (size : Nat) : Nat :=
  if size ≤ 128 then 64 else Nat.pow 2 (Nat.log2 (size - 1))

/-- The keys in the order in which they are visited: by their checksums, and of those with
the same one the newest first. -/
def keys (table : Table) : List Octets :=
  let lists := spread table.entries.size
  let all := table.entries.toList.map fun (key, entry) =>
    (checksum key % lists, entry.serial, key)
  let sorted := all.mergeSort fun a b =>
    if a.1 = b.1 then b.2.1 ≤ a.2.1 else a.1 ≤ b.1
  sorted.map fun entry => entry.2.2

end Table
end Awk
end Utility
end Host
end Turnwise
