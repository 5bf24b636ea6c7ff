import Turnwise.Text.Lines
import Turnwise.Text.Utf8

/-!
# Octets

Tools do not know characters; what they read, compare and print are bytes.  Inside
a tool a string of bytes is handled as a text in which each byte is the character
with its number, so that bytes and the ASCII characters of a command language can
be compared directly.
-/

namespace Turnwise
namespace Host

/-- A string of bytes, each as the character with its number. -/
abbrev Octets := Text

namespace Octets

/-- The octets of bytes. -/
def ofBytes (bytes : Bytes) : Octets :=
  bytes.map fun byte => Char.ofNat byte.toNat

/-- The bytes of octets. -/
def toBytes (octets : Octets) : Bytes :=
  octets.map fun octet => octet.toNat.toUInt8

/-- The octets of the encoding of a text. -/
def ofText (text : Text) : Octets :=
  ofBytes (Utf8.encode text)

/-- The text that octets encode, read leniently. -/
def toText (octets : Octets) : Text :=
  Utf8.lenient (toBytes octets)

/-- The octet with a number. -/
def octet (number : Nat) : Char :=
  Char.ofNat (number % 256)

/-- The octets of an array of bytes, from a position and at most a number of them. -/
def ofArray (bytes : ByteArray) (start count : Nat) : Octets :=
  (bytes.extract start (start + count)).toList.map fun byte => Char.ofNat byte.toNat

/-- The array of the bytes of octets. -/
def toArray (octets : Octets) : ByteArray :=
  octets.foldl (fun bytes octet => bytes.push octet.toNat.toUInt8) ByteArray.empty

/-- Whether octets come before others, byte by byte. -/
def before (first second : Octets) : Bool :=
  compareLex first second == .lt
where
  /-- Compare byte by byte; a beginning comes first. -/
  compareLex : Octets → Octets → Ordering
    | [], [] => .eq
    | [], _ :: _ => .lt
    | _ :: _, [] => .gt
    | a :: first, b :: second =>
        if a.toNat < b.toNat then .lt
        else if b.toNat < a.toNat then .gt
        else compareLex first second

/-- Whether octets do not come after others. -/
def notAfter (first second : Octets) : Bool :=
  !before second first

/-- The pieces of some octets that a character ends; the last piece may lack it. -/
def pieces (ending : Char) (content : Octets) : List Octets :=
  let pieces := content.splitOn ending
  pieces.dropLast ++ pieces.getLast?.toList.filter (!·.isEmpty)

/-- The lines of some octets; a final newline ends the last line. -/
def lines (content : Octets) : List Octets :=
  pieces '\n' content

/-- Put a newline after each line. -/
def unlines (lines : List Octets) : Octets :=
  lines.flatMap (· ++ ['\n'])

/-- Whether an octet is a space, a tab or another character that moves the pen. -/
def isSpace (c : Char) : Bool :=
  c == ' ' || ('\t' ≤ c && c ≤ '\r')

/-- Whether an octet is a space or a tab. -/
def isBlank (c : Char) : Bool :=
  c == ' ' || c == '\t'

/-- Fill up at the left. -/
def padLeft (width : Nat) (filler : Char) (octets : Octets) : Octets :=
  List.replicate (width - octets.length) filler ++ octets

/-- Fill up at the right. -/
def padRight (width : Nat) (filler : Char) (octets : Octets) : Octets :=
  octets ++ List.replicate (width - octets.length) filler

/-- The octal numeral of a number, with at least some digits. -/
def octal (width number : Nat) : Octets :=
  padLeft width '0' (Nat.toDigits 8 number)

/-- The number that octal digits denote. -/
def octalValue? (text : Octets) : Option Nat :=
  if !text.isEmpty && text.all (fun c => '0' ≤ c && c ≤ '7') then
    some (Nat.ofDigitChars 8 text 0)
  else none

/-- The value of a hexadecimal digit. -/
def hexValue? (c : Char) : Option Nat :=
  if '0' ≤ c && c ≤ '9' then some (c.toNat - 48)
  else if 'a' ≤ c && c ≤ 'f' then some (c.toNat - 87)
  else if 'A' ≤ c && c ≤ 'F' then some (c.toNat - 55)
  else none

end Octets
end Host
end Turnwise
