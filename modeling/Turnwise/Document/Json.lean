import Turnwise.Document
import Turnwise.Text.Lines

/-!
# JSON

The notation in which documents are written: one value, with blanks between its
parts.  `Json.parse?` reads a document, `Json.render` writes one.
-/

namespace Turnwise
namespace Json

/-- The characters that may stand between the parts of a value. -/
def isGap (c : Char) : Bool :=
  c == ' ' || c == '\t' || c == '\n' || c == '\r'

/-- Drop what stands between parts. -/
def skipGap (text : Text) : Text :=
  text.dropWhile isGap

/-- The value of a hexadecimal digit. -/
def hexDigit? (c : Char) : Option Nat :=
  if c.isDigit then some (c.toNat - '0'.toNat)
  else if 'a' ≤ c && c ≤ 'f' then some (c.toNat - 'a'.toNat + 10)
  else if 'A' ≤ c && c ≤ 'F' then some (c.toNat - 'A'.toNat + 10)
  else none

/-- The value of the first four characters as hexadecimal digits. -/
def hexUnit? : Text → Option (Nat × Text)
  | a :: b :: c :: d :: rest => do
      let value := (((← hexDigit? a) * 16 + (← hexDigit? b)) * 16 + (← hexDigit? c)) * 16 +
        (← hexDigit? d)
      return (value, rest)
  | _ => none

/-- The character that a simple escape stands for. -/
def simpleEscape? (c : Char) : Option Char :=
  ([('"', '"'), ('\\', '\\'), ('/', '/'), ('b', '\x08'), ('f', '\x0c'), ('n', '\n'),
    ('r', '\r'), ('t', '\t')].find? (·.1 == c)).map (·.2)

/-- The character that a numbered escape stands for, after its first letter.  Two
escapes make up a character beyond the first plane. -/
def numberedEscape? (text : Text) : Option (Char × Text) := do
  let (unit, rest) ← hexUnit? text
  if 0xD800 ≤ unit && unit < 0xDC00 then
    match rest with
    | '\\' :: 'u' :: rest => do
        let (second, rest) ← hexUnit? rest
        if 0xDC00 ≤ second && second < 0xE000 then
          some (Char.ofNat (0x10000 + (unit - 0xD800) * 0x400 + (second - 0xDC00)), rest)
        else none
    | _ => none
  else if 0xDC00 ≤ unit && unit < 0xE000 then none
  else some (Char.ofNat unit, rest)

/-- Read the rest of a quoted text; the fuel bounds the number of characters. -/
def quoted? : (fuel : Nat) → Text → Option (Text × Text)
  | 0, _ => none
  | _ + 1, [] => none
  | _ + 1, '"' :: rest => some ([], rest)
  | fuel + 1, '\\' :: 'u' :: rest => do
      let (c, rest) ← numberedEscape? rest
      let (tail, rest) ← quoted? fuel rest
      return (c :: tail, rest)
  | fuel + 1, '\\' :: letter :: rest => do
      let c ← simpleEscape? letter
      let (tail, rest) ← quoted? fuel rest
      return (c :: tail, rest)
  | fuel + 1, c :: rest =>
      if c.toNat < 0x20 || c == '\\' then none
      else do
        let (tail, rest) ← quoted? fuel rest
        return (c :: tail, rest)

/-- Whether digits are a numeral: not empty, and with no zero before others. -/
def isNumeral (digits : Text) : Bool :=
  match digits with
  | [] => false
  | '0' :: rest => rest.isEmpty
  | _ => true

/-- Read a fraction, when one follows. -/
def fraction? : Text → Option (Text × Text)
  | '.' :: rest =>
      let digits := rest.takeWhile Char.isDigit
      if digits.isEmpty then none else some ('.' :: digits, rest.dropWhile Char.isDigit)
  | rest => some ([], rest)

/-- Read an exponent, when one follows. -/
def exponent? (text : Text) : Option (Text × Text) :=
  match text with
  | mark :: rest =>
      if mark == 'e' || mark == 'E' then
        let sign := rest.take 1 |>.filter fun c => c == '+' || c == '-'
        let rest := rest.drop sign.length
        let digits := rest.takeWhile Char.isDigit
        if digits.isEmpty then none
        else some (mark :: sign ++ digits, rest.dropWhile Char.isDigit)
      else some ([], text)
  | [] => some ([], [])

/-- Read a number.  Minus zero is no integer. -/
def number? (text : Text) : Option (Document × Text) := do
  let sign := text.take 1 |>.filter (· == '-')
  let rest := text.drop sign.length
  let digits := rest.takeWhile Char.isDigit
  if !isNumeral digits then none else
  let (fraction, rest) ← fraction? (rest.dropWhile Char.isDigit)
  let (exponent, rest) ← exponent? rest
  let value := Nat.ofDigitChars 10 digits 0
  if fraction.isEmpty && exponent.isEmpty && (sign.isEmpty || value != 0) then
    return (.integer (if sign.isEmpty then value else -(value : Int)), rest)
  else return (.decimal (sign ++ digits ++ fraction ++ exponent), rest)

/-- Put a field into a record, in place of one with the same key. -/
def putField (key : Text) (value : Document) (fields : List (Text × Document)) :
    List (Text × Document) :=
  if (Document.lookup? key fields).isSome then fields else (key, value) :: fields

mutual

/-- Read a value; the fuel bounds the nesting and the number of parts. -/
def value? : (fuel : Nat) → Text → Option (Document × Text)
  | 0, _ => none
  | fuel + 1, text =>
      match skipGap text with
      | '"' :: rest => do
          let (content, rest) ← quoted? (rest.length + 1) rest
          return (.text content, rest)
      | '[' :: rest =>
          match skipGap rest with
          | ']' :: rest => some (.list [], rest)
          | rest => do
              let (items, rest) ← items? fuel rest
              return (.list items, rest)
      | '\x7b' :: rest =>
          match skipGap rest with
          | '\x7d' :: rest => some (.record [], rest)
          | rest => do
              let (fields, rest) ← fields? fuel rest
              return (.record fields, rest)
      | rest =>
          match Text.after? "null".toList rest, Text.after? "true".toList rest,
            Text.after? "false".toList rest with
          | some rest, _, _ => some (.null, rest)
          | _, some rest, _ => some (.boolean true, rest)
          | _, _, some rest => some (.boolean false, rest)
          | _, _, _ => number? rest

/-- Read the items of a list up to its end. -/
def items? : (fuel : Nat) → Text → Option (List Document × Text)
  | 0, _ => none
  | fuel + 1, text => do
      let (item, rest) ← value? fuel text
      match skipGap rest with
      | ',' :: rest => do
          let (items, rest) ← items? fuel rest
          return (item :: items, rest)
      | ']' :: rest => some ([item], rest)
      | _ => none

/-- Read the fields of a record up to its end. -/
def fields? : (fuel : Nat) → Text → Option (List (Text × Document) × Text)
  | 0, _ => none
  | fuel + 1, text =>
      match skipGap text with
      | '"' :: rest => do
          let (key, rest) ← quoted? (rest.length + 1) rest
          match skipGap rest with
          | ':' :: rest => do
              let (value, rest) ← value? fuel rest
              match skipGap rest with
              | ',' :: rest => do
                  let (fields, rest) ← fields? fuel rest
                  return (putField key value fields, rest)
              | '\x7d' :: rest => some ([(key, value)], rest)
              | _ => none
          | _ => none
      | _ => none

end

/-- Read a document from a text that holds nothing else. -/
def parse? (text : Text) : Option Document := do
  let (document, rest) ← value? (2 * text.length + 1) text
  if (skipGap rest).isEmpty then some document else none

/-- A digit of a hexadecimal number. -/
def hexDigit (value : Nat) : Char :=
  if value < 10 then Char.ofNat ('0'.toNat + value) else Char.ofNat ('a'.toNat + value - 10)

/-- A character inside quotes. -/
def quotedChar (c : Char) : Text :=
  if c = '"' then ['\\', '"']
  else if c = '\\' then ['\\', '\\']
  else if c.toNat < 0x20 || c.toNat = 0x7F then
    ['\\', 'u', '0', '0', hexDigit (c.toNat / 16), hexDigit (c.toNat % 16)]
  else [c]

/-- A text inside quotes. -/
def quoted (text : Text) : Text :=
  '"' :: text.flatMap quotedChar ++ ['"']

mutual

/-- Write a document. -/
def render : Document → Text
  | .null => "null".toList
  | .boolean value => if value then "true".toList else "false".toList
  | .integer value => Text.ofInt value
  | .decimal written => written
  | .text value => quoted value
  | .list items => '[' :: Text.joinWith [','] (renderItems items) ++ [']']
  | .record fields => '\x7b' :: Text.joinWith [','] (renderFields fields) ++ ['\x7d']

/-- Write the items of a list. -/
def renderItems : List Document → List Text
  | [] => []
  | item :: rest => render item :: renderItems rest

/-- Write the fields of a record. -/
def renderFields : List (Text × Document) → List Text
  | [] => []
  | (key, value) :: rest => (quoted key ++ ':' :: render value) :: renderFields rest

end

end Json
end Turnwise
