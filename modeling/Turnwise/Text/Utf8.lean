import Turnwise.Text.Decimal

/-!
# Bytes and UTF-8

Processes and files carry bytes.  A text is written as its UTF-8 encoding; bytes
are read either strictly, where the first ill-formed place is an error, or
leniently, where each maximal ill-formed part becomes one replacement character.

Both readers are one machine that takes a byte at a time.  Between bytes it
stands either between two characters or inside one, and then it knows the value
of the bits read, how many bytes are still owed, and the range of the next one.
-/

namespace Turnwise

/-- A string of bytes. -/
abbrev Bytes := List UInt8

namespace Utf8

/-- The UTF-8 encoding of a character, one to four bytes. -/
def encodeChar (c : Char) : Bytes :=
  let n := c.toNat
  if n < 0x80 then [n.toUInt8]
  else if n < 0x800 then [(0xC0 + n / 0x40).toUInt8, (0x80 + n % 0x40).toUInt8]
  else if n < 0x10000 then
    [(0xE0 + n / 0x1000).toUInt8, (0x80 + n / 0x40 % 0x40).toUInt8,
      (0x80 + n % 0x40).toUInt8]
  else
    [(0xF0 + n / 0x40000).toUInt8, (0x80 + n / 0x1000 % 0x40).toUInt8,
      (0x80 + n / 0x40 % 0x40).toUInt8, (0x80 + n % 0x40).toUInt8]

/-- The UTF-8 encoding of a text. -/
def encode (text : Text) : Bytes :=
  text.flatMap encodeChar

/-- A character of which some bytes, but not all, have been read. -/
structure Pending where
  /-- The bits read so far. -/
  value : Nat
  /-- How many bytes were read. -/
  seen : Nat
  /-- How many bytes are owed after the next one. -/
  later : Nat
  /-- The least byte that may come next. -/
  low : Nat
  /-- The greatest byte that may come next. -/
  high : Nat
  deriving DecidableEq, Repr

/-- What one byte leads to. -/
inductive Step where
  /-- A character is complete. -/
  | complete (c : Char)
  /-- More bytes are owed. -/
  | owed (pending : Pending)
  /-- The byte cannot stand here. -/
  | refused
  deriving DecidableEq, Repr

/-- Read the first byte of a character. -/
def first (byte : UInt8) : Step :=
  let b := byte.toNat
  if b < 0x80 then .complete (Char.ofNat b)
  else if b < 0xC2 then .refused
  else if b < 0xE0 then .owed ⟨b - 0xC0, 1, 0, 0x80, 0xBF⟩
  else if b = 0xE0 then .owed ⟨0, 1, 1, 0xA0, 0xBF⟩
  else if b = 0xED then .owed ⟨0xD, 1, 1, 0x80, 0x9F⟩
  else if b < 0xF0 then .owed ⟨b - 0xE0, 1, 1, 0x80, 0xBF⟩
  else if b = 0xF0 then .owed ⟨0, 1, 2, 0x90, 0xBF⟩
  else if b < 0xF4 then .owed ⟨b - 0xF0, 1, 2, 0x80, 0xBF⟩
  else if b = 0xF4 then .owed ⟨4, 1, 2, 0x80, 0x8F⟩
  else .refused

/-- Read one more byte of a character that has begun. -/
def Pending.next (pending : Pending) (byte : UInt8) : Step :=
  let b := byte.toNat
  if pending.low ≤ b ∧ b ≤ pending.high then
    let value := pending.value * 0x40 + (b - 0x80)
    match pending.later with
    | 0 => .complete (Char.ofNat value)
    | later + 1 => .owed ⟨value, pending.seen + 1, later, 0x80, 0xBF⟩
  else .refused

/-- The character that stands for an ill-formed part. -/
def replacement : Char := '\uFFFD'

/-- Lenient reading from a place between characters or inside one. -/
def lenientFrom : Option Pending → Bytes → Text
  | none, [] => []
  | some _, [] => [replacement]
  | none, byte :: rest =>
      match first byte with
      | .complete c => c :: lenientFrom none rest
      | .owed pending => lenientFrom (some pending) rest
      | .refused => replacement :: lenientFrom none rest
  | some pending, byte :: rest =>
      match pending.next byte with
      | .complete c => c :: lenientFrom none rest
      | .owed pending => lenientFrom (some pending) rest
      | .refused =>
          replacement ::
            match first byte with
            | .complete c => c :: lenientFrom none rest
            | .owed pending => lenientFrom (some pending) rest
            | .refused => replacement :: lenientFrom none rest

/-- Read bytes as text; each maximal ill-formed part becomes one replacement
character. -/
def lenient (bytes : Bytes) : Text :=
  lenientFrom none bytes

/-- Why bytes are not the encoding of a text. -/
inductive Fault where
  /-- A part of some length that begins at an index can be no character. -/
  | illFormed (length index : Nat)
  /-- The bytes end inside the character that begins at an index. -/
  | truncated (index : Nat)
  deriving DecidableEq, Repr

/-- The wording of a decoding fault. -/
def Fault.message : Fault → Text
  | .illFormed length index =>
      "invalid utf-8 sequence of ".toList ++ Text.ofNat length ++
        " bytes from index ".toList ++ Text.ofNat index
  | .truncated index =>
      "incomplete utf-8 byte sequence from index ".toList ++ Text.ofNat index

/-- Strict reading; the index is that of the next byte. -/
def strictFrom (index : Nat) : Option Pending → Bytes → Except Fault Text
  | none, [] => .ok []
  | some pending, [] => .error (.truncated (index - pending.seen))
  | none, byte :: rest =>
      match first byte with
      | .complete c => (strictFrom (index + 1) none rest).map (c :: ·)
      | .owed pending => strictFrom (index + 1) (some pending) rest
      | .refused => .error (.illFormed 1 index)
  | some pending, byte :: rest =>
      match pending.next byte with
      | .complete c => (strictFrom (index + 1) none rest).map (c :: ·)
      | .owed pending => strictFrom (index + 1) (some pending) rest
      | .refused => .error (.illFormed pending.seen (index - pending.seen))

/-- Read bytes as text, or say where they first fail to be one. -/
def strict (bytes : Bytes) : Except Fault Text :=
  strictFrom 0 none bytes

/-- Read bytes as text when they are well formed. -/
def text? (bytes : Bytes) : Option Text :=
  (strict bytes).toOption

end Utf8
end Turnwise
