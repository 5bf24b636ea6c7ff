import Mathlib.Data.List.Basic
import Turnwise.Text.Utf8

/-!
# Reading an encoding back

Strict reading inverts the UTF-8 encoding, and it accepts nothing but encodings.  The
reader is followed through the one to four bytes of a character; the range it allows for
the second byte is the one place where overlong forms, surrogates and numbers beyond the
last code point drop out.
-/

namespace Turnwise
namespace Utf8

theorem toNat_toUInt8 {n : Nat} (byte : n < 0x100) : n.toUInt8.toNat = n :=
  UInt8.toNat_ofNat_of_lt' byte

/-- The code points of characters. -/
theorem toNat_valid (c : Char) :
    c.toNat < 0xD800 ∨ 0xDFFF < c.toNat ∧ c.toNat < 0x110000 :=
  c.valid

/-- The last byte of a character completes it. -/
theorem Pending.next_last
    {value seen m : Nat}
    (bits : m < 0x40) :
    Pending.next ⟨value, seen, 0, 0x80, 0xBF⟩ (0x80 + m).toUInt8 =
      .complete (Char.ofNat (value * 0x40 + m)) := by
  have inside : 0x80 ≤ 0x80 + m ∧ 0x80 + m ≤ 0xBF := by omega
  simp only [Pending.next, toNat_toUInt8 (show 0x80 + m < 0x100 by omega),
    if_pos inside, Nat.add_sub_cancel_left]

/-- A byte before the last leaves one less to be read. -/
theorem Pending.next_more
    {value seen later low high m : Nat}
    (bits : m < 0x40)
    (above : low ≤ 0x80 + m)
    (below : 0x80 + m ≤ high) :
    Pending.next ⟨value, seen, later + 1, low, high⟩ (0x80 + m).toUInt8 =
      .owed ⟨value * 0x40 + m, seen + 1, later, 0x80, 0xBF⟩ := by
  simp only [Pending.next, toNat_toUInt8 (show 0x80 + m < 0x100 by omega),
    if_pos (And.intro above below), Nat.add_sub_cancel_left]

/-! ## First bytes -/

theorem first_one {n : Nat} (ascii : n < 0x80) :
    first n.toUInt8 = .complete (Char.ofNat n) := by
  rw [first, toNat_toUInt8 (by omega), if_pos ascii]

theorem first_two {n : Nat} (low : 2 ≤ n) (high : n < 0x20) :
    first (0xC0 + n).toUInt8 = .owed ⟨n, 1, 0, 0x80, 0xBF⟩ := by
  rw [first, toNat_toUInt8 (by omega), if_neg (by omega), if_neg (by omega), if_pos (by omega),
    Nat.add_sub_cancel_left]

/-- The least byte that may follow the first of three. -/
def lowAfterThree (n : Nat) : Nat :=
  if n = 0 then 0xA0 else 0x80

/-- The greatest byte that may follow the first of three. -/
def highAfterThree (n : Nat) : Nat :=
  if n = 0xD then 0x9F else 0xBF

theorem first_three {n : Nat} (high : n < 0x10) :
    first (0xE0 + n).toUInt8 = .owed ⟨n, 1, 1, lowAfterThree n, highAfterThree n⟩ := by
  rw [first, toNat_toUInt8 (by omega), if_neg (by omega), if_neg (by omega), if_neg (by omega)]
  by_cases zero : n = 0
  · subst zero
    rfl
  · by_cases surrogate : n = 0xD
    · subst surrogate
      rfl
    · rw [if_neg (by omega), if_neg (by omega), if_pos (by omega), Nat.add_sub_cancel_left,
        lowAfterThree, highAfterThree, if_neg zero, if_neg surrogate]

/-- The least byte that may follow the first of four. -/
def lowAfterFour (n : Nat) : Nat :=
  if n = 0 then 0x90 else 0x80

/-- The greatest byte that may follow the first of four. -/
def highAfterFour (n : Nat) : Nat :=
  if n = 4 then 0x8F else 0xBF

theorem first_four {n : Nat} (high : n < 5) :
    first (0xF0 + n).toUInt8 = .owed ⟨n, 1, 2, lowAfterFour n, highAfterFour n⟩ := by
  rw [first, toNat_toUInt8 (by omega), if_neg (by omega), if_neg (by omega), if_neg (by omega),
    if_neg (by omega), if_neg (by omega), if_neg (by omega)]
  by_cases zero : n = 0
  · subst zero
    rfl
  · by_cases last : n = 4
    · subst last
      rfl
    · rw [if_neg (by omega), if_pos (by omega), Nat.add_sub_cancel_left,
        lowAfterFour, highAfterFour, if_neg zero, if_neg last]

/-! ## Characters and texts -/

/-- The code point of three bytes avoids overlong forms and surrogates. -/
private theorem second_of_three
    {n : Nat}
    (low : 0x800 ≤ n)
    (valid : n < 0xD800 ∨ 0xDFFF < n) :
    lowAfterThree (n / 0x1000) ≤ 0x80 + n / 0x40 % 0x40 ∧
      0x80 + n / 0x40 % 0x40 ≤ highAfterThree (n / 0x1000) := by
  unfold lowAfterThree highAfterThree
  constructor <;> split <;> omega

/-- The code point of four bytes avoids overlong forms and lies in range. -/
private theorem second_of_four
    {n : Nat}
    (low : 0x10000 ≤ n)
    (valid : n < 0x110000) :
    lowAfterFour (n / 0x40000) ≤ 0x80 + n / 0x1000 % 0x40 ∧
      0x80 + n / 0x1000 % 0x40 ≤ highAfterFour (n / 0x40000) := by
  unfold lowAfterFour highAfterFour
  constructor <;> split <;> omega

/-- Strict reading of the bytes of a character yields the character. -/
theorem strictFrom_encodeChar_append
    (index : Nat)
    (c : Char)
    (rest : Bytes) :
    strictFrom index none (encodeChar c ++ rest) =
      (strictFrom (index + (encodeChar c).length) none rest).map (c :: ·) := by
  have valid := toNat_valid c
  have read : ∀ n, n = c.toNat → Char.ofNat n = c := by
    rintro n rfl
    exact Char.ofNat_toNat c
  unfold encodeChar
  by_cases one : c.toNat < 0x80
  · simp only [one, if_true, List.cons_append, List.nil_append, strictFrom, first_one one,
      read _ rfl, List.length_cons, List.length_nil]
  by_cases two : c.toNat < 0x800
  · simp only [one, two, if_true, if_false, List.cons_append, List.nil_append, strictFrom,
      first_two (show 2 ≤ c.toNat / 0x40 by omega) (by omega),
      Pending.next_last (show c.toNat % 0x40 < 0x40 by omega),
      read (c.toNat / 0x40 * 0x40 + c.toNat % 0x40) (by omega),
      List.length_cons, List.length_nil, Nat.add_assoc, Nat.zero_add]
  by_cases three : c.toNat < 0x10000
  · obtain ⟨above, below⟩ := second_of_three (show 0x800 ≤ c.toNat by omega) (by omega)
    simp only [one, two, three, if_true, if_false, List.cons_append, List.nil_append, strictFrom,
      first_three (show c.toNat / 0x1000 < 0x10 by omega),
      Pending.next_more (show c.toNat / 0x40 % 0x40 < 0x40 by omega) above below,
      Pending.next_last (show c.toNat % 0x40 < 0x40 by omega),
      read ((c.toNat / 0x1000 * 0x40 + c.toNat / 0x40 % 0x40) * 0x40 + c.toNat % 0x40) (by omega),
      List.length_cons, List.length_nil, Nat.add_assoc, Nat.zero_add]
  · obtain ⟨above, below⟩ := second_of_four (show 0x10000 ≤ c.toNat by omega) (by omega)
    simp only [one, two, three, if_false, List.cons_append, List.nil_append, strictFrom,
      first_four (show c.toNat / 0x40000 < 5 by omega),
      Pending.next_more (show c.toNat / 0x1000 % 0x40 < 0x40 by omega) above below,
      Pending.next_more (show c.toNat / 0x40 % 0x40 < 0x40 by omega)
        (Nat.le_add_right 0x80 _) (show 0x80 + c.toNat / 0x40 % 0x40 ≤ 0xBF by omega),
      Pending.next_last (show c.toNat % 0x40 < 0x40 by omega),
      read (((c.toNat / 0x40000 * 0x40 + c.toNat / 0x1000 % 0x40) * 0x40 +
        c.toNat / 0x40 % 0x40) * 0x40 + c.toNat % 0x40) (by omega),
      List.length_cons, List.length_nil, Nat.add_assoc, Nat.zero_add]

/-- Strict reading inverts the encoding, wherever it begins. -/
theorem strictFrom_encode (index : Nat) (text : Text) :
    strictFrom index none (encode text) = .ok text := by
  induction text generalizing index with
  | nil => rfl
  | cons c rest inductionHypothesis =>
      have tail := inductionHypothesis (index + (encodeChar c).length)
      rw [encode] at tail ⊢
      rw [List.flatMap_cons, strictFrom_encodeChar_append, tail]
      rfl

/-- Strict reading inverts the encoding. -/
@[simp] theorem strict_encode (text : Text) : strict (encode text) = .ok text :=
  strictFrom_encode 0 text

/-! ## What strict reading accepts -/

/-- The bytes of a character read so far, as the reader remembers them. -/
inductive Begun : Bytes → Pending → Prop
  /-- The first of two bytes. -/
  | oneOfTwo {v : Nat} (low : 2 ≤ v) (high : v < 0x20) :
      Begun [(0xC0 + v).toUInt8] ⟨v, 1, 0, 0x80, 0xBF⟩
  /-- The first of three bytes. -/
  | oneOfThree {v : Nat} (high : v < 0x10) :
      Begun [(0xE0 + v).toUInt8] ⟨v, 1, 1, lowAfterThree v, highAfterThree v⟩
  /-- Two of three bytes. -/
  | twoOfThree {v : Nat} (low : 0x20 ≤ v) (high : v < 0x400) (valid : v < 0x360 ∨ 0x37F < v) :
      Begun [(0xE0 + v / 0x40).toUInt8, (0x80 + v % 0x40).toUInt8] ⟨v, 2, 0, 0x80, 0xBF⟩
  /-- The first of four bytes. -/
  | oneOfFour {v : Nat} (high : v < 5) :
      Begun [(0xF0 + v).toUInt8] ⟨v, 1, 2, lowAfterFour v, highAfterFour v⟩
  /-- Two of four bytes. -/
  | twoOfFour {v : Nat} (low : 0x10 ≤ v) (high : v < 0x110) :
      Begun [(0xF0 + v / 0x40).toUInt8, (0x80 + v % 0x40).toUInt8] ⟨v, 2, 1, 0x80, 0xBF⟩
  /-- Three of four bytes. -/
  | threeOfFour {v : Nat} (low : 0x400 ≤ v) (high : v < 0x4400) :
      Begun [(0xF0 + v / 0x1000).toUInt8, (0x80 + v / 0x40 % 0x40).toUInt8,
        (0x80 + v % 0x40).toUInt8] ⟨v, 3, 0, 0x80, 0xBF⟩

theorem Begun.range
    {prior : Bytes}
    {pending : Pending}
    (begun : Begun prior pending) :
    0x80 ≤ pending.low ∧ pending.high ≤ 0xBF := by
  cases begun <;> simp only [lowAfterThree, highAfterThree, lowAfterFour, highAfterFour] <;>
    constructor <;> (try split) <;> omega

/-- A byte that is not refused inside a character carries six bits. -/
theorem Begun.exists_bits
    {prior : Bytes}
    {pending : Pending}
    (begun : Begun prior pending)
    {byte : UInt8}
    (taken : pending.next byte ≠ .refused) :
    ∃ m, m < 0x40 ∧ pending.low ≤ 0x80 + m ∧ 0x80 + m ≤ pending.high ∧
      byte = (0x80 + m).toUInt8 := by
  obtain ⟨low, high⟩ := begun.range
  by_cases inside : pending.low ≤ byte.toNat ∧ byte.toNat ≤ pending.high
  · refine ⟨byte.toNat - 0x80, by omega, by omega, by omega, ?_⟩
    rw [Nat.add_sub_cancel' (by omega)]
    exact UInt8.ofNat_toNat.symm
  · exact absurd (if_neg inside) taken

/-! ### Encodings of code points by their bits -/

theorem toNat_ofNat {n : Nat} (valid : n < 0xD800 ∨ 0xDFFF < n ∧ n < 0x110000) :
    (Char.ofNat n).toNat = n := by
  rw [Char.ofNat, dif_pos valid]
  rfl

theorem encodeChar_one {n : Nat} (high : n < 0x80) :
    encodeChar (Char.ofNat n) = [n.toUInt8] := by
  rw [encodeChar, toNat_ofNat (by omega), if_pos high]

theorem encodeChar_two {v m : Nat} (low : 2 ≤ v) (high : v < 0x20) (bits : m < 0x40) :
    encodeChar (Char.ofNat (v * 0x40 + m)) = [(0xC0 + v).toUInt8, (0x80 + m).toUInt8] := by
  rw [encodeChar, toNat_ofNat (by omega), if_neg (by omega), if_pos (by omega),
    show (v * 0x40 + m) / 0x40 = v by omega, show (v * 0x40 + m) % 0x40 = m by omega]

theorem encodeChar_three
    {v m : Nat}
    (low : 0x20 ≤ v)
    (high : v < 0x400)
    (valid : v < 0x360 ∨ 0x37F < v)
    (bits : m < 0x40) :
    encodeChar (Char.ofNat (v * 0x40 + m)) =
      [(0xE0 + v / 0x40).toUInt8, (0x80 + v % 0x40).toUInt8, (0x80 + m).toUInt8] := by
  rw [encodeChar, toNat_ofNat (by omega), if_neg (by omega), if_neg (by omega),
    if_pos (by omega), show (v * 0x40 + m) / 0x1000 = v / 0x40 by omega,
    show (v * 0x40 + m) / 0x40 = v by omega, show (v * 0x40 + m) % 0x40 = m by omega]

theorem encodeChar_four
    {v m : Nat}
    (low : 0x400 ≤ v)
    (high : v < 0x4400)
    (bits : m < 0x40) :
    encodeChar (Char.ofNat (v * 0x40 + m)) =
      [(0xF0 + v / 0x1000).toUInt8, (0x80 + v / 0x40 % 0x40).toUInt8,
        (0x80 + v % 0x40).toUInt8, (0x80 + m).toUInt8] := by
  rw [encodeChar, toNat_ofNat (by omega), if_neg (by omega), if_neg (by omega),
    if_neg (by omega), show (v * 0x40 + m) / 0x40000 = v / 0x1000 by omega,
    show (v * 0x40 + m) / 0x1000 = v / 0x40 by omega,
    show (v * 0x40 + m) / 0x40 = v by omega, show (v * 0x40 + m) % 0x40 = m by omega]

/-! ### Steps of the reader -/

/-- What a step has to be after some bytes were taken. -/
def Step.Reads (bytes : Bytes) : Step → Prop
  | .complete c => encodeChar c = bytes
  | .owed pending => Begun bytes pending
  | .refused => True

/-- The first byte of a character is read as it should be. -/
theorem reads_first (byte : UInt8) : (first byte).Reads [byte] := by
  have whole (n : Nat) (equal : byte.toNat = n) : n.toUInt8 = byte := by
    rw [← equal]
    exact UInt8.ofNat_toNat
  have bound : byte.toNat < 0x100 := byte.toNat_lt
  by_cases one : byte.toNat < 0x80
  · rw [← whole _ rfl, first_one one]
    exact encodeChar_one one
  by_cases refused : byte.toNat < 0xC2
  · rw [first, if_neg one, if_pos refused]
    trivial
  by_cases two : byte.toNat < 0xE0
  · rw [← whole (0xC0 + (byte.toNat - 0xC0)) (by omega), first_two (by omega) (by omega)]
    exact .oneOfTwo (by omega) (by omega)
  by_cases three : byte.toNat < 0xF0
  · rw [← whole (0xE0 + (byte.toNat - 0xE0)) (by omega), first_three (by omega)]
    exact .oneOfThree (by omega)
  by_cases four : byte.toNat < 0xF5
  · rw [← whole (0xF0 + (byte.toNat - 0xF0)) (by omega), first_four (by omega)]
    exact .oneOfFour (by omega)
  · rw [first, if_neg one, if_neg refused, if_neg two, if_neg (by omega), if_neg (by omega),
      if_neg (by omega), if_neg (by omega), if_neg (by omega), if_neg (by omega)]
    trivial

/-- Every further byte of a character is read as it should be. -/
theorem Begun.reads_next
    {prior : Bytes}
    {pending : Pending}
    (begun : Begun prior pending)
    (byte : UInt8) :
    (pending.next byte).Reads (prior ++ [byte]) := by
  by_cases refused : pending.next byte = .refused
  · rw [refused]
    trivial
  obtain ⟨m, bits, above, below, rfl⟩ := begun.exists_bits refused
  cases begun with
  | oneOfTwo low high =>
      rw [Pending.next_last bits]
      exact encodeChar_two low high bits
  | @oneOfThree v high =>
      rw [Pending.next_more bits above below]
      simp only [lowAfterThree, highAfterThree] at above below
      have reads : Begun _ ⟨v * 0x40 + m, 2, 0, 0x80, 0xBF⟩ :=
        .twoOfThree (by split at above <;> omega) (by omega) (by split at below <;> omega)
      rwa [show (v * 0x40 + m) / 0x40 = v by omega,
        show (v * 0x40 + m) % 0x40 = m by omega] at reads
  | twoOfThree low high valid =>
      rw [Pending.next_last bits]
      exact encodeChar_three low high valid bits
  | @oneOfFour v high =>
      rw [Pending.next_more bits above below]
      simp only [lowAfterFour, highAfterFour] at above below
      have reads : Begun _ ⟨v * 0x40 + m, 2, 1, 0x80, 0xBF⟩ :=
        .twoOfFour (by split at above <;> omega) (by split at below <;> omega)
      rwa [show (v * 0x40 + m) / 0x40 = v by omega,
        show (v * 0x40 + m) % 0x40 = m by omega] at reads
  | @twoOfFour v low high =>
      rw [Pending.next_more bits above below]
      have reads : Begun _ ⟨v * 0x40 + m, 3, 0, 0x80, 0xBF⟩ := .threeOfFour (by omega) (by omega)
      rwa [show (v * 0x40 + m) / 0x1000 = v / 0x40 by omega,
        show (v * 0x40 + m) / 0x40 = v by omega, show (v * 0x40 + m) % 0x40 = m by omega] at reads
  | threeOfFour low high =>
      rw [Pending.next_last bits]
      exact encodeChar_four low high bits

/-- The bytes of the character in which a reader stands. -/
def Stands (prior : Bytes) : Option Pending → Prop
  | none => prior = []
  | some pending => Begun prior pending

theorem stands_none : Stands [] none := rfl

/-- What strict reading makes of the bytes after a step. -/
def Step.thenStrict (index : Nat) (rest : Bytes) (fault : Fault) : Step → Except Fault Text
  | .complete c => (strictFrom index none rest).map (c :: ·)
  | .owed pending => strictFrom index (some pending) rest
  | .refused => .error fault

/-- A step that agrees with the bytes taken, before bytes that are read as they should be,
is as it should be. -/
theorem Step.Reads.encode_of_thenStrict
    {taken : Step}
    {bytes rest : Bytes}
    {index : Nat}
    {fault : Fault}
    {text : Text}
    (reads : taken.Reads bytes)
    (later : ∀ {prior place text}, Stands prior place →
      strictFrom index place rest = .ok text → encode text = prior ++ rest)
    (accepted : taken.thenStrict index rest fault = .ok text) :
    encode text = bytes ++ rest := by
  cases taken with
  | refused => cases accepted
  | owed pending =>
      have begun : Stands bytes (some pending) := reads
      exact later begun accepted
  | complete c =>
      rw [thenStrict] at accepted
      cases read : strictFrom index none rest with
      | error fault =>
          rw [read] at accepted
          cases accepted
      | ok tail =>
          rw [read] at accepted
          cases accepted
          rw [encode, List.flatMap_cons, ← encode, later stands_none read, List.nil_append]
          exact congrArg (· ++ rest) reads

/-- What strict reading accepts, with the bytes read before, is the encoding of what is
read. -/
theorem encode_of_strictFrom
    {prior bytes : Bytes}
    {place : Option Pending}
    {index : Nat}
    {text : Text}
    (stands : Stands prior place)
    (accepted : strictFrom index place bytes = .ok text) :
    encode text = prior ++ bytes := by
  induction bytes generalizing prior place index text with
  | nil =>
      cases place with
      | some pending => cases accepted
      | none =>
          cases accepted
          obtain rfl : prior = [] := stands
          rfl
  | cons byte rest inductionHypothesis =>
      rw [List.append_cons]
      cases place with
      | none =>
          obtain rfl : prior = [] := stands
          exact (reads_first byte).encode_of_thenStrict inductionHypothesis accepted
      | some pending =>
          have begun : Begun prior pending := stands
          exact (begun.reads_next byte).encode_of_thenStrict inductionHypothesis accepted

/-- Strict reading accepts nothing but encodings. -/
theorem encode_of_strict
    {bytes : Bytes}
    {text : Text}
    (accepted : strict bytes = .ok text) :
    encode text = bytes :=
  encode_of_strictFrom stands_none accepted

/-! ## Texts put together -/

@[simp] theorem encode_append (first second : Text) :
    encode (first ++ second) = encode first ++ encode second :=
  List.flatMap_append

/-- The encoding of a text begins with those of its beginnings. -/
theorem encode_prefix_encode
    {first text : Text}
    (beginning : first <+: text) :
    encode first <+: encode text := by
  obtain ⟨second, rfl⟩ := beginning
  rw [encode_append]
  exact List.prefix_append _ _

/-- The bytes of longer encodings are high, so a low byte is its character. -/
theorem toNat_eq_of_mem_encodeChar
    {c : Char}
    {byte : UInt8}
    (present : byte ∈ encodeChar c)
    (low : byte.toNat < 0x80) :
    c.toNat = byte.toNat := by
  have bound : c.toNat < 0x110000 := by
    have := toNat_valid c
    omega
  have high {n : Nat} (least : 0x80 ≤ n) (byteSized : n < 0x100) : byte ≠ n.toUInt8 := by
    rintro rfl
    rw [toNat_toUInt8 byteSized] at low
    omega
  unfold encodeChar at present
  dsimp only at present
  split at present
  · cases List.mem_singleton.mp present
    rw [toNat_toUInt8 (by omega)]
  split at present
  · simp only [List.mem_cons, List.not_mem_nil, or_false] at present
    rcases present with same | same <;> exact absurd same (high (by omega) (by omega))
  split at present
  · simp only [List.mem_cons, List.not_mem_nil, or_false] at present
    rcases present with same | same | same <;> exact absurd same (high (by omega) (by omega))
  · simp only [List.mem_cons, List.not_mem_nil, or_false] at present
    rcases present with same | same | same | same <;>
      exact absurd same (high (by omega) (by omega))

theorem encodeChar_ne_nil (c : Char) : encodeChar c ≠ [] := by
  unfold encodeChar
  dsimp only
  repeat' split
  all_goals exact List.cons_ne_nil _ _

end Utf8
end Turnwise
