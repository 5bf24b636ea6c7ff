import Turnwise.Host.Machine
import Turnwise.Proofs.Output.Rows
import Turnwise.Proofs.Text.Utf8

/-!
# Newlines among bytes

What a program prints are bytes, and its lines are counted in the text that lenient reading
makes of them.  Inside a character no byte below `0x80` may follow, so a newline is refused
there and then read as itself, however ill-formed the bytes before it are.  Conversely no
other byte is read as a newline.  Lenient reading therefore reads each line by itself.
-/

namespace Turnwise
namespace Utf8

/-- The byte that ends a line. -/
def newline : UInt8 := 0x0A

/-! ## One byte -/

theorem first_newline : first newline = .complete '\n' := rfl

/-- No character goes on with a newline. -/
theorem Begun.next_newline
    {prior : Bytes}
    {pending : Pending}
    (begun : Begun prior pending) :
    pending.next newline = .refused := by
  have below : ¬(pending.low ≤ newline.toNat ∧ newline.toNat ≤ pending.high) := by
    have low := begun.range.1
    have small : newline.toNat = 0x0A := rfl
    omega
  rw [Pending.next, if_neg below]

/-- What lenient reading makes of the bytes after a step. -/
def Step.thenLenient (rest : Bytes) : Step → Text
  | .complete c => c :: lenientFrom none rest
  | .owed pending => lenientFrom (some pending) rest
  | .refused => replacement :: lenientFrom none rest

theorem lenientFrom_none_cons
    (byte : UInt8)
    (rest : Bytes) :
    lenientFrom none (byte :: rest) = (first byte).thenLenient rest := by
  rw [lenientFrom]
  cases first byte <;> rfl

/-- A byte that is refused inside a character is read again, as the first of another. -/
theorem lenientFrom_some_cons
    (pending : Pending)
    (byte : UInt8)
    (rest : Bytes) :
    lenientFrom (some pending) (byte :: rest) =
      if pending.next byte = .refused then replacement :: (first byte).thenLenient rest
      else (pending.next byte).thenLenient rest := by
  rw [lenientFrom]
  cases pending.next byte with
  | complete c => rfl
  | owed pending => rfl
  | refused =>
      rw [if_pos rfl]
      cases first byte <;> rfl

/-! ## Lines -/

/-- Lenient reading begins anew after a newline, wherever it begins. -/
theorem lenientFrom_append_newline
    {prior : Bytes}
    {place : Option Pending}
    (stands : Stands prior place)
    (bytes rest : Bytes) :
    lenientFrom place (bytes ++ newline :: rest) =
      lenientFrom place bytes ++ '\n' :: lenientFrom none rest := by
  induction bytes generalizing prior place with
  | nil =>
      cases place with
      | none =>
          rw [List.nil_append, lenientFrom_none_cons, first_newline]
          rfl
      | some pending =>
          have begun : Begun prior pending := stands
          rw [List.nil_append, lenientFrom_some_cons, begun.next_newline, if_pos rfl,
            first_newline]
          rfl
  | cons byte bytes inductionHypothesis =>
      have onward {taken : Step} {prior : Bytes} (reads : taken.Reads prior) :
          taken.thenLenient (bytes ++ newline :: rest) =
            taken.thenLenient bytes ++ '\n' :: lenientFrom none rest := by
        cases taken with
        | complete c => exact congrArg (c :: ·) (inductionHypothesis stands_none)
        | owed pending =>
            have begun : Stands prior (some pending) := reads
            exact inductionHypothesis begun
        | refused => exact congrArg (replacement :: ·) (inductionHypothesis stands_none)
      cases place with
      | none =>
          rw [List.cons_append, lenientFrom_none_cons, lenientFrom_none_cons,
            onward (reads_first byte)]
      | some pending =>
          have begun : Begun prior pending := stands
          rw [List.cons_append, lenientFrom_some_cons, lenientFrom_some_cons]
          split
          · rw [onward (reads_first byte), List.cons_append]
          · exact onward (begun.reads_next byte)

/-- Bytes without newlines are read as a text without newlines, wherever reading begins. -/
theorem newline_not_mem_lenientFrom
    {prior bytes : Bytes}
    {place : Option Pending}
    (stands : Stands prior place)
    (absent : newline ∉ bytes) :
    '\n' ∉ lenientFrom place bytes := by
  induction bytes generalizing prior place with
  | nil =>
      cases place with
      | none => exact List.not_mem_nil
      | some pending =>
          have replaced : '\n' ∉ [replacement] := by decide
          exact replaced
  | cons byte bytes inductionHypothesis =>
      have other : byte ≠ newline := fun equal => absent (equal ▸ List.mem_cons_self)
      have later {prior : Bytes} {place : Option Pending} (stands : Stands prior place) :
          '\n' ∉ lenientFrom place bytes :=
        inductionHypothesis stands fun present => absent (List.mem_cons_of_mem byte present)
      have onward {taken : Step} (prior : Bytes) (reads : taken.Reads (prior ++ [byte])) :
          '\n' ∉ taken.thenLenient bytes := by
        cases taken with
        | owed pending =>
            have begun : Stands (prior ++ [byte]) (some pending) := reads
            exact later begun
        | refused => exact List.not_mem_cons_of_ne_of_not_mem (by decide) (later stands_none)
        | complete c =>
            -- The encoding of a newline is the one byte that was not read.
            have visible : '\n' ≠ c := by
              rintro rfl
              have encoded : [] ++ [newline] = prior ++ [byte] := reads
              exact other (List.head_eq_of_cons_eq (List.append_inj_right' encoded rfl)).symm
            exact List.not_mem_cons_of_ne_of_not_mem visible (later stands_none)
      cases place with
      | none =>
          rw [lenientFrom_none_cons]
          exact onward [] (reads_first byte)
      | some pending =>
          have begun : Begun prior pending := stands
          rw [lenientFrom_some_cons]
          split
          · exact List.not_mem_cons_of_ne_of_not_mem (by decide)
              (onward [] (reads_first byte))
          · exact onward prior (begun.reads_next byte)

theorem lenient_append_newline (bytes rest : Bytes) :
    lenient (bytes ++ newline :: rest) = lenient bytes ++ '\n' :: lenient rest :=
  lenientFrom_append_newline stands_none bytes rest

/-- Lines of bytes are read one by one. -/
theorem lenient_intercalate (lines : List Bytes) :
    lenient ([newline].intercalate lines) = Text.joinWith ['\n'] (lines.map lenient) := by
  induction lines with
  | nil => rfl
  | cons line rest inductionHypothesis =>
      cases rest with
      | nil => simp [Text.joinWith]
      | cons next rest =>
          rw [Text.joinWith, List.map_cons] at inductionHypothesis
          rw [Text.joinWith, List.map_cons, List.map_cons, List.intercalate_cons_cons,
            List.intercalate_cons_cons, List.append_assoc, List.append_assoc,
            List.singleton_append, List.singleton_append, lenient_append_newline,
            inductionHypothesis]

/-- The pieces of the text that is read are the lines of the bytes, each read by itself. -/
theorem pieces_lenient (bytes : Bytes) :
    (lenient bytes).pieces = (bytes.splitOn newline).map lenient := by
  have newlineFree : ∀ line ∈ (bytes.splitOn newline).map lenient, '\n' ∉ line := by
    intro line present
    obtain ⟨part, inside, rfl⟩ := List.mem_map.mp present
    exact newline_not_mem_lenientFrom stands_none (Text.not_mem_of_mem_splitOn inside)
  have nonempty : (bytes.splitOn newline).map lenient ≠ [] := by
    rw [ne_eq, List.map_eq_nil_iff]
    exact List.splitOn_ne_nil newline bytes
  have whole : [newline].intercalate (bytes.splitOn newline) = bytes :=
    List.intercalate_splitOn newline
  conv_lhs => rw [← whole, lenient_intercalate]
  exact Text.pieces_joinWith newlineFree nonempty

/-- Lenient reading neither loses nor makes newlines. -/
theorem newlineCount_lenient (bytes : Bytes) :
    (lenient bytes).newlineCount = bytes.count newline := by
  have lines := Text.length_pieces (lenient bytes)
  rw [pieces_lenient, List.length_map, Text.length_splitOn] at lines
  exact (Nat.add_right_cancel lines).symm

/-! ## Slices -/

/-- The bytes after a number of newlines; none when there are fewer. -/
def afterNewlines (bytes : Bytes) (count : Nat) : Bytes :=
  [newline].intercalate ((bytes.splitOn newline).drop count)

theorem sliceFrom_lenient
    (bytes : Bytes)
    (offset : Nat) :
    Output.sliceFrom (lenient bytes) offset = lenient (afterNewlines bytes offset) := by
  rw [Output.sliceFrom_eq_joinWith_pieces, pieces_lenient, ← List.map_drop, afterNewlines,
    lenient_intercalate]

end Utf8

open Utf8 (lenient newline afterNewlines)

/-- However ill-formed bytes are, the text that lenient reading makes of them has just their
newlines, and slicing that text at a number of newlines leaves what lenient reading makes of
the bytes after as many.  What a program printed has the newlines of its output and of its
errors. -/
theorem Output.newlines_of_lenient :
    (∀ (bytes : Bytes) (offset : Nat),
      (lenient bytes).newlineCount = bytes.count newline ∧
      sliceFrom (lenient bytes) offset = lenient (afterNewlines bytes offset)) ∧
    ∀ completion : Host.Completion,
      completion.combined.newlineCount =
        completion.output.count newline + completion.errors.count newline := by
  refine ⟨fun bytes offset => ?_, fun completion => ?_⟩
  · exact ⟨Utf8.newlineCount_lenient bytes, Utf8.sliceFrom_lenient bytes offset⟩
  · rw [Host.Completion.combined, Text.newlineCount_append, Utf8.newlineCount_lenient,
      Utf8.newlineCount_lenient]

/-- A character of three bytes is cut off by a newline, and another begins after it. -/
example :
    let bytes : Bytes := [0x61, 0xE2, 0x82, 0x0A, 0xC3, 0xA9, 0xED, 0xA0, 0x0A]
    lenient bytes = "a\uFFFD\né\uFFFD\uFFFD\n".toList ∧
    afterNewlines bytes 1 = [0xC3, 0xA9, 0xED, 0xA0, 0x0A] ∧
    afterNewlines bytes 2 = [] ∧
    afterNewlines bytes 3 = [] := by
  decide

end Turnwise
