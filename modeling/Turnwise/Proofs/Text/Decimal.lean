import Turnwise.Text.Decimal

/-!
# Numerals

A numeral is a run of digits, so it stands on one line, and it denotes the number that it was
written for.
-/

namespace Turnwise
namespace Text

theorem isDigit_of_mem_ofNat
    {n : Nat}
    {c : Char}
    (present : c ∈ ofNat n) :
    c.isDigit = true :=
  Nat.isDigit_of_mem_toDigits (by decide) (by decide) present

/-- A numeral denotes the number it was written for. -/
@[simp] theorem digits?_ofNat (n : Nat) : digits? (ofNat n) = some n := by
  have nonempty : (ofNat n).isEmpty = false := by
    rw [List.isEmpty_eq_false_iff]
    exact Nat.toDigits_ne_nil
  have every : (ofNat n).all Char.isDigit = true := by
    rw [List.all_eq_true]
    exact fun c present => isDigit_of_mem_ofNat present
  rw [digits?, nonempty, every, ofNat, Nat.ofDigitChars_ten_toDigits]
  rfl

theorem newline_not_mem_ofNat (n : Nat) : '\n' ∉ ofNat n := fun present =>
  absurd (isDigit_of_mem_ofNat present) (by decide)

theorem newline_not_mem_ofInt (value : Int) : '\n' ∉ ofInt value := by
  cases value with
  | ofNat n => exact newline_not_mem_ofNat n
  | negSucc n =>
      intro present
      rcases List.mem_cons.mp present with sign | rest
      · cases sign
      · exact newline_not_mem_ofNat _ rest

end Text
end Turnwise
