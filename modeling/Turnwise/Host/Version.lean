import Turnwise.Host.Octets

/-!
# The order of versions

Names that differ in numbers are in the order of the numbers.  Letters come before other
characters, a tilde before all, even before the end of a name, and names of hidden files
before other names.  The endings of file names only count if the names are equal without
them.
-/

namespace Turnwise
namespace Host
namespace Version

/-- The rank of the character that a text begins with; digits rank alike. -/
def rank : Octets → Int
  | [] => -1
  | c :: _ =>
      if c.isDigit then 0
      else if c.isAlpha then c.toNat
      else if c = '~' then -2
      else c.toNat + 256

/-- Whether a text begins with a character that is no digit. -/
def beginsOtherwise : Octets → Bool
  | [] => false
  | c :: _ => !c.isDigit

/-- Compare the characters before numbers; the rests begin with digits or are empty if no
difference is found. -/
def compareTexts : Octets → Octets → Except Ordering (Octets × Octets)
  | a :: first, b :: second =>
      if a.isDigit && b.isDigit then .ok (a :: first, b :: second)
      else
        match compare (rank (a :: first)) (rank (b :: second)) with
        | .eq => compareTexts first second
        | different => .error different
  | first, second =>
      if beginsOtherwise first || beginsOtherwise second then
        .error (compare (rank first) (rank second))
      else .ok (first, second)

/-- Compare texts in which runs of digits count as numbers; the limit bounds the number of
runs. -/
def compareRuns : (limit : Nat) → Octets → Octets → Ordering
  | 0, _, _ => .eq
  | limit + 1, first, second =>
      if first.isEmpty && second.isEmpty then .eq
      else
        match compareTexts first second with
        | .error different => different
        | .ok (first, second) =>
            let value (text : Octets) : Nat := Nat.ofDigitChars 10 (text.takeWhile Char.isDigit) 0
            match compare (value first) (value second) with
            | .eq =>
                compareRuns limit (first.dropWhile Char.isDigit) (second.dropWhile Char.isDigit)
            | different => different

/-- Whether a text is made of endings of file names: each a point, a letter or a tilde, and
more letters, digits and tildes.  The limit bounds their number. -/
def isEndings : (limit : Nat) → Octets → Bool
  | _, [] => true
  | limit + 1, '.' :: c :: rest =>
      (c.isAlpha || c = '~') && isEndings limit (rest.dropWhile fun c => c.isAlphanum || c = '~')
  | _, _ => false

/-- A name, which is not empty, without its endings. -/
def stem : Octets → Octets
  | [] => []
  | c :: rest => if isEndings rest.length rest then [c] else c :: stem rest

/-- The rank of a name among those of hidden files and others. -/
def hiddenRank : Octets → Nat
  | [] => 0
  | ['.'] => 1
  | ['.', '.'] => 2
  | '.' :: _ => 3
  | _ => 4

/-- Compare two names. -/
def order (first second : Octets) : Ordering :=
  match compare (hiddenRank first) (hiddenRank second) with
  | .eq =>
      let compared (first second : Octets) : Ordering :=
        compareRuns (first.length + second.length + 1) first second
      match compared (stem first) (stem second) with
      | .eq => compared first second
      | different => different
  | different => different

end Version
end Host
end Turnwise
