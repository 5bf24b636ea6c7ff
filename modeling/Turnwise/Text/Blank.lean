/-!
# Text and blank characters

A text is a list of characters.  Everything a session reads, composes or shows
is a text, and every rule about it is a rule about characters and lines.

The blank characters are the characters with the Unicode property `White_Space`.
-/

namespace Turnwise

/-- A text is the list of its characters. -/
abbrev Text := List Char

namespace Text

/-- The ranges of code points with the Unicode property `White_Space`. -/
def blankRanges : List (Nat × Nat) :=
  [(0x09, 0x0D), (0x20, 0x20), (0x85, 0x85), (0xA0, 0xA0), (0x1680, 0x1680),
    (0x2000, 0x200A), (0x2028, 0x2029), (0x202F, 0x202F), (0x205F, 0x205F),
    (0x3000, 0x3000)]

/-- A character is blank when its code point lies in one of the blank ranges. -/
def isBlank (c : Char) : Bool :=
  blankRanges.any fun range => range.1 ≤ c.toNat && c.toNat ≤ range.2

/-- A text is blank when all its characters are. -/
def blank (text : Text) : Bool :=
  text.all isBlank

/-- Drop the longest run of characters at the end that satisfy a test. -/
def dropEndWhile (test : Char → Bool) (text : Text) : Text :=
  (text.reverse.dropWhile test).reverse

/-- Drop the blank characters at the end. -/
def trimEnd (text : Text) : Text :=
  text.dropEndWhile isBlank

/-- Drop the blank characters at both ends. -/
def trim (text : Text) : Text :=
  trimEnd (text.dropWhile isBlank)

/-- Drop one final character when it is the given one. -/
def dropFinal (final : Char) (text : Text) : Text :=
  match text.getLast? with
  | some last => if last = final then text.dropLast else text
  | none => []

/-- What follows a given beginning, when the text begins so. -/
def after? (beginning text : Text) : Option Text :=
  beginning.isPrefixOf? text

/-- What precedes a given ending, when the text ends so. -/
def upTo? (ending text : Text) : Option Text :=
  (ending.reverse.isPrefixOf? text.reverse).map List.reverse

/-- Whether the text begins with the given characters. -/
def beginsWith (beginning text : Text) : Bool :=
  beginning.isPrefixOf text

/-- Whether the text ends with the given character. -/
def endsIn (final : Char) (text : Text) : Bool :=
  text.getLast? == some final

/-- Whether the given characters stand somewhere in the text, side by side. -/
def occursIn (pattern : Text) : Text → Bool
  | [] => pattern.isEmpty
  | c :: rest => pattern.isPrefixOf (c :: rest) || occursIn pattern rest

/-- The text before and after the first place where a pattern stands. -/
def cutAt? (pattern : Text) : Text → Option (Text × Text)
  | [] => if pattern.isEmpty then some ([], []) else none
  | c :: rest =>
      match pattern.isPrefixOf? (c :: rest) with
      | some tail => some ([], tail)
      | none => (cutAt? pattern rest).map fun (before, tail) => (c :: before, tail)

end Text
end Turnwise
