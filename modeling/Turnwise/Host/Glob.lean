import Turnwise.Host.Octets

/-!
# Glob patterns

The patterns of a command language, matched against a whole text: a question mark
stands for one character, a star for any number of them, and brackets for one of
a set.  A quoted character stands for itself.
-/

namespace Turnwise
namespace Host

/-- A set of characters, as ranges, or everything outside them. -/
structure CharSet where
  /-- Whether the set holds what is outside the ranges. -/
  negated : Bool
  /-- The ranges. -/
  ranges : List (Char × Char)
  deriving DecidableEq, Repr

namespace CharSet

/-- Whether a character is in the set. -/
def contains (set : CharSet) (c : Char) : Bool :=
  set.negated != set.ranges.any fun range => range.1 ≤ c && c ≤ range.2

/-- The ranges of a named class. -/
def classRanges? (name : Text) : Option (List (Char × Char)) :=
  match String.ofList name with
  | "alpha" => some [('a', 'z'), ('A', 'Z')]
  | "digit" => some [('0', '9')]
  | "alnum" => some [('a', 'z'), ('A', 'Z'), ('0', '9')]
  | "upper" => some [('A', 'Z')]
  | "lower" => some [('a', 'z')]
  | "space" => some [(' ', ' '), ('\t', '\r')]
  | "blank" => some [(' ', ' '), ('\t', '\t')]
  | "punct" => some [('!', '/'), (':', '@'), ('[', '\x60'), ('\x7b', '~')]
  | "cntrl" => some [('\x00', '\x1f'), ('\x7f', '\x7f')]
  | "print" => some [(' ', '~')]
  | "graph" => some [('!', '~')]
  | "xdigit" => some [('0', '9'), ('a', 'f'), ('A', 'F')]
  | _ => none

/-- The same set without regard to the case of letters. -/
def folded (set : CharSet) : CharSet :=
  { set with
    ranges := set.ranges ++
      (((List.range 26).map fun k => (Char.ofNat (97 + k), Char.ofNat (65 + k))).flatMap
        fun (small, capital) =>
          let bare : CharSet := ⟨false, set.ranges⟩
          if bare.contains small || bare.contains capital then
            [(small, small), (capital, capital)]
          else []) }

end CharSet

namespace Glob

/-- One part of a pattern. -/
inductive Item where
  /-- This character. -/
  | exactly (c : Char)
  /-- Any one character. -/
  | one
  /-- Any number of characters. -/
  | many
  /-- One character of a set. -/
  | oneOf (set : CharSet)
  deriving DecidableEq, Repr

/-- A character of a pattern, with whether it is quoted. -/
abbrev Mark := Char × Bool

/-- How a set of characters is read. -/
inductive Manner where
  /-- An exclamation mark or a caret turns a set around, and characters are in the order of
  their numbers. -/
  | common
  /-- Only an exclamation mark turns a set around, and the upper half of the octets comes
  before the lower. -/
  | signed
  deriving DecidableEq, Repr

namespace Manner

/-- The characters from one to another. -/
def between (manner : Manner) (low high : Char) : List (Char × Char) :=
  let isUpper (c : Char) : Bool := 0x80 ≤ c.toNat
  match manner, isUpper low, isUpper high with
  | .signed, true, false => [(low, '\xff'), ('\x00', high)]
  | .signed, false, true => []
  | _, _, _ => [(low, high)]

end Manner

/-- The name of a class and what follows it, at the place of a bracket and a colon. -/
def className? (marks : List Mark) : Option (List (Char × Char) × List Mark) := do
  let text := marks.map (·.1)
  let (name, _) ← Text.cutAt? [':', ']'] text
  let ranges ← CharSet.classRanges? name
  return (ranges, marks.drop (name.length + 2))

/-- A member at the beginning of the rest of a set: a backslash protects what follows. -/
def member? : List Mark → Option (Char × List Mark)
  | [] => none
  | ('\\', false) :: (c, _) :: rest => some (c, rest)
  | (c, _) :: rest => some (c, rest)

/-- Read the members of a set up to the closing bracket. -/
def membersUpTo? (manner : Manner) :
    (limit : Nat) → (first : Bool) → List Mark → Option (List (Char × Char) × List Mark)
  | 0, _, _ => none
  | limit + 1, first, marks => do
      if !first then
        if let (']', false) :: rest := marks then return ([], rest)
      let named : Option (List (Char × Char) × List Mark) :=
        match marks with
        | ('[', false) :: (':', false) :: inside => className? inside
        | _ => none
      match named with
      | some (ranges, rest) => do
          let (others, rest) ← membersUpTo? manner limit false rest
          return (ranges ++ others, rest)
      | none => do
          let (low, rest) ← member? marks
          let (ranges, rest) ←
            match rest with
            | ('-', false) :: (']', false) :: _ => pure ([(low, low)], rest)
            | ('-', false) :: after => do
                let (high, rest) ← member? after
                pure (manner.between low high, rest)
            | rest => pure ([(low, low)], rest)
          let (others, rest) ← membersUpTo? manner limit false rest
          return (ranges ++ others, rest)

/-- Read a set after its opening bracket; a closing bracket that comes first is a
member. -/
def set? (manner : Manner) (marks : List Mark) : Option (CharSet × List Mark) := do
  let (negated, rest) :=
    match manner, marks with
    | _, ('!', false) :: rest => (true, rest)
    | .common, ('^', false) :: rest => (true, rest)
    | _, rest => (false, rest)
  let (ranges, rest) ← membersUpTo? manner (rest.length + 1) true rest
  return (⟨negated, ranges⟩, rest)

/-- Read a pattern from characters, each with whether it is quoted. -/
def parse (manner : Manner) : (limit : Nat) → List Mark → List Item
  | 0, _ => []
  | _ + 1, [] => []
  | limit + 1, (c, true) :: rest => .exactly c :: parse manner limit rest
  | limit + 1, ('*', false) :: rest => .many :: parse manner limit rest
  | limit + 1, ('?', false) :: rest => .one :: parse manner limit rest
  | limit + 1, ('[', false) :: rest =>
      match set? manner rest with
      | some (set, tail) => .oneOf set :: parse manner limit tail
      | none => .exactly '[' :: parse manner limit rest
  | limit + 1, ('\\', false) :: (c, false) :: rest => .exactly c :: parse manner limit rest
  | limit + 1, (c, false) :: rest => .exactly c :: parse manner limit rest

/-- The pattern that marks make up. -/
def ofMarks (manner : Manner) (marks : List Mark) : List Item :=
  parse manner (marks.length + 1) marks

/-- The pattern that an unquoted text makes up. -/
def ofText (text : Octets) : List Item :=
  ofMarks .common (text.map fun c => (c, false))

/-- The ends of a text, the whole text first. -/
def ends : Text → List Text
  | [] => [[]]
  | c :: rest => (c :: rest) :: ends rest

/-- Whether a pattern matches a whole text. -/
def isMatch : List Item → Text → Bool
  | [], text => text.isEmpty
  | [.many], _ => true
  | .many :: items, text => (ends text).any (isMatch items)
  | .exactly c :: items, d :: rest => c == d && isMatch items rest
  | .one :: items, _ :: rest => isMatch items rest
  | .oneOf set :: items, d :: rest => set.contains d && isMatch items rest
  | _ :: _, [] => false

/-- Whether a pattern has parts other than characters that stand for themselves. -/
def isActive (items : List Item) : Bool :=
  items.any fun item =>
    match item with
    | .exactly _ => false
    | _ => true

/-- A pattern that is still to be matched, with the number of its parts. -/
structure Left where
  /-- The number of its parts. -/
  size : Nat
  /-- Its parts. -/
  items : List Item

namespace Left

/-- The patterns that are left when parts that can stand for nothing do so. -/
def openings : (size : Nat) → List Item → List Left
  | size, .many :: items => ⟨size, .many :: items⟩ :: openings (size - 1) items
  | size, items => [⟨size, items⟩]

/-- The patterns that are left after a character. -/
def step (c : Char) (left : Left) : List Left :=
  let next (matching : Bool) (items : List Item) : List Left :=
    if matching then openings (left.size - 1) items else []
  match left.items with
  | [] => []
  | .many :: items => openings left.size (.many :: items)
  | .exactly d :: items => next (c == d) items
  | .one :: items => next true items
  | .oneOf set :: items => next (set.contains c) items

/-- Keep one of each pattern. -/
def distinct (lefts : List Left) : List Left :=
  lefts.foldr (fun left kept => if kept.any (·.size == left.size) then kept else left :: kept) []

end Left

/-- Add a length when one of the patterns is matched as a whole. -/
def noteLength (lefts : List Left) (count : Nat) (found : List Nat) : List Nat :=
  if lefts.any (·.items.isEmpty) then count :: found else found

/-- The lengths, counted from a number and the longest first, of the beginnings of a text
that the patterns match. -/
def lengths : (lefts : List Left) → (count : Nat) → (found : List Nat) → Text → List Nat
  | lefts, count, found, [] => noteLength lefts count found
  | lefts, count, found, c :: rest =>
      if lefts.isEmpty then found
      else
        lengths (Left.distinct (lefts.flatMap (Left.step c))) (count + 1)
          (noteLength lefts count found) rest

/-- The lengths of the beginnings of a text that a pattern matches, the longest first. -/
def matchLengths (items : List Item) (text : Octets) : List Nat :=
  lengths (Left.openings items.length items) 0 [] text

/-- The length of the shortest or longest beginning of a text that a pattern matches. -/
def matchLength? (longest : Bool) (items : List Item) (text : Octets) : Option Nat :=
  if longest then (matchLengths items text).head? else (matchLengths items text).getLast?

/-- Take away the shortest or longest beginning of a text that matches a pattern. -/
def dropStart (longest : Bool) (items : List Item) (text : Octets) : Octets :=
  text.drop ((matchLength? longest items text).getD 0)

/-- Take away the shortest or longest end of a text that matches a pattern: its beginning,
seen from the end. -/
def dropEnd (longest : Bool) (items : List Item) (text : Octets) : Octets :=
  (dropStart longest items.reverse text.reverse).reverse

end Glob
end Host
end Turnwise
