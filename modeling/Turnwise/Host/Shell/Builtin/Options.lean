import Turnwise.Host.Shell.State

/-!
# Options of builtin commands

Options stand before the operands of a builtin command, each a letter after a dash;
several letters may follow one dash, and some take an argument.
-/

namespace Turnwise
namespace Host
namespace Shell

/-- An option with its argument. -/
structure Chosen where
  /-- The letter. -/
  letter : Char
  /-- The argument, if the letter takes one. -/
  argument : Octets
  deriving DecidableEq, Repr

/-- Whether a letter is an option, and whether it takes an argument. -/
def optionKind? (letters : List Char) (c : Char) : Option Bool :=
  match letters with
  | [] => none
  | letter :: ':' :: rest => if letter = c then some true else optionKind? rest c
  | letter :: rest => if letter = c then some false else optionKind? rest c

/-- The complaint about a letter that is no option. -/
def illegalOption (letter : Char) : Act α := do
  match (← get).dialect with
  | .plain => Act.raise ("Illegal option -".toList ++ [letter])
  | .rich => do
      Act.complain ('-' :: letter :: ": invalid option".toList)
      Act.fail 2

/-- The options in the letters of one word, and the words after it. -/
def lettersOf (letters : List Char) :
    Octets → List Octets → (reversed : List Chosen) → Act (List Chosen × List Octets)
  | [], rest, reversed => return (reversed, rest)
  | c :: more, rest, reversed => do
      match optionKind? letters c with
      | none => illegalOption c
      | some false => lettersOf letters more rest (⟨c, []⟩ :: reversed)
      | some true =>
          match more, rest with
          | [], [] => Act.raise ("No arg for -".toList ++ c :: " option".toList)
          | [], argument :: rest => return (⟨c, argument⟩ :: reversed, rest)
          | more, rest => return (⟨c, more⟩ :: reversed, rest)

/-- The options before operands, in reverse, and the operands. -/
def optionsFrom (letters : List Char) :
    (limit : Nat) → List Octets → (reversed : List Chosen) → Act (List Chosen × List Octets)
  | 0, words, reversed => return (reversed, words)
  | limit + 1, words, reversed => do
      match words with
      | ['-', '-'] :: rest => return (reversed, rest)
      | ('-' :: c :: more) :: rest => do
          let (reversed, rest) ← lettersOf letters (c :: more) rest reversed
          optionsFrom letters limit rest reversed
      | words => return (reversed, words)

/-- The options before operands, and the operands. -/
def options (letters : String) (words : List Octets) : Act (List Chosen × List Octets) := do
  let (reversed, operands) ← optionsFrom letters.toList (words.length + 1) words []
  return (reversed.reverse, operands)

/-- Whether a letter was chosen. -/
def chose (chosen : List Chosen) (letter : Char) : Bool :=
  chosen.any (·.letter == letter)

/-- The number that an operand is. -/
def number (text : Octets) : Act Nat := do
  match number? text with
  | some value => return value
  | none =>
      match (← get).dialect with
      | .plain => Act.raise ("Illegal number: ".toList ++ text)
      | .rich => do
          Act.complain (text ++ ": numeric argument required".toList)
          Act.fail 2

end Shell
end Host
end Turnwise
