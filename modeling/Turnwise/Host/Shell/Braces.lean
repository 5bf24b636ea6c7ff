import Turnwise.Host.Script.Syntax

/-!
# Alternatives in braces

In the rich dialect a word with alternatives in braces stands for several words, one for
each alternative; a range of numbers or letters in braces stands for all of its members.
-/

namespace Turnwise
namespace Host
namespace Shell

open Script (Part Word)

/-- A piece of a word that may have alternatives. -/
inductive BracePiece where
  /-- An unquoted character. -/
  | char (c : Char)
  /-- A part that is kept as it is. -/
  | part (part : Part)

/-- The pieces of a word. -/
def bracePieces (word : Word) : List BracePiece :=
  word.flatMap fun part =>
    match part with
    | .literal text false => text.map BracePiece.char
    | part => [.part part]

/-- The word of pieces. -/
def ofPieces (pieces : List BracePiece) : Word :=
  pieces.foldr
    (fun piece word =>
      match piece with
      | .char c => Script.consPart (.literal [c] false) word
      | .part part => part :: word) []

/-- The alternatives up to the closing brace, split at the commas of the outermost level,
and the pieces after it. -/
def alternatives? :
    (level : Nat) → (current : List BracePiece) → (found : List (List BracePiece)) →
      List BracePiece → Option (List (List BracePiece) × List BracePiece)
  | _, _, _, [] => none
  | level, current, found, .char c :: rest =>
      if c = '\x7b' then alternatives? (level + 1) (.char c :: current) found rest
      else if c = '\x7d' then
        if level = 0 then some ((current.reverse :: found).reverse, rest)
        else alternatives? (level - 1) (.char c :: current) found rest
      else if c = ',' && level = 0 then
        alternatives? level [] (current.reverse :: found) rest
      else alternatives? level (.char c :: current) found rest
  | level, current, found, piece :: rest => alternatives? level (piece :: current) found rest

/-- The text of pieces that are characters. -/
def pieceText? : List BracePiece → Option Octets
  | [] => some []
  | .char c :: rest => (pieceText? rest).map (c :: ·)
  | .part _ :: _ => none

/-- The numbers from one to another, with a step. -/
def numbers (first last : Int) (step : Nat) : List Int :=
  let step := max 1 step
  let count := (last - first).natAbs / step + 1
  (List.range count).map fun index =>
    if first ≤ last then first + (index * step : Nat) else first - (index * step : Nat)

/-- The members of a range. -/
def range? (text : Octets) : Option (List Octets) := do
  let (first, rest) ← Text.cutAt? ['.', '.'] text
  let (last, step) :=
    match Text.cutAt? ['.', '.'] rest with
    | some (last, step) => (last, (Text.int64? step).map Int.natAbs)
    | none => (rest, some 1)
  let step ← step
  match Text.int64? first, Text.int64? last with
  | some a, some b =>
      let padded (text : Octets) : Bool :=
        1 < text.length && (text.dropWhile (· == '-')).head? == some '0'
      let width := if padded first || padded last then max first.length last.length else 0
      some ((numbers a b step).map fun value =>
        if value < 0 then '-' :: Octets.padLeft (width - 1) '0' (Text.ofNat value.natAbs)
        else Octets.padLeft width '0' (Text.ofNat value.natAbs))
  | _, _ =>
      match first, last with
      | [a], [b] =>
          if a.isAlpha && b.isAlpha then
            some ((numbers a.toNat b.toNat step).map fun value => [Char.ofNat value.toNat])
          else none
      | _, _ => none

/-- The words that pieces stand for; the limit bounds how deep braces are nested and how
many there are. -/
def expandPieces : (limit : Nat) → List BracePiece → List (List BracePiece)
  | 0, pieces => [pieces]
  | _ + 1, [] => [[]]
  | limit + 1, .char '\x7b' :: rest =>
      let literal := (expandPieces limit rest).map (.char '\x7b' :: ·)
      match alternatives? 0 [] [] rest with
      | some ([only], after) =>
          match (pieceText? only).bind range? with
          | some members =>
              let tails := expandPieces limit after
              members.flatMap fun member =>
                tails.map fun tail => member.map BracePiece.char ++ tail
          | none => literal
      | some (found, after) =>
          let tails := expandPieces limit after
          (found.flatMap (expandPieces limit)).flatMap fun head => tails.map (head ++ ·)
      | none => literal
  | limit + 1, piece :: rest => (expandPieces limit rest).map (piece :: ·)

/-- The words that a word stands for. -/
def expandBraces (word : Word) : List Word :=
  let pieces := bracePieces word
  if pieces.any fun piece => piece matches .char '\x7b' then
    (expandPieces (pieces.length + 1) pieces).map ofPieces
  else [word]

end Shell
end Host
end Turnwise
