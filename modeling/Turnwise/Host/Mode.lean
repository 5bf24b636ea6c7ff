import Turnwise.Host.Octets

/-!
# Permissions

Who may do what with a file is nine bits: reading, writing and executing, for its owner,
its group and all others.  A change of them is written as a number or as clauses, such
as `u+x,go=r`.
-/

namespace Turnwise
namespace Host
namespace Mode

/-- The bits of those whom letters stand for. -/
def whoBits (letters : Octets) : Nat :=
  let bits (c : Char) : Nat :=
    match c with
    | 'u' => 0o4700
    | 'g' => 0o2070
    | 'o' => 0o1007
    | _ => 0o7777
  letters.foldl (fun total c => total ||| bits c) 0

/-- The bits that letters stand for, for everybody; an `X` counts for directories and for
what somebody may execute. -/
def whatBits (directory : Bool) (mode : Nat) (letters : Octets) : Nat :=
  let bits (c : Char) : Nat :=
    match c with
    | 'r' => 0o444
    | 'w' => 0o222
    | 'x' => 0o111
    | 'X' => if directory || mode &&& 0o111 != 0 then 0o111 else 0
    | 's' => 0o6000
    | 't' => 0o1000
    | 'u' => (mode / 64 % 8) * 0o111
    | 'g' => (mode / 8 % 8) * 0o111
    | 'o' => (mode % 8) * 0o111
    | _ => 0
  letters.foldl (fun total c => total ||| bits c) 0

/-- Without some bits. -/
def without (mode bits : Nat) : Nat :=
  mode - (mode &&& bits)

/-- What a sign does to a mode, given the bits of those who are named and the bits that it
is about.  Where nobody is named, everybody is meant but for the bits of a mask.  The marks
of a directory that set the user and the group stay, unless they are mentioned. -/
def applySign (directory : Bool) (mask : Nat) (named : Option Nat) (mentioned : Nat)
    (sign : Char) (bits mode : Nat) : Nat :=
  let spared := if directory then without 0o6000 mentioned else 0
  let value := without (bits &&& named.getD (0o7777 - (mask &&& 0o777))) spared
  match sign with
  | '+' => mode ||| value
  | '-' => without mode value
  | _ => (mode &&& ((named.map (0o7777 - ·)).getD 0 ||| spared)) ||| value

/-- What stands after a sign: the bits of somebody that are copied, or letters. -/
def whatAfter : Octets → Octets × Octets
  | 'u' :: rest => (['u'], rest)
  | 'g' :: rest => (['g'], rest)
  | 'o' :: rest => (['o'], rest)
  | text =>
      let letters := text.takeWhile fun c => "rwxXst".toList.contains c
      (letters, text.drop letters.length)

/-- Apply the actions of a clause, each a sign with letters, or the last one with a number
if nobody is named; the limit bounds how many they are. -/
def applyActions (directory : Bool) (mask : Nat) (named : Option Nat) :
    (limit : Nat) → Octets → Nat → Option Nat
  | 0, _, _ => none
  | _ + 1, [], mode => some mode
  | limit + 1, sign :: rest, mode =>
      if !"+-=".toList.contains sign then none
      else
        match Octets.octalValue? rest with
        | some value =>
            if named.isSome || 0o7777 < value then none
            else some (applySign directory mask (some 0o7777) 0o7777 sign value mode)
        | none =>
            let (letters, after) := whatAfter rest
            let bits := whatBits directory mode letters
            applyActions directory mask named limit after
              (applySign directory mask named (bits &&& named.getD 0o7777) sign bits mode)

/-- Apply a clause. -/
def applyClause (directory : Bool) (mask : Nat) (clause : Octets) (mode : Nat) : Option Nat :=
  let who := clause.takeWhile fun c => "ugoa".toList.contains c
  let actions := clause.drop who.length
  if actions.isEmpty then none
  else
    applyActions directory mask (if who.isEmpty then none else some (whoBits who))
      (clause.length + 1) actions mode

/-- Apply clauses that commas separate. -/
def applyClauses (directory : Bool) (mask : Nat) (text : Octets) (mode : Nat) : Option Nat :=
  (text.splitOn ',').foldl
    (fun mode clause => mode.bind (applyClause directory mask clause)) (some mode)

/-- Apply a change, given as a number or as clauses.  A number mentions the marks of a
directory if it has them or is written with five digits. -/
def apply (directory : Bool) (mask : Nat) (text : Octets) (mode : Nat) : Option Nat :=
  match Octets.octalValue? text with
  | some value =>
      if value ≤ 0o7777 then
        let mentioned := if text.length < 5 then value else 0o7777
        some (applySign directory mask (some 0o7777) mentioned '=' value mode)
      else none
  | none => applyClauses directory mask text mode

/-- The letters of three bits, without dashes. -/
def shortLetters (bits : Nat) : Octets :=
  (if bits &&& 4 != 0 then ['r'] else []) ++ (if bits &&& 2 != 0 then ['w'] else []) ++
    (if bits &&& 1 != 0 then ['x'] else [])

/-- The letters of three bits, the last of which may be marked by another letter. -/
def letters (bits : Nat) (mark : Option Char) : Octets :=
  [if bits &&& 4 != 0 then 'r' else '-', if bits &&& 2 != 0 then 'w' else '-',
    match mark with
    | none => if bits &&& 1 != 0 then 'x' else '-'
    | some c => if bits &&& 1 != 0 then c else c.toUpper]

/-- The letters of all bits. -/
def allLetters (mode : Nat) : Octets :=
  let marked (bit : Nat) (c : Char) : Option Char := if mode &&& bit != 0 then some c else none
  letters (mode / 64 % 8) (marked 0o4000 's') ++ letters (mode / 8 % 8) (marked 0o2000 's') ++
    letters (mode % 8) (marked 0o1000 't')

end Mode
end Host
end Turnwise
