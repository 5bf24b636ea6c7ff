import Turnwise.Host.Glob
import Turnwise.Host.Shell.State

/-!
# Fields

The expansion of a word gives atoms: characters, each with whether it is quoted and
whether the word may fall apart at it, and the places at which it does fall apart.  An
unquoted character can take part in a pattern; a place without characters still counts
as a field when it is quoted.
-/

namespace Turnwise
namespace Host
namespace Shell

open SystemError (Code)

/-- A piece of an expanded word. -/
inductive Atom where
  /-- A character. -/
  | char (c : Char) (quoted splits : Bool)
  /-- Something quoted stands here, though it may be empty. -/
  | anchor
  /-- The end of one of several fields. -/
  | boundary
  deriving DecidableEq, Repr

namespace Atom

/-- Quoted text. -/
def quoted (text : Octets) : List Atom :=
  text.map (.char · true false)

/-- Unquoted text, at which a word may fall apart or not. -/
def unquoted (splits : Bool) (text : Octets) : List Atom :=
  text.map (.char · false splits)

/-- An unquoted character at which a word may fall apart. -/
def opened : Atom → Atom
  | .char c false _ => .char c false true
  | atom => atom

/-- The value of several fields. -/
def several : List (List Atom) → List Atom
  | [] => []
  | [field] => field
  | field :: rest => field ++ .boundary :: several rest

/-- The characters of atoms, each with whether it is quoted. -/
def marks (atoms : List Atom) : List Glob.Mark :=
  atoms.filterMap fun atom =>
    match atom with
    | .char c quoted _ => some (c, quoted)
    | _ => none

/-- The text of atoms. -/
def text (atoms : List Atom) : Octets :=
  atoms.filterMap fun atom =>
    match atom with
    | .char c _ _ => some c
    | _ => none

end Atom

/-- Whether a separator is one of those that count only once in a row. -/
def isWhite (c : Char) : Bool :=
  c == ' ' || c == '\t' || c == '\n'

/-- How far a word has fallen apart into fields. -/
structure Splitting where
  /-- The fields, the last one first. -/
  fields : List (List Glob.Mark)
  /-- The characters of the current field, the last one first. -/
  current : List Glob.Mark
  /-- Whether there is a current field, though it may be empty. -/
  started : Bool
  /-- Whether blanks have just ended a field. -/
  spaced : Bool

namespace Splitting

/-- End the current field. -/
def close (splitting : Splitting) (spaced : Bool) : Splitting :=
  ⟨splitting.current.reverse :: splitting.fields, [], false, spaced⟩

/-- Take one more atom. -/
def take (separators : Octets) (splitting : Splitting) : Atom → Splitting
  | .anchor => { splitting with started := true, spaced := false }
  | .boundary =>
      if splitting.started then splitting.close false else { splitting with spaced := false }
  | .char c quoted splits =>
      if splits && separators.contains c then
        if isWhite c then if splitting.started then splitting.close true else splitting
        else if splitting.spaced then { splitting with spaced := false }
        else splitting.close false
      else
        { splitting with
          current := (c, quoted) :: splitting.current, started := true, spaced := false }

end Splitting

/-- The fields into which atoms fall apart. -/
def fields (separators : Octets) (atoms : List Atom) : List (List Glob.Mark) :=
  let last := atoms.foldl (Splitting.take separators) ⟨[], [], false, false⟩
  (if last.started then last.close false else last).fields.reverse

/-- The names in a directory that a pattern matches; a name that begins with a dot has to
be asked for. -/
def matching (manner : Glob.Manner) (directory : Octets) (marks : List Glob.Mark) :
    Program (List Octets) := do
  let items := Glob.ofMarks manner marks
  let hidden := (marks.head?.map (·.1)) == some '.'
  match ← Program.names directory with
  | .error _ => pure []
  | .ok names =>
      let names := if hidden then ['.'] :: ['.', '.'] :: names else names
      pure (names.filter fun name =>
        (hidden || name.head? != some '.') && Glob.isMatch items name)

/-- The paths that begin in a certain way and go on with segments, some of which are
patterns. -/
def pathsFrom (manner : Glob.Manner) (start : Octets) :
    List (List Glob.Mark) → Program (List Octets)
  | [] => pure [start]
  | [marks] => do
      if Glob.isActive (Glob.ofMarks manner marks) then
        let names ← matching manner (if start.isEmpty then ['.'] else start) marks
        pure (names.map (start ++ ·))
      else
        let path := start ++ Atom.text (marks.map fun mark => .char mark.1 mark.2 false)
        match ← Program.statusHere path with
        | .ok _ => pure [path]
        | .error _ => pure []
  | marks :: rest => do
      if Glob.isActive (Glob.ofMarks manner marks) then
        let names ← matching manner (if start.isEmpty then ['.'] else start) marks
        let mut found : List (List Octets) := []
        for name in names do
          match ← Program.status (start ++ name) with
          | .ok status =>
              if status.form = .directory then
                found := (← pathsFrom manner (start ++ name ++ ['/']) rest) :: found
          | .error _ => pure ()
        pure found.reverse.flatten
      else pathsFrom manner (start ++ marks.map (·.1) ++ ['/']) rest

/-- The paths that a field stands for: if it is a pattern, those that it matches, and
otherwise itself. -/
def paths (manner : Glob.Manner) (field : List Glob.Mark) : Program (List Octets) := do
  let text := field.map (·.1)
  if !Glob.isActive (Glob.ofMarks manner field) then pure [text]
  else
    let segments := field.splitOnP (·.1 == '/')
    match ← pathsFrom manner [] segments with
    | [] => pure [text]
    | found => pure (found.mergeSort Octets.notAfter)

end Shell
end Host
end Turnwise
