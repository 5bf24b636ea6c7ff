import Turnwise.Text.Lines

/-!
# Paths

A path is a text of segments between slashes.  It begins at the root, or with a
single dot for the current directory, or with a segment.  Empty segments and
single dots elsewhere say nothing, so `a//b`, `a/./b` and `a/b/` have the same
components; two dots are a component of their own and are never resolved here.
-/

namespace Turnwise

/-- A path, absolute or relative, as it is written. -/
abbrev Path := Text

namespace Path

/-- One step of a path. -/
inductive Component where
  /-- The root directory. -/
  | root
  /-- The current directory, at the beginning of a path. -/
  | here
  /-- The parent of the directory reached. -/
  | up
  /-- An entry of the directory reached. -/
  | entry (name : Text)
  deriving DecidableEq, Repr

/-- How a path begins. -/
inductive Start where
  /-- At the root. -/
  | root
  /-- At the current directory, written as a dot. -/
  | here
  /-- With its first segment. -/
  | segment
  deriving DecidableEq, Repr

/-- The text of a beginning. -/
def Start.text : Start → Text
  | .root => ['/']
  | .here => ['.']
  | .segment => []

/-- The components of a beginning. -/
def Start.components : Start → List Component
  | .root => [.root]
  | .here => [.here]
  | .segment => []

/-- How a path begins. -/
def start : Path → Start
  | '/' :: _ => .root
  | ['.'] => .here
  | '.' :: '/' :: _ => .here
  | _ => .segment

/-- The segments after the beginning. -/
def segments (path : Path) : List Text :=
  (path.drop (start path).text.length).splitOn '/'

/-- Put segments after a beginning. -/
def assemble (start : Start) (segments : List Text) : Path :=
  start.text ++ Text.joinWith ['/'] segments

/-- A segment that says nothing. -/
def isVoid (segment : Text) : Bool :=
  segment.isEmpty || segment == ['.']

/-- The component a segment stands for. -/
def Component.ofSegment (segment : Text) : Component :=
  if segment = ['.', '.'] then .up else .entry segment

/-- The components of a path. -/
def components (path : Path) : List Component :=
  (start path).components ++
    ((segments path).filter (!isVoid ·)).map Component.ofSegment

/-- Drop the void segments at the end. -/
def dropVoidEnd (segments : List Text) : List Text :=
  (segments.reverse.dropWhile isVoid).reverse

/-- Drop void segments at both ends. -/
def dropVoidEnds (segments : List Text) : List Text :=
  dropVoidEnd (segments.dropWhile isVoid)

/-- Drop a number of segments that say something, with the void ones before. -/
def dropSegments : Nat → List Text → List Text
  | 0, segments => segments
  | _ + 1, [] => []
  | count + 1, segment :: rest =>
      if isVoid segment then dropSegments (count + 1) rest else dropSegments count rest

/-- The path without its last component; the root and the empty path have none. -/
def parent? (path : Path) : Option Path :=
  match dropVoidEnd (segments path) with
  | [] => if start path = .here then some [] else none
  | named => some (assemble (start path) (dropVoidEnd named.dropLast))

/-- The last component when it is an entry of a directory. -/
def fileName? (path : Path) : Option Text :=
  match (components path).getLast? with
  | some (.entry name) => some name
  | _ => none

/-- Whether a path begins at the root. -/
def isAbsolute (path : Path) : Bool :=
  start path == .root

/-- A path seen from a directory: an absolute path replaces the directory, and
otherwise one slash stands between the two. -/
def join (directory path : Path) : Path :=
  if isAbsolute path || directory.isEmpty then path
  else if Text.endsIn '/' directory then directory ++ path
  else directory ++ '/' :: path

/-- The rest of a path whose components begin with those of a directory. -/
def relativeTo? (directory path : Path) : Option Path :=
  if (components directory).isPrefixOf (components path) then
    if (components directory).isEmpty then
      some (assemble (start path) (dropVoidEnd (segments path)))
    else
      let passed := (segments directory).countP (!isVoid ·)
      some (Text.joinWith ['/'] (dropVoidEnds (dropSegments passed (segments path))))
  else none

/-- The directory a file stands in, as the path of the file names it. -/
def directoryOf (path : Path) : Path :=
  match parent? path with
  | some (c :: rest) => c :: rest
  | _ => ['.']

end Path
end Turnwise
