import Turnwise.Text.Lines

/-!
# Command words

A command line is split into words as a shell would, without expanding anything.
Blanks separate words; a backslash, single quotes and double quotes take away the
meaning of the characters they cover; a hash at the beginning of a word starts a
comment that lasts to the end of the line.
-/

namespace Turnwise
namespace Words

/-- Where a scan of a command line stands. -/
inductive Mode where
  /-- Between words. -/
  | gap
  /-- In a comment. -/
  | comment
  /-- In a word, outside quotes. -/
  | word (current : Text)
  /-- Between single quotes. -/
  | single (current : Text)
  /-- Between double quotes. -/
  | double (current : Text)
  deriving DecidableEq, Repr

/-- The characters that separate words. -/
def isSeparator (c : Char) : Bool :=
  c == ' ' || c == '\t' || c == '\n'

/-- The characters that a backslash can escape between double quotes. -/
def isEscapable (c : Char) : Bool :=
  c == '$' || c == '\x60' || c == '"' || c == '\\'

/-- What an escaped character adds outside quotes: a newline adds nothing. -/
def escaped (c : Char) : Text :=
  if c = '\n' then [] else [c]

/-- What an escaped character adds between double quotes. -/
def escapedInDouble (c : Char) : Text :=
  if isEscapable c then [c] else if c = '\n' then [] else ['\\', c]

/-- Scan the rest of a command line.  There is no answer when a quote is left open
or a backslash escapes nothing. -/
def scan : Mode → Text → Option (List Text)
  | .gap, [] => some []
  | .comment, [] => some []
  | .word current, [] => some [current]
  | .single _, [] => none
  | .double _, [] => none
  | .gap, ['\\'] => none
  | .gap, '\\' :: c :: rest => scan (.word (escaped c)) rest
  | .gap, c :: rest =>
      if isSeparator c then scan .gap rest
      else if c = '#' then scan .comment rest
      else if c = '\'' then scan (.single []) rest
      else if c = '"' then scan (.double []) rest
      else scan (.word [c]) rest
  | .comment, c :: rest =>
      if c = '\n' then scan .gap rest else scan .comment rest
  | .word _, ['\\'] => none
  | .word current, '\\' :: c :: rest => scan (.word (current ++ escaped c)) rest
  | .word current, c :: rest =>
      if isSeparator c then (scan .gap rest).map (current :: ·)
      else if c = '\'' then scan (.single current) rest
      else if c = '"' then scan (.double current) rest
      else scan (.word (current ++ [c])) rest
  | .single current, c :: rest =>
      if c = '\'' then scan (.word current) rest else scan (.single (current ++ [c])) rest
  | .double _, ['\\'] => none
  | .double current, '\\' :: c :: rest =>
      scan (.double (current ++ escapedInDouble c)) rest
  | .double current, c :: rest =>
      if c = '"' then scan (.word current) rest else scan (.double (current ++ [c])) rest

/-- Split a command line into words. -/
def split (line : Text) : Option (List Text) :=
  scan .gap line

end Words
end Turnwise
