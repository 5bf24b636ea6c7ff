import Turnwise.Run

/-!
# What a turn shows

Every turn runs the whole program again, so its output repeats what earlier turns
printed.  A turn shows the lines that are new relative to the number of lines
already shown.
-/

namespace Turnwise
namespace Output

/-- The text after a number of newlines; empty when there are fewer. -/
def sliceFrom : Text → Nat → Text
  | text, 0 => text
  | [], _ + 1 => []
  | c :: rest, offset + 1 =>
      if c = '\n' then sliceFrom rest offset else sliceFrom rest (offset + 1)

/-- Whether a character ends lines. -/
def isLineEnd (c : Char) : Bool :=
  c == '\n' || c == '\r'

/-- The part of a text up to its last newline, that newline included. -/
def closedLines (text : Text) : Text :=
  text.dropEndWhile (· != '\n')

/-- The part of a text after its last newline. -/
def openLine (text : Text) : Text :=
  (text.reverse.takeWhile (· != '\n')).reverse

/-- The output without the line that reports the exit status, when that is the
last one.  Line ends after it do not count. -/
def withoutStatus (output : Text) : Text :=
  let body := output.dropEndWhile isLineEnd
  if Text.beginsWith Run.statusMarker (openLine body) then closedLines body else output

/-- What a successful turn shows: the new lines, without the final newline. -/
def visible (output : Text) (offset : Nat) : Text :=
  Text.dropFinal '\n' (sliceFrom output offset)

/-- What a failed program shows: its own new lines or, when they are blank, the
last line of the whole output that is not. -/
def failure (output : Text) (offset : Nat) : Text :=
  let fresh := visible (withoutStatus output) offset
  if fresh.blank then output.lastVisibleLine.trim else fresh

end Output
end Turnwise
