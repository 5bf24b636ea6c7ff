import Turnwise.Text.Blank

/-!
# Lines of a text

A newline ends a line.  The lines of a text are the pieces between its newlines,
without an empty piece after the last newline and without the carriage return
that may stand directly before a newline.
-/

namespace Turnwise
namespace Text

/-- The number of newlines of a text. -/
def newlineCount (text : Text) : Nat :=
  text.count '\n'

/-- The pieces between newlines; a text with `n` newlines has `n + 1` pieces. -/
def pieces (text : Text) : List Text :=
  text.splitOn '\n'

/-- The lines of a text.  A piece that a newline ends loses one carriage return
at its end; a last piece with no newline after it is a line as it stands, unless
it is empty. -/
def lines (text : Text) : List Text :=
  text.pieces.dropLast.map (dropFinal '\r') ++
    text.pieces.getLast?.toList.filter (!·.isEmpty)

/-- Texts put together with a separator between neighbours. -/
def joinWith (separator : Text) (parts : List Text) : Text :=
  separator.intercalate parts

/-- The last line that is not blank, or the empty text when there is none. -/
def lastVisibleLine (text : Text) : Text :=
  ((text.lines.filter (!·.blank)).getLast?).getD []

/-- The words of a text: its longest runs of characters that are not blank. -/
def words (text : Text) : List Text :=
  (text.splitOnP isBlank).filter (!·.isEmpty)

end Text
end Turnwise
