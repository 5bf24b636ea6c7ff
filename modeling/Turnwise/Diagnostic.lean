import Turnwise.Text.Lines
import Turnwise.Text.Decimal

/-!
# Compiler diagnostics

A diagnostic line names a file relative to the working directory, a line, a
column and a message: `./main.go:4:2: undefined: y`.  One message can be repaired
by the session itself: a binding that is declared and not used is discarded.

`Diagnostic.parse?` reads one line, `Diagnostic.render` writes one, and
`Diagnostic.parseAll` collects the diagnostics of a whole output.
-/

namespace Turnwise

/-- Whether a diagnostic can be repaired mechanically. -/
inductive Diagnostic.Kind where
  /-- A binding that nothing uses; discarding the identifier repairs it. -/
  | recoverable (identifier : Text)
  /-- Anything else. -/
  | unrecoverable
  deriving DecidableEq, Repr

/-- One compiler diagnostic. -/
structure Diagnostic where
  /-- The file as the compiler names it, beginning with `./`. -/
  file : Text
  /-- The line number, from one. -/
  line : Nat
  /-- The column number, from one. -/
  column : Nat
  /-- The text after the position. -/
  message : Text
  /-- The class of the message. -/
  kind : Diagnostic.Kind
  deriving DecidableEq, Repr

namespace Diagnostic

/-- How the message about an unused binding begins. -/
def unusedMarker : Text := "declared and not used: ".toList

/-- How every file name in a diagnostic begins. -/
def fileMarker : Text := "./".toList

/-- Positions are numbers of 32 bits. -/
def positionBound : Nat := 0x100000000

namespace Kind

/-- The class of a message: recoverable when an identifier follows the marker of
unused bindings. -/
def ofMessage (message : Text) : Kind :=
  match Text.after? unusedMarker message with
  | some rest => if Text.blank rest then .unrecoverable else .recoverable (Text.trim rest)
  | none => .unrecoverable

/-- The identifier whose discard repairs the diagnostic, if there is one. -/
def target? : Kind → Option Text
  | .recoverable identifier => some identifier
  | .unrecoverable => none

/-- Whether a discard repairs the diagnostic. -/
def isRecoverable (kind : Kind) : Bool :=
  kind.target?.isSome

/-- The class in words. -/
def render : Kind → Text
  | .recoverable identifier => "recoverable(".toList ++ identifier ++ ")".toList
  | .unrecoverable => "unrecoverable".toList

end Kind

/-- Characters that can stand in the name of a file in a diagnostic. -/
def isNameChar (c : Char) : Bool :=
  !Text.isBlank c && c != ':'

/-- The message after the last colon of the position.  Blank characters before it
are skipped; of a rest that is blank throughout, the last character remains.  A
message ends with the text and holds no newline. -/
def message? (rest : Text) : Option Text :=
  let body := rest.dropWhile Text.isBlank
  let message := if body.isEmpty then rest.getLast?.toList else body
  if message.isEmpty || message.contains '\n' then none else some message

/-- A position number and what follows the colon after it. -/
def position? (text : Text) : Option (Nat × Text) := do
  let number ← Text.digitsBelow? positionBound (text.takeWhile Char.isDigit)
  let rest ← Text.after? [':'] (text.dropWhile Char.isDigit)
  return (number, rest)

/-- Read one line as a diagnostic; carriage returns at its end do not count. -/
def parse? (line : Text) : Option Diagnostic := do
  let rest ← Text.after? fileMarker (Text.dropEndWhile (· == '\r') line)
  let name := rest.takeWhile isNameChar
  if name.isEmpty then none else
  let rest ← Text.after? [':'] (rest.dropWhile isNameChar)
  let (lineNumber, rest) ← position? rest
  let (column, rest) ← position? rest
  let message ← message? rest
  return ⟨fileMarker ++ name, lineNumber, column, message, Kind.ofMessage message⟩

/-- A diagnostic as the compiler writes it. -/
def render (diagnostic : Diagnostic) : Text :=
  diagnostic.file ++ ":".toList ++ Text.ofNat diagnostic.line ++ ":".toList ++
    Text.ofNat diagnostic.column ++ ": ".toList ++ diagnostic.message

/-- The diagnostics among the lines of an output, in order. -/
def parseAll (output : Text) : List Diagnostic :=
  output.lines.filterMap parse?

/-- The identifier whose discard repairs a diagnostic, if there is one. -/
def target? (diagnostic : Diagnostic) : Option Text :=
  diagnostic.kind.target?

/-- The identifiers that recoverable diagnostics name, in order of appearance. -/
def targets (diagnostics : List Diagnostic) : List Text :=
  diagnostics.filterMap target?

/-- How many diagnostics there are of each class. -/
structure Summary where
  /-- All of them. -/
  total : Nat
  /-- Those that a discard repairs. -/
  recoverable : Nat
  /-- The others. -/
  unrecoverable : Nat
  deriving DecidableEq, Repr

/-- Count diagnostics by class. -/
def summarize (diagnostics : List Diagnostic) : Summary :=
  let recoverable := diagnostics.countP (·.kind.isRecoverable)
  ⟨diagnostics.length, recoverable, diagnostics.length - recoverable⟩

/-- Whether another repair can make progress. -/
def Summary.fixable (summary : Summary) : Bool :=
  0 < summary.recoverable

end Diagnostic
end Turnwise
