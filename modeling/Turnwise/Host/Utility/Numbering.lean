import Turnwise.Host.Format
import Turnwise.Host.Regex
import Turnwise.Host.Utility.Tool

/-!
# Numbering lines

A text may be divided into pages of three sections, each begun by a line that only marks
it.  Every section has a style, which says which of its lines have numbers.
-/

namespace Turnwise
namespace Host
namespace Utility

/-- Which lines of a section have numbers. -/
inductive NumberStyle where
  /-- All lines. -/
  | all
  /-- The lines that are not empty. -/
  | filled
  /-- No line. -/
  | never
  /-- The lines in which an expression is found. -/
  | matching (regex : Regex)

/-- A section of a page. -/
inductive Section where
  | header
  | body
  | footer
  deriving DecidableEq, Repr

/-- How lines are numbered. -/
structure Numbering where
  /-- The style of a section. -/
  style : Section → NumberStyle
  /-- How a number is written. -/
  directive : Directive
  /-- What stands after a number. -/
  separator : Octets
  /-- The first number. -/
  first : Int
  /-- The step between numbers. -/
  step : Int
  /-- How many empty lines count as one. -/
  joined : Nat
  /-- The mark of a footer; a body has it twice and a header three times. -/
  mark : Octets
  /-- Numbers begin anew in every section. -/
  restarts : Bool

/-- How far lines have been numbered. -/
structure Numbered where
  /-- The current section. -/
  current : Section
  /-- The next number. -/
  number : Int
  /-- How many empty lines came since the last that counts. -/
  empties : Nat

namespace Numbering

/-- The section that a line begins. -/
def sectionOf? (numbering : Numbering) (line : Octets) : Option Section :=
  let mark := numbering.mark
  if mark.length < 2 then none
  else if line = mark ++ mark ++ mark then some .header
  else if line = mark ++ mark then some .body
  else if line = mark then some .footer
  else none

/-- Whether a line has a number, and how many empty lines came since the last that
counts. -/
def counts (numbering : Numbering) (numbered : Numbered) (line : Octets) : Bool × Nat :=
  match numbering.style numbered.current with
  | .all =>
      if numbering.joined < 2 then (true, numbered.empties)
      else if !line.isEmpty || numbered.empties + 1 = numbering.joined then (true, 0)
      else (false, numbered.empties + 1)
  | .filled => (!line.isEmpty, numbered.empties)
  | .never => (false, numbered.empties)
  | .matching regex => (regex.isMatch line, numbered.empties)

/-- Number a line; a number that has no room in 64 bits is a fault. -/
def line (numbering : Numbering) (numbered : Numbered) (line : Octets) :
    Except Unit (Octets × Numbered) := do
  match numbering.sectionOf? line with
  | some current =>
      let number := if numbering.restarts then numbering.first else numbered.number
      return (['\n'], ⟨current, number, numbered.empties⟩)
  | none =>
      let (counted, empties) := numbering.counts numbered line
      if counted then
        if numbered.number < -0x8000000000000000 || 0x7fffffffffffffff < numbered.number then
          throw ()
        let head := numbering.directive.integer numbered.number ++ numbering.separator
        return (head ++ line ++ ['\n'],
          ⟨numbered.current, numbered.number + numbering.step, empties⟩)
      else
        let blanks := numbering.directive.width + numbering.separator.length
        return (List.replicate blanks ' ' ++ line ++ ['\n'],
          ⟨numbered.current, numbered.number, empties⟩)

end Numbering

/-- Read a style. -/
def NumberStyle.read (text : Octets) : Except (Option Regex.Fault) NumberStyle :=
  match text with
  | 'a' :: _ => .ok .all
  | 't' :: _ => .ok .filled
  | 'n' :: _ => .ok .never
  | 'p' :: pattern =>
      match Regex.parse ⟨false, false, false⟩ pattern with
      | .ok regex => .ok (.matching regex)
      | .error fault => .error (some fault)
  | _ => .error none

/-- The options of the tool that numbers lines. -/
def nlGrammar : Grammar :=
  ⟨[.value 'h' "header-numbering", .value 'b' "body-numbering", .value 'f' "footer-numbering",
    .value 'v' "starting-line-number", .value 'i' "line-increment", .flag 'p' "no-renumber",
    .value 'l' "join-blank-lines", .value 's' "number-separator", .value 'w' "number-width",
    .value 'n' "number-format", .value 'd' "section-delimiter"], true, 1⟩

/-- Take the style of a section; the answer says whether it is one. -/
def setStyle (place : Section) (title : String) (text : Octets) (numbering : Numbering) :
    Tool (Bool × Numbering) := do
  match NumberStyle.read text with
  | .ok style =>
      let styles := fun other => if other = place then style else numbering.style other
      return (true, { numbering with style := styles })
  | .error (some fault) => Tool.die 1 fault.title
  | .error none => do
      Tool.complain ("invalid ".toList ++ title.toList ++ " numbering style: ".toList ++
        Tool.quoted text)
      return (false, numbering)

/-- Take an option; the answer says whether its argument is one that is known. -/
def setNumbering (option : Given) (numbering : Numbering) : Tool (Bool × Numbering) := do
  let text := option.value.getD []
  let greatest : Int := 0x7fffffffffffffff
  match option.letter with
  | 'b' => setStyle .body "body" text numbering
  | 'h' => setStyle .header "header" text numbering
  | 'f' => setStyle .footer "footer" text numbering
  | 'n' =>
      let flags? : Option (List Char) :=
        match String.ofList text with
        | "ln" => some ['-']
        | "rn" => some []
        | "rz" => some ['0']
        | _ => none
      match flags? with
      | some flags =>
          let directive := { numbering.directive with flags := flags }
          return (true, { numbering with directive := directive })
      | none => do
          Tool.complain ("invalid line numbering format: ".toList ++ Tool.quoted text)
          return (false, numbering)
  | 'w' => do
      let width ← Tool.wholeNumber "invalid line number field width" 1 0x7fffffff text
      let directive := { numbering.directive with width := width.toNat }
      return (true, { numbering with directive := directive })
  | 'v' => do
      let first ← Tool.wholeNumber "invalid starting line number" (-greatest - 1) greatest text
      return (true, { numbering with first := first })
  | 'i' => do
      let step ← Tool.wholeNumber "invalid line number increment" (-greatest - 1) greatest text
      return (true, { numbering with step := step })
  | 'l' => do
      let joined ← Tool.wholeNumber "invalid line number of blank lines" 1 greatest text
      return (true, { numbering with joined := joined.toNat })
  | 's' => return (true, { numbering with separator := text })
  | 'd' =>
      let mark :=
        match text with
        | [c] => c :: numbering.mark.drop 1
        | text => text
      return (true, { numbering with mark := mark })
  | 'p' => return (true, { numbering with restarts := false })
  | _ => return (true, numbering)

/-- Number the lines of inputs. -/
def nl : Work := fun start => do
  let (given, operands) ← nlGrammar.read start.arguments
  let standard (place : Section) : NumberStyle :=
    match place with
    | .body => .filled
    | _ => .never
  let mut numbering : Numbering :=
    ⟨standard, ⟨[], 6, none⟩, ['\t'], 1, 1, 1, "\\:".toList, true⟩
  let mut known := true
  for option in given do
    let (good, changed) ← setNumbering option numbering
    numbering := changed
    if !good then known := false
  if !known then
    let _ ← Tool.program (.write 2 (← Tool.hint))
    Tool.exit 1
  let mut numbered : Numbered := ⟨.body, numbering.first, 0⟩
  for path in Tool.inputs operands do
    match ← Tool.readOrGrumble 1 path with
    | none => pure ()
    | some content =>
        for line in Octets.lines content do
          match numbering.line numbered line with
          | .error () => Tool.die 1 "line number overflow".toList
          | .ok (text, further) => do
              numbered := further
              Tool.print text
  Tool.closeStandard (Tool.inputs operands) "-"

end Utility
end Host
end Turnwise
