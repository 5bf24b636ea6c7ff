import Turnwise.Host.Utility.Sorting

/-!
# Repeated lines

Lines that equal the one before form runs.  Of a run the first line may be shown, or all of
its lines, or none, as the options say for runs of one line and for longer ones.
-/

namespace Turnwise
namespace Host
namespace Utility

/-- Where the marks between groups of lines stand. -/
structure GroupMarks where
  /-- Before the first group. -/
  before : Bool
  /-- Between two groups. -/
  between : Bool
  /-- After the last group. -/
  after : Bool
  deriving DecidableEq, Repr

namespace GroupMarks

/-- The places of marks by a letter. -/
def ofLetter : Char → GroupMarks
  | 'p' => ⟨true, true, false⟩
  | 'a' => ⟨false, true, true⟩
  | 's' => ⟨false, true, false⟩
  | 'b' => ⟨true, true, true⟩
  | _ => ⟨false, false, false⟩

/-- Put marks between groups of lines. -/
def join (marks : GroupMarks) (mark : Octets) (groups : List Octets) : Octets :=
  if groups.isEmpty then []
  else
    (if marks.before then mark else []) ++
      Text.joinWith (if marks.between then mark else []) groups ++
      (if marks.after then mark else [])

end GroupMarks

/-- What is shown of runs of lines. -/
structure RepeatStyle where
  /-- Show lines that are not repeated. -/
  single : Bool
  /-- Show one line of a run. -/
  first : Bool
  /-- Show the other lines of a run. -/
  others : Bool
  /-- Show how many lines a run has. -/
  counts : Bool
  /-- The marks between runs of which all lines are shown. -/
  marks : GroupMarks
  /-- The marks between all runs, which are then shown as they are. -/
  groups : Option GroupMarks
  /-- Fields that are passed over. -/
  fields : Nat
  /-- Whether the number of fields was given by digits alone. -/
  byDigits : Bool
  /-- Characters that are passed over. -/
  skipped : Nat
  /-- How many characters are compared at most. -/
  compared : Option Nat
  /-- Small letters and capitals are the same. -/
  folds : Bool
  /-- What ends a line. -/
  ending : Char
  /-- Whether an option says what is shown. -/
  selects : Bool

/-- Drop a number of fields, each with the blanks before it. -/
def dropFields : (count : Nat) → Octets → Octets
  | 0, line => line
  | _ + 1, [] => []
  | count + 1, line =>
      dropFields count ((line.dropWhile Collation.isGap).dropWhile (!Collation.isGap ·))

/-- Runs of lines that are equal by a key, each with its first line and the others. -/
def runsBy (key : Octets → Octets) : List Octets → List (Octets × List Octets)
  | [] => []
  | line :: rest =>
      match runsBy key rest with
      | (first, others) :: runs =>
          if key line = key first then (line, first :: others) :: runs
          else (line, []) :: (first, others) :: runs
      | [] => [(line, [])]

namespace RepeatStyle

/-- The part of a line that is compared. -/
def key (style : RepeatStyle) (line : Octets) : Octets :=
  let rest := (dropFields style.fields line).drop style.skipped
  let rest :=
    match style.compared with
    | some count => rest.take count
    | none => rest
  if style.folds then rest.map Char.toLower else rest

/-- A line of a run with its count. -/
def line (style : RepeatStyle) (count : Nat) (line : Octets) : Octets :=
  (if style.counts then Octets.padLeft 7 ' ' (Text.ofNat count) ++ [' '] else []) ++
    line ++ [style.ending]

/-- What is shown of a run, and whether it is one that stands between marks. -/
def run (style : RepeatStyle) (first : Octets) (others : List Octets) : Octets × Bool :=
  let count := others.length + 1
  if others.isEmpty then (if style.single then style.line count first else [], false)
  else if style.others then
    let shown := if style.first then first :: others else (first :: others).dropLast
    (shown.flatMap (style.line count), true)
  else (if style.first then style.line count first else [], false)

/-- What is shown of all runs. -/
def text (style : RepeatStyle) (lines : List Octets) : Octets :=
  let runs := runsBy style.key lines
  match style.groups with
  | some marks =>
      marks.join [style.ending] <|
        runs.map fun (first, others) => (first :: others).flatMap (· ++ [style.ending])
  | none =>
      let shown := runs.map fun (first, others) => style.run first others
      if style.marks.between then
        style.marks.join [style.ending] ((shown.filter (·.2)).map (·.1))
      else shown.flatMap (·.1)

/-- The words for marks between repeated lines. -/
def repeatWords : List (Char × List String) :=
  [('n', ["none"]), ('p', ["prepend"]), ('s', ["separate"])]

/-- The words for marks between groups. -/
def groupWords : List (Char × List String) :=
  [('p', ["prepend"]), ('a', ["append"]), ('s', ["separate"]), ('b', ["both"])]

/-- Read a number; one that is too large counts as the greatest. -/
def numeral (complaint : String) (text : Octets) : Tool Nat := do
  match leadingNumber? text with
  | some (value, []) => return value
  | _ => Tool.die 1 (text ++ ": invalid number of ".toList ++ complaint.toList)

/-- Take an option. -/
def take (style : RepeatStyle) (option : Given) : Tool RepeatStyle := do
  let text := option.value.getD []
  match option.letter with
  | 'c' => return { style with counts := true, selects := true }
  | 'd' => return { style with single := false, selects := true }
  | 'D' =>
      return { style with single := false, others := true, marks := .ofLetter 'n', selects := true }
  | '\x02' => do
      let letter ←
        match option.value with
        | some word => Tool.chosen 1 "--all-repeated" repeatWords word
        | none => pure 'n'
      return { style with
        single := false, others := true, marks := .ofLetter letter, selects := true }
  | '\x01' => do
      let letter ←
        match option.value with
        | some word => Tool.chosen 1 "--group" groupWords word
        | none => pure 's'
      return { style with groups := some (.ofLetter letter) }
  | 'f' => do
      let count ← numeral "fields to skip" text
      return { style with fields := count, byDigits := false }
  | 's' => do
      let count ← numeral "bytes to skip" text
      return { style with skipped := count }
  | 'w' => do
      let count ← numeral "bytes to compare" text
      return { style with compared := some count }
  | 'i' => return { style with folds := true }
  | 'u' => return { style with first := false, selects := true }
  | 'z' => return { style with ending := '\x00' }
  | digit =>
      let before := if style.byDigits then style.fields else 0
      return { style with fields := before * 10 + (digit.toNat - 48), byDigits := true }

end RepeatStyle

/-- The options of the tool that leaves out repeated lines. -/
def uniqGrammar : Grammar :=
  ⟨[.flag 'c' "count", .flag 'd' "repeated", .flag 'D' "", ⟨'\x02', "all-repeated", .optional⟩,
    ⟨'\x01', "group", .optional⟩, .flag 'i' "ignore-case", .flag 'u' "unique",
    .value 'f' "skip-fields", .value 's' "skip-chars", .value 'w' "check-chars",
    .flag 'z' "zero-terminated"] ++ "0123456789".toList.map (Switch.flag · ""), true, 1⟩

/-- Leave out lines that equal the one before. -/
def uniq : Work := fun start => do
  let (given, operands) ← uniqGrammar.read start.arguments
  let mut style : RepeatStyle :=
    ⟨true, true, false, false, .ofLetter 'n', none, 0, false, 0, none, false, '\n', false⟩
  for option in given do
    style ← style.take option
  let mut paths : List Octets := []
  for operand in operands do
    match operand, leadingNumber? operand with
    | '+' :: _, some (count, []) => style := { style with skipped := count }
    | _, _ =>
        if paths.length = 2 then Tool.misuse 1 ("extra operand ".toList ++ Tool.quoted operand)
        paths := paths ++ [operand]
  if style.groups.isSome && style.selects then
    Tool.misuse 1 "--group is mutually exclusive with -c/-d/-D/-u".toList
  if style.counts && style.others then
    Tool.misuse 1 "printing all duplicated lines and repeat counts is meaningless".toList
  let source := paths.head?.getD ['-']
  match ← Tool.openInput source with
  | .error code => Tool.die 1 (Tool.named source ++ ": ".toList ++ code.title)
  | .ok descriptor => do
      let output ←
        match paths[1]? with
        | none => pure 1
        | some ['-'] => pure 1
        | some path =>
            match ← Tool.program (.openFile path .writing) with
            | .ok output => pure output
            | .error code => Tool.die 1 (Tool.named path ++ ": ".toList ++ code.title)
      let (content, failure) ← Tool.program (.readAll descriptor)
      let text := style.text (Octets.pieces style.ending content)
      if output = 1 then Tool.print text
      else
        let _ ← Tool.program (.write output text)
      match failure with
      | some code =>
          Tool.die 1 ("error reading ".toList ++ Tool.shellQuoted source ++ ": ".toList ++
            code.title)
      | none => return

end Utility
end Host
end Turnwise
