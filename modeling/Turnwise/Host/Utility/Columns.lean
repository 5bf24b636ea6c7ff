import Turnwise.Host.Glob
import Turnwise.Host.Printing
import Turnwise.Host.Utility.Reading

/-!
# Tools that rearrange lines

They cut fields out of lines, paste lines together, replace characters, fold long lines
and compare sorted lines.
-/

namespace Turnwise
namespace Host
namespace Utility

/-- A range of positions; the upper end may be open. -/
structure Span where
  /-- The first position. -/
  low : Nat
  /-- The last position. -/
  high : Option Nat
  deriving DecidableEq, Repr

/-- Whether a position is in a range. -/
def Span.contains (span : Span) (position : Nat) : Bool :=
  span.low ≤ position && span.high.all (position ≤ ·)

/-- How far a list of ranges has been read. -/
structure SpanReading where
  /-- The ranges, the last one first. -/
  found : List Span
  /-- The start of a range whose dash has been read. -/
  low : Option Nat
  /-- The digits that are being read, the last one first. -/
  digits : Octets
  /-- Whether digits stand before the dash. -/
  started : Bool

namespace SpanReading

/-- The number that was read last. -/
def value (reading : SpanReading) : Nat :=
  Nat.ofDigitChars 10 reading.digits.reverse 0

/-- Nothing of a range has been read. -/
def fresh (found : List Span) : SpanReading :=
  ⟨found, none, [], false⟩

/-- End a range; a fault comes with its complaint. -/
def close (unit : String) (reading : SpanReading) : Except Octets SpanReading := do
  let value := reading.value
  match reading.low with
  | none =>
      if value = 0 then .error (unit.toList ++ "s are numbered from 1".toList)
      else return fresh (⟨value, some value⟩ :: reading.found)
  | some low =>
      if reading.digits.isEmpty then
        if !reading.started then .error "invalid range with no endpoint: -".toList
        else return fresh (⟨low, none⟩ :: reading.found)
      else if value < low then .error "invalid decreasing range".toList
      else return fresh (⟨low, some value⟩ :: reading.found)

end SpanReading

/-- What is numbered in a list of fields or of positions. -/
def spanUnit (fields : Bool) : String :=
  if fields then "field" else "byte/character position"

/-- Read the ranges of a list of fields or of positions; a fault comes with its complaint. -/
def readSpans (fields : Bool) : Octets → SpanReading → Except Octets (List Span)
  | [], reading => do return (← reading.close (spanUnit fields)).found.reverse
  | c :: rest, reading => do
      if c = '-' then
        if reading.low.isSome then
          .error ("invalid ".toList ++
            (if fields then "field" else "byte or character").toList ++ " range".toList)
        else if !reading.digits.isEmpty && reading.value = 0 then
          .error ((spanUnit fields).toList ++ "s are numbered from 1".toList)
        else
          let started := !reading.digits.isEmpty
          readSpans fields rest
            ⟨reading.found, some (if started then reading.value else 1), [], started⟩
      else if c = ',' || Octets.isBlank c then do
        readSpans fields rest (← reading.close (spanUnit fields))
      else if c.isDigit then
        let reading := { reading with digits := c :: reading.digits }
        if 0xFFFFFFFFFFFFFFFF ≤ reading.value then
          .error ((if fields then "field number " else "byte/character offset ").toList ++
            Tool.quoted (reading.digits.reverse ++ rest.takeWhile Char.isDigit) ++
            " is too large".toList)
        else readSpans fields rest reading
      else
        .error ("invalid ".toList ++
          (if fields then "field value " else "byte/character position ").toList ++
          Tool.quoted (c :: rest))

/-- Sorted ranges, those that overlap made one. -/
def mergedSpans : List Span → List Span
  | first :: second :: rest =>
      if first.high.all (second.low ≤ ·) then
        let high := do return max (← first.high) (← second.high)
        mergedSpans (⟨first.low, high⟩ :: rest)
      else first :: mergedSpans (second :: rest)
  | spans => spans
termination_by spans => spans.length

/-- What is outside ranges that are sorted and do not overlap, from a position on. -/
def spansBetween : (low : Nat) → List Span → List Span
  | low, [] => [⟨low, none⟩]
  | low, span :: rest =>
      let before : List Span := if low < span.low then [⟨low, some (span.low - 1)⟩] else []
      match span.high with
      | none => before
      | some high => before ++ spansBetween (high + 1) rest

/-- The characters of a line in ranges, with a text between those of different ranges. -/
def cutChars (spans : List Span) (joint : Octets) (line : Octets) : Octets :=
  let pieces := spans.map fun span =>
    match span.high with
    | some high => (line.take high).drop (span.low - 1)
    | none => line.drop (span.low - 1)
  Text.joinWith joint (pieces.filter (!·.isEmpty))

/-- The options of the tool that cuts. -/
def cutGrammar : Grammar :=
  ⟨[.value 'b' "bytes", .value 'c' "characters", .value 'd' "delimiter", .value 'f' "fields",
    .flag 'n' "", .flag 's' "only-delimited", .flag 'C' "complement",
    .value 'o' "output-delimiter", .flag 'z' "zero-terminated"], true, 1⟩

/-- Complain about options of the tool that cuts, the first fault first. -/
def checkCut : (lists : Nat) → List Given → Tool Unit
  | lists, [] => do
      if lists = 0 then
        Tool.misuse 1 "you must specify a list of bytes, characters, or fields".toList
  | lists, option :: rest => do
      if "bcf".toList.contains option.letter then do
        if 0 < lists then Tool.misuse 1 "only one list may be specified".toList
        checkCut (lists + 1) rest
      else do
        if option.letter = 'd' && 1 < (option.value.getD []).length then
          Tool.misuse 1 "the delimiter must be a single character".toList
        checkCut lists rest

/-- Cut fields or characters out of lines. -/
def cut : Work := fun start => do
  let (given, operands) ← cutGrammar.read start.arguments
  checkCut 0 given
  let fields := Given.has given 'f'
  if Given.has given 'd' && !fields then
    Tool.misuse 1 "an input delimiter may be specified only when operating on fields".toList
  if Given.has given 's' && !fields then
    Tool.misuse 1
      "suppressing non-delimited lines makes sense\n\tonly when operating on fields".toList
  let delimiter := ((Given.last? given 'd').map fun text => text.headD '\x00').getD '\t'
  let list := ((given.find? fun option => "bcf".toList.contains option.letter).bind
    (·.value)).getD []
  let ranges ←
    match readSpans fields list (.fresh []) with
    | .ok found => pure (mergedSpans (found.mergeSort fun a b => a.low ≤ b.low))
    | .error message => Tool.misuse 1 message
  let ranges := if Given.has given 'C' then spansBetween 1 ranges else ranges
  let ending := if Given.has given 'z' then '\x00' else '\n'
  let joint : Octets := (Given.last? given 'o').getD (if fields then [delimiter] else [])
  for path in Tool.inputs operands do
    match ← Tool.readOrGrumble 1 path with
    | none => pure ()
    | some content =>
        for line in Octets.pieces ending content do
          if !fields then Tool.print (cutChars ranges joint line ++ [ending])
          else if !line.contains delimiter then
            if !Given.has given 's' then Tool.print (line ++ [ending])
          else
            let kept := (line.splitOn delimiter).zipIdx.filter fun (_, index) =>
              ranges.any (·.contains (index + 1))
            Tool.print (Text.joinWith joint (kept.map (·.1)) ++ [ending])
  Tool.closeStandard (Tool.inputs operands) "-"

/-- The separators of pasted lines, with escapes replaced; nothing stands for an empty
one. -/
def pasteSeparators : Octets → List Octets
  | '\\' :: 'n' :: rest => ['\n'] :: pasteSeparators rest
  | '\\' :: 't' :: rest => ['\t'] :: pasteSeparators rest
  | '\\' :: '0' :: rest => [] :: pasteSeparators rest
  | '\\' :: c :: rest => [c] :: pasteSeparators rest
  | c :: rest => [c] :: pasteSeparators rest
  | [] => []

/-- Texts with separators between them, which are used in turn. -/
def interleave (separators : List Octets) (texts : List Octets) : Octets :=
  (texts.zipIdx.map fun (text, index) =>
    if index = 0 then text
    else
      let count := max 1 separators.length
      ((separators[(index - 1) % count]?).getD []) ++ text).flatten

/-- The lines of each input: the standard input is shared by all that name it. -/
def deal (sources : List (Option (List Octets))) (standard : List Octets) :
    List (List Octets) :=
  let shares := (sources.filter (·.isNone)).length
  (sources.foldl
    (fun (found, index) source =>
      match source with
      | some lines => (found ++ [lines], index)
      | none =>
          let own := (standard.zipIdx.filter fun (_, number) =>
            number % max 1 shares = index).map (·.1)
          (found ++ [own], index + 1)) (([] : List (List Octets)), 0)).1

/-- Paste lines together. -/
def paste : Work := fun start => do
  let grammar : Grammar :=
    ⟨[.value 'd' "delimiters", .flag 's' "serial", .flag 'z' "zero-terminated"], true, 1⟩
  let (given, operands) ← grammar.read start.arguments
  let separators := pasteSeparators ((Given.last? given 'd').getD ['\t'])
  let mut sources : List (Option (List Octets)) := []
  let mut standard : List Octets := []
  for path in Tool.inputs operands do
    if path = ['-'] then
      if sources.all (·.isSome) then
        let (content, failure) ← Tool.program (.readAll 0)
        match failure with
        | some code => Tool.grumble 1 ("-: ".toList ++ code.title)
        | none => pure ()
        standard := Octets.lines content
      sources := sources ++ [none]
    else
      match ← Tool.readInput path with
      | .ok content => sources := sources ++ [some (Octets.lines content)]
      | .error code =>
          let message := Tool.named path ++ ": ".toList ++ code.title
          if code = .isDirectory then
            Tool.grumble 1 message
            sources := sources ++ [some []]
          else if Given.has given 's' then Tool.grumble 1 message
          else Tool.die 1 message
  let columns := deal sources standard
  if Given.has given 's' then
    let columns := if (sources.filter (·.isNone)).length ≤ 1 then columns
      else sources.map fun source => source.getD []
    for lines in columns do
      Tool.printLine (interleave separators lines)
  else
    let height := (columns.map (·.length)).foldl max 0
    for row in List.range height do
      Tool.printLine (interleave separators (columns.map fun lines => (lines[row]?).getD []))
  Tool.closeStandard (Tool.inputs operands) "-"

/-- The characters that an escape in a set stands for, given the text after the
backslash. -/
def setEscape (text : Octets) : Char × Octets :=
  match (Escapes.mk true false false false).replacement text with
  | .octet c rest => (c, rest)
  | _ =>
      match text with
      | c :: rest => (c, rest)
      | [] => ('\\', [])

/-- A part of a set of characters. -/
inductive SetPart where
  /-- Some characters. -/
  | chars (chars : List Char)
  /-- A character, as often as needed, or a number of times. -/
  | fill (c : Char) (count : Nat)
  deriving DecidableEq, Repr

/-- The parts of a set, or the range that is in reverse. -/
def setParts : (limit : Nat) → Octets → Except Octets (List SetPart)
  | 0, _ => .ok []
  | _ + 1, [] => .ok []
  | limit + 1, '[' :: ':' :: rest =>
      match Text.cutAt? [':', ']'] rest with
      | some (name, after) =>
          match CharSet.classRanges? name with
          | some ranges =>
              let members := ((List.range 256).map Char.ofNat).filter fun c =>
                (CharSet.mk false ranges).contains c
              (setParts limit after).map (.chars members :: ·)
          | none => .error ("invalid character class ".toList ++ Tool.quoted name)
      | none => (setParts limit (':' :: rest)).map (.chars ['['] :: ·)
  | limit + 1, '[' :: '=' :: c :: '=' :: ']' :: rest =>
      (setParts limit rest).map (.chars [c] :: ·)
  | limit + 1, '[' :: c :: '*' :: rest =>
      let digits := rest.takeWhile Char.isDigit
      match rest.drop digits.length with
      | ']' :: after =>
          let count := Nat.ofDigitChars (if digits.head? = some '0' then 8 else 10) digits 0
          (setParts limit after).map (.fill c count :: ·)
      | _ => (setParts limit (c :: '*' :: rest)).map (.chars ['['] :: ·)
  | limit + 1, text =>
      let (first, rest) : Char × Octets :=
        match text with
        | '\\' :: rest => setEscape rest
        | c :: rest => (c, rest)
        | [] => ('\x00', [])
      match rest with
      | '-' :: c :: after =>
          let (last, after) : Char × Octets :=
            if c = '\\' then setEscape after else (c, after)
          if last < first then
            .error ("range-endpoints of '".toList ++ [first, '-', last] ++
              "' are in reverse collating sequence order".toList)
          else
            let members := (List.range (last.toNat - first.toNat + 1)).map fun offset =>
              Char.ofNat (first.toNat + offset)
            (setParts limit after).map (.chars members :: ·)
      | rest => (setParts limit rest).map (.chars [first] :: ·)

/-- The characters of a set; a part that fills up takes what is missing to a length. -/
def setChars (length : Nat) (parts : List SetPart) : List Char :=
  let fixed := (parts.map fun part =>
    match part with
    | .chars chars => chars.length
    | .fill _ count => count).foldl (· + ·) 0
  parts.flatMap fun part =>
    match part with
    | .chars chars => chars
    | .fill c count => List.replicate (if count = 0 then length - fixed else count) c

/-- Drop repeated characters of a set. -/
def squeeze (test : Char → Bool) : (last : Option Char) → Octets → Octets
  | _, [] => []
  | last, c :: rest =>
      if last = some c && test c then squeeze test last rest
      else c :: squeeze test (some c) rest

/-- The options of the tool that replaces characters. -/
def trGrammar : Grammar :=
  ⟨[.flag 'c' "complement", .flag 'C' "", .flag 'd' "delete", .flag 's' "squeeze-repeats",
    .flag 't' "truncate-set1"], false, 1⟩

/-- Complain about operands, with a second line that explains. -/
def misuseBecause (message : Octets) (reason : String) : Tool α := do
  Tool.complain message
  let _ ← Tool.program (.write 2 (reason.toList ++ ['\n'] ++ (← Tool.hint)))
  Tool.exit 1

/-- Replace, delete or squeeze characters. -/
def tr : Work := fun start => do
  let (given, operands) ← trGrammar.read start.arguments
  let deletes := Given.has given 'd'
  let squeezes := Given.has given 's'
  let inverted := Given.has given 'c' || Given.has given 'C'
  let needed := if deletes = squeezes then 2 else 1
  let allowed := if deletes && !squeezes then 1 else 2
  match operands with
  | [] => Tool.misuse 1 "missing operand".toList
  | [only] =>
      if needed = 2 then
        misuseBecause ("missing operand after ".toList ++ Tool.quoted only)
          (if squeezes then
            "Two strings must be given when both deleting and squeezing repeats."
          else "Two strings must be given when translating.")
      else pure ()
  | _ => pure ()
  match operands[allowed]? with
  | some extra =>
      if allowed = 1 then
        misuseBecause ("extra operand ".toList ++ Tool.quoted extra)
          "Only one string may be given when deleting without squeezing repeats."
      else Tool.misuse 1 ("extra operand ".toList ++ Tool.quoted extra)
  | none => pure ()
  let read (text : Octets) : Tool (List SetPart) := do
    match setParts (text.length + 1) text with
    | .ok parts => return parts
    | .error message => Tool.die 1 message
  let firstParts ← read ((operands[0]?).getD [])
  let secondParts ← read ((operands[1]?).getD [])
  let listed := setChars 0 firstParts
  let first :=
    if inverted then ((List.range 256).map Char.ofNat).filter (!listed.contains ·) else listed
  let second := setChars first.length secondParts
  let translates := !deletes && 1 < operands.length
  if translates && second.isEmpty && !Given.has given 't' then
    Tool.die 1 "when not truncating set1, string2 must be non-empty".toList
  let replacement (c : Char) : Char :=
    match first.findIdx? (· == c) with
    | none => c
    | some index =>
        let last := (first.zipIdx.filter fun (found, _) => found == c).getLast?
        let index := (last.map (·.2)).getD index
        match second[index]? with
        | some found => found
        | none => if Given.has given 't' then c else (second.getLast?).getD c
  let table := ((List.range 256).map fun number => replacement (Char.ofNat number)).toArray
  let squeezed (c : Char) : Bool :=
    if 1 < operands.length then second.contains c else first.contains c
  Tool.repeating none fun (last : Option Char) => do
    match ← Tool.program (.read 0 8192) with
    | .ok (c :: rest) => do
        let block := c :: rest
        let block := if deletes then block.filter (!first.contains ·) else block
        let block :=
          if translates then block.map fun c => (table[c.toNat]?).getD c else block
        let block := if squeezes then squeeze squeezed last block else block
        Tool.print block
        Tool.flush
        return .inl (block.getLast?.or last)
    | .ok [] => return .inr ()
    | .error code => Tool.die 1 ("read error: ".toList ++ code.title)

/-- The column of the pen after an octet; if octets count as columns, all are alike. -/
def columnAfter (octets : Bool) (column : Nat) (c : Char) : Nat :=
  if octets then column + 1
  else
    match c with
    | '\x08' => column - 1
    | '\r' => 0
    | '\t' => column - column % 8 + 8
    | _ => column + 1

/-- How long lines are folded. -/
structure Folding where
  /-- The greatest width of a line. -/
  width : Nat
  /-- Octets count as columns. -/
  octets : Bool
  /-- Lines are folded after blanks where they can be. -/
  atBlanks : Bool

/-- Add an octet to what is held of a line, which is in reverse; the answer has the lines
that are full, what is held then, and its width.  The limit bounds the number of lines. -/
def Folding.add (folding : Folding) :
    (limit : Nat) → (held : Octets) → (column : Nat) → Char → List Octets × Octets × Nat
  | 0, held, column, c => ([], c :: held, column)
  | limit + 1, held, column, c =>
      let reached := columnAfter folding.octets column c
      if reached ≤ folding.width then ([], c :: held, reached)
      else if folding.atBlanks && held.any Octets.isBlank then
        let kept := held.takeWhile (!Octets.isBlank ·)
        let width := kept.reverse.foldl (columnAfter folding.octets) 0
        let (full, rest) := folding.add limit kept width c
        ((held.drop kept.length).reverse :: full, rest)
      else if held.isEmpty then ([], [c], reached)
      else
        let (full, rest) := folding.add limit [] 0 c
        (held.reverse :: full, rest)

/-- Fold a line. -/
def Folding.line (folding : Folding) (line : Octets) : List Octets :=
  let (full, held, _) := line.foldl
    (fun (full, held, column) c =>
      let (more, rest) := folding.add 3 held column c
      (more.reverse ++ full, rest))
    (([], [], 0) : List Octets × Octets × Nat)
  (held.reverse :: full).reverse

/-- Fold long lines. -/
def fold : Work := fun start => do
  let digits : List Switch := "0123456789".toList.map (⟨·, "", .optional⟩)
  let grammar : Grammar :=
    ⟨[.flag 'b' "bytes", .flag 's' "spaces", .value 'w' "width"] ++ digits, true, 1⟩
  let (given, operands) ← grammar.read start.arguments
  let mut width := 80
  for option in given do
    let text := option.value.getD []
    if option.letter = 'w' || option.letter.isDigit then
      width ← Tool.naturalNumber "invalid number of columns" 1 0xfffffffffffffff6
        (if option.letter = 'w' then text else option.letter :: text)
  let folding : Folding := ⟨width, Given.has given 'b', Given.has given 's'⟩
  for path in Tool.inputs operands do
    match ← Tool.readOrGrumble 1 path with
    | none => pure ()
    | some content =>
        for (line, ended) in endedLines content do
          Tool.print (Text.joinWith ['\n'] (folding.line line) ++ (if ended then ['\n'] else []))
  Tool.closeStandard (Tool.inputs operands) "-"

/-- What is known of an input whose lines should be sorted. -/
structure Ordered where
  /-- The lines that are left. -/
  rest : List Octets
  /-- The last line that was passed. -/
  last : Option Octets
  /-- The line before that. -/
  older : Option Octets
  /-- Whether lines were found out of order. -/
  warned : Bool

/-- How the order of lines is checked. -/
inductive OrderCheck where
  /-- Not at all. -/
  | never
  /-- Once the inputs are known to differ. -/
  | whenDifferent
  /-- Always; the first fault ends the comparison. -/
  | always
  deriving DecidableEq, Repr

/-- Complain when two lines of an input are out of order, unless that was done before. -/
def checkOrder (check : OrderCheck) (different : Bool) (number : Nat) (first second : Octets)
    (input : Ordered) : Tool Ordered := do
  let checks := check = .always || (check = .whenDifferent && different)
  if checks && !input.warned && Octets.before second first then
    let message := "file ".toList ++ Text.ofNat number ++ " is not in sorted order".toList
    if check = .always then Tool.die 1 message
    Tool.complain message
    return { input with warned := true }
  else return input

/-- Go on to the next line of an input. -/
def nextOrdered (check : OrderCheck) (different : Bool) (number : Nat) (input : Ordered) :
    Tool Ordered := do
  match input.rest with
  | [] => return input
  | line :: rest => do
      let input := { input with rest := rest, last := some line, older := input.last }
      match rest, input.older with
      | next :: _, _ => checkOrder check different number line next input
      | [], some older => checkOrder check different number older line input
      | [], none => return input

/-- How far two sorted inputs have been compared. -/
structure SideBySide where
  /-- The first input. -/
  first : Ordered
  /-- The second input. -/
  second : Ordered
  /-- Whether the inputs are known to differ. -/
  different : Bool
  /-- How many lines are only in the first, only in the second, and in both. -/
  totals : Nat × Nat × Nat

/-- The options of the tool that compares sorted inputs. -/
def commGrammar : Grammar :=
  ⟨[.flag '1' "", .flag '2' "", .flag '3' "", .flag 'c' "check-order",
    .flag 'n' "nocheck-order", .value 'o' "output-delimiter", .flag 't' "total",
    .flag 'z' "zero-terminated"], true, 1⟩

/-- Compare two sorted inputs line by line. -/
def comm : Work := fun start => do
  let (given, operands) ← commGrammar.read start.arguments
  match operands with
  | [] => Tool.misuse 1 "missing operand".toList
  | [only] => Tool.misuse 1 ("missing operand after ".toList ++ Tool.quoted only)
  | _ :: _ :: extra :: _ => Tool.misuse 1 ("extra operand ".toList ++ Tool.quoted extra)
  | [firstPath, secondPath] => do
      let ending := if Given.has given 'z' then '\x00' else '\n'
      let read (path : Octets) : Tool Ordered := do
        match ← Tool.readInput path with
        | .ok content => return ⟨Octets.pieces ending content, none, none, false⟩
        | .error code => Tool.die 1 (Tool.named path ++ ": ".toList ++ code.title)
      let first ← read firstPath
      let second ← read secondPath
      let check : OrderCheck :=
        match Given.final? given "cn" with
        | some 'c' => .always
        | some _ => .never
        | none => .whenDifferent
      let joint := (Given.last? given 'o').getD ['\t']
      let hidden (column : Nat) : Bool := Given.has given (Char.ofNat (49 + column))
      let show_ (column : Nat) (line : Octets) : Tool Unit := do
        if !hidden column then
          let before := ((List.range column).filter (!hidden ·)).flatMap fun _ => joint
          Tool.print (before ++ line ++ [ending])
      let last ← Tool.repeating (⟨first, second, false, (0, 0, 0)⟩ : SideBySide) fun state => do
        let (left, right, both) := state.totals
        let side : Option (Ordering × Octets) :=
          match state.first.rest, state.second.rest with
          | [], [] => none
          | a :: _, [] => some (.lt, a)
          | [], b :: _ => some (.gt, b)
          | a :: _, b :: _ =>
              let order := Octets.before.compareLex a b
              some (order, if order = .gt then b else a)
        match side with
        | none => return .inr state
        | some (.lt, line) => do
            show_ 0 line
            return .inl ⟨← nextOrdered check true 1 state.first, state.second, true,
              (left + 1, right, both)⟩
        | some (.gt, line) => do
            show_ 1 line
            return .inl ⟨state.first, ← nextOrdered check true 2 state.second, true,
              (left, right + 1, both)⟩
        | some (.eq, line) => do
            show_ 2 line
            let first ← nextOrdered check state.different 1 state.first
            let second ← nextOrdered check state.different 2 state.second
            return .inl ⟨first, second, state.different, (left, right, both + 1)⟩
      if Given.has given 't' then
        let (left, right, both) := last.totals
        Tool.print (Text.joinWith joint ([left, right, both].map Text.ofNat ++
          ["total".toList]) ++ [ending])
      if last.first.warned || last.second.warned then
        Tool.die 1 "input is not in sorted order".toList

/-- Replace tabs by blanks in a line. -/
def expandTabs (width : Nat) (line : Octets) : Octets :=
  (line.foldl
    (fun (reversed, column) c =>
      if c = '\t' then
        let count := width - column % width
        (List.replicate count ' ' ++ reversed, column + count)
      else (c :: reversed, column + 1)) (([] : Octets), 0)).1.reverse

/-- Replace tabs by blanks. -/
def expand : Work := fun start => do
  let grammar : Grammar := ⟨[.flag 'i' "initial", .value 't' "tabs"], true, 1⟩
  let (given, operands) ← grammar.read start.arguments
  let width := max 1 (((Given.last? given 't').bind Text.digits?).getD 8)
  for path in Tool.inputs operands do
    match ← Tool.readOrGrumble 1 path with
    | none => pure ()
    | some content =>
        for (line, ended) in endedLines content do
          Tool.print (expandTabs width line ++ (if ended then ['\n'] else []))
  Tool.closeStandard (Tool.inputs operands) "-"

end Utility
end Host
end Turnwise
