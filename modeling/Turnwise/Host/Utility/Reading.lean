import Turnwise.Host.Utility.Tool

/-!
# Tools that copy what they read

They copy their inputs as they are, numbered, reversed, or only the beginning or the end
of them, or count what is in them.
-/

namespace Turnwise
namespace Host
namespace Utility

open SystemError (Code)

/-- Copy a descriptor to the output, block by block; the answer is the failure that ended
it. -/
def copyThrough (descriptor : Nat) : Tool (Option Code) := do
  Tool.flush
  Tool.repeating () fun _ => do
    match ← Tool.program (.read descriptor 131072) with
    | .error code => return .inr (some code)
    | .ok [] => return .inr none
    | .ok block => do
        match ← Tool.program (.write 1 block) with
        | .ok _ => return .inl ()
        | .error code => do
            modify fun console => { console with failure := some code }
            return .inr none

/-- How lines are shown. -/
structure Showing where
  /-- Number all lines. -/
  numbers : Bool
  /-- Number only lines that are not empty. -/
  numbersFilled : Bool
  /-- Leave out repeated empty lines. -/
  squeezes : Bool
  /-- Mark the ends of lines. -/
  marksEnds : Bool
  /-- Show tabs as letters. -/
  showsTabs : Bool
  /-- Show what cannot be printed as letters. -/
  showsOthers : Bool

/-- Show an octet. -/
def Showing.octet (showing : Showing) (c : Char) : Octets :=
  if c = '\t' then if showing.showsTabs then "^I".toList else [c]
  else if !showing.showsOthers then [c]
  else
    let low (c : Char) : Octets :=
      if c < ' ' then ['^', Char.ofNat (c.toNat + 64)]
      else if c = '\x7f' then "^?".toList
      else [c]
    if c.toNat < 128 then low c else "M-".toList ++ low (Char.ofNat (c.toNat - 128))

/-- How far lines have been shown: the number of the next line, and how many empty lines
came last. -/
structure Shown where
  /-- The number of the next line. -/
  number : Nat
  /-- How many empty lines came last. -/
  blanks : Nat

/-- Show a line, which may lack its newline. -/
def Showing.line (showing : Showing) (shown : Shown) (line : Octets) (ended : Bool) :
    Octets × Shown :=
  let blank := line.isEmpty && ended
  let blanks := if blank then shown.blanks + 1 else 0
  if showing.squeezes && 1 < blanks then ([], { shown with blanks := blanks })
  else
    let numbered := (showing.numbersFilled && !blank) ||
      (showing.numbers && !showing.numbersFilled)
    let text :=
      (if numbered then Octets.padLeft 6 ' ' (Text.ofNat shown.number) ++ ['\t'] else []) ++
        line.flatMap showing.octet ++
        (if ended then if showing.marksEnds then ['$', '\n'] else ['\n'] else [])
    (text, ⟨if numbered then shown.number + 1 else shown.number, blanks⟩)

/-- The lines of a text, each with whether a newline ends it. -/
def endedLines (content : Octets) : List (Octets × Bool) :=
  let pieces := content.splitOn '\n'
  pieces.dropLast.map (·, true) ++
    (pieces.getLast?.toList.filter (!·.isEmpty)).map (·, false)

/-- Show a text. -/
def Showing.text (showing : Showing) (shown : Shown) (content : Octets) : Octets × Shown :=
  let (reversed, shown) := (endedLines content).foldl
    (fun (reversed, shown) (line, ended) =>
      let (text, shown) := showing.line shown line ended
      (text :: reversed, shown)) (([] : List Octets), shown)
  (reversed.reverse.flatten, shown)

/-- The options of the tool that copies inputs. -/
def catGrammar : Grammar :=
  ⟨[.flag 'A' "show-all", .flag 'b' "number-nonblank", .flag 'e' "", .flag 'E' "show-ends",
    .flag 'n' "number", .flag 's' "squeeze-blank", .flag 't' "", .flag 'T' "show-tabs",
    .flag 'u' "", .flag 'v' "show-nonprinting"], true, 1⟩

/-- Copy inputs to the output. -/
def cat : Work := fun start => do
  let (given, operands) ← catGrammar.read start.arguments
  let has (letters : String) : Bool := letters.toList.any (Given.has given)
  let showing : Showing :=
    ⟨has "n", has "b", has "s", has "AeE", has "AtT", has "Aetv"⟩
  let plain := given.all (·.letter == 'u')
  let output ← Tool.program (.statusOf 1)
  match output with
  | .error code => Tool.die 1 ("standard output: ".toList ++ code.title)
  | .ok _ => pure ()
  let mut shown : Shown := ⟨1, 0⟩
  for path in Tool.inputs operands do
    match ← Tool.openInput path with
    | .error code =>
        Tool.grumble 1 (Tool.named path ++ ": ".toList ++ code.title)
    | .ok descriptor => do
        let itself : Bool :=
          match output, ← Tool.program (.statusOf descriptor) with
          | .ok out, .ok status =>
              out.form == .file && out.serial == status.serial && decide (0 < status.size)
          | _, _ => false
        if itself then
          Tool.grumble 1 (Tool.named path ++ ": input file is output file".toList)
        else if plain then
          match ← copyThrough descriptor with
          | some code => Tool.grumble 1 (Tool.named path ++ ": ".toList ++ code.title)
          | none => pure ()
        else
          let (content, failure) ← Tool.program (.readAll descriptor)
          let (text, next) := showing.text shown content
          shown := next
          Tool.print text
          match failure with
          | some code => Tool.grumble 1 (Tool.named path ++ ": ".toList ++ code.title)
          | none => pure ()
        Tool.closeInput descriptor
  Tool.closeStandard (Tool.inputs operands) "closing standard input"

/-- Copy lines in reverse. -/
def tac : Work := fun start => do
  let grammar : Grammar :=
    ⟨[.flag 'b' "before", .flag 'r' "regex", .value 's' "separator"], true, 1⟩
  let (_, operands) ← grammar.read start.arguments
  for path in Tool.inputs operands do
    match ← Tool.readInput path with
    | .ok content =>
        let lines := endedLines content
        Tool.print (lines.reverse.flatMap fun (line, ended) =>
          if ended then line ++ ['\n'] else line)
    | .error code =>
        if path = ['-'] || code = .isDirectory then
          let reason : Code := if code = .isDirectory then .invalid else code
          Tool.grumble 1 (Tool.inputName path ++ ": read error: ".toList ++ reason.title)
        else
          Tool.grumble 1 ("failed to open ".toList ++ Tool.shellQuoted path ++
            " for reading: ".toList ++ code.title)
  Tool.closeStandard (Tool.inputs operands) "-"

/-- Copy lines, each in reverse; a directory is tried again and again. -/
def rev : Work := fun start => do
  let grammar : Grammar := ⟨[.flag '0' "zero"], true, 1⟩
  let (_, operands) ← grammar.read start.arguments
  let copy (content : Octets) : Tool Unit :=
    Tool.print ((endedLines content).flatMap fun (line, ended) =>
      line.reverse ++ (if ended then ['\n'] else []))
  if operands.isEmpty then
    let (content, _) ← Tool.program (.readAll 0)
    copy content
  else
    for path in operands do
      match ← Tool.program (.readFile path) with
      | .ok content => copy content
      | .error .isDirectory => Tool.program .spin
      | .error code =>
          Tool.grumble 1 ("cannot open ".toList ++ path ++ ": ".toList ++ code.title)

/-- The factor that letters after a number stand for: a power of 1024, or of 1000 if a
capital B comes next. -/
def multiple? (suffix : Octets) : Option Nat :=
  match suffix with
  | [] => some 1
  | ['b'] => some 512
  | c :: rest => do
      let unit := if c = 'k' then 'K' else if c = 'm' then 'M' else c
      let power ← "KMGTPEZYRQ".toList.findIdx? (· == unit)
      match rest with
      | [] => some (Nat.pow 1024 (power + 1))
      | ['i', 'B'] => some (Nat.pow 1024 (power + 1))
      | ['B'] => some (Nat.pow 1000 (power + 1))
      | ['D'] => some (Nat.pow 1000 (power + 1))
      | _ => none

/-- The number that digits with letters stand for; letters alone stand for their factor. -/
def amount? (text : Octets) : Option Nat := do
  let trimmed := text.dropWhile Octets.isSpace
  let body := if trimmed.head? = some '+' then trimmed.drop 1 else trimmed
  let digits := body.takeWhile Char.isDigit
  let factor ← multiple? (body.drop digits.length)
  match Text.digits? digits with
  | some value => some (value * factor)
  | none => if body.isEmpty || body.length < trimmed.length then none else some factor

/-- How much of an input is meant. -/
structure Extent where
  /-- Bytes instead of lines. -/
  bytes : Bool
  /-- The number. -/
  count : Nat
  /-- Whether the number is counted from the other side. -/
  reversed : Bool

/-- The first lines of a text. -/
def firstLines : (count : Nat) → Octets → Octets
  | 0, _ => []
  | count + 1, content =>
      let line := content.takeWhile (· != '\n')
      match content.drop line.length with
      | [] => line
      | newline :: rest => line ++ newline :: firstLines count rest

/-- The number of newlines in a text. -/
def newlines (content : Octets) : Nat :=
  content.count '\n'

/-- Copy the first part of an input, reading no more blocks than needed; what was read too
much is given back if the input allows that. -/
def copyFirst (descriptor : Nat) (extent : Extent) : Tool (Option Code) := do
  let before ← Tool.program (.position descriptor)
  Tool.repeating (extent.count, 0) fun (left, consumed) => do
    if left = 0 then finish before consumed
    else
      match ← Tool.program (.read descriptor (if extent.bytes then min left 8192 else 8192)) with
      | .error code => return .inr (some code)
      | .ok [] => return .inr none
      | .ok block =>
          let taken := if extent.bytes then block.take left else firstLines left block
          Tool.print taken
          let used := if extent.bytes then taken.length else newlines taken
          return .inl (left - used, consumed + taken.length)
where
  /-- Give back what was read too much. -/
  finish (before : Except Code Nat) (consumed : Nat) : Tool ((Nat × Nat) ⊕ Option Code) := do
    match before with
    | .ok position => do
        let _ ← Tool.program (.seek descriptor (position + consumed))
        return .inr none
    | .error _ => return .inr none

/-- A text without its last lines. -/
def withoutLastLines (count : Nat) (content : Octets) : Octets :=
  let lines := endedLines content
  (lines.take (lines.length - count)).flatMap fun (line, ended) =>
    line ++ (if ended then ['\n'] else [])

/-- The last lines of a text. -/
def lastLines (count : Nat) (content : Octets) : Octets :=
  let lines := endedLines content
  (lines.drop (lines.length - count)).flatMap fun (line, ended) =>
    line ++ (if ended then ['\n'] else [])

/-- A text from a line on. -/
def fromLine (number : Nat) (content : Octets) : Octets :=
  (endedLines content).drop (number - 1) |>.flatMap fun (line, ended) =>
    line ++ (if ended then ['\n'] else [])

/-- Replace an old option, a number after a dash, by the option for lines. -/
def modernised : List Octets → List Octets
  | ('-' :: c :: rest) :: words =>
      if c.isDigit then
        let digits := (c :: rest).takeWhile Char.isDigit
        let letters := (c :: rest).drop digits.length
        match letters with
        | [] => ['-', 'n'] :: digits :: words
        | 'c' :: _ => ['-', 'c'] :: digits :: words
        | _ => ['-', 'n'] :: digits :: words
      else ('-' :: c :: rest) :: words
  | words => words

/-- The title before an input when there are several. -/
def inputTitle (path : Octets) : Octets :=
  "==> ".toList ++ (if path = ['-'] then "standard input".toList else path) ++
    " <==\n".toList

/-- Whether titles are printed. -/
def showsTitles (given : List Given) (operands : List Octets) : Bool :=
  match Given.final? given "qv" with
  | some 'q' => false
  | some _ => true
  | none => decide (1 < operands.length)

/-- The options of the tools that copy a beginning or an end. -/
def partGrammar : Grammar :=
  ⟨[.value 'n' "lines", .value 'c' "bytes", .flag 'q' "quiet", .flag 'v' "verbose",
    .flag 'z' "zero-terminated", .flag 'f' "follow", .flag 'F' ""], true, 1⟩

/-- How much of an input an option asks for. -/
def extentOfOption (sign : Char) (option : Given) : Tool Extent := do
  let text := option.value.getD []
  let bytes := option.letter = 'c'
  let (reversed, shown) : Bool × Octets :=
    match text with
    | '-' :: rest => (sign == '-', rest)
    | '+' :: _ => (sign == '+', text)
    | _ => (false, text)
  let refuse (reason : String) : Tool Extent :=
    Tool.die 1 ("invalid number of ".toList ++ (if bytes then "bytes" else "lines").toList ++
      ": ".toList ++ Tool.quoted shown ++ reason.toList)
  match amount? shown with
  | some count =>
      if count < 0x10000000000000000 then return ⟨bytes, count, reversed⟩
      else refuse ": Value too large for defined data type"
  | none => refuse ""

/-- How much of an input options ask for; the last one counts. -/
def extentOf (given : List Given) (standard : Extent) (sign : Char) : Tool Extent := do
  let mut extent := standard
  for option in given do
    if option.letter = 'n' || option.letter = 'c' then
      extent ← extentOfOption sign option
  return extent

/-- Complain about an input that cannot be opened. -/
def cannotOpen (path : Octets) (code : Code) : Tool Unit :=
  Tool.grumble 1 ("cannot open ".toList ++ Tool.shellQuoted path ++ " for reading: ".toList ++
    code.title)

/-- Complain about an input that cannot be read. -/
def cannotRead (path : Octets) (code : Code) : Tool Unit :=
  let name := if path = ['-'] then Tool.inputName path else Tool.shellQuoted path
  Tool.grumble 1 ("error reading ".toList ++ name ++ ": ".toList ++ code.title)

/-- Do something with each input, with titles where they are wanted. -/
def eachInput (titled : Bool) (operands : List Octets) (work : Octets → Nat → Tool Unit) :
    Tool Unit := do
  let mut first := true
  for path in Tool.inputs operands do
    match ← Tool.openInput path with
    | .error code => cannotOpen path code
    | .ok descriptor => do
        if titled then
          Tool.print ((if first then [] else ['\n']) ++ inputTitle path)
        first := false
        work path descriptor
        Tool.closeInput descriptor
  Tool.closeStandard (Tool.inputs operands) "-"

/-- Copy the beginnings of inputs. -/
def head : Work := fun start => do
  let (given, operands) ← partGrammar.read (modernised start.arguments)
  let extent ← extentOf given ⟨false, 10, false⟩ '-'
  eachInput (showsTitles given operands) operands fun path descriptor => do
    if extent.reversed then
      let (content, failure) ← Tool.program (.readAll descriptor)
      Tool.print (if extent.bytes then content.take (content.length - extent.count)
        else withoutLastLines extent.count content)
      match failure with
      | some code => cannotRead path code
      | none => return
    else
      match ← copyFirst descriptor extent with
      | some code => cannotRead path code
      | none => return

/-- Whether the words after an old option leave it its meaning: there is at most one input. -/
def admitsOldOption : List Octets → Bool
  | [] => true
  | [path] =>
      match path with
      | '-' :: _ :: _ => false
      | _ => true
  | ['-', '-'] :: rest => rest.length ≤ 1
  | _ => false

/-- The words of a call of the tool that copies ends, an old option replaced. -/
def tailWords (words : List Octets) : Tool (List Octets) := do
  match words with
  | (sign :: c :: more) :: rest =>
      if (sign = '-' || sign = '+') && c.isDigit then
        if !admitsOldOption rest then
          if sign = '-' then
            Tool.die 1 ("option used in invalid context -- ".toList ++ [c])
          else return words
        else
          let digits := (c :: more).takeWhile Char.isDigit
          let count : Octets := if sign = '+' then '+' :: digits else digits
          match (c :: more).drop digits.length with
          | 'c' :: _ => return ['-', 'c'] :: count :: rest
          | 'b' :: _ => return ['-', 'c'] :: (count ++ ['b']) :: rest
          | _ => return ['-', 'n'] :: count :: rest
      else return words
  | words => return words

/-- Copy the ends of inputs. -/
def tail : Work := fun start => do
  let (given, operands) ← partGrammar.read (← tailWords start.arguments)
  let extent ← extentOf given ⟨false, 10, false⟩ '+'
  if extent.count = 0 && !extent.reversed && !Given.has given 'f' && !Given.has given 'F' then
    Tool.exit 0
  let operands := Tool.inputs operands
  eachInput (showsTitles given operands) operands fun path descriptor => do
    let (content, failure) ← Tool.program (.readAll descriptor)
    Tool.print <|
      if extent.reversed then
        if extent.bytes then content.drop (extent.count - 1) else fromLine extent.count content
      else if extent.bytes then content.drop (content.length - extent.count)
      else lastLines extent.count content
    match failure with
    | some .badDescriptor =>
        Tool.grumble 1 ("cannot fstat ".toList ++ Tool.inputName path ++ ": ".toList ++
          Code.badDescriptor.title)
    | some code => cannotRead path code
    | none => return
  if Given.has given 'f' || Given.has given 'F' then
    Tool.flush
    Tool.program .spin

/-- What is counted in an input. -/
structure Counts where
  /-- Newlines. -/
  lines : Nat
  /-- Words. -/
  words : Nat
  /-- Bytes. -/
  bytes : Nat
  /-- The length of the longest line. -/
  longest : Nat

/-- The number of words in a text. -/
def wordCount (content : Octets) : Nat :=
  (content.foldl
    (fun (count, inside) c =>
      if Octets.isSpace c then (count, false)
      else if inside then (count, true)
      else (count + 1, true)) (0, false)).1

/-- How many columns a line takes; what cannot be shown takes none. -/
def columns (line : Octets) : Nat :=
  line.foldl (fun width c =>
    if c = '\t' then (width / 8 + 1) * 8 else if Tool.isShown c then width + 1 else width) 0

/-- Whether a character moves the pen to the beginning of a line. -/
def returnsPen (c : Char) : Bool :=
  c == '\n' || c == '\r' || c == '\x0c'

/-- Count what is in a text. -/
def countsOf (content : Octets) : Counts :=
  ⟨newlines content, wordCount content, content.length,
    ((content.splitOnP returnsPen).map columns).foldl max 0⟩

/-- The sum of counts. -/
def Counts.add (first second : Counts) : Counts :=
  ⟨first.lines + second.lines, first.words + second.words, first.bytes + second.bytes,
    max first.longest second.longest⟩

/-- The options of the tool that counts. -/
def wcGrammar : Grammar :=
  ⟨[.flag 'c' "bytes", .flag 'm' "chars", .flag 'l' "lines", .flag 'L' "max-line-length",
    .flag 'w' "words"], true, 1⟩

/-- The counts that are shown, in their order. -/
def Counts.shown (counts : Counts) (letters : List Char) : List Nat :=
  (if letters.contains 'l' then [counts.lines] else []) ++
    (if letters.contains 'w' then [counts.words] else []) ++
    (if letters.contains 'm' then [counts.bytes] else []) ++
    (if letters.contains 'c' then [counts.bytes] else []) ++
    (if letters.contains 'L' then [counts.longest] else [])

/-- The width of the columns for some inputs. -/
def countWidth (single : Bool) (statuses : List (Option Status)) : Nat :=
  let known := statuses.filterMap id
  if single then 1
  else
    let total := (known.filter (·.form == .file)).foldl (fun sum status => sum + status.size) 0
    let least := if known.all (·.form == .file) then 1 else 7
    max least (Text.ofNat total).length

/-- Count lines, words and bytes. -/
def wc : Work := fun start => do
  Tool.lamenting 1 fun code =>
    if code = .badDescriptor then Tool.writeError code else "write error".toList
  let (given, operands) ← wcGrammar.read start.arguments
  let letters := if given.isEmpty then ['l', 'w', 'c'] else given.map (·.letter)
  let paths := Tool.inputs operands
  let mut statuses : List (Option Status) := []
  for path in paths do
    let found ← Tool.program (if path = ['-'] then .statusOf 0 else .status path)
    statuses := statuses ++ [found.toOption]
  let kinds := ((Counts.mk 0 0 0 0).shown letters).length
  let width := countWidth (paths.length = 1 && kinds = 1) statuses
  let line (counts : Counts) (name : Octets) : Octets :=
    Text.joinWith [' '] ((counts.shown letters).map fun count =>
      Octets.padLeft width ' ' (Text.ofNat count)) ++
      (if name.isEmpty then [] else ' ' :: name)
  let mut total : Counts := ⟨0, 0, 0, 0⟩
  for path in paths do
    let shown := if operands.isEmpty then [] else path
    match ← Tool.openInput path with
    | .error code =>
        Tool.grumble 1 (if path.isEmpty then "invalid zero-length file name".toList
          else Tool.named path ++ ": ".toList ++ code.title)
    | .ok descriptor => do
        let (content, failure) ← Tool.program (.readAll descriptor)
        Tool.closeInput descriptor
        match failure with
        | some code => Tool.grumble 1 (Tool.inputName path ++ ": ".toList ++ code.title)
        | none => pure ()
        let counts := countsOf content
        total := total.add counts
        Tool.printLine (line counts shown)
  if 1 < paths.length then Tool.printLine (line total "total".toList)
  Tool.closeStandard paths "-"

/-- Copy the input to the output and to files. -/
def tee : Work := fun start => do
  let grammar : Grammar :=
    ⟨[.flag 'a' "append", .flag 'i' "ignore-interrupts", .flag 'p' ""], true, 1⟩
  let (given, operands) ← grammar.read start.arguments
  let opening : Opening := if Given.has given 'a' then .appending else .writing
  let mut outputs : List (Octets × Nat) := []
  for path in operands do
    match ← Tool.program (.openFile path opening) with
    | .ok descriptor => outputs := outputs ++ [(Tool.named path, descriptor)]
    | .error code => Tool.grumble 1 (Tool.named path ++ ": ".toList ++ code.title)
  let targets : List (Octets × Nat) := ("'standard output'".toList, 1) :: outputs
  Tool.repeating targets fun targets => do
    match ← Tool.program (.read 0 8192) with
    | .ok [] => return .inr ()
    | .error code => do
        Tool.grumble 1 ("read error: ".toList ++ code.title)
        return .inr ()
    | .ok block => do
        let mut left : List (Octets × Nat) := []
        for (name, descriptor) in targets do
          match ← Tool.program (.write descriptor block) with
          | .ok _ => left := left ++ [(name, descriptor)]
          | .error code => Tool.grumble 1 (name ++ ": ".toList ++ code.title)
        if left.isEmpty then return .inr () else return .inl left
  Tool.closeStandard [['-']] "standard input"

end Utility
end Host
end Turnwise
