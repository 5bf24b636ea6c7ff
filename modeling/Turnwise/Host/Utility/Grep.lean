import Turnwise.Host.Regex
import Turnwise.Host.Utility.Files

/-!
# Searching for patterns

The lines of inputs that match one of some patterns are selected, or those that match
none.  Inputs are read piece by piece, so that a search which has its answer leaves the
rest unread.
-/

namespace Turnwise
namespace Host
namespace Utility

open SystemError (Code)

/-- What lines are searched for. -/
structure Sought where
  /-- The patterns; without any no line matches. -/
  regex : Option Regex
  /-- Matches must be whole words. -/
  words : Bool
  /-- Matches must be whole lines. -/
  whole : Bool

namespace Sought

/-- Whether a pattern matches exactly between two places. -/
def spans (regex : Regex) (subject : Regex.Subject) (start stop : Nat) : Bool :=
  !regex.refers || (regex.groupsBetween? subject start stop).isSome

/-- Whether no word goes on at either side of two places. -/
def standsAlone (subject : Regex.Subject) (start stop : Nat) : Bool :=
  !subject.wordBefore start && !subject.wordAfter stop

/-- The first match that is a whole word, from a place on; the limit bounds the places. -/
def wordFrom? (regex : Regex) (subject : Regex.Subject) :
    (limit : Nat) → (start : Nat) → Option (Nat × Nat)
  | 0, _ => none
  | limit + 1, start =>
      if subject.chars.size < start then none
      else
        match (Regex.ends subject regex.node [start]).reverse.find? fun stop =>
            standsAlone subject start stop && spans regex subject start stop with
        | some stop => some (start, stop)
        | none => wordFrom? regex subject limit (start + 1)

/-- The first match, from a place on. -/
def matchFrom? (sought : Sought) (regex : Regex) (subject : Regex.Subject) (start : Nat) :
    Option (Nat × Nat) :=
  let size := subject.chars.size
  if sought.whole then
    if start = 0 && (Regex.ends subject regex.node [0]).contains size &&
        spans regex subject 0 size then some (0, size) else none
  else if sought.words then wordFrom? regex subject (size + 1) start
  else (regex.searchFrom subject start).map fun found => (found.start, found.stop)

/-- Whether a line matches. -/
def isMatch (sought : Sought) (line : Octets) : Bool :=
  match sought.regex with
  | none => false
  | some regex =>
      if sought.whole || sought.words then
        (sought.matchFrom? regex (regex.subject line) 0).isSome
      else regex.isMatch line

/-- The matches of a line that are not empty, from a place on; the limit bounds their
number. -/
def partsFrom (sought : Sought) (regex : Regex) (subject : Regex.Subject) :
    (limit : Nat) → (start : Nat) → List (Nat × Nat)
  | 0, _ => []
  | limit + 1, start =>
      match sought.matchFrom? regex subject start with
      | none => []
      | some (first, last) =>
          if last = first then partsFrom sought regex subject limit (first + 1)
          else (first, last) :: partsFrom sought regex subject limit last

/-- The matches of a line that are not empty: where they begin and what they are. -/
def parts (sought : Sought) (line : Octets) : List (Nat × Octets) :=
  match sought.regex with
  | none => []
  | some regex =>
      let subject := regex.subject line
      (sought.partsFrom regex subject (line.length + 2) 0).map fun (start, stop) =>
        (start, (subject.chars.extract start stop).toList)

end Sought

/-- How a search goes and what it prints. -/
structure Search where
  /-- The options that were given. -/
  given : List Given
  /-- What is searched for. -/
  sought : Sought
  /-- After how many lines a search stops. -/
  most : Option Nat
  /-- How many lines are shown before and after a selected one. -/
  context : Option (Nat × Nat)
  /-- What ends a line. -/
  ending : Char

namespace Search

/-- Whether an option was given. -/
def has (search : Search) (letter : Char) : Bool :=
  Given.has search.given letter

/-- Whether lines are not printed. -/
def isSilent (search : Search) : Bool :=
  search.has 'q' || search.has 'l' || search.has 'L' || search.has 'c'

/-- Whether the first selected line tells all. -/
def needsOne (search : Search) : Bool :=
  search.has 'q' || search.has 'l' || search.has 'L'

end Search

/-- What is known while an input is searched. -/
structure Hunt where
  /-- The number of the next line. -/
  number : Nat
  /-- Where the next line begins. -/
  offset : Nat
  /-- How many lines were selected. -/
  count : Nat
  /-- The lines before, which may be shown, the last one first. -/
  before : List (Nat × Nat × Octets)
  /-- How many more lines are to be shown. -/
  after : Nat
  /-- The number of the last line that was shown. -/
  shown : Option Nat
  /-- Whether lines of other inputs were selected before. -/
  follows : Bool
  /-- The least width of numbers. -/
  width : Nat
  /-- Whether the search has its answer. -/
  done : Bool
  /-- Where the last selected line ended. -/
  last : Nat

/-- Print a line with what stands before it. -/
def Search.printLine
    (search : Search)
    (title : Option Octets)
    (mark : Char)
    (width number offset : Nat)
    (text : Octets) : Tool Unit :=
  let name := match title with
    | some title => title ++ [if search.has 'Z' then '\x00' else mark]
    | none => []
  let numeral (number : Nat) : Octets :=
    Octets.padLeft width ' ' (Text.ofNat number) ++ [mark]
  let head := name ++
    (if search.has 'n' then numeral number else []) ++
    (if search.has 'b' then numeral offset else [])
  let gap := search.has 'T' && !head.isEmpty && !text.isEmpty
  Tool.print (head ++ (if gap then ['\t'] else []) ++ text ++ [search.ending])

/-- Take the next line of an input. -/
def Search.takeLine
    (search : Search)
    (title : Option Octets)
    (hushed : Bool)
    (line : Octets)
    (hunt : Hunt) : Tool Hunt := do
  let sated := search.most.any (· ≤ hunt.count)
  let selected := !sated && search.sought.isMatch line != search.has 'v'
  let next := { hunt with
    number := hunt.number + 1, offset := hunt.offset + line.length + 1 }
  let (early, late) := search.context.getD (0, 0)
  let silent := search.isSilent || hushed
  let separate (first : Nat) : Tool Unit := do
    let apart :=
      match hunt.shown with
      | some last => decide (last + 1 < first)
      | none => hunt.follows
    if search.context.isSome && apart && !search.has '\x10' then
      Tool.printLine ((Given.last? search.given '\x11').getD "--".toList)
  if selected then
    let count := hunt.count + 1
    let next := { next with last := next.offset }
    let full := search.most.any (· ≤ count)
    let finished := search.needsOne || hushed || (full && (late = 0 || silent))
    if silent then
      return { next with count := count, done := finished }
    else
      let first := match hunt.before.getLast? with
        | some (number, _, _) => number
        | none => hunt.number
      separate first
      if search.has 'o' then
        if !search.has 'v' then
          for (start, part) in search.sought.parts line do
            search.printLine title ':' hunt.width hunt.number (hunt.offset + start) part
      else
        for (number, offset, text) in hunt.before.reverse do
          search.printLine title '-' hunt.width number offset text
        search.printLine title ':' hunt.width hunt.number hunt.offset line
      return { next with
        count := count, before := [], after := late, shown := some hunt.number
        done := finished }
  else if 0 < hunt.after then
    if !search.has 'o' && !silent then
      search.printLine title '-' hunt.width hunt.number hunt.offset line
    return { next with
      after := hunt.after - 1, shown := some hunt.number
      done := hunt.after = 1 && sated }
  else
    return { next with
      before := ((hunt.number, hunt.offset, line) :: hunt.before).take early }

/-- Take lines until the search has its answer. -/
def Search.takeLines (search : Search) (title : Option Octets) (hushed : Bool) :
    List Octets → Hunt → Tool Hunt
  | [], hunt => return hunt
  | line :: rest, hunt => do
      if hunt.done then return hunt
      else takeLines search title hushed rest (← search.takeLine title hushed line hunt)

/-- The least width of numbers before lines: if they are aligned, that of the size of the
input. -/
def Search.numberWidth (search : Search) (descriptor : Nat) : Tool Nat := do
  if search.has 'T' then
    match ← Tool.program (.statusOf descriptor) with
    | .ok status =>
        if status.form = .file then
          return (Text.ofNat (status.size + (if search.has 'n' then 1 else 0))).length
        else return 20
    | .error _ => return 20
  else return 0

/-- Search an open input; the answer tells what was found and why it could not be read.  In
what is no text, zero octets end lines too. -/
def Search.takeInput (search : Search) (title : Option Octets) (follows : Bool)
    (descriptor : Nat) : Tool (Hunt × Bool × Option Code) := do
  let width ← search.numberWidth descriptor
  let fresh : Hunt := ⟨1, 0, 0, [], 0, none, follows, width, search.most == some 0, 0⟩
  Tool.repeating (fresh, ([] : Octets), false) fun (hunt, rest, binary) => do
    if hunt.done then return .inr (hunt, binary, none)
    match ← Tool.program (.read descriptor 32768) with
    | .error code => return .inr (hunt, binary, some code)
    | .ok [] => do
        if rest.isEmpty then return .inr (hunt, binary, none)
        let hushed := binary && !search.isSilent
        return .inr (← search.takeLine title hushed rest hunt, binary, none)
    | .ok block => do
        let binary := binary || (block.contains '\x00' && search.ending = '\n' &&
          !search.has 'a')
        let hushed := binary && !search.isSilent
        if binary && search.has 'I' then return .inr (hunt, false, none)
        let block := if binary then block.map fun c => if c = '\x00' then '\n' else c else block
        let pieces := (rest ++ block).splitOn search.ending
        let hunt ← search.takeLines title hushed pieces.dropLast hunt
        return .inl (hunt, (pieces.getLast?).getD [], binary)

/-- Whether an input is also what is printed to. -/
def Search.feedsItself (search : Search) (descriptor : Nat) : Tool Bool := do
  if search.needsOne || search.most.any (· ≤ 1) then return false
  match ← Tool.program (.statusOf descriptor), ← Tool.program (.statusOf 1) with
  | .ok input, .ok output => return input.form == .file && input.serial == output.serial
  | _, _ => return false

/-- Search an open input and tell about it; the answer tells whether it was selected. -/
def Search.report (search : Search) (titled follows : Bool) (path : Octets)
    (descriptor : Nat) : Tool Bool := do
  let name : Octets := if path = ['-'] then
    (Given.last? search.given '\x05').getD "(standard input)".toList else path
  let title := if titled then some name else none
  let refuse (reason : Octets) : Tool Unit := do
    if !search.has 's' then Tool.grumble 2 (name ++ ": ".toList ++ reason) else Tool.fail 2
  if ← search.feedsItself descriptor then
    refuse "input file is also the output".toList
    return false
  let beginning ← Tool.program (.position descriptor)
  let (hunt, binary, failure) ← search.takeInput title follows descriptor
  match beginning with
  | .ok position =>
      if descriptor = 0 && search.most == some hunt.count then
        let _ ← Tool.program (.seek 0 (position + hunt.last))
  | .error _ => pure ()
  match failure with
  | some code => refuse code.title
  | none => pure ()
  if binary && 0 < hunt.count && !search.isSilent then
    Tool.complain (name ++ ": binary file matches".toList)
  if search.has 'c' && !search.needsOne then
    Tool.print ((match title with
      | some title => title ++ [if search.has 'Z' then '\x00' else ':']
      | none => []) ++ Text.ofNat hunt.count ++ ['\n'])
  let selected := 0 < hunt.count
  let finish : Char := if search.has 'Z' then '\x00' else '\n'
  if !search.has 'q' then
    if search.has 'L' then
      if !selected then Tool.print (name ++ [finish])
    else if search.has 'l' then
      if selected then Tool.print (name ++ [finish])
  return selected

/-- Whether the name of a file is to be searched. -/
def Search.admits (search : Search) (path : Octets) : Bool :=
  let name := lastSegment path
  let fits (letter : Char) : Bool := search.given.any fun option =>
    option.letter == letter &&
      (Glob.isMatch (Glob.ofText (option.value.getD [])) name ||
        Glob.isMatch (Glob.ofText (option.value.getD [])) path)
  !fits '\x02' && (!search.has '\x01' || fits '\x01')

/-- Search a file, or all files in a directory; the answer tells whether one was
selected. -/
def Search.takePath (search : Search) (titled : Bool) :
    (limit : Nat) → (top follows : Bool) → (path : Octets) → Tool Bool
  | 0, _, _, _ => return false
  | limit + 1, top, follows, path => do
      let refuse (reason : Octets) : Tool Unit := do
        if !search.has 's' then Tool.grumble 2 (path ++ ": ".toList ++ reason) else Tool.fail 2
      if path = ['-'] then return ← search.report titled follows path 0
      let recursive := search.has 'r' || search.has 'R'
      let outcome ←
        if top || search.has 'R' then Tool.program (.status path)
        else Tool.program (.statusHere path)
      match outcome with
      | .error code => do
          refuse code.title
          return false
      | .ok status =>
          if status.form = .directory && recursive then
            let names : List Octets ←
              match ← Tool.program (.names path) with
              | .ok names => pure names
              | .error _ => pure []
            let mut selected := false
            for name in names do
              if !(selected && search.has 'q') then
                if ← takePath search (!search.has 'h') limit false (follows || selected)
                    (pathIn path name) then
                  selected := true
            return selected
          else if status.form = .directory && Given.last? search.given 'd' == some "skip".toList
          then return false
          else if !top && status.form != .file then return false
          else if !search.admits path then return false
          else
            match ← Tool.program (.openFile path .reading) with
            | .error code => do
                refuse code.title
                return false
            | .ok descriptor => do
                let selected ← search.report titled follows path descriptor
                Tool.program (.close descriptor)
                return selected

/-- The options of searches. -/
def grepGrammar : Grammar :=
  ⟨[.flag 'E' "extended-regexp", .flag 'F' "fixed-strings", .flag 'G' "basic-regexp",
    .flag 'P' "perl-regexp", .value 'e' "regexp", .value 'f' "file",
    .flag 'i' "ignore-case", .flag 'y' "", .flag '\x04' "no-ignore-case",
    .flag 'w' "word-regexp", .flag 'x' "line-regexp", .flag 'z' "null-data",
    .flag 's' "no-messages", .flag 'v' "invert-match", .flag 'V' "version",
    .value 'm' "max-count", .flag 'b' "byte-offset", .flag 'n' "line-number",
    .flag '\x06' "line-buffered", .flag 'H' "with-filename", .flag 'h' "no-filename",
    .value '\x05' "label", .flag 'o' "only-matching", .flag 'q' "quiet",
    .flag '\x07' "silent", .value '\x08' "binary-files", .flag 'a' "text", .flag 'I' "",
    .value 'd' "directories", .value 'D' "devices", .flag 'r' "recursive",
    .flag 'R' "dereference-recursive", .value '\x01' "include", .value '\x02' "exclude",
    .value '\x0b' "exclude-dir", .flag 'L' "files-without-match",
    .flag 'l' "files-with-matches", .flag 'c' "count", .flag 'T' "initial-tab",
    .flag 'Z' "null", .value 'A' "after-context", .value 'B' "before-context",
    .value 'C' "context", .flag '\x10' "no-group-separator",
    .value '\x11' "group-separator", ⟨'\x0c', "color", .optional⟩, ⟨'\x0e', "colour", .optional⟩,
    .flag 'U' "binary"] ++ "0123456789".toList.map (Switch.flag · ""), true, 2⟩

/-- Put one option for context in place of digits that stand one after another, given those
before. -/
def joinDigits : (digits : Octets) → List Given → List Given
  | digits, [] => if digits.isEmpty then [] else [⟨'C', some digits⟩]
  | digits, option :: rest =>
      if option.letter.isDigit then joinDigits (digits ++ [option.letter]) rest
      else
        (if digits.isEmpty then [] else [⟨'C', some digits⟩]) ++ option :: joinDigits [] rest

/-- Put letters for options that are given by words. -/
def grepLetters (option : Given) : Tool Given := do
  match option.letter, option.value with
  | '\x07', _ => return ⟨'q', none⟩
  | '\x08', some word =>
      match String.ofList word with
      | "text" => return ⟨'a', none⟩
      | "without-match" => return ⟨'I', none⟩
      | "binary" => return option
      | _ => Tool.die 2 "unknown binary-files type".toList
  | 'd', some word => do
      let choices : List (Char × List String) :=
        [('d', ["read"]), ('r', ["recurse"]), ('s', ["skip"])]
      let letter ← Tool.chosen 2 "--directories" choices word
      return if letter = 's' then ⟨'d', some "skip".toList⟩ else ⟨letter, none⟩
  | 'D', some word => do
      if word != "read".toList && word != "skip".toList then
        Tool.die 2 "unknown devices method".toList
      return option
  | _, _ => return option

/-- Letters for classes that only the richest notation knows, written in the extended
one. -/
def plainClasses : Octets → Octets
  | '\\' :: 'd' :: rest => "[0-9]".toList ++ plainClasses rest
  | '\\' :: 'D' :: rest => "[^0-9]".toList ++ plainClasses rest
  | '\\' :: 't' :: rest => '\t' :: plainClasses rest
  | '\\' :: c :: rest => '\\' :: c :: plainClasses rest
  | c :: rest => c :: plainClasses rest
  | [] => []

/-- The patterns of a call: those of options, or the first operand. -/
def grepPatterns (given : List Given) (operands : List Octets) :
    Tool (List Octets × List Octets) := do
  let mut patterns : List Octets := []
  for option in given do
    match option.letter, option.value with
    | 'e', some text => patterns := patterns ++ text.splitOn '\n'
    | 'f', some path =>
        match ← Tool.readInput path with
        | .ok content => patterns := patterns ++ Octets.lines content
        | .error code => Tool.die 2 (path ++ ": ".toList ++ code.title)
    | _, _ => pure ()
  if Given.has given 'e' || Given.has given 'f' then return (patterns, operands)
  else
    match operands with
    | [] => do
        let _ ← Tool.program (.write 2 (← Tool.hint))
        Tool.exit 2
    | text :: rest => return (text.splitOn '\n', rest)

/-- Read the patterns of a search. -/
def grepRegex (kind : Char) (folds : Bool) (patterns : List Octets) : Tool (Option Regex) := do
  let mut found : Option Regex := none
  for pattern in patterns do
    let outcome : Except Regex.Fault Regex :=
      match kind with
      | 'F' => .ok (Regex.ofText folds pattern)
      | 'E' => Regex.parse ⟨true, folds, false⟩ pattern
      | 'P' => Regex.parse ⟨true, folds, false⟩ (plainClasses pattern)
      | _ => Regex.parse ⟨false, folds, false⟩ pattern
    match outcome with
    | .error fault => Tool.die 2 fault.title
    | .ok regex =>
        if regex.lone then
          Tool.die 2 "character class syntax is [[:space:]], not [:space:]".toList
        for warning in regex.warnings do Tool.complain ("warning: ".toList ++ warning)
        found := match found with
          | some before => some (before.either regex)
          | none => some regex
  return found

/-- A number of lines of context, or a complaint. -/
def contextOf (given : List Given) (letter : Char) : Tool (Option Nat) := do
  match Given.last? given letter with
  | none => return none
  | some text =>
      match Text.digits? text with
      | some number => return some number
      | none => Tool.die 2 (text ++ ": invalid context length argument".toList)

/-- Search inputs for patterns, in a notation that a letter stands for. -/
def grep (standard : Char) : Work := fun start => do
  let usage := "Usage: ".toList ++ start.name ++ " [OPTION]... PATTERNS [FILE]...\n".toList ++
    (← Tool.manualLine)
  modify fun console => { console with usage := some usage }
  let (given, operands) ← grepGrammar.read start.arguments
  let given := joinDigits [] (← given.mapM grepLetters)
  let (patterns, operands) ← grepPatterns given operands
  let most : Option Nat ←
    match Given.last? given 'm' with
    | none => pure none
    | some text =>
        match text, Text.digits? text with
        | _, some number => pure (some number)
        | '-' :: _, none => pure none
        | _, none => Tool.die 2 "invalid max count".toList
  let late ← contextOf given 'A'
  let early ← contextOf given 'B'
  let both ← contextOf given 'C'
  let context : Option (Nat × Nat) :=
    if late.isSome || early.isSome || both.isSome then
      some ((early.or both).getD 0, (late.or both).getD 0)
    else none
  let kind := (Given.final? given "EFGP").getD standard
  let folds := Given.final? given "iy\x04" |>.any (· != '\x04')
  let regex ← grepRegex kind folds patterns
  let search : Search :=
    { given := given
      sought := ⟨regex, Given.has given 'w', Given.has given 'x'⟩
      most := most
      context := context
      ending := if Given.has given 'z' then '\x00' else '\n' }
  let recursive := search.has 'r' || search.has 'R'
  let titled := Given.final? given "Hh" == some 'H' ||
    (Given.final? given "Hh").isNone && 1 < operands.length
  let mut selected := false
  if operands.isEmpty && recursive then
    match ← Tool.program (.names ['.']) with
    | .ok names =>
        for name in names do
          if ← search.takePath (!search.has 'h') depthLimit false selected name then
            selected := true
    | .error _ => pure ()
  else
    for path in Tool.inputs operands do
      if !(selected && search.has 'q') then
        if ← search.takePath titled depthLimit true selected path then selected := true
  if search.has 'q' && selected then Tool.exit 0
  if (← get).status = 0 && !selected then Tool.fail 1

end Utility
end Host
end Turnwise
