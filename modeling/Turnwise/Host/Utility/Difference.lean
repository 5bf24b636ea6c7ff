import Turnwise.Host.Utility.Listing

/-!
# Comparing files

One tool finds the first byte at which two files differ.  The other finds which lines
have to be deleted and inserted to make one file of the other: as few as possible, and
where there is a choice as late as possible.
-/

namespace Turnwise
namespace Host
namespace Utility

open SystemError (Code)

/-- Where two texts part: the number of the byte and of the line, counted from one, and
what is left of both. -/
def partingPlace : (byte line : Nat) → Octets → Octets → Nat × Nat × Octets × Octets
  | byte, line, a :: first, b :: second =>
      if a = b then partingPlace (byte + 1) (if a = '\n' then line + 1 else line) first second
      else (byte, line, a :: first, b :: second)
  | byte, line, first, second => (byte, line, first, second)

/-- The bytes at which two texts differ, with their values. -/
def differingBytes : (byte : Nat) → Octets → Octets → List (Nat × Char × Char)
  | byte, a :: first, b :: second =>
      if a = b then differingBytes (byte + 1) first second
      else (byte, a, b) :: differingBytes (byte + 1) first second
  | _, _, _ => []

/-- The way to the manual, as the tools for comparison show it. -/
def comparisonUsage (start : Start) : Tool Unit := do
  let line := start.name ++ ": ".toList ++ (← Tool.manualLine)
  modify fun console => { console with usage := some line }

/-- A byte as it is shown beside its number: with carets for those that control devices and
`M-` for those beyond the first half. -/
def visibleByte (c : Char) : Octets :=
  let (mark, low) : Octets × Nat :=
    if c.toNat < 128 then ([], c.toNat) else (['M', '-'], c.toNat - 128)
  mark ++
    if low < 32 then ['^', Char.ofNat (low + 64)]
    else if low = 127 then ['^', '?'] else [Char.ofNat low]

/-- How files are compared byte by byte. -/
structure ByteComparison where
  /-- Whether only the status tells. -/
  silent : Bool
  /-- Whether all bytes that differ are told. -/
  lists : Bool
  /-- Whether bytes are shown too. -/
  shows : Bool
  /-- How many bytes are compared at most. -/
  most : Option Nat

/-- Tell that a file has come to its end, and exit. -/
def cmpShort (comparison : ByteComparison) (path content : Octets) (byte line : Nat) :
    Tool Unit := do
  if !comparison.silent then
    Tool.complain ("EOF on ".toList ++ path ++
      if content.isEmpty then " which is empty".toList
      else if comparison.lists then " after byte ".toList ++ Text.ofNat content.length
      else
        " after byte ".toList ++ Text.ofNat (byte - 1) ++
          (if Text.endsIn '\n' content then ", line ".toList ++ Text.ofNat (line - 1)
          else ", in line ".toList ++ Text.ofNat line))
  Tool.exit 1

/-- Compare what two files hold. -/
def cmpContents (comparison : ByteComparison) (path other first second : Octets) :
    Tool Unit := do
  let octal (c : Char) : Octets := Octets.padLeft 3 ' ' (Nat.toDigits 8 c.toNat)
  let (byte, line, rest, otherRest) := partingPlace 1 1 first second
  if comparison.lists then
    let found := differingBytes 1 first second
    let longest := max first.length second.length
    let width := (Text.ofNat ((comparison.most.map (min longest)).getD longest)).length
    for (byte, a, b) in found do
      Tool.printLine (Octets.padLeft width ' ' (Text.ofNat byte) ++ ' ' :: octal a ++
        if comparison.shows then
          ' ' :: Octets.padRight 4 ' ' (visibleByte a) ++ ' ' :: octal b ++ ' ' :: visibleByte b
        else ' ' :: octal b)
    if first.length < second.length then cmpShort comparison path first byte line
    else if second.length < first.length then cmpShort comparison other second byte line
    else if !found.isEmpty then Tool.exit 1
  else
    match rest, otherRest with
    | [], [] => return
    | [], _ => cmpShort comparison path first byte line
    | _, [] => cmpShort comparison other second byte line
    | a :: _, b :: _ => do
        if !comparison.silent then
          let place := Text.ofNat byte ++ ", line ".toList ++ Text.ofNat line
          Tool.printLine (path ++ ' ' :: other ++
            if comparison.shows then
              " differ: byte ".toList ++ place ++ " is ".toList ++ octal a ++
                ' ' :: visibleByte a ++ ' ' :: octal b ++ ' ' :: visibleByte b
            else " differ: char ".toList ++ place)
        Tool.exit 1

/-- The number of bytes that an option or an operand gives. -/
def cmpAmount (name : String) (whole text : Octets) : Tool Nat := do
  match amount? text with
  | some amount => return amount
  | none =>
      Tool.misuse 2 ("invalid --".toList ++ name.toList ++ " value ".toList ++ Tool.quoted whole)

/-- How many bytes are passed over at the beginning of both files. -/
def cmpSkipped (given : List Given) (skips : List Octets) : Tool (Nat × Nat) := do
  let name := "ignore-initial"
  let mut first := 0
  let mut second := 0
  match Given.last? given 'i' with
  | some text => do
      let start := text.takeWhile (· != ':')
      first ← cmpAmount name text start
      match text.drop start.length with
      | _ :: rest => second ← cmpAmount name rest rest
      | [] => second := first
  | none => pure ()
  match skips with
  | text :: rest => do
      first := max first (← cmpAmount name text text)
      match rest with
      | text :: _ => second := max second (← cmpAmount name text text)
      | [] => pure ()
  | [] => pure ()
  return (first, second)

/-- Compare two files byte by byte. -/
def cmp : Work := fun start => do
  comparisonUsage start
  let grammar : Grammar :=
    ⟨[.flag 's' "quiet", .flag '\x01' "silent", .flag 'l' "verbose", .flag 'b' "print-bytes",
      .value 'n' "bytes", .value 'i' "ignore-initial"], true, 2⟩
  let (given, operands) ← grammar.read start.arguments
  let silent := Given.has given 's' || Given.has given '\x01'
  if silent && Given.has given 'l' then
    Tool.misuse 2 "options -l and -s are incompatible".toList
  let most : Option Nat ←
    match Given.last? given 'n' with
    | some text => do
        let amount ← cmpAmount "bytes" text text
        pure (some amount)
    | none => pure none
  match operands with
  | [] => Tool.misuse 2 ("missing operand after ".toList ++ Tool.quoted start.name)
  | path :: rest => do
      let other := rest.headD ['-']
      let (skipped, otherSkipped) ← cmpSkipped given (rest.drop 1)
      match rest with
      | _ :: _ :: _ :: extra :: _ => Tool.misuse 2 ("extra operand ".toList ++ Tool.quoted extra)
      | _ => pure ()
      let openOrDie (path : Octets) : Tool Nat := do
        match ← Tool.openInput path with
        | .ok descriptor => return descriptor
        | .error code =>
            if silent then Tool.exit 2
            else Tool.die 2 (path ++ ": ".toList ++ code.title)
      if path = ['-'] || other = ['-'] then
        match ← Tool.program (.statusOf 0) with
        | .ok _ => pure ()
        | .error code => Tool.die 2 ("-: ".toList ++ code.title)
      let descriptor ← openOrDie path
      if path = other && skipped = otherSkipped then return
      let otherDescriptor ← openOrDie other
      let same : Bool ←
        match ← Tool.program (.statusOf descriptor), ← Tool.program (.statusOf otherDescriptor) with
        | .ok here, .ok there => pure (here.serial == there.serial && skipped == otherSkipped)
        | _, _ => pure false
      if same then return
      let readOrDie (path : Octets) (descriptor : Nat) : Tool Octets := do
        match ← Tool.program (.readAll descriptor) with
        | (content, none) => return content
        | (_, some code) => Tool.die 2 (path ++ ": ".toList ++ code.title)
      let first ← readOrDie path descriptor
      let second ← readOrDie other otherDescriptor
      let prepared (skipped : Nat) (content : Octets) : Octets :=
        let rest := content.drop skipped
        (most.map rest.take).getD rest
      cmpContents ⟨silent, Given.has given 'l', Given.has given 'b', most⟩ path other
        (prepared skipped first) (prepared otherSkipped second)

/-- A part in which two files differ: where it begins and ends in both. -/
structure Hunk where
  /-- Where it begins in the first file. -/
  start : Nat
  /-- Where it ends there. -/
  stop : Nat
  /-- Where it begins in the second file. -/
  otherStart : Nat
  /-- Where it ends there. -/
  otherStop : Nat
  deriving DecidableEq, Repr

/-- How many lines texts have in common, for each beginning of the second one after a
given line, in one row of a table. -/
def commonRow (a : Octets) : List Octets → (below : List Nat) → List Nat
  | b :: second, under :: below =>
      let right := commonRow a second below
      let best := if a = b then (below.headD 0) + 1 else max under (right.headD 0)
      best :: right
  | _, _ => [0]

/-- How many lines texts have in common, for each pair of their ends. -/
def commonTable : List Octets → List Octets → List (List Nat)
  | [], second => [List.replicate (second.length + 1) 0]
  | a :: first, second =>
      let rest := commonTable first second
      commonRow a second (rest.headD []) :: rest

/-- The parts in which two files differ, given how far they were passed and the table of
what they have in common. -/
def hunksFrom : (limit : Nat) → (i j : Nat) → List Octets → List Octets → List (List Nat) →
    List Hunk
  | 0, _, _, _, _, _ => []
  | limit + 1, i, j, first, second, table =>
      match first, second with
      | [], [] => []
      | [], second => [⟨i, i, j, j + second.length⟩]
      | first, [] => [⟨i, i + first.length, j, j⟩]
      | a :: first', b :: second' =>
          let drop := table.map (List.drop 1)
          if a = b then hunksFrom limit (i + 1) (j + 1) first' second' (drop.drop 1)
          else
            let down := ((table.drop 1).headD []).headD 0
            let right := ((table.headD []).drop 1).headD 0
            let (hunk, rest) :=
              if right ≤ down then
                (Hunk.mk i (i + 1) j j,
                  hunksFrom limit (i + 1) j first' second (table.drop 1))
              else
                (Hunk.mk i i j (j + 1), hunksFrom limit i (j + 1) first second' drop)
            match rest with
            | next :: others =>
                if next.start = hunk.stop && next.otherStart = hunk.otherStop then
                  ⟨hunk.start, next.stop, hunk.otherStart, next.otherStop⟩ :: others
                else hunk :: rest
            | [] => [hunk]

/-- A part moved as far down as the lines allow; the limit bounds the steps. -/
def Hunk.sunk (first second : Array Octets) (bound : Nat) : (limit : Nat) → Hunk → Hunk
  | 0, hunk => hunk
  | limit + 1, hunk =>
      let same (lines : Array Octets) (a b : Nat) : Bool :=
        match lines[a]?, lines[b]? with
        | some x, some y => x == y
        | _, _ => false
      let moves :=
        if hunk.stop ≥ bound then false
        else if hunk.otherStart = hunk.otherStop then same first hunk.start hunk.stop
        else if hunk.start = hunk.stop then same second hunk.otherStart hunk.otherStop
        else false
      if moves then
        sunk first second bound limit
          ⟨hunk.start + 1, hunk.stop + 1, hunk.otherStart + 1, hunk.otherStop + 1⟩
      else hunk

/-- The parts in which two files differ, by their keys. -/
def hunksOf (first second : List Octets) : List Hunk :=
  let start := ((first.zip second).takeWhile fun (a, b) => a == b).length
  let first' := first.drop start
  let second' := second.drop start
  let ending := ((first'.reverse.zip second'.reverse).takeWhile fun (a, b) => a == b).length
  let middle := first'.take (first'.length - ending)
  let other := second'.take (second'.length - ending)
  let found := hunksFrom (middle.length + other.length + 1) start start middle other
    (commonTable middle other)
  let firstArray := List.toArray first
  let secondArray := List.toArray second
  let bounds := (found.drop 1).map (·.start) ++ [first.length]
  (found.zip bounds).map fun (hunk, bound) =>
    hunk.sunk firstArray secondArray bound first.length

/-- The lines of a text, the last one marked where its newline is missing. -/
def markedLines (content : Octets) : List Octets :=
  (endedLines content).map fun (line, ended) =>
    if ended then line ++ ['\n'] else line ++ "\n\\ No newline at end of file\n".toList

/-- Numbers of lines, as they are written in front of a part. -/
def lineSpan (start stop : Nat) : Octets :=
  if stop ≤ start then Text.ofNat start
  else if stop = start + 1 then Text.ofNat stop
  else Text.ofNat (start + 1) ++ ',' :: Text.ofNat stop

/-- A part in the plain form. -/
def Hunk.plain (first second : Array Octets) (hunk : Hunk) : Octets :=
  let letter := if hunk.start = hunk.stop then 'a'
    else if hunk.otherStart = hunk.otherStop then 'd' else 'c'
  let lines (mark : String) (all : Array Octets) (start stop : Nat) : Octets :=
    (all.extract start stop).toList.flatMap (mark.toList ++ ·)
  lineSpan hunk.start hunk.stop ++ letter :: lineSpan hunk.otherStart hunk.otherStop ++
    '\n' :: lines "< " first hunk.start hunk.stop ++
    (if letter = 'c' then "---\n".toList else []) ++
    lines "> " second hunk.otherStart hunk.otherStop

/-- Parts that share their context, in groups. -/
def gathered (context : Nat) : List Hunk → List (List Hunk)
  | [] => []
  | hunk :: rest =>
      match gathered context rest with
      | (next :: group) :: groups =>
          if next.start ≤ hunk.stop + 2 * context then (hunk :: next :: group) :: groups
          else [hunk] :: (next :: group) :: groups
      | groups => [hunk] :: groups

/-- The lines of a group of parts, with what stands between them. -/
def unifiedLines (first second : Array Octets) (stop : Nat) : (place : Nat) → List Hunk → Octets
  | place, [] => (first.extract place stop).toList.flatMap (' ' :: ·)
  | place, hunk :: rest =>
      (first.extract place hunk.start).toList.flatMap (' ' :: ·) ++
        (first.extract hunk.start hunk.stop).toList.flatMap ('-' :: ·) ++
        (second.extract hunk.otherStart hunk.otherStop).toList.flatMap ('+' :: ·) ++
        unifiedLines first second stop hunk.stop rest

/-- A group of parts in the form with context. -/
def unified (context : Nat) (first second : Array Octets) (group : List Hunk) : Octets :=
  match group.head?, group.getLast? with
  | some head, some last =>
      let start := head.start - context
      let stop := min first.size (last.stop + context)
      let otherStart := head.otherStart - context
      let otherStop := min second.size (last.otherStop + context)
      let span (start stop : Nat) : Octets :=
        if stop = start + 1 then Text.ofNat stop
        else Text.ofNat (if stop = start then start else start + 1) ++ ',' ::
          Text.ofNat (stop - start)
      "@@ -".toList ++ span start stop ++ " +".toList ++ span otherStart otherStop ++
        " @@\n".toList ++ unifiedLines first second stop start group
  | _, _ => []

/-- How files are compared. -/
structure Comparison where
  /-- The options that were given. -/
  given : List Given
  /-- The lines of context, if they are shown. -/
  context : Option Nat
  /-- The words that ask for this comparison. -/
  title : List Octets

/-- What of a line counts. -/
def Comparison.key (comparison : Comparison) (line : Octets) : Octets :=
  let has := Given.has comparison.given
  let folded := if has 'i' then line.map Char.toLower else line
  if has 'w' then folded.filter (!Octets.isSpace ·)
  else if has 'b' then
    (folded.splitBy fun a b => Octets.isSpace a == Octets.isSpace b).flatMap fun part =>
      if part.all Octets.isSpace then (if part.contains '\n' then ['\n'] else [' ']) else part
  else folded

/-- Compare the contents of two files; the answer tells whether they differ. -/
def Comparison.contents
    (comparison : Comparison)
    (path other : Octets)
    (first second : Octets)
    (times : Nat × Nat) : Tool Bool := do
  let has := Given.has comparison.given
  let firstLines := markedLines first
  let secondLines := markedLines second
  let hunks := hunksOf (firstLines.map comparison.key) (secondLines.map comparison.key)
  if hunks.isEmpty then
    if has 's' then
      Tool.printLine ("Files ".toList ++ path ++ " and ".toList ++ other ++
        " are identical".toList)
    return false
  if has 'q' then
    Tool.printLine ("Files ".toList ++ path ++ " and ".toList ++ other ++ " differ".toList)
    return true
  if !has 'a' && (first.contains '\x00' || second.contains '\x00') then
    Tool.printLine ("Binary files ".toList ++ path ++ " and ".toList ++ other ++
      " differ".toList)
    return true
  let firstArray := List.toArray firstLines
  let secondArray := List.toArray secondLines
  match comparison.context with
  | none => for hunk in hunks do Tool.print (hunk.plain firstArray secondArray)
  | some context => do
      let stamp (time : Nat) : Octets :=
        dateText (time / 1000000000 : Nat) "%Y-%m-%d %H:%M:%S.".toList ++
          Octets.padLeft 9 '0' (Text.ofNat (time % 1000000000)) ++ " +0000".toList
      Tool.printLine ("--- ".toList ++ path ++ '\t' :: stamp times.1)
      Tool.printLine ("+++ ".toList ++ other ++ '\t' :: stamp times.2)
      for group in gathered context hunks do
        Tool.print (unified context firstArray secondArray group)
  return true

/-- Compare what two paths lead to; the answer tells whether it differs. -/
def Comparison.paths (comparison : Comparison) :
    (limit : Nat) → (top : Bool) → (path other : Octets) → Tool Bool
  | 0, _, _, _ => return false
  | limit + 1, top, path, other => do
      let statusOf (path : Octets) : Tool (Except Code Status) :=
        if path = ['-'] then Tool.program (.statusOf 0) else Tool.program (.status path)
      let complain (path : Octets) (code : Code) : Tool Unit :=
        Tool.grumble 2 (path ++ ": ".toList ++ code.title)
      let absent := Given.has comparison.given 'N'
      let isDirectory (outcome : Except Code Status) : Bool :=
        match outcome with
        | .ok status => status.form == .directory
        | .error _ => false
      let first ← statusOf path
      let second ← statusOf other
      let filledIn := absent && !top && (isDirectory first || isDirectory second)
      let isMissing (outcome : Except Code Status) : Bool :=
        match outcome with
        | .error .noEntry => true
        | _ => false
      let counts (outcome : Except Code Status) : Bool :=
        isDirectory outcome || (filledIn && isMissing outcome)
      if top && (path = ['-'] || other = ['-']) && (isDirectory first || isDirectory second) &&
          !(isDirectory first && isDirectory second) then
        Tool.grumble 2 "cannot compare '-' to a directory".toList
        return false
      match counts first, counts second with
      | true, true => do
          let names (path : Octets) : Tool (List Octets) := do
            match ← Tool.program (.names path) with
            | .ok names => return names
            | .error _ => return []
          let here ← names path
          let there ← names other
          let all := ((here ++ there).mergeSort Octets.notAfter).eraseDups
          let mut differs := false
          for name in all do
            if !absent && !there.contains name then
              Tool.printLine ("Only in ".toList ++ path ++ ": ".toList ++ name)
              differs := true
            else if !absent && !here.contains name then
              Tool.printLine ("Only in ".toList ++ other ++ ": ".toList ++ name)
              differs := true
            else
              let inner := pathIn path name
              let innerOther := pathIn other name
              let first := isDirectory (← statusOf inner) || !here.contains name
              let directories :=
                (isDirectory (← statusOf innerOther) || !there.contains name) && first
              if directories && !Given.has comparison.given 'r' then
                Tool.printLine ("Common subdirectories: ".toList ++ inner ++ " and ".toList ++
                  innerOther)
              else if ← paths comparison limit false inner innerOther then differs := true
          return differs
      | true, false =>
          if let (true, .error code) := (top, second) then
            complain other code
            return false
          else if top then paths comparison limit false (pathIn path (lastSegment other)) other
          else
            Tool.printLine ("File ".toList ++ path ++ " is a directory while file ".toList ++
              other ++ " is a regular file".toList)
            return true
      | false, true =>
          if let (true, .error code) := (top, first) then
            complain path code
            return false
          else if top then paths comparison limit false path (pathIn other (lastSegment path))
          else
            Tool.printLine ("File ".toList ++ path ++ " is a regular file while file ".toList ++
              other ++ " is a directory".toList)
            return true
      | false, false => do
          let content (path : Octets) (outcome : Except Code Status) : Tool (Option Octets) := do
            match outcome with
            | .error code =>
                if absent && code = .noEntry then return some []
                else
                  complain path code
                  return none
            | .ok _ =>
                match ← Tool.readInput path with
                | .ok content => return some content
                | .error code => do
                    complain path code
                    return none
          let time (outcome : Except Code Status) : Nat :=
            match outcome with
            | .ok status => status.modified
            | .error _ => 0
          match ← content path first, ← content other second with
          | some a, some b => do
              if !top && !Given.has comparison.given 'q' && a != b &&
                  !comparison.title.isEmpty then
                Tool.printLine (Text.joinWith [' '] (comparison.title ++ [path, other]))
              comparison.contents path other a b (time first, time second)
          | _, _ => return false

/-- Compare two files line by line. -/
def diff : Work := fun start => do
  comparisonUsage start
  Tool.lamenting 2 fun code => "standard output: ".toList ++ code.title
  let grammar : Grammar :=
    ⟨[.flag 'q' "brief", .flag 's' "report-identical-files", .flag 'u' "",
      ⟨'U', "", .value⟩, ⟨'\x03', "unified", .optional⟩, .flag 'r' "recursive", .flag 'N' "new-file",
      .flag 'i' "ignore-case", .flag 'w' "ignore-all-space", .flag 'b' "ignore-space-change",
      .flag 'B' "ignore-blank-lines", .flag 'a' "text", .flag '\x01' "normal",
      ⟨'\x02', "color", .optional⟩], true, 2⟩
  let (given, operands) ← grammar.read start.arguments
  match operands with
  | [] => Tool.misuse 2 ("missing operand after ".toList ++ Tool.quoted
      ((start.arguments.getLast?).getD start.name))
  | [path] => Tool.misuse 2 ("missing operand after ".toList ++ Tool.quoted path)
  | [path, other] => do
      let context : Option Nat :=
        if Given.has given 'U' then some (((Given.last? given 'U').bind Text.digits?).getD 3)
        else if Given.has given '\x03' then
          some (((Given.last? given '\x03').bind Text.digits?).getD 3)
        else if Given.has given 'u' then some 3 else none
      let title := start.name :: start.arguments.filter fun word =>
        word.head? == some '-' && word != ['-']
      let comparison : Comparison := ⟨given, context, title⟩
      let fromDirectories ← leadsToDirectory true path
      let toDirectories ← leadsToDirectory true other
      let comparison := if fromDirectories && toDirectories then comparison else { comparison with title := [] }
      if ← comparison.paths depthLimit true path other then Tool.fail 1
  | _ :: _ :: extra :: _ => Tool.misuse 2 ("extra operand ".toList ++ Tool.quoted extra)

end Utility
end Host
end Turnwise
