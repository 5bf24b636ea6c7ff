import Turnwise.Host.Utility.Processes

/-!
# Running programs with words from an input

An input is split into words by blanks, by lines or by a character.  The words are added to
a command until it is full: by their number, by the number of their lines, or by its length.
A mark in the command may stand for each word instead.
-/

namespace Turnwise
namespace Host
namespace Utility

open SystemError (Code)

/-- How an input is split into words. -/
inductive Separation where
  /-- By blanks and newlines, where quotes and backslashes protect them. -/
  | blanks
  /-- By newlines, where quotes and backslashes protect them. -/
  | lines
  /-- By a character. -/
  | character (c : Char)
  deriving DecidableEq, Repr

/-- What was read of an input: its words, each with whether it ends a line, and a quote
that was not closed. -/
structure Items where
  /-- The words. -/
  words : List (Octets × Bool)
  /-- The quote. -/
  unclosed : Option Char

/-- How far an input was split. -/
structure Splitting where
  /-- The word so far, in reverse, if one has begun. -/
  current : Option Octets
  /-- The character before. -/
  prior : Char
  /-- The words before, in reverse. -/
  done : List (Octets × Bool)

namespace Splitting

/-- The word so far, up to a character that no word can have. -/
def word (splitting : Splitting) : Octets :=
  (splitting.current.getD []).reverse.takeWhile (· != '\x00')

/-- Add a character to the word. -/
def add (splitting : Splitting) (c : Char) : Splitting :=
  { splitting with current := some (c :: splitting.current.getD []), prior := c }

/-- End the word; it may end a line. -/
def finish (splitting : Splitting) (prior : Char) (ends : Bool) : Splitting :=
  ⟨none, prior, (splitting.word, ends) :: splitting.done⟩

/-- The words, at the end of the input. -/
def items (splitting : Splitting) (stop : Option Octets) : Items :=
  let word := splitting.word
  let begins := (splitting.done.head?.map (·.2)).getD true
  if (splitting.current.getD []).isEmpty || (begins && stop == some word) then
    ⟨splitting.done.reverse, none⟩
  else ⟨((word, false) :: splitting.done).reverse, none⟩

end Splitting

/-- Split an input into words, where quotes and backslashes protect what separates, up to a
word that stops it; the limit bounds its length. -/
def splitItems (byLine : Bool) (stop : Option Octets) :
    (limit : Nat) → Splitting → Octets → Items
  | 0, splitting, _ => splitting.items stop
  | _ + 1, splitting, [] => splitting.items stop
  | limit + 1, splitting, c :: rest =>
      if splitting.current.isNone && Octets.isSpace c then
        splitItems byLine stop limit { splitting with prior := c } rest
      else if c = '\n' || (Octets.isBlank c && !byLine) then
        if stop == some splitting.word then ⟨splitting.done.reverse, none⟩
        else
          let ends := c = '\n' && !Octets.isBlank splitting.prior
          splitItems byLine stop limit (splitting.finish c ends) rest
      else if c = '\'' || c = '"' then
        let inside := rest.takeWhile fun d => d != c && d != '\n'
        let held := inside.reverse ++ splitting.current.getD []
        match rest.drop inside.length with
        | d :: after =>
            if d = c then
              splitItems byLine stop limit { splitting with current := some held, prior := c } after
            else ⟨splitting.done.reverse, some c⟩
        | [] => ⟨splitting.done.reverse, if held.isEmpty then none else some c⟩
      else if c = '\\' then
        match rest with
        | d :: after => splitItems byLine stop limit (splitting.add d) after
        | [] => splitting.items stop
      else splitItems byLine stop limit (splitting.add c) rest

/-- The words of an input. -/
def Separation.items (separation : Separation) (stop : Option Octets) (content : Octets) :
    Items :=
  let beginning : Splitting := ⟨none, '\n', []⟩
  match separation with
  | .blanks => splitItems false stop (content.length + 1) beginning content
  | .lines => splitItems true stop (content.length + 1) beginning content
  | .character c =>
      ⟨(Octets.pieces c content).map fun piece => (piece.takeWhile (· != '\x00'), true), none⟩

/-- Replace each occurrence of a mark in a text; the limit bounds its length. -/
def replaceMark (mark value : Octets) : (limit : Nat) → Octets → Octets
  | 0, text => text
  | _ + 1, [] => []
  | limit + 1, c :: rest =>
      match Text.after? mark (c :: rest) with
      | some after =>
          if mark.isEmpty then c :: rest else value ++ replaceMark mark value limit after
      | none => c :: replaceMark mark value limit rest

/-- How words are added to a command. -/
structure ArgumentPlan where
  /-- The most words of a command. -/
  most : Option Nat
  /-- The most lines of a command. -/
  lines : Option Nat
  /-- The mark that stands for a word. -/
  mark : Option Octets
  /-- The greatest length of a command, each word with one more. -/
  room : Nat
  /-- What separates words. -/
  delimiter : Option Char
  /-- The word that stops the input. -/
  stop : Option Octets

/-- The number that an argument denotes, or a complaint; one that is too small counts as
the least if that is no fault. -/
def countOf (letter : Char) (least : Nat) (fatal : Bool) (text : Octets) : Tool Nat := do
  let trimmed := text.dropWhile Octets.isSpace
  let (negative, digits) :=
    match trimmed with
    | '-' :: digits => (true, digits)
    | '+' :: digits => (false, digits)
    | digits => (false, digits)
  match Text.digits? digits with
  | some number =>
      if (if negative then 0 else number) < least || (negative && number != 0) then
        let message := "value ".toList ++ text ++ " for -".toList ++ [letter] ++
          " option should be >= ".toList ++ Text.ofNat least
        if fatal then Tool.misuse 1 message
        else
          Tool.complain message
          return least
      else return number
  | none =>
      Tool.misuse 1 ("invalid number \"".toList ++ text ++ "\" for -".toList ++ [letter] ++
        " option".toList)

/-- The character that an argument stands for, by itself or after a backslash. -/
def delimiterOf (text : Octets) : Tool Char := do
  let refuse (reason : Octets) : Tool Char :=
    Tool.die 1 ("Invalid escape sequence ".toList ++ text ++
      " in input delimiter specification".toList ++ reason)
  let numbered (base : Nat) (digits : Octets) (isDigit : Char → Bool) : Tool Char := do
    let own := digits.takeWhile isDigit
    let rest := digits.drop own.length
    let value := own.foldl (fun value c => value * base + (Octets.hexValue? c).getD 0) 0
    if 255 < value then
      refuse ("; character values must not exceed ".toList ++ Nat.toDigits base 255 ++ ['.'])
    else if !rest.isEmpty then
      refuse ("; trailing characters ".toList ++ rest ++ " not recognised.".toList)
    else return Octets.octet value
  match text with
  | [c] => return c
  | '\\' :: c :: rest =>
      match c with
      | 'a' => return '\x07'
      | 'b' => return '\x08'
      | 'f' => return '\x0c'
      | 'n' => return '\n'
      | 'r' => return '\r'
      | 't' => return '\t'
      | 'v' => return '\x0b'
      | '\\' => return '\\'
      | 'x' => numbered 16 rest fun c => (Octets.hexValue? c).isSome
      | c =>
          if '0' ≤ c && c ≤ '7' then numbered 8 (c :: rest) fun c => '0' ≤ c && c ≤ '7'
          else refuse ['.']
  | text =>
      Tool.die 1 ("Invalid input delimiter specification ".toList ++ text ++
        (": the delimiter must be either a single character or an escape sequence " ++
          "starting with \\.").toList)

/-- Say that an option makes another one void. -/
def warnVoid (void cause : String) : Tool Unit :=
  Tool.complain ("warning: options ".toList ++ void.toList ++ " and ".toList ++ cause.toList ++
    " are mutually exclusive, ignoring previous ".toList ++ void.toList ++ " value".toList)

/-- Take an option. -/
def ArgumentPlan.take (plan : ArgumentPlan) (option : Given) : Tool ArgumentPlan := do
  let text := option.value.getD []
  let byLines (count : Nat) (cause : String) : Tool ArgumentPlan := do
    if plan.most.isSome then warnVoid "--max-args" cause
    if plan.mark.isSome then warnVoid "--replace" cause
    return { plan with lines := some count, most := none, mark := none }
  let byMark (mark : Octets) : Tool ArgumentPlan := do
    if plan.most.isSome then warnVoid "--max-args" "--replace/-I/-i"
    if plan.lines.isSome then warnVoid "--max-lines" "--replace/-I/-i"
    return { plan with lines := none, most := none, mark := some mark }
  match option.letter with
  | '0' => return { plan with delimiter := some '\x00' }
  | 'd' => do
      let c ← delimiterOf text
      return { plan with delimiter := some c }
  | 'E' => return { plan with stop := if text.isEmpty then none else some text }
  | 'e' => return { plan with stop := option.value.filter (!·.isEmpty) }
  | 'I' => byMark text
  | 'i' => byMark (option.value.getD "\x7b\x7d".toList)
  | 'L' => do
      let count ← countOf 'L' 1 true text
      byLines count "-L"
  | 'l' => do
      let count ←
        match option.value with
        | some text => countOf 'l' 1 true text
        | none => pure 1
      byLines count "--max-lines/-l"
  | 'n' => do
      let count ← countOf 'n' 1 true text
      if plan.lines.isSome then warnVoid "--max-lines" "--max-args/-n"
      if plan.mark.isSome && count = 1 then return { plan with lines := none }
      if plan.mark.isSome then warnVoid "--replace" "--max-args/-n"
      return { plan with lines := none, most := some count, mark := none }
  | 's' => do
      let room ← countOf 's' 1 false text
      return { plan with room := room }
  | 'P' => do
      let _ ← countOf 'P' 0 true text
      return plan
  | _ => return plan

/-- How programs are run. -/
structure Batch where
  /-- How programs are started. -/
  launch : Launch
  /-- What the tool was started with. -/
  start : Start
  /-- Whether commands are shown. -/
  traced : Bool
  /-- Whether commands need to be confirmed. -/
  asks : Bool
  /-- Whether programs read what the tool does not. -/
  sharesInput : Bool
  /-- The words of every command. -/
  command : List Octets
  /-- How words are added to it. -/
  plan : ArgumentPlan
  /-- Whether a command that is too long is a fault. -/
  strict : Bool

namespace Batch

/-- Run a program with words, and note how it ends. -/
def run (batch : Batch) (words : List Octets) : Tool Unit := do
  Tool.flush
  let name := words.headD []
  let own := (← get).name
  let shown := Text.joinWith [' '] (words.map Tool.named)
  if batch.asks then
    let _ ← Tool.program (.write 2 shown)
    Tool.die 1 "failed to open /dev/tty for reading: No such device or address".toList
  if batch.traced then
    let _ ← Tool.program (.write 2 (shown ++ ['\n']))
  let (readEnd, writeEnd) ← Tool.program .pipe
  let child : Program Nat := do
    Program.close readEnd
    let mark ← Program.duplicate writeEnd 10 true
    Program.close writeEnd
    if !batch.sharesInput then
      match ← Program.openFile "/dev/null".toList .reading with
      | .ok descriptor => do
          let _ ← Program.connect descriptor 0
          Program.close descriptor
      | .error _ => pure ()
    let code ← Image.becomeNamed batch.launch ⟨name, words.drop 1, batch.start.environment⟩
    let _ ← Program.write 2 (own ++ ": ".toList ++ name ++ ": ".toList ++ code.title ++ ['\n'])
    match mark with
    | .ok mark => do
        let _ ← Program.write mark ['!']
        Program.exit (startStatus code)
    | .error _ => Program.exit (startStatus code)
  let number ← Tool.program (.fork child.task)
  Tool.program (.close writeEnd)
  let failed := (← Tool.program (.read readEnd 1)).toOption.getD []
  Tool.program (.close readEnd)
  match ← Tool.program (.wait (some number) .deaf) with
  | .ok (some (_, .exited status)) =>
      if !failed.isEmpty then Tool.exit status
      else if status = 255 then
        Tool.die 124 (name ++ ": exited with status 255; aborting".toList)
      else if status != 0 then Tool.fail 123
  | .ok (some (_, .signalled signal)) =>
      Tool.die 125 (name ++ ": terminated by signal ".toList ++ Text.ofNat signal)
  | _ => return

/-- How many characters words take, each with one more. -/
def size (words : List Octets) : Nat :=
  words.foldl (fun total word => total + word.length + 1) 0

/-- What has been collected for the next command. -/
structure Collected where
  /-- The words, in reverse. -/
  words : List Octets
  /-- How many characters they take. -/
  used : Nat
  /-- How many of their lines have ended. -/
  ended : Nat
  /-- Whether a command has been run. -/
  ran : Bool

/-- Run the command with what was collected. -/
def release (batch : Batch) (collected : Collected) : Tool Collected := do
  batch.run (batch.command ++ collected.words.reverse)
  return { collected with words := [], used := 0, ran := true }

/-- Run the command with what was collected before a fault, if anything was. -/
def releaseEarly (batch : Batch) (collected : Collected) : Tool Unit := do
  if !collected.words.isEmpty && !batch.strict then
    let _ ← batch.release collected

/-- Put a word in the place of the mark. -/
def insert (batch : Batch) (mark word : Octets) : Tool Unit := do
  let words := batch.command.take 1 ++
    (batch.command.drop 1).map fun text => replaceMark mark word (text.length + 1) text
  if mark.isEmpty && 1 < words.length then Tool.die 1 "command too long".toList
  if batch.plan.room < size words then Tool.die 1 "argument list too long".toList
  batch.run words

/-- Add a word to the next command, and run commands that are full. -/
def add (batch : Batch) (word : Octets) (ends : Bool) (collected : Collected) :
    Tool Collected := do
  let plan := batch.plan
  let taken := size batch.command
  if plan.room < taken + word.length + 1 then
    batch.releaseEarly collected
    Tool.die 1 "argument line too long".toList
  let overflows := plan.room < taken + collected.used + word.length + 1
  if overflows && batch.strict && (plan.most.isSome || plan.lines.isSome) then
    Tool.die 1 "argument list too long".toList
  let collected ← if overflows then batch.release collected else pure collected
  let ended := if ends then collected.ended + 1 else collected.ended
  let collected : Collected :=
    { collected with
      words := word :: collected.words, used := collected.used + word.length + 1, ended := ended }
  if ends && plan.lines.any (· ≤ ended) then
    let collected ← batch.release collected
    return { collected with ended := 0 }
  else if plan.most == some collected.words.length then batch.release collected
  else return collected

/-- Add words to commands. -/
def addAll (batch : Batch) : List (Octets × Bool) → Collected → Tool Collected
  | [], collected => return collected
  | (word, ends) :: rest, collected => do
      batch.addAll rest (← batch.add word ends collected)

end Batch

/-- The options of the tool that runs programs with words from an input. -/
def xargsGrammar : Grammar :=
  ⟨[.flag '0' "null", .value 'a' "arg-file", .value 'd' "delimiter", ⟨'e', "eof", .optional⟩,
    ⟨'i', "replace", .optional⟩, .value 'I' "", .value 'E' "", .value 'L' "",
    ⟨'l', "max-lines", .optional⟩, .value 'n' "max-args", .flag 'o' "open-tty",
    .flag 'p' "interactive", .flag 'r' "no-run-if-empty", .value 's' "max-chars",
    .flag 't' "verbose", .flag 'x' "exit", .value 'P' "max-procs",
    .value '\x01' "process-slot-var"], false, 1⟩

/-- Run a program with words from an input. -/
def xargs (launch : Launch) : Work := fun start => do
  let (given, operands) ← xargsGrammar.read start.arguments
  let mut plan : ArgumentPlan := ⟨none, none, none, 131072, none, none⟩
  for option in given do
    plan ← plan.take option
  let command := if operands.isEmpty then ["echo".toList] else operands
  let path := (Given.last? given 'a').getD ['-']
  let standard := path == ['-']
  let batch : Batch :=
    ⟨launch, start, Given.has given 't', Given.has given 'p', !standard, command, plan,
      Given.has given 'x'⟩
  let content ←
    match ← Tool.readInput path with
    | .ok content => pure (Except.ok content)
    | .error code =>
        if !standard && code != .isDirectory then
          Tool.die 1 ("Cannot open input file ".toList ++ Tool.shellQuoted path ++ ": ".toList ++
            code.title)
        else pure (Except.error code)
  if plan.delimiter.isSome && plan.stop.isSome then
    Tool.complain "warning: the -E option has no effect if -0 or -d is used.\n".toList
  let separation : Separation :=
    match plan.delimiter, plan.mark with
    | some c, _ => .character c
    | none, some _ => .lines
    | none, none => .blanks
  let text := content.toOption.getD []
  let items := separation.items plan.stop text
  if plan.mark.isNone && plan.room < Batch.size command then
    Tool.die 1 "cannot fit single argument within argument list size limit".toList
  if plan.delimiter.isNone && text.contains '\x00' then
    Tool.complain ("WARNING: a NUL character occurred in the input.  It cannot be passed " ++
      "through in the argument list.  Did you mean to use the --null option?").toList
  let complainUnclosed : Tool Unit :=
    match items.unclosed with
    | some quote =>
        let kind := if quote = '"' then "double" else "single"
        Tool.die 1 ("unmatched ".toList ++ kind.toList ++
          " quote; by default quotes are special to xargs unless you use the -0 option".toList)
    | none => pure ()
  match plan.mark with
  | some mark => do
      for (word, _) in items.words do batch.insert mark word
      complainUnclosed
  | none => do
      let collected ← batch.addAll items.words ⟨[], 0, 0, false⟩
      if items.unclosed.isSome then batch.releaseEarly collected
      complainUnclosed
      if !collected.words.isEmpty || (!collected.ran && !Given.has given 'r') then
        let _ ← batch.release collected
  match content, standard with
  | .error .badDescriptor, true =>
      Tool.die 1 ("error closing file: ".toList ++ Code.badDescriptor.title)
  | .error _, true => Tool.die 1 "error closing file".toList
  | _, _ => pure ()

end Utility
end Host
end Turnwise
