import Turnwise.Host.Regex
import Turnwise.Host.Utility.Tool

/-!
# Scripts of the stream editor

A script is a list of commands, each with the lines that it is for.  Blocks and jumps
are numbers of commands.  A fault is told with the place in the script up to which it
was read.
-/

namespace Turnwise
namespace Host
namespace Utility
namespace Sed

/-- Which line is meant. -/
inductive Site where
  /-- The line with a number. -/
  | line (number : Nat)
  /-- Every line at some distance from a first one. -/
  | step (first distance : Nat)
  /-- The last line. -/
  | last
  /-- A line that matches, by default what was searched for last. -/
  | pattern (regex : Option Regex)
  /-- Some lines later. -/
  | later (count : Nat)
  /-- The next multiple of a number. -/
  | multiple (factor : Nat)

/-- Which lines a command is for. -/
structure Selection where
  /-- A line, or the first one. -/
  first : Option Site
  /-- The last one. -/
  second : Option Site
  /-- Whether all other lines are meant. -/
  negated : Bool

/-- A piece of what replaces a match. -/
inductive Piece where
  /-- A text. -/
  | text (octets : Octets)
  /-- What a group has matched. -/
  | group (index : Nat)
  /-- A change between small letters and capitals. -/
  | turn (letter : Char)

/-- A replacement of matches. -/
structure Substitution where
  /-- What is replaced, by default what was searched for last. -/
  regex : Option Regex
  /-- By what. -/
  pieces : List Piece
  /-- The number of the first match that is replaced. -/
  occurrence : Nat
  /-- Whether all later matches are replaced too. -/
  global : Bool
  /-- Whether the line is printed then. -/
  prints : Bool
  /-- To which file it is written then. -/
  output : Option Octets

/-- When a branch is taken. -/
inductive When where
  /-- Always. -/
  | always
  /-- If something was replaced. -/
  | replaced
  /-- If nothing was replaced. -/
  | unreplaced
  deriving DecidableEq, Repr

/-- What a command does. -/
inductive Action where
  /-- Begin a block that ends at a command. -/
  | block (stop : Nat)
  /-- Nothing. -/
  | nothing
  /-- Print a text after the line. -/
  | append (text : Octets)
  /-- Print a text. -/
  | insert (text : Octets)
  /-- Print a text in place of lines. -/
  | change (text : Octets)
  /-- Go on at a label, or at the end. -/
  | branch (condition : When) (label : Octets)
  /-- Drop all. -/
  | delete
  /-- Drop the first line. -/
  | deleteFirst
  /-- Print the name of the input. -/
  | inputName
  /-- Take what was kept. -/
  | recall
  /-- Add what was kept. -/
  | recallMore
  /-- Keep. -/
  | keep
  /-- Keep more. -/
  | keepMore
  /-- Exchange with what was kept. -/
  | exchange
  /-- Print so that all can be seen. -/
  | reveal (width : Option Nat)
  /-- Go on with the next line. -/
  | next
  /-- Add the next line. -/
  | nextMore
  /-- Print. -/
  | print
  /-- Print the first line. -/
  | printFirst
  /-- Quit with a status; the line may be printed. -/
  | quit (status : Nat) (prints : Bool)
  /-- Print a file after the line. -/
  | read (path : Octets)
  /-- Print a line of a file after the line. -/
  | readLine (path : Octets)
  /-- Replace matches. -/
  | substitute (substitution : Substitution)
  /-- Write to a file. -/
  | write (path : Octets)
  /-- Write the first line to a file. -/
  | writeFirst (path : Octets)
  /-- Replace characters. -/
  | transliterate (pairs : List (Char × Char))
  /-- Empty the line. -/
  | empty
  /-- Print the number of the line. -/
  | number

/-- A command. -/
structure Command where
  /-- The lines that it is for. -/
  selection : Selection
  /-- What it does. -/
  action : Action

/-- Where a part of a script comes from. -/
inductive Source where
  /-- From an option, by its number. -/
  | expression (number : Nat)
  /-- From a file. -/
  | file (name : Octets)

/-- How far a script has been read. -/
structure Reading where
  /-- Whether operators have no backslash before them. -/
  extended : Bool
  /-- Where it comes from. -/
  source : Source
  /-- The rest. -/
  rest : Octets
  /-- How many characters were read. -/
  count : Nat
  /-- How many lines were ended. -/
  lines : Nat
  /-- The commands. -/
  commands : Array Command
  /-- The blocks that are open, and where they come from. -/
  blocks : List (Nat × Source × Nat)
  /-- The labels. -/
  labels : List (Octets × Nat)
  /-- The command whose text is still to come. -/
  waiting : Option Nat
  /-- Whether nothing is printed unless a command asks for it. -/
  silent : Bool

/-- A step of reading, which may end with a complaint. -/
abbrev Reader := StateT Reading (Except Octets)

namespace Reader

/-- The place of a fault. -/
def placeOf (source : Source) (count lines : Nat) : Octets :=
  match source with
  | .expression number =>
      "-e expression #".toList ++ Text.ofNat number ++ ", char ".toList ++ Text.ofNat count
  | .file name => "file ".toList ++ name ++ " line ".toList ++ Text.ofNat (lines + 1)

/-- Complain about the place up to which was read. -/
def fault (message : Octets) : Reader α := do
  let reading ← get
  throw (placeOf reading.source reading.count reading.lines ++ ": ".toList ++ message)

/-- The next character. -/
def next? : Reader (Option Char) := do
  let reading ← get
  match reading.rest with
  | [] => return none
  | c :: rest => do
      set { reading with
        rest := rest, count := reading.count + 1
        lines := if c = '\n' then reading.lines + 1 else reading.lines }
      return some c

/-- Give a character back. -/
def back (c : Option Char) : Reader Unit :=
  modify fun reading =>
    match c with
    | none => reading
    | some c =>
        { reading with
          rest := c :: reading.rest, count := reading.count - 1
          lines := if c = '\n' then reading.lines - 1 else reading.lines }

/-- Pass the characters that satisfy a test. -/
def takeWhile (test : Char → Bool) : Reader Octets := do
  let reading ← get
  let taken := reading.rest.takeWhile test
  set { reading with
    rest := reading.rest.drop taken.length, count := reading.count + taken.length
    lines := reading.lines + taken.count '\n' }
  return taken

/-- The next character that is no blank. -/
def nonblank? : Reader (Option Char) := do
  let _ ← takeWhile Octets.isBlank
  next?

/-- The end of a command. -/
def endOfCommand : Reader Unit := do
  match ← nonblank? with
  | none => return
  | some '\n' => return
  | some ';' => return
  | some c =>
      if c = '\x7d' || c = '#' then back (some c)
      else fault "extra characters after command".toList

/-- A number, given its first digit. -/
def number (first : Char) : Reader Nat := do
  let more ← takeWhile Char.isDigit
  return Nat.ofDigitChars 10 (first :: more) 0

/-- A label. -/
def label : Reader Octets := do
  let _ ← takeWhile Octets.isBlank
  takeWhile fun c => !Octets.isSpace c && c != ';' && c != '\x7d'

/-- The name of a file. -/
def fileName : Reader Octets := do
  let _ ← takeWhile Octets.isBlank
  let name ← takeWhile (· != '\n')
  let _ ← next?
  if name.isEmpty then fault "missing filename in r/R/w/W commands".toList
  return name

/-- The character that a letter after a backslash stands for, and the rest. -/
def escape? (letter : Char) (rest : Octets) : Option (Char × Octets) :=
  let digits (base count : Nat) (test : Char → Bool) : Option (Char × Octets) :=
    let found := (rest.take count).takeWhile test
    if found.isEmpty then none
    else
      let value := found.foldl (fun value c => value * base + (Octets.hexValue? c).getD 0) 0
      some (Octets.octet value, rest.drop found.length)
  match letter with
  | 'a' => some ('\x07', rest)
  | 'f' => some ('\x0c', rest)
  | 'n' => some ('\n', rest)
  | 'r' => some ('\r', rest)
  | 't' => some ('\t', rest)
  | 'v' => some ('\x0b', rest)
  | 'x' => digits 16 2 fun c => (Octets.hexValue? c).isSome
  | 'o' => digits 8 3 fun c => '0' ≤ c && c ≤ '7'
  | 'd' => digits 10 3 Char.isDigit
  | _ => none

/-- A pattern in which escapes are replaced; the limit bounds its length. -/
def unescape : (limit : Nat) → Octets → Octets
  | 0, text => text
  | limit + 1, '\\' :: c :: rest =>
      match if c = 'n' then none else escape? c rest with
      | some (found, after) =>
          if "^$.*[]\\+?()|/\x7b\x7d".toList.contains found then
            '\\' :: found :: unescape limit after
          else found :: unescape limit after
      | none => '\\' :: c :: unescape limit rest
  | limit + 1, c :: rest => c :: unescape limit rest
  | _ + 1, [] => []

/-- What stands in brackets, up to the closing one; the limit bounds its length. -/
def bracketed : (limit : Nat) → (reversed : Octets) → Reader (Option Octets)
  | 0, _ => return none
  | limit + 1, reversed => do
      match ← next? with
      | none => return none
      | some '\n' => do
          back (some '\n')
          return none
      | some ']' => return some (']' :: reversed)
      | some '\\' => do
          match ← next? with
          | some 'n' => bracketed limit ('\n' :: reversed)
          | c => do
              back c
              bracketed limit ('\\' :: reversed)
      | some '[' => do
          match ← next? with
          | some c =>
              if c = ':' || c = '.' || c = '=' then
                let inside ← takeWhile fun d => d != c && d != '\n'
                bracketed limit (inside.reverse ++ c :: '[' :: reversed)
              else do
                back (some c)
                bracketed limit ('[' :: reversed)
          | none => return none
      | some c => bracketed limit (c :: reversed)

/-- A set in brackets, after the opening one. -/
def set? (limit : Nat) (reversed : Octets) : Reader (Option Octets) := do
  let first ← next?
  let (reversed, first) ←
    if first = some '^' then do
      let second ← next?
      pure ('^' :: reversed, second)
    else pure (reversed, first)
  if first = some ']' then bracketed limit (']' :: reversed)
  else do
    back first
    bracketed limit reversed

/-- A text up to a delimiter; in a pattern the delimiter may stand in brackets. -/
def upTo (delimiter : Char) (pattern : Bool) :
    (limit : Nat) → (reversed : Octets) → Reader (Option Octets)
  | 0, _ => return none
  | limit + 1, reversed => do
      match ← next? with
      | none => return none
      | some c =>
          if c = '\n' then do
            back (some c)
            return none
          else if c = delimiter then return some reversed.reverse
          else if c = '\\' then
            match ← next? with
            | none => return none
            | some d =>
                if d = delimiter then
                  upTo delimiter pattern limit
                    (if !pattern && d = '&' then d :: '\\' :: reversed else d :: reversed)
                else if pattern && d = 'n' then
                  upTo delimiter pattern limit ('\n' :: reversed)
                else if d = '\n' then upTo delimiter pattern limit ('\n' :: reversed)
                else upTo delimiter pattern limit (d :: '\\' :: reversed)
          else if pattern && c = '[' then
            match ← set? limit ('[' :: reversed) with
            | some reversed => upTo delimiter pattern limit reversed
            | none => return none
          else upTo delimiter pattern limit (c :: reversed)

/-- Read a pattern, or complain; an empty one stands for what was searched for last. -/
def regex (pattern : Octets) (folds modified : Bool) : Reader (Option Regex) := do
  if pattern.isEmpty then
    if modified then fault "cannot specify modifiers on empty regexp".toList
    return none
  match Regex.parse ⟨(← get).extended, folds, true⟩ (unescape (pattern.length + 1) pattern) with
  | .ok regex => return some regex
  | .error reason => fault reason.title

/-- The letters after the pattern of an address: whether it takes small letters and
capitals for the same, and whether there were any. -/
def siteFlags : (limit : Nat) → (folds modified : Bool) → Reader (Bool × Bool)
  | 0, folds, modified => return (folds, modified)
  | limit + 1, folds, modified => do
      match ← nonblank? with
      | some 'I' => siteFlags limit true true
      | some 'M' => siteFlags limit folds true
      | c => do
          back c
          return (folds, modified)

/-- An address, given its first character. -/
def site? (first : Option Char) : Reader (Option Site) := do
  let pattern (delimiter : Char) : Reader (Option Site) := do
    match ← upTo delimiter true ((← get).rest.length + 1) [] with
    | none => fault "unterminated address regex".toList
    | some text => do
        let (folds, modified) ← siteFlags ((← get).rest.length + 1) false false
        return some (.pattern (← regex text folds modified))
  let numberOr (standard : Nat) : Reader Nat := do
    match ← nonblank? with
    | some c => if c.isDigit then number c else do
        back (some c)
        return standard
    | none => return standard
  match first with
  | some '/' => pattern '/'
  | some '\\' => do
      match ← next? with
      | some c => pattern c
      | none => fault "unterminated address regex".toList
  | some '$' => return some .last
  | some '+' => return some (.later (← numberOr 0))
  | some '~' => return some (.multiple (← numberOr 0))
  | some c =>
      if c.isDigit then do
        let start ← number c
        match ← nonblank? with
        | some '~' => return some (.step start (← numberOr 0))
        | other => do
            back other
            return some (.line start)
      else do
        return none
  | none => return none

/-- The lines that a command is for, and the letter of the command. -/
def selection (first : Option Char) : Reader (Selection × Option Char) := do
  let start ← site? first
  let (second, letter) : Option Site × Option Char ←
    match start with
    | none => pure (none, first)
    | some site => do
        match site with
        | .later _ => fault "invalid usage of +N or ~N as first address".toList
        | .multiple _ => fault "invalid usage of +N or ~N as first address".toList
        | _ => pure ()
        match ← nonblank? with
        | some ',' => do
            match ← site? (← nonblank?) with
            | none => fault "unexpected \x60,'".toList
            | some second => do
                let letter ← nonblank?
                pure (some second, letter)
        | letter => pure (none, letter)
  match start, second with
  | some (.line 0), some (.pattern _) => pure ()
  | some (.line 0), _ => fault "invalid usage of line address 0".toList
  | _, _ => pure ()
  if letter = some '!' then
    let letter ← nonblank?
    if letter = some '!' then fault "multiple \x60!'s".toList
    return (⟨start, second, true⟩, letter)
  else return (⟨start, second, false⟩, letter)

/-- A text to print, up to the end of its last line; the limit bounds its length. -/
def textFrom : (limit : Nat) → (reversed : Octets) → Reader Octets
  | 0, reversed => return reversed.reverse
  | limit + 1, reversed => do
      match ← next? with
      | none => return (if reversed.isEmpty then [] else ('\n' :: reversed).reverse)
      | some '\n' => return ('\n' :: reversed).reverse
      | some '\\' => do
          match ← next? with
          | none => return ('\n' :: reversed).reverse
          | some c => do
              let reading ← get
              match escape? c reading.rest with
              | some (found, rest) => do
                  let used := reading.rest.length - rest.length
                  set { reading with rest := rest, count := reading.count + used }
                  textFrom limit (found :: reversed)
              | none => textFrom limit (c :: reversed)
      | some c => textFrom limit (c :: reversed)

/-- The text of a command; nothing is found where it is still to come. -/
def text? : Reader (Option Octets) := do
  let limit := (← get).rest.length + 1
  match ← nonblank? with
  | none => fault "expected \\ after \x60a', \x60c' or \x60i'".toList
  | some '\\' => do
      match ← next? with
      | none => return none
      | some '\n' =>
          if (← get).rest.isEmpty then return none else return some (← textFrom limit [])
      | c => do
          back c
          return some (← textFrom limit [])
  | some '\n' => return some []
  | c => do
      back c
      return some (← textFrom limit [])

/-- The pieces of a replacement, given the text before, the last character first; the
limit bounds its length. -/
def pieces : (limit : Nat) → (reversed : Octets) → Octets → List Piece
  | 0, _, _ => []
  | limit + 1, reversed, text =>
      let before : List Piece := if reversed.isEmpty then [] else [.text reversed.reverse]
      match text with
      | [] => before
      | '&' :: rest => before ++ .group 0 :: pieces limit [] rest
      | '\\' :: c :: rest =>
          if c.isDigit then before ++ .group (c.toNat - 48) :: pieces limit [] rest
          else if "LUElu".toList.contains c then before ++ .turn c :: pieces limit [] rest
          else
            match escape? c rest with
            | some (found, after) => pieces limit (found :: reversed) after
            | none => pieces limit (c :: reversed) rest
      | c :: rest => pieces limit (c :: reversed) rest

/-- The options after a replacement, given those so far, and whether small letters and
capitals are the same; the limit bounds their number. -/
def options : (limit : Nat) → Substitution → (folds modified : Bool) →
    Reader (Substitution × Bool × Bool)
  | 0, found, folds, modified => return (found, folds, modified)
  | limit + 1, found, folds, modified => do
      match ← next? with
      | none => return (found, folds, modified)
      | some '\n' => return (found, folds, modified)
      | some ';' => return (found, folds, modified)
      | some 'i' => options limit found true true
      | some 'I' => options limit found true true
      | some 'm' => options limit found folds true
      | some 'M' => options limit found folds true
      | some 'e' => options limit found folds modified
      | some ' ' => options limit found folds modified
      | some '\t' => options limit found folds modified
      | some 'p' =>
          if found.prints then fault "multiple \x60p' options to \x60s' command".toList
          else options limit { found with prints := true } folds modified
      | some 'g' =>
          if found.global then fault "multiple \x60g' options to \x60s' command".toList
          else options limit { found with global := true } folds modified
      | some 'w' => do
          let path ← fileName
          return ({ found with output := some path }, folds, modified)
      | some c =>
          if c.isDigit then
            if found.occurrence != 0 then
              fault "multiple number options to \x60s' command".toList
            else
              let value ← number c
              if value = 0 then fault "number option to \x60s' command may not be zero".toList
              options limit { found with occurrence := value } folds modified
          else if c = '\x7d' || c = '#' then do
            back (some c)
            return (found, folds, modified)
          else fault "unknown option to \x60s'".toList

/-- A replacement of matches. -/
def substitution : Reader Substitution := do
  let unfinished : Reader Octets := fault "unterminated \x60s' command".toList
  let limit := (← get).rest.length + 1
  match ← next? with
  | none => do
      let _ ← unfinished
      return ⟨none, [], 0, false, false, none⟩
  | some delimiter => do
      let found ← upTo delimiter true limit []
      let pattern ←
        match found with
        | some text => pure text
        | none => unfinished
      let found ← upTo delimiter false limit []
      let replacement ←
        match found with
        | some text => pure text
        | none => unfinished
      let parts := pieces (replacement.length + 1) [] replacement
      let (found, folds, modified) ←
        options limit ⟨none, parts, 0, false, false, none⟩ false false
      let compiled ← regex pattern folds modified
      let highest := parts.foldl (fun highest part =>
        match part with
        | .group index => max highest index
        | _ => highest) 0
      match compiled with
      | some regex =>
          if regex.groups < highest then
            fault ("invalid reference \\".toList ++ Text.ofNat highest ++
              " on \x60s' command's RHS".toList)
      | none => pure ()
      return { found with regex := compiled }

/-- The characters of one side of a list of replacements of characters. -/
def characters : Octets → Octets
  | '\\' :: '\\' :: rest => '\\' :: characters rest
  | '\\' :: 'n' :: rest => '\n' :: characters rest
  | '\\' :: 't' :: rest => '\t' :: characters rest
  | c :: rest => c :: characters rest
  | [] => []

/-- A replacement of characters. -/
def transliteration : Reader (List (Char × Char)) := do
  let unfinished : Reader Octets := fault "unterminated \x60y' command".toList
  let limit := (← get).rest.length + 1
  match ← next? with
  | none => do
      let _ ← unfinished
      return []
  | some delimiter => do
      let found ← upTo delimiter false limit []
      let source ←
        match found with
        | some text => pure (characters text)
        | none => unfinished
      let found ← upTo delimiter false limit []
      let goal ←
        match found with
        | some text => pure (characters text)
        | none => unfinished
      if source.length != goal.length then
        fault "strings for \x60y' command are different lengths".toList
      endOfCommand
      return source.zip goal

/-- Add a command. -/
def add (command : Command) : Reader Unit :=
  modify fun reading => { reading with commands := reading.commands.push command }

/-- A number after a command, if there is one, and the end of the command. -/
def numberArgument : Reader (Option Nat) := do
  match ← nonblank? with
  | some c =>
      if c.isDigit then do
        let value ← number c
        endOfCommand
        return some value
      else do
        back (some c)
        endOfCommand
        return none
  | none => return none

/-- A comment; the very first one may ask for silence. -/
def comment : Reader Unit := do
  let reading ← get
  let atStart := reading.count = 1 && reading.commands.isEmpty &&
    (match reading.source with
    | .expression number => number = 1
    | .file _ => true)
  let text ← takeWhile (· != '\n')
  if atStart && text.head? = some 'n' then modify fun reading => { reading with silent := true }

/-- The command with a letter and a selection of lines. -/
def command (selected : Selection) (letter : Char) : Reader Unit := do
  let plain (action : Action) : Reader Unit := do
    endOfCommand
    add ⟨selected, action⟩
  let withText (action : Octets → Action) : Reader Unit := do
    match ← text? with
    | some text => add ⟨selected, action text⟩
    | none => do
        modify fun reading => { reading with waiting := some reading.commands.size }
        add ⟨selected, action []⟩
  let single : Reader Unit := do
    if selected.second.isSome then fault "command only uses one address".toList
  match letter with
  | '\x7b' => do
      modify fun reading =>
        { reading with
          blocks := (reading.commands.size, reading.source, reading.lines) :: reading.blocks }
      add ⟨selected, .block 0⟩
  | '\x7d' => do
      match (← get).blocks with
      | [] => fault "unexpected \x60\x7d'".toList
      | (start, _, _) :: blocks => do
          if selected.first.isSome then
            fault "\x60\x7d' doesn't want any addresses".toList
          endOfCommand
          modify fun reading =>
            { reading with
              blocks := blocks
              commands := reading.commands.modify start fun command =>
                { command with action := .block reading.commands.size } }
          add ⟨⟨none, none, false⟩, .nothing⟩
  | ':' => do
      if selected.first.isSome then fault ": doesn't want any addresses".toList
      let name ← label
      if name.isEmpty then fault "\":\" lacks a label".toList
      modify fun reading =>
        { reading with labels := (name, reading.commands.size) :: reading.labels }
      add ⟨⟨none, none, false⟩, .nothing⟩
  | 'a' => withText .append
  | 'i' => withText .insert
  | 'c' => withText .change
  | 'b' => add ⟨selected, .branch .always (← label)⟩
  | 't' => add ⟨selected, .branch .replaced (← label)⟩
  | 'T' => add ⟨selected, .branch .unreplaced (← label)⟩
  | 'd' => plain .delete
  | 'D' => plain .deleteFirst
  | 'F' => plain .inputName
  | 'g' => plain .recall
  | 'G' => plain .recallMore
  | 'h' => plain .keep
  | 'H' => plain .keepMore
  | 'x' => plain .exchange
  | 'n' => plain .next
  | 'N' => plain .nextMore
  | 'p' => plain .print
  | 'P' => plain .printFirst
  | 'z' => plain .empty
  | '=' => plain .number
  | 'l' => do
      let width ← numberArgument
      add ⟨selected, .reveal width⟩
  | 'q' => do
      single
      let status ← numberArgument
      add ⟨selected, .quit (status.getD 0) true⟩
  | 'Q' => do
      single
      let status ← numberArgument
      add ⟨selected, .quit (status.getD 0) false⟩
  | 'r' => add ⟨selected, .read (← fileName)⟩
  | 'R' => add ⟨selected, .readLine (← fileName)⟩
  | 'w' => add ⟨selected, .write (← fileName)⟩
  | 'W' => add ⟨selected, .writeFirst (← fileName)⟩
  | 's' => add ⟨selected, .substitute (← substitution)⟩
  | 'y' => add ⟨selected, .transliterate (← transliteration)⟩
  | 'v' => do
      let version ← label
      if !version.isEmpty && !(version.head?.any fun c => c ≤ '4') then
        fault "expected newer version of sed".toList
      add ⟨selected, .nothing⟩
  | c => fault ("unknown command: \x60".toList ++ [c, '\''])

/-- Read commands up to the end; the limit bounds their number. -/
def commands : (limit : Nat) → Reader Unit
  | 0 => return
  | limit + 1 => do
      let _ ← takeWhile fun c => c = ';' || Octets.isSpace c
      match ← next? with
      | none => return
      | first => do
          let (selected, letter) ← selection first
          match letter with
          | none => fault "missing command".toList
          | some '#' => do
              if selected.first.isSome then
                fault "comments don't accept any addresses".toList
              comment
          | some letter => command selected letter
          commands limit

/-- Give the command that waits for its text what the next part begins with. -/
def completeText : Reader Unit := do
  match (← get).waiting with
  | none => return
  | some index => do
      let text ← textFrom ((← get).rest.length + 1) []
      modify fun reading =>
        { reading with
          waiting := none
          commands := reading.commands.modify index fun command =>
            { command with
              action :=
                match command.action with
                | .append _ => .append text
                | .insert _ => .insert text
                | .change _ => .change text
                | action => action } }

/-- Read one part of a script. -/
def part (source : Source) (text : Octets) : Reader Unit := do
  modify fun reading => { reading with source := source, rest := text, count := 0, lines := 0 }
  completeText
  commands (text.length + 1)

/-- Read all parts of a script. -/
def whole (parts : List (Source × Octets)) : Reader Unit := do
  for (source, text) in parts do part source text
  match (← get).blocks with
  | (_, source, lines) :: _ => throw (placeOf source 0 lines ++ ": unmatched \x60\x7b'".toList)
  | [] => return

end Reader

/-- A script that can be executed. -/
structure Script where
  /-- The commands. -/
  commands : Array Command
  /-- The labels. -/
  labels : List (Octets × Nat)
  /-- Whether nothing is printed unless a command asks for it. -/
  silent : Bool

namespace Script

/-- Read a script. -/
def read (extended : Bool) (parts : List (Source × Octets)) : Except Octets Script := do
  let ((), reading) ← (Reader.whole parts).run
    { extended := extended, source := .expression 1, rest := [], count := 0, lines := 0
      commands := #[], blocks := [], labels := [], waiting := none, silent := false }
  return ⟨reading.commands, reading.labels, reading.silent⟩

/-- Where to go on after a branch. -/
def target (script : Script) (label : Octets) : Nat :=
  match script.labels.find? (·.1 == label) with
  | some (_, index) => index
  | none => script.commands.size

/-- A label that a branch names and that is not there. -/
def missingLabel? (script : Script) : Option Octets :=
  script.commands.toList.findSome? fun command =>
    match command.action with
    | .branch _ label =>
        if label.isEmpty || script.labels.any (·.1 == label) then none else some label
    | _ => none

/-- The files that are written. -/
def outputs (script : Script) : List Octets :=
  (script.commands.toList.filterMap fun command =>
    match command.action with
    | .write path => some path
    | .writeFirst path => some path
    | .substitute substitution => substitution.output
    | _ => none).eraseDups

end Script
end Sed
end Utility
end Host
end Turnwise
