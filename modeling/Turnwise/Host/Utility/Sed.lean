import Std.Data.TreeMap
import Turnwise.Host.Utility.Files
import Turnwise.Host.Utility.Sed.Script

/-!
# The stream editor

Line after line is taken from the inputs, changed by the commands of a script, and
printed.  A line that came without a newline is printed without one, and gets one only
when more is printed after it.
-/

namespace Turnwise
namespace Host
namespace Utility
namespace Sed

open SystemError (Code)

/-- Whether a range of lines has begun. -/
inductive Range where
  /-- It may begin. -/
  | idle
  /-- It has begun, and may end at a known line. -/
  | active (stop : Option Nat)
  /-- It has ended. -/
  | closed
  deriving DecidableEq, Repr

/-- What is printed after a line. -/
inductive Appendix where
  /-- A text. -/
  | text (octets : Octets)
  /-- A file. -/
  | file (path : Octets)

/-- How lines are edited. -/
structure Manner where
  /-- The script. -/
  script : Script
  /-- Whether nothing is printed unless a command asks for it. -/
  silent : Bool
  /-- Whether each input has a last line of its own. -/
  separate : Bool
  /-- Whether inputs are replaced, and what is added to the names of their old versions. -/
  inPlace : Option Octets
  /-- What ends a line. -/
  ending : Char
  /-- How wide lines are revealed. -/
  width : Nat

/-- What an editor knows. -/
structure Desk where
  /-- The line. -/
  space : Octets
  /-- Whether it came with a newline. -/
  ended : Bool
  /-- What is kept. -/
  kept : Octets
  /-- Whether what is kept came with a newline. -/
  keptEnded : Bool
  /-- The name of the input that was opened last. -/
  title : Octets
  /-- The number of the line. -/
  number : Nat
  /-- Whether something was replaced. -/
  replaced : Bool
  /-- What is printed after the line, the last one first. -/
  queue : List Appendix
  /-- The ranges, by command. -/
  ranges : Std.TreeMap Nat Range
  /-- What was searched for last. -/
  last : Option Regex
  /-- The inputs that are still to come. -/
  paths : List Octets
  /-- The input, with its descriptor. -/
  input : Option (Octets × Nat)
  /-- The lines that were read ahead. -/
  ready : List Octets
  /-- The beginning of a line that was read ahead. -/
  partly : Octets
  /-- Whether the input has come to its end. -/
  drained : Bool
  /-- Whether what was printed last lacks a newline. -/
  unfinished : Bool
  /-- What replaces the input, the last piece first. -/
  page : List Octets
  /-- The files that are written. -/
  outputs : List (Octets × Nat)
  /-- The lines that are left of files. -/
  sources : List (Octets × List Octets)

/-- A step of an editor. -/
abbrev Editor := StateT Desk Tool

namespace Editor

/-- Make a program a step. -/
def program (program : Program α) : Editor α :=
  liftM (Tool.program program)

/-- Print octets as they are. -/
def put (manner : Manner) (octets : Octets) : Editor Unit := do
  if manner.inPlace.isSome then
    modify fun desk => { desk with page := octets :: desk.page }
  else liftM (Tool.print octets)

/-- Print a text, after the newline that may be missing before it. -/
def printText (manner : Manner) (text : Octets) : Editor Unit := do
  if (← get).unfinished then
    modify fun desk => { desk with unfinished := false }
    put manner [manner.ending]
  put manner text

/-- Print a line, with its newline if it has one. -/
def printLine (manner : Manner) (line : Octets) (ended : Bool) : Editor Unit := do
  printText manner (if ended then line ++ [manner.ending] else line)
  if !ended then modify fun desk => { desk with unfinished := true }

/-- Print what is to come after the line. -/
def printQueue (manner : Manner) : Editor Unit := do
  let queue := (← get).queue.reverse
  if !queue.isEmpty then
    modify fun desk => { desk with queue := [] }
    for appendix in queue do
      match appendix with
      | .text text => if !text.isEmpty then printText manner text
      | .file path =>
          match ← liftM (Tool.readInput path) with
          | .ok content => if !content.isEmpty then printText manner content
          | .error _ => pure ()

/-- Complain without printing what was printed before. -/
def grumble (status : Nat) (message : Octets) : Editor Unit := do
  let name := (← liftM (get : Tool Console)).name
  let _ ← program (.write 2 (name ++ ": ".toList ++ message ++ ['\n']))
  liftM (Tool.fail status)

/-- Open the next input; the answer tells whether there was one. -/
def openNext (manner : Manner) : Editor Bool := do
  match (← get).paths with
  | [] => return false
  | path :: rest => do
      modify fun desk => { desk with paths := rest, title := path, drained := false }
      if manner.separate then modify fun desk => { desk with number := 0 }
      if path = ['-'] && manner.inPlace.isNone then
        modify fun desk => { desk with input := some (path, 0) }
        return true
      let failed (code : Code) : Editor Bool := do
        grumble 2 ("can't read ".toList ++ path ++ ": ".toList ++ code.title)
        return true
      match ← program (.status path) with
      | .error code => failed code
      | .ok status =>
          if manner.inPlace.isSome && status.form != .file then
            grumble 4 ("couldn't edit ".toList ++ path ++ ": not a regular file".toList)
            return true
          match ← program (.openFile path .reading) with
          | .error code => failed code
          | .ok descriptor => do
              modify fun desk => { desk with input := some (path, descriptor) }
              return true

/-- The name of the old version of an edited file. -/
def backupPath (suffix path : Octets) : Octets :=
  let name := lastSegment path
  let old := if suffix.contains '*' then
    suffix.flatMap fun c => if c = '*' then name else [c] else name ++ suffix
  if old.contains '/' || !path.contains '/' then old
  else path.take (path.length - name.length) ++ old

/-- Put what was printed in place of the input. -/
def replaceInput (suffix path : Octets) : Editor Unit := do
  let page := (← get).page.reverse.flatten
  modify fun desk => { desk with page := [], unfinished := false }
  let mode : Nat ←
    match ← program (.status path) with
    | .ok status => pure status.mode
    | .error _ => pure 0o644
  let draft := path.take (path.length - (lastSegment path).length) ++ "sedT0rary".toList
  match ← program (.openFile draft .writing) with
  | .error code =>
      liftM (Tool.die 4 ("couldn't open temporary file ".toList ++ draft ++ ": ".toList ++
        code.title) : Tool Unit)
  | .ok descriptor => do
      let _ ← program (.write descriptor page)
      program (.close descriptor)
      let _ ← program (.change (.permit draft mode))
      if !suffix.isEmpty then
        let _ ← program (.change (.rename path (backupPath suffix path)))
      let _ ← program (.change (.rename draft path))
      return

/-- Leave the input. -/
def closeInput (manner : Manner) : Editor Unit := do
  match (← get).input with
  | none => return
  | some (path, descriptor) => do
      if descriptor != 0 then program (.close descriptor)
      modify fun desk => { desk with input := none }
      match manner.inPlace with
      | some suffix => do
          printQueue manner
          replaceInput suffix path
      | none => return

/-- How much is read at a time. -/
def blockSize : Nat := 4096

/-- Take what a block of the input holds. -/
def take (manner : Manner) (block : Octets) : Editor Unit := do
  let pieces := ((← get).partly ++ block).splitOn manner.ending
  modify fun desk =>
    { desk with ready := pieces.dropLast, partly := (pieces.getLast?).getD [] }

/-- Read ahead in the input. -/
def readAhead (manner : Manner) (path : Octets) (descriptor : Nat) : Editor Unit := do
  match ← program (.read descriptor blockSize) with
  | .error code =>
      let name := if path = ['-'] then "stdin".toList else path
      liftM (Tool.die 4 ("read error on ".toList ++ name ++ ": ".toList ++ code.title) :
        Tool Unit)
  | .ok [] => modify fun desk => { desk with drained := true }
  | .ok block => take manner block

/-- The next line, with whether it has a newline. -/
def nextLine? (manner : Manner) : Editor (Option (Octets × Bool)) := do
  let search : Desk → Tool (Desk ⊕ (Option (Octets × Bool) × Desk)) := fun desk => do
    let step : Editor (Option (Option (Octets × Bool))) := do
      let desk ← get
      match desk.ready, desk.input with
      | line :: rest, _ => do
          set { desk with ready := rest }
          return some (some (line, true))
      | [], some (path, descriptor) =>
          if !desk.drained then
            readAhead manner path descriptor
            return none
          else if !desk.partly.isEmpty then
            set { desk with partly := [] }
            return some (some (desk.partly, false))
          else
            closeInput manner
            return none
      | [], none => do
          if ← openNext manner then return none else return some none
    let (answer, desk) ← step.run desk
    match answer with
    | none => return .inl desk
    | some line => return .inr (line, desk)
  let desk ← get
  let (line, desk) ← liftM (Tool.repeating desk search)
  set desk
  return line

/-- Leave inputs up to one that holds something; inputs that cannot be read count as empty.
The answer tells whether there was none. -/
def skipEmpty (manner : Manner) : (limit : Nat) → Editor Bool
  | 0 => return true
  | limit + 1 => do
      closeInput manner
      if !(← openNext manner) then return true
      match (← get).input with
      | none => skipEmpty manner limit
      | some (_, descriptor) =>
          match ← program (.read descriptor blockSize) with
          | .error _ => skipEmpty manner limit
          | .ok [] => skipEmpty manner limit
          | .ok block => do
              take manner block
              return false

/-- Whether the line is the last one. -/
def isLast (manner : Manner) : Editor Bool := do
  let search : Desk → Tool (Desk ⊕ (Bool × Desk)) := fun desk => do
    match desk.ready, desk.input with
    | _ :: _, _ => return .inr (false, desk)
    | [], some (path, descriptor) =>
        if !desk.drained then
          let ((), desk) ← (readAhead manner path descriptor).run desk
          return .inl desk
        else if !desk.partly.isEmpty then return .inr (false, desk)
        else if manner.separate then return .inr (true, desk)
        else return .inr (← (skipEmpty manner (desk.paths.length + 1)).run desk)
    | [], none => return .inr (← (skipEmpty manner (desk.paths.length + 1)).run desk)
  let desk ← get
  let (last, desk) ← liftM (Tool.repeating desk search)
  set desk
  return last

/-- Take the next line; the answer tells whether there was one. -/
def advance (manner : Manner) (adds : Bool) : Editor Bool := do
  printQueue manner
  match ← nextLine? manner with
  | none => return false
  | some (line, ended) => do
      modify fun desk =>
        { desk with
          space := if adds then desk.space ++ manner.ending :: line else line
          ended := ended
          number := desk.number + 1
          replaced := false }
      return true

/-- The pattern that is meant; an empty one stands for what was searched for last. -/
def meant (regex : Option Regex) : Editor Regex := do
  match regex.or (← get).last with
  | some regex => do
      modify fun desk => { desk with last := some regex }
      return regex
  | none => liftM (Tool.die 1
      "-e expression #1, char 0: no previous regular expression".toList : Tool Regex)

/-- Whether the line is at a place. -/
def isAt (manner : Manner) (site : Site) : Editor Bool := do
  let number := (← get).number
  match site with
  | .line wanted => return number == wanted
  | .step first distance =>
      return if distance = 0 then number == first
        else first ≤ number && (number - first) % distance == 0
  | .last => isLast manner
  | .pattern regex => do
      let regex ← meant regex
      return regex.isMatch (← get).space
  | .later _ => return false
  | .multiple _ => return false

/-- Note what becomes of a range. -/
def setRange (index : Nat) (range : Range) : Editor Unit :=
  modify fun desk => { desk with ranges := desk.ranges.insert index range }

/-- What has become of a range. -/
def rangeOf (index : Nat) (first : Site) : Editor Range := do
  match (← get).ranges[index]?, first with
  | some range, _ => return range
  | none, .line 0 => return .active none
  | none, _ => return .idle

/-- Whether the line is in a range of lines. -/
def isWithin (manner : Manner) (index : Nat) (first second : Site) : Editor Bool := do
  let number := (← get).number
  let begins : Editor Bool := do
    if !(← isAt manner first) then return false
    match second with
    | .line stop =>
        if number < stop then setRange index (.active (some stop)) else setRange index .closed
    | .later count =>
        if count = 0 then setRange index .closed
        else setRange index (.active (some (number + count)))
    | .multiple factor =>
        if factor = 0 || number % factor = 0 then setRange index .closed
        else setRange index (.active (some (number + factor - number % factor)))
    | _ => setRange index (.active none)
    return true
  match ← rangeOf index first with
  | .idle => begins
  | .closed =>
      match first with
      | .line _ => if manner.separate then begins else return false
      | _ => begins
  | .active (some stop) =>
      if number < stop then return true
      else do
        setRange index .closed
        if number = stop then return true
        else isAt manner first
  | .active none => do
      if ← isAt manner second then setRange index .closed
      return true

/-- Whether a command is for the line. -/
def selects (manner : Manner) (index : Nat) (selection : Selection) : Editor Bool := do
  let chosen ←
    match selection.first, selection.second with
    | none, _ => pure true
    | some first, none => isAt manner first
    | some first, some second => isWithin manner index first second
  return chosen != selection.negated

/-- A text with letters changed as asked for: all that follow, or only the next one. -/
structure Casing where
  /-- What was made, the last character first. -/
  made : Octets
  /-- The change of all letters. -/
  lasting : Option Char
  /-- The change of the next letter. -/
  once : Option Char

/-- Add a text. -/
def Casing.add (casing : Casing) (text : Octets) : Casing :=
  text.foldl (fun casing c =>
    let apply (letter : Option Char) (c : Char) : Char :=
      match letter with
      | some 'U' => c.toUpper
      | some 'u' => c.toUpper
      | some 'L' => c.toLower
      | some 'l' => c.toLower
      | _ => c
    let changed := if casing.once.isSome then apply casing.once c else apply casing.lasting c
    { casing with made := changed :: casing.made, once := none }) casing

/-- What replaces a match. -/
def replacement (pieces : List Piece) (found : Regex.Match) : Octets :=
  let whole := pieces.foldl (fun (casing : Casing) piece =>
    match piece with
    | .text text => casing.add text
    | .group index => casing.add ((found.group? index).getD [])
    | .turn letter =>
        if letter = 'u' || letter = 'l' then { casing with once := some letter }
        else if letter = 'E' then { casing with lasting := none }
        else { casing with lasting := some letter }) ⟨[], none, none⟩
  whole.made.reverse

/-- A text with matches replaced, given how far it was copied and the number of the next
match. -/
def rewritten
    (substitution : Substitution)
    (subject : Regex.Subject) :
    (place number : Nat) → List Regex.Match → (reversed : List Octets) → Octets
  | place, _, [], reversed =>
      ((subject.chars.extract place subject.chars.size).toList :: reversed).reverse.flatten
  | place, number, found :: rest, reversed =>
      let wanted := max 1 substitution.occurrence
      let before := (subject.chars.extract place found.start).toList
      if number < wanted || (number != wanted && !substitution.global) then
        rewritten substitution subject found.stop (number + 1) rest
          (found.text :: before :: reversed)
      else
        rewritten substitution subject found.stop (number + 1) rest
          (replacement substitution.pieces found :: before :: reversed)

/-- Write to a file that a script names. -/
def writeTo (manner : Manner) (path text : Octets) (ended : Bool) : Editor Unit := do
  if path = "/dev/stdout".toList then printLine manner text ended
  else
    let outputs := (← get).outputs
    let descriptor : Nat :=
      if path = "/dev/stderr".toList then 2
      else ((outputs.find? (·.1 == path)).map (·.2)).getD 2
    let _ ← program (.write descriptor (if ended then text ++ [manner.ending] else text))
    return

/-- Replace matches in the line. -/
def substitute (manner : Manner) (substitution : Substitution) : Editor Unit := do
  let regex ← meant substitution.regex
  let desk ← get
  let subject := regex.subject desk.space
  let wanted := max 1 substitution.occurrence
  let single := wanted = 1 && !substitution.global
  let found :=
    if single then (regex.searchFrom subject 0).toList else regex.allMatches desk.space
  if wanted ≤ found.length then
    set { desk with space := rewritten substitution subject 0 1 found [], replaced := true }
    let desk ← get
    if substitution.prints then printLine manner desk.space desk.ended
    match substitution.output with
    | some path => writeTo manner path desk.space desk.ended
    | none => return

/-- How a character is revealed. -/
def revealed (c : Char) : Octets :=
  if c = '\\' then ['\\', '\\'] else if Tool.isShown c then [c] else Tool.escapedOctet c

/-- Pieces in lines of a limited width, given the current line and its length. -/
def wrapped (width : Nat) : List Octets → (used : Nat) → Octets
  | [], _ => "$\n".toList
  | piece :: rest, used =>
      if 1 < width && width - 1 < used + piece.length then
        "\\\n".toList ++ piece ++ wrapped width rest piece.length
      else piece ++ wrapped width rest (used + piece.length)

/-- Where an editor goes on after a command. -/
inductive Move where
  /-- At a command. -/
  | to (index : Nat)
  /-- With the next line; this one may be printed. -/
  | finish (prints : Bool)
  /-- With the first command, and the rest of the line. -/
  | again
  /-- Not at all. -/
  | quit (status : Nat) (prints : Bool)

/-- The first line of a text. -/
def firstLine (ending : Char) (text : Octets) : Octets :=
  text.takeWhile (· != ending)

/-- The next line of a file that a script reads. -/
def sourceLine? (path : Octets) : Editor (Option Octets) := do
  let lines : List Octets ←
    match (← get).sources.find? (·.1 == path) with
    | some (_, lines) => pure lines
    | none => do
        match ← liftM (Tool.readInput path) with
        | .ok content => pure (Octets.lines content)
        | .error _ => pure []
  modify fun desk =>
    { desk with
      sources := (path, lines.drop 1) :: desk.sources.filter (·.1 != path) }
  return lines.head?

/-- Do what a command says. -/
def perform (manner : Manner) (index : Nat) (action : Action) : Editor Move := do
  let desk ← get
  let next : Move := .to (index + 1)
  match action with
  | .nothing => return next
  | .block _ => return next
  | .append text => do
      set { desk with queue := .text text :: desk.queue }
      return next
  | .insert text => do
      if !text.isEmpty then printText manner text
      return next
  | .change text => do
      match desk.ranges[index]? with
      | some (.active _) => return .finish false
      | _ => do
          if !text.isEmpty then printText manner text
          return .finish false
  | .branch condition label => do
      let taken :=
        match condition with
        | .always => true
        | .replaced => desk.replaced
        | .unreplaced => !desk.replaced
      if condition != .always then set { desk with replaced := false }
      let goal := if label.isEmpty then manner.script.commands.size
        else manner.script.target label
      return if taken then .to goal else next
  | .delete => return .finish false
  | .deleteFirst =>
      if desk.space.contains manner.ending then do
        set { desk with
          space := desk.space.drop ((firstLine manner.ending desk.space).length + 1) }
        return .again
      else return .finish false
  | .inputName => do
      printText manner (desk.title ++ ['\n'])
      return next
  | .recall => do
      set { desk with space := desk.kept, ended := desk.keptEnded }
      return next
  | .recallMore => do
      set { desk with
        space := desk.space ++ manner.ending :: desk.kept, ended := desk.keptEnded }
      return next
  | .keep => do
      set { desk with kept := desk.space, keptEnded := desk.ended }
      return next
  | .keepMore => do
      set { desk with
        kept := desk.kept ++ manner.ending :: desk.space, keptEnded := desk.ended }
      return next
  | .exchange => do
      set { desk with
        space := desk.kept, kept := desk.space
        ended := desk.keptEnded, keptEnded := desk.ended }
      return next
  | .reveal width => do
      printText manner (wrapped (width.getD manner.width) (desk.space.map revealed) 0)
      return next
  | .next => do
      if !manner.silent then printLine manner desk.space desk.ended
      if ← isLast manner then return .finish false
      if ← advance manner false then return next else return .finish false
  | .nextMore => do
      if ← isLast manner then return .finish true
      if ← advance manner true then return next else return .finish true
  | .print => do
      printLine manner desk.space desk.ended
      return next
  | .printFirst => do
      let line := firstLine manner.ending desk.space
      printLine manner line (desk.ended || line.length < desk.space.length)
      return next
  | .quit status prints => return .quit status prints
  | .read path => do
      set { desk with queue := .file path :: desk.queue }
      return next
  | .readLine path => do
      match ← sourceLine? path with
      | some line =>
          modify fun desk => { desk with queue := .text (line ++ ['\n']) :: desk.queue }
      | none => pure ()
      return next
  | .substitute substitution => do
      substitute manner substitution
      return next
  | .write path => do
      writeTo manner path desk.space desk.ended
      return next
  | .writeFirst path => do
      writeTo manner path (firstLine manner.ending desk.space) true
      return next
  | .transliterate pairs => do
      let exchanged := desk.space.map fun c =>
        match pairs.find? fun pair => pair.1 == c with
        | some (_, other) => other
        | none => c
      set { desk with space := exchanged }
      return next
  | .empty => do
      set { desk with space := [] }
      return next
  | .number => do
      printText manner (Text.ofNat desk.number ++ ['\n'])
      return next

/-- Print the line, if it is to be printed, and what comes after it. -/
def conclude (manner : Manner) (prints : Bool) : Editor Unit := do
  let desk ← get
  if prints && !manner.silent then printLine manner desk.space desk.ended
  printQueue manner

/-- Leave the rest of the standard input to others, where it can be read again. -/
def restoreInput : Editor Unit := do
  let desk ← get
  match desk.input with
  | some (_, 0) => do
      let unread := desk.ready.foldl (fun total line => total + line.length + 1)
        desk.partly.length
      match ← program (.position 0) with
      | .ok position => do
          let _ ← program (.seek 0 (position - unread))
          return
      | .error _ => return
  | _ => return

/-- Copy the rest of an edited input after a script has quit. -/
def copyRest (manner : Manner) : Editor Unit := do
  match (← get).input with
  | some (_, descriptor) => do
      let (content, _) ← program (.readAll descriptor)
      let desk ← get
      let rest := (desk.ready.flatMap (· ++ [manner.ending])) ++ desk.partly ++ content
      set { desk with ready := [], partly := [] }
      if !rest.isEmpty then printText manner rest
      closeInput manner
  | none => return

/-- Where an editor is: before the next line, or before a command. -/
abbrev Position := Option Nat

/-- One step of an editor: where it goes on, or the status with which it ends. -/
def step (manner : Manner) (position : Position) : Editor (Position ⊕ Nat) := do
  let quit (status : Nat) (prints : Bool) : Editor (Position ⊕ Nat) := do
    conclude manner prints
    if manner.inPlace.isSome then copyRest manner else restoreInput
    return .inr status
  match position with
  | none => do
      if ← advance manner false then return .inl (some 0) else return .inr 0
  | some index =>
      match manner.script.commands[index]? with
      | none => do
          conclude manner true
          return .inl none
      | some command => do
          let selected ← selects manner index command.selection
          match command.action, selected with
          | .block stop, false => return .inl (some stop)
          | _, false => return .inl (some (index + 1))
          | action, true =>
              match ← perform manner index action with
              | .to index => return .inl (some index)
              | .finish prints => do
                  conclude manner prints
                  return .inl none
              | .again => do
                  printQueue manner
                  return .inl (some 0)
              | .quit status prints => quit status prints

end Editor

/-- Edit inputs. -/
def edit (manner : Manner) (paths : List Octets) (outputs : List (Octets × Nat)) : Tool Nat := do
  let desk : Desk :=
    { space := [], ended := true, kept := [], keptEnded := true, title := ['-'], number := 0
      replaced := false, queue := []
      ranges := .empty, last := none, paths := paths, input := none, ready := [], partly := []
      drained := false, unfinished := false, page := [], outputs := outputs, sources := [] }
  let beginning : Editor.Position × Desk := (none, desk)
  Tool.repeating beginning fun (position, desk) => do
    let (answer, desk) ← (Editor.step manner position).run desk
    match answer with
    | .inl position => return .inl (position, desk)
    | .inr status => return .inr status

end Sed

/-- The options of the stream editor. -/
def sedGrammar : Grammar :=
  ⟨[.flag 'n' "quiet", .flag '\x01' "silent", .value 'e' "expression", .value 'f' "file",
    .flag 'E' "regexp-extended", .flag 'r' "", .flag 's' "separate",
    ⟨'i', "in-place", .optional⟩, .value 'l' "line-length", .flag 'u' "unbuffered",
    .flag 'z' "null-data", .flag '\x02' "posix", .flag '\x03' "debug", .flag 'b' "binary",
    .flag '\x04' "follow-symlinks", .flag '\x05' "sandbox"], true, 1⟩

/-- The parts of a script that options give. -/
def sedParts (given : List Given) : Tool (List (Sed.Source × Octets)) := do
  let mut parts : List (Sed.Source × Octets) := []
  let mut number := 0
  for option in given do
    match option.letter, option.value with
    | 'e', some text =>
        number := number + 1
        parts := parts ++ [(.expression number, text)]
    | 'f', some path =>
        match ← Tool.readInput path with
        | .ok content =>
            let content : Octets := if Text.endsIn '\n' content then content.dropLast else content
            parts := parts ++ [(.file path, content)]
        | .error code =>
            Tool.die 4 ("couldn't open file ".toList ++ path ++ ": ".toList ++ code.title)
    | _, _ => pure ()
  return parts

/-- Edit a stream of lines. -/
def sed : Work := fun start => do
  let usage := "Usage: ".toList ++ start.name ++
    " [OPTION]... \x7bscript-only-if-no-other-script\x7d [input-file]...\n\n".toList
  modify fun console => { console with usage := some usage }
  Tool.lamenting 4 fun code =>
    "couldn't ".toList ++ (if code = .badDescriptor then "close" else "flush").toList ++
      " stdout: ".toList ++ code.title
  let (given, operands) ← sedGrammar.read start.arguments
  let parts ← sedParts given
  let (parts, operands) : List (Sed.Source × Octets) × List Octets ←
    match parts, operands with
    | [], text :: rest => pure ([(Sed.Source.expression 1, text)], rest)
    | [], [] => do
        let _ ← Tool.program (.write 2 usage)
        Tool.exit 1
    | parts, operands => pure (parts, operands)
  let extended := Given.has given 'E' || Given.has given 'r'
  match Sed.Script.read extended parts with
  | .error message => Tool.die 1 message
  | .ok script => do
      match script.missingLabel? with
      | some label =>
          Tool.die 4 ("can't find label for jump to \x60".toList ++ label ++ ['\''])
      | none => pure ()
      let mut outputs : List (Octets × Nat) := []
      for path in script.outputs do
        if path != "/dev/stdout".toList && path != "/dev/stderr".toList then
          match ← Tool.program (.openFile path .writing) with
          | .ok descriptor => outputs := (path, descriptor) :: outputs
          | .error code =>
              Tool.die 4 ("couldn't open file ".toList ++ path ++ ": ".toList ++ code.title)
      let inPlace : Option Octets :=
        if Given.has given 'i' then some ((Given.last? given 'i').getD []) else none
      let manner : Sed.Manner :=
        { script := script
          silent := Given.has given 'n' || Given.has given '\x01' || script.silent
          separate := Given.has given 's' || inPlace.isSome
          inPlace := inPlace
          ending := if Given.has given 'z' then '\x00' else '\n'
          width := (((Given.last? given 'l').bind Text.digits?)).getD 70 }
      let status ← Sed.edit manner (Tool.inputs operands) outputs
      if status != 0 then Tool.exit status

end Utility
end Host
end Turnwise
