import Turnwise.Host.Shell.Builtin.Settings
import Turnwise.Host.Shell.Expansion

/-!
# Builtin commands about variables

Variables can be made known to started programs, fixed, hidden while a function runs,
forgotten, read from the input, and set to the options among arguments.
-/

namespace Turnwise
namespace Host
namespace Shell

/-- Complain about a word that begins with no name. -/
def badName (word : Octets) : Act α := do
  match (← get).dialect with
  | .plain => Act.raise (word.takeWhile (· != '=') ++ ": bad variable name".toList)
  | .rich => do
      Act.complain ('\x60' :: word ++ "': not a valid identifier".toList)
      Act.fail 1

/-- The name and the value of an argument that may be an assignment. -/
def nameAndValue (word : Octets) : Octets × Option Octets :=
  let name := word.takeWhile (· != '=')
  match word.drop name.length with
  | _ :: value => (name, some value)
  | [] => (name, none)

/-- Give names an attribute, and perhaps values. -/
def markNames (lead : String) (test : Binding → Bool) (mark : Binding → Binding)
    (words : List Octets) : Act Nat := do
  let (chosen, operands) ← options (if (← get).dialect = .rich then "pnf" else "p") words
  if chose chosen 'p' || operands.isEmpty then
    Act.print (listing (← get) lead.toList test true)
    return 0
  else do
    for word in operands do
      let (name, value) := nameAndValue word
      if !Script.isName name then badName word
      match value with
      | some value => Act.assign name value
      | none => pure ()
      modify fun state =>
        let old := (state.binding? name).getD ⟨none, false, false⟩
        state.put name
          (if chose chosen 'n' then { old with exported := false } else mark old)
    return 0

/-- Let started programs inherit variables. -/
def exportBuiltin : List Octets → Act Nat :=
  markNames "export" (·.exported) fun binding => { binding with exported := true }

/-- Fix variables. -/
def readonlyBuiltin : List Octets → Act Nat :=
  markNames "readonly" (·.fixed) fun binding => { binding with fixed := true }

/-- Hide variables while a function runs; a plain shell sees only afterwards that an assigned
name is none. -/
def localBuiltin (words : List Octets) : Act Nat := do
  if (← get).depth = 0 then
    match (← get).dialect with
    | .plain => Act.raise "not in a function".toList
    | .rich => do
        Act.complain "can only be used in a function".toList
        return 1
  else do
    let rich := (← get).dialect = .rich
    for word in words do
      if word = ['-'] then Act.hideFlags
      else if rich && word.head? = some '-' then pure ()
      else
        let (name, value) := nameAndValue word
        if !Script.isName name && (rich || value.isNone) then badName word
        Act.hide name
        match value with
        | some value => Act.assign name value
        | none => if rich then modify (·.forget name)
    return 0

/-- Forget variables or functions. -/
def unsetBuiltin (words : List Octets) : Act Nat := do
  let (chosen, operands) ← options "vf" words
  for name in operands do
    if chose chosen 'f' then
      modify fun state =>
        { state with functions := state.functions.filter (·.1 != name) }
    else
      let rich := (← get).dialect = .rich
      let base := name.takeWhile (· != '[')
      if !Script.isName (if rich then base else name) then badName name
      Act.checkFixed base
      if rich && base.length < name.length then
        let index ← calculate ((name.drop (base.length + 1)).dropLast)
        match ((← get).binding? base).bind (·.value) with
        | some (.items items) =>
            Act.assignValue base (.items (items.filter fun item => (item.1 : Int) != index))
        | _ => pure ()
      else do
        if rich && ((← get).binding? name).isNone then
          modify fun state =>
            { state with functions := state.functions.filter (·.1 != name) }
        Act.checkValue base none
        modify (·.forget base)
        if name = "PATH".toList then modify fun state => { state with located := [] }
  return 0

/-- How far a line has fallen apart into fields. -/
structure LineSplit where
  /-- The fields, the last one first. -/
  fields : List Octets
  /-- The characters of the current field, the last one first. -/
  current : Octets
  /-- How many characters the current field has. -/
  size : Nat
  /-- How many fields may still be begun; with none the current field takes the rest. -/
  room : Nat
  /-- How many characters of the last field stay, if it ends in separators. -/
  stays : Option Nat
  /-- Whether the last separator was a blank. -/
  blank : Bool
  /-- Whether separators after a field are being passed over. -/
  passing : Bool

namespace LineSplit

/-- Add a character to the current field. -/
def push (split : LineSplit) (c : Char) : LineSplit :=
  { split with current := c :: split.current, size := split.size + 1, passing := false }

/-- Take a character, which may be protected from falling apart. -/
def take (separators : Octets) (split : LineSplit) (mark : Char × Bool) : LineSplit :=
  let (c, guarded) := mark
  let separates := !guarded && separators.contains c
  let white := separates && isWhite c
  if split.room = 0 then
    if white then
      { split with
        current := c :: split.current
        size := split.size + 1
        stays := some (split.stays.getD split.size) }
    else
      { split with
        current := c :: split.current
        size := split.size + 1
        stays := if separates && split.blank then split.stays else none
        blank := false }
  else if split.passing && separates && (white || split.blank) then
    if white then split else { split with blank := false }
  else if separates then
    if white && split.size = 0 then
      { split with blank := true }
    else if split.room = 1 then
      { (split.push c) with room := 0, stays := some split.size, blank := white }
    else
      ⟨split.current.reverse :: split.fields, [], 0, split.room - 1, none, white, true⟩
  else split.push c

end LineSplit

/-- The fields of a line, at most a number of them. -/
def lineFields (separators : Octets) (count : Nat) (marks : List (Char × Bool)) :
    List Octets :=
  let last := marks.foldl (LineSplit.take separators) ⟨[], [], 0, count, none, false, false⟩
  let rest := last.current.reverse.take (last.stays.getD last.size)
  if rest.isEmpty then last.fields.reverse else (rest :: last.fields).reverse

/-- How far a line has been read. -/
structure LineRead where
  /-- The characters, the last one first, each with whether it is protected. -/
  marks : List (Char × Bool)
  /-- Whether a backslash has just been read. -/
  escaped : Bool

/-- Read a line from the standard input, byte by byte; backslashes protect what follows
them unless the line is raw.  The answer also tells whether the line ended with a
newline. -/
def readLine (raw : Bool) : Act (List (Char × Bool) × Bool) :=
  Act.repeating (⟨[], false⟩ : LineRead) fun line => do
    match ← Act.program (.read 0 1) with
    | .ok [c] =>
        if c = '\x00' then return .inl line
        else if line.escaped then
          if c = '\n' then return .inl { line with escaped := false }
          else return .inl ⟨(c, true) :: line.marks, false⟩
        else if c = '\\' && !raw then return .inl { line with escaped := true }
        else if c = '\n' then return .inr (line.marks.reverse, true)
        else return .inl ⟨(c, false) :: line.marks, false⟩
    | _ => return .inr (line.marks.reverse, false)

/-- Set variables to fields; those without a field become empty. -/
def assignFields : List Octets → List Octets → Act Unit
  | [], _ => return
  | name :: names, fields => do
      Act.assign name (fields.head?.getD [])
      assignFields names (fields.drop 1)

/-- Read a line into variables. -/
def readBuiltin (words : List Octets) : Act Nat := do
  let rich := (← get).dialect = .rich
  let (chosen, operands) ← options (if rich then "ra:d:n:p:st:u:e" else "p:r") words
  let names := if rich && operands.isEmpty then ["REPLY".toList] else operands
  if names.isEmpty then Act.raise "arg count".toList
  for name in names do
    if !Script.isName name then badName name
  let (marks, whole) ← readLine (chose chosen 'r')
  let state ← get
  match chosen.find? (·.letter == 'a') with
  | some list =>
      let found := lineFields state.separators (marks.length + 1) marks
      Act.assignValue list.argument
        (.items (found.zipIdx.map fun (field, index) => (index, field)))
  | none =>
      if rich && operands.isEmpty then Act.assign "REPLY".toList (marks.map (·.1))
      else assignFields names (lineFields state.separators names.length marks)
  return if whole then 0 else 1

/-- What looking for the next option finds. -/
structure Found where
  /-- The option, or a mark for a fault. -/
  letter : Char
  /-- Its argument; it may be forgotten. -/
  argument : Option Octets
  /-- The complaint about a fault. -/
  complaint : Octets
  /-- The number of the next argument. -/
  index : Nat
  /-- How far the argument before it has been looked at. -/
  offset : Option Nat

/-- Find the next option among arguments, or the number of the first operand. -/
def nextOption
    (letters : Octets)
    (words : List Octets)
    (index : Nat)
    (offset : Option Nat) : Nat ⊕ Found :=
  let quiet := letters.head? = some ':'
  let inside : Option Octets :=
    match offset with
    | none => none
    | some offset =>
        let word := (words[index - 2]?).getD []
        if index ≤ 1 || word.length ≤ offset then none else some (word.drop offset)
  let fresh : Option (Octets × Nat) ⊕ Nat :=
    match inside with
    | some rest => .inl (some (rest, index))
    | none =>
        match words[index - 1]? with
        | some ('-' :: c :: rest) =>
            if c = '-' && rest.isEmpty then .inr (index + 1)
            else .inl (some (c :: rest, index + 1))
        | _ => .inr index
  match fresh with
  | .inr index => .inl index
  | .inl none => .inl index
  | .inl (some ([], index)) => .inl index
  | .inl (some (c :: rest, index)) =>
      let word := (words[index - 2]?).getD []
      let after : Option Nat := some (word.length - rest.length)
      match optionKind? (letters.dropWhile (· == ':')) c with
      | none =>
          .inr <|
            if quiet then ⟨'?', some [c], [], index, after⟩
            else ⟨'?', none, "Illegal option -".toList ++ [c], index, after⟩
      | some false => .inr ⟨c, some [], [], index, after⟩
      | some true =>
          if !rest.isEmpty then .inr ⟨c, some rest, [], index, none⟩
          else
            match words[index - 1]? with
            | some argument => .inr ⟨c, some argument, [], index + 1, none⟩
            | none =>
                .inr <|
                  if quiet then ⟨':', some [c], [], index, none⟩
                  else
                    ⟨'?', none, "No arg for -".toList ++ c :: " option".toList, index, none⟩

/-- Set a variable to the next option among arguments. -/
def getoptsBuiltin (words : List Octets) : Act Nat := do
  match words with
  | letters :: name :: rest => do
      let state ← get
      let arguments := if rest.isEmpty then state.arguments else rest
      let remember (index : Nat) (offset : Option Nat) : Act Unit := do
        Act.assign "OPTIND".toList (Text.ofNat index)
        modify fun state => { state with optionIndex := index, optionOffset := offset }
      let tell (letter : Char) : Act Unit := do
        let key := name.takeWhile (· != '=')
        if state.dialect = .plain && !Script.isName key then
          Act.raise (key ++ ": bad variable name".toList)
        Act.assign key [letter]
      match nextOption letters arguments state.optionIndex state.optionOffset with
      | .inl index => do
          remember index none
          tell '?'
          return 1
      | .inr found => do
          if !found.complaint.isEmpty then
            match state.dialect with
            | .plain => Act.emit 2 (found.complaint ++ ['\n'])
            | .rich =>
                Act.emit 2 (state.title ++ ": illegal option -- ".toList ++
                  (found.complaint.getLast?).toList ++ ['\n'])
          match found.argument with
          | some argument => Act.assign "OPTARG".toList argument
          | none => modify (·.forget "OPTARG".toList)
          remember found.index found.offset
          tell found.letter
          return 0
  | _ => Act.raise "Usage: getopts optstring var [arg...]".toList

/-- Declare variables of a rich shell, with attributes and values. -/
def declareBuiltin (words : List Octets) : Act Nat := do
  let flags := (words.filter (·.head? == some '-')).flatMap (·.drop 1)
  let operands := words.filter (·.head? != some '-')
  if flags.contains 'p' && operands.isEmpty then
    Act.print (listing (← get) "declare --".toList (fun _ => true) false)
  for word in operands do
    let (name, value) := nameAndValue word
    if !Script.isName name then badName word
    if 0 < (← get).depth && !flags.contains 'g' then Act.hide name
    match value with
    | some value =>
        let value ←
          if flags.contains 'i' then pure (Text.ofInt (← calculate value)) else pure value
        Act.assign name value
    | none =>
        if flags.contains 'a' && ((← get).binding? name).isNone then
          Act.assignValue name (.items [])
    modify fun state =>
      let old := (state.binding? name).getD ⟨none, false, false⟩
      state.put name
        { old with
          exported := old.exported || flags.contains 'x'
          fixed := old.fixed || flags.contains 'r' }
  return 0

/-- Evaluate arithmetic expressions; the status tells whether the last one is zero. -/
def letBuiltin (words : List Octets) : Act Nat := do
  let mut last : Int := 0
  for word in words do
    last ← calculate word
  return if last = 0 then 1 else 0

end Shell
end Host
end Turnwise
