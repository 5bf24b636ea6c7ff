import Turnwise.Host.Shell.Arithmetic
import Turnwise.Host.Shell.Fields
import Turnwise.Host.Shell.Fork

/-!
# Expansion

The words of a command are expanded before it runs: a tilde becomes a home directory,
parameters become their values, substituted commands what they print, and arithmetic
expressions their values.  What is not quoted then falls apart into fields, and fields
that are patterns become the paths that they match.
-/

namespace Turnwise
namespace Host
namespace Shell

open Script (Part Word Use Fallback Extent Command)

/-- What a word is expanded for. -/
inductive Mode where
  /-- For fields. -/
  | fields
  /-- For the value of an assignment, in which a tilde may follow a colon. -/
  | assigned
  /-- For one text. -/
  | single
  deriving DecidableEq, Repr

/-- What a parameter stands for. -/
inductive Reading where
  /-- Nothing. -/
  | missing
  /-- A text. -/
  | one (text : Octets)
  /-- Several texts, which may become one when they are quoted. -/
  | several (texts : List Octets) (joins : Bool)
  deriving DecidableEq, Repr

/-- The options in the order in which they are shown. -/
def shownFlags : List Char :=
  "ubaCEVvxsnmiIfe".toList

/-- The text between the arguments when they are joined. -/
def joint (state : State) : Octets :=
  match state.value? "IFS".toList with
  | none => [' ']
  | some separators => separators.take 1

/-- The home directory of a user. -/
def homeOf? (name : Octets) : Program (Option Octets) := do
  match ← Program.readFile "/etc/passwd".toList with
  | .error _ => pure none
  | .ok content =>
      pure <| (Octets.lines content).findSome? fun line =>
        match line.splitOn ':' with
        | user :: _ :: _ :: _ :: _ :: home :: _ => if user == name then some home else none
        | _ => none

/-- Replace a tilde at the beginning of a text; the name after it must not run into what
follows the text. -/
def tilde (last : Bool) (text : Octets) : Act (List Atom) := do
  match text with
  | '~' :: rest =>
      let name := rest.takeWhile (· != '/')
      let after := rest.drop name.length
      if after.isEmpty && !last then return Atom.unquoted false text
      else
        let home ←
          if name.isEmpty then Act.lookup "HOME".toList else Act.program (homeOf? name)
        match home with
        | some home => return .anchor :: Atom.quoted home ++ Atom.unquoted false after
        | none => return Atom.unquoted false text
  | text => return Atom.unquoted false text

/-- Replace the tildes in unquoted text that stands first in a word or not, and last in it
or not. -/
def tildes (mode : Mode) (first last : Bool) (text : Octets) : Act (List Atom) := do
  match mode with
  | .assigned => do
      let pieces := text.splitOn ':'
      let count := pieces.length
      let mut atoms : List (List Atom) := []
      for (piece, index) in pieces.zipIdx do
        let closed := last || index + 1 < count
        let expanded ←
          if first || 0 < index then tilde closed piece else pure (Atom.unquoted false piece)
        atoms := (if index = 0 then expanded else .char ':' false false :: expanded) :: atoms
      return atoms.reverse.flatten
  | _ => if first then tilde last text else return Atom.unquoted false text

/-- The item of a list at an index, which may be counted from the end. -/
def itemAt? (items : List (Nat × Octets)) (index : Int) : Option Octets :=
  let index :=
    if index < 0 then
      index + ((items.map (·.1)).foldl max 0 + 1 : Nat)
    else index
  if index < 0 then none else (items.find? (·.1 == index.toNat)).map (·.2)

/-- The items of a value. -/
def itemsOf : Value → List (Nat × Octets)
  | .text text => [(0, text)]
  | .items items => items

/-- The value of an arithmetic expression; variables that it sets are set. -/
def calculate (expression : Octets) : Act Int := do
  let state ← get
  let rich := state.dialect = .rich
  let lookup (name : Octets) : Octets := (state.value? name).getD []
  match Arithmetic.evaluate rich lookup expression with
  | .ok (result, assignments) => do
      for (name, value) in assignments do
        Act.assign name value
      return result
  | .error (.wrong problem) =>
      if rich then do
        Act.complain (expression ++ ": ".toList ++ problem)
        Act.fail 1
      else
        Act.raise ("arithmetic expression: ".toList ++ problem ++ ": \"".toList ++
          expression ++ ['"'])
  | .error (.noNumber text) => Act.raise ("Illegal number: ".toList ++ text)
  | .error .overflow => Act.program (.die .arithmetic)

/-- What a parameter without an index stands for. -/
def readParameter (name : Octets) : Act Reading := do
  let state ← get
  match name with
  | ['@'] => return .several state.arguments false
  | ['*'] => return .several state.arguments true
  | ['#'] => return .one (Text.ofNat state.arguments.length)
  | ['?'] => return .one (Text.ofNat state.status)
  | ['$'] => return .one (Text.ofNat state.root)
  | ['!'] =>
      match state.lastJob with
      | some number => return .one (Text.ofNat number)
      | none => return .missing
  | ['-'] => return .one (shownFlags.filter state.has)
  | name =>
      if name.all Char.isDigit then
        match Text.digits? name with
        | some 0 => return .one state.name
        | some number =>
            match state.arguments[number - 1]? with
            | some argument => return .one argument
            | none => return .missing
        | none => return .missing
      else if state.dialect = .rich && name = "LINENO".toList then
        return .one (Text.ofNat state.line)
      else
        match state.value? name with
        | some text => return .one text
        | none => return .missing

/-- What an item of a list stands for. -/
def readItem (name index : Octets) : Act Reading := do
  let items := ((((← get).binding? name).bind (·.value)).map itemsOf).getD []
  match index with
  | ['@'] => return .several (items.map (·.2)) false
  | ['*'] => return .several (items.map (·.2)) true
  | index =>
      match itemAt? items (← calculate index) with
      | some text => return .one text
      | none => return .missing

/-- Whether several texts stay separate; otherwise they are joined. -/
def separate (mode : Mode) (quoted joins : Bool) : Bool :=
  mode = .fields && !(quoted && joins)

/-- The atoms of a reading. -/
def readingAtoms (mode : Mode) (quoted : Bool) (reading : Reading) : Act (List Atom) := do
  let atoms (text : Octets) : List Atom :=
    if quoted then Atom.quoted text else Atom.unquoted true text
  match reading with
  | .missing => return []
  | .one text => return atoms text
  | .several texts joins =>
      if separate mode quoted joins then
        return Atom.several <| texts.map fun text =>
          if quoted then .anchor :: atoms text else atoms text
      else return atoms (Text.joinWith (joint (← get)) texts)

/-- Complain about a parameter that is not set, when that counts. -/
def checkSet (name : Octets) (reading : Reading) : Act Unit := do
  if reading = .missing && (← get).has 'u' then
    match (← get).dialect with
    | .plain => Act.raise (name ++ ": parameter not set".toList)
    | .rich => do
        Act.complain (name ++ ": unbound variable".toList)
        Act.fail 1

/-- Whether a reading counts as set; it may have to be something. -/
def isSet (rich orEmpty : Bool) : Reading → Bool
  | .missing => false
  | .one text => !(orEmpty && text.isEmpty)
  | .several texts _ =>
      if rich && texts.isEmpty then false
      else !(orEmpty && (texts.length ≤ 1 && texts.all (·.isEmpty)))

/-- The texts of a reading, each changed. -/
def Reading.map (change : Octets → Octets) : Reading → Reading
  | .missing => .missing
  | .one text => .one (change text)
  | .several texts joins => .several (texts.map change) joins

/-- Take away a beginning or an end of a text. -/
def trim (atEnd longest : Bool) (items : List Glob.Item) : Octets → Octets :=
  if atEnd then Glob.dropEnd longest items else Glob.dropStart longest items

/-- Whether a character is marked when it is quoted, because it may mean something in a
pattern or in an assignment. -/
def isMarked (c : Char) : Bool :=
  "!*?[=~:/-]\\".toList.contains c

/-- Take away a beginning or an end of several texts as one, in which zeros stand between
them.  A pattern is matched against the first text alone, except that a short end may stand
anywhere; when that text has marks, what is counted from its end is taken from the end of all
the texts. -/
def trimSeveral (atEnd longest quoted : Bool) (items : List Glob.Item) (texts : List Octets) :
    List Octets :=
  match texts with
  | [] => []
  | first :: rest =>
      let shown := quoted && first.any isMarked
      let whole := Text.joinWith ['\x00'] texts
      let fromEnd : Option Nat := Glob.matchLength? longest items.reverse first.reverse
      let fromStart : Option Nat := Glob.matchLength? longest items first
      match atEnd, longest with
      | true, true =>
          match fromEnd with
          | some count => [first.take (first.length - count)]
          | none => texts
      | true, false =>
          if shown then
            match fromEnd with
            | some count => (whole.take (whole.length - count)).splitOn '\x00'
            | none => texts
          else
            let cut (entry : Octets × Nat) : Option (List Octets) :=
              (Glob.matchLength? false items.reverse entry.1.reverse).map fun count =>
                texts.take entry.2 ++ [entry.1.take (entry.1.length - count)]
            (texts.zipIdx.filterMap cut).getLast?.getD texts
      | false, true =>
          match fromStart with
          | some count =>
              if shown then
                (whole.drop (whole.length - (first.length - count))).splitOn '\x00'
              else if count = first.length then [[]]
              else first.drop count :: rest
          | none => texts
      | false, false => first.drop (fromStart.getD 0) :: rest

/-- The first place, counted from a position, at which a pattern matches, with the length
of the longest match there. -/
def findMatch? (items : List Glob.Item) : (start : Nat) → Octets → Option (Nat × Nat)
  | start, text =>
      match (Glob.matchLength? true items text).filter (0 < ·), text with
      | some count, _ => some (start, count)
      | none, [] => none
      | none, _ :: rest => findMatch? items (start + 1) rest

/-- Replace a pattern wherever it matches; the limit bounds the number of places. -/
def replaceAll (items : List Glob.Item) (replacement : Octets) : (limit : Nat) → Octets → Octets
  | 0, text => text
  | limit + 1, text =>
      match findMatch? items 0 text with
      | none => text
      | some (start, count) =>
          text.take start ++ replacement ++
            replaceAll items replacement limit (text.drop (start + count))

/-- Replace a pattern in a text. -/
def replace (extent : Extent) (items : List Glob.Item) (replacement text : Octets) : Octets :=
  match extent with
  | .all => replaceAll items replacement (text.length + 1) text
  | .first =>
      match findMatch? items 0 text with
      | some (start, count) => text.take start ++ replacement ++ text.drop (start + count)
      | none => text
  | .atStart =>
      let rest := Glob.dropStart true items text
      if rest.length < text.length || Glob.isMatch items [] then replacement ++ rest else text
  | .atEnd =>
      let rest := Glob.dropEnd true items text
      if rest.length < text.length || Glob.isMatch items [] then rest ++ replacement else text

/-- A piece of a list, from a position and perhaps of a length; negative numbers count from
the end. -/
def slice (items : List α) (start : Int) (count : Option Int) : List α :=
  let size : Int := items.length
  let first := if start < 0 then size + start else start
  if first < 0 then []
  else
    let last :=
      match count with
      | none => size
      | some count => if count < 0 then size + count else first + count
    (items.take last.toNat).drop first.toNat

/-- Change the letters of a text, all of them or the first. -/
def recase (upper all : Bool) (text : Octets) : Octets :=
  let change (c : Char) : Char := if upper then c.toUpper else c.toLower
  if all then text.map change
  else
    match text with
    | [] => []
    | c :: rest => change c :: rest

/-- How words inside a word are expanded. -/
abbrev Inner := Mode → Word → Act (List Atom)

/-- The text of a word inside a word. -/
def innerText (inner : Inner) (word : Word) : Act Octets := do
  return Atom.text (← inner .single word)

/-- The pattern that a word inside a word is. -/
def innerPattern (inner : Inner) (word : Word) : Act (List Glob.Item) := do
  return Glob.ofMarks (← get).manner (Atom.marks (← inner .single word))

/-- Complain that a parameter must be set. -/
def demand (inner : Inner) (name : Octets) (orEmpty : Bool) (operand : Word) : Act α := do
  let message ←
    if operand.isEmpty then
      pure ("parameter ".toList ++
        (match (← get).dialect, orEmpty with
        | .plain, true => "not set or null".toList
        | .plain, false => "not set".toList
        | .rich, true => "null or not set".toList
        | .rich, false => "not set".toList))
    else innerText inner operand
  Act.complain (name ++ ": ".toList ++ message)
  Act.fail (match (← get).dialect with | .plain => 2 | .rich => 127)

/-- Use something else for a parameter that is not set. -/
def expandFallback
    (inner : Inner)
    (mode : Mode)
    (name : Octets)
    (reading : Reading)
    (kind : Fallback)
    (orEmpty : Bool)
    (operand : Word)
    (quoted : Bool) : Act (List Atom) := do
  let given := isSet ((← get).dialect = .rich) orEmpty reading
  let operandAtoms : Act (List Atom) := do
    let atoms ← inner (if mode = .fields then .fields else .single) operand
    return if quoted then atoms else atoms.map Atom.opened
  match kind, given with
  | .alternative, true => operandAtoms
  | .alternative, false => return []
  | _, true => readingAtoms mode quoted reading
  | .use, false => operandAtoms
  | .complain, false => demand inner name orEmpty operand
  | .assign, false => do
      let text ← innerText inner operand
      if !Script.isName name then Act.raise (name ++ ": bad variable name".toList)
      Act.assign name text
      readingAtoms mode quoted (.one text)

/-- The length of a reading. -/
def readingLength (rich : Bool) : Reading → Nat
  | .missing => 0
  | .one text => text.length
  | .several texts _ =>
      if rich then texts.length else (Text.joinWith [' '] texts).length

/-- Use the value of a parameter. -/
def expandUse
    (inner : Inner)
    (mode : Mode)
    (name : Octets)
    (item : Option Word)
    (use : Use)
    (quoted : Bool) : Act (List Atom) := do
  let reading ←
    match item with
    | none => readParameter name
    | some index => do readItem name (← innerText inner index)
  let finish (reading : Reading) : Act (List Atom) := do
    checkSet name reading
    readingAtoms mode quoted reading
  let rich := (← get).dialect = .rich
  match use with
  | .plain => finish reading
  | .length => do
      checkSet name reading
      finish (.one (Text.ofNat (readingLength rich reading)))
  | .malformed =>
      if rich then do
        Act.complain "bad substitution".toList
        Act.fail 1
      else Act.raise "Bad substitution".toList
  | .fallback kind orEmpty operand =>
      expandFallback inner mode name reading kind orEmpty operand quoted
  | .trim atEnd longest pattern => do
      checkSet name reading
      let items ← innerPattern inner pattern
      match reading with
      | .several texts joins =>
          if rich then finish (reading.map (trim atEnd longest items))
          else if separate mode quoted joins then
            finish (.several (trimSeveral atEnd longest quoted items texts) joins)
          else finish (.one (trim atEnd longest items (Text.joinWith (joint (← get)) texts)))
      | reading => finish (reading.map (trim atEnd longest items))
  | .slice start count => do
      let start ← calculate (← innerText inner start)
      let count ←
        match count with
        | none => pure none
        | some count => do pure (some (← calculate (← innerText inner count)))
      match reading with
      | .several texts joins =>
          if name = ['@'] || name = ['*'] then
            finish (.several (slice ((← get).name :: texts) start count) joins)
          else finish (.several (slice texts start count) joins)
      | reading => finish (reading.map (slice · start count))
  | .replace extent pattern replacement => do
      let items ← innerPattern inner pattern
      let replacement ← innerText inner replacement
      finish (reading.map (replace extent items replacement))
  | .recase upper all => finish (reading.map (recase upper all))
  | .indirect =>
      match reading with
      | .one target => do finish (← readParameter target)
      | _ => finish .missing
  | .keys => do
      let items := ((((← get).binding? name).bind (·.value)).map itemsOf).getD []
      finish (.several (items.map fun entry => Text.ofNat entry.1) false)

/-- What is kept of what a command prints: no zeros, and no newlines at the end. -/
def kept (output : Octets) : Octets :=
  let text : Octets := output.filter (· != '\x00')
  text.dropEndWhile (· == '\n')

/-- What a command prints. -/
def substitute (engine : Engine) (body : Command) : Act Octets := do
  let (reader, writer) ← Act.program .pipe
  let child ← fork engine do
    Act.program (.close reader)
    if writer != 1 then
      let _ ← Act.program (.connect writer 1)
      Act.program (.close writer)
    engine.run body ⟨true, false⟩
  Act.program (.close writer)
  let (blocks, _) ← Act.program (.readBlocks reader)
  Act.program (.close reader)
  let status ← await child
  modify fun state => { state with substituted := some status }
  return kept blocks.reverse.flatten

/-- The file that a command only reads, if it does nothing else. -/
def onlyReads? : Command → Option Word
  | .simple _ [] [] [.file 0 .input target] => some target
  | _ => none

/-- What a substituted command stands for. -/
def expandCommand (engine : Engine) (inner : Inner) (body : Command) : Act Octets := do
  match (← get).dialect, onlyReads? body with
  | .rich, some target => do
      let path ← innerText inner target
      match ← Act.program (.readFile path) with
      | .ok content => return kept content
      | .error code => do
          Act.complain (path ++ ": ".toList ++ code.title)
          modify fun state => { state with substituted := some 1 }
          return []
  | _, _ =>
      match body with
      | .nothing => do
          modify fun state => { state with substituted := some 0 }
          return []
      | body => substitute engine body

/-- Expand a part of a word. -/
def expandPart
    (engine : Engine)
    (inner : Inner)
    (mode : Mode)
    (first last : Bool) : Part → Act (List Atom)
  | .literal text true => return if text.isEmpty then [.anchor] else Atom.quoted text
  | .literal text false => tildes mode first last text
  | .parameter name item use quoted => expandUse inner mode name item use quoted
  | .command body quoted => do
      readingAtoms mode quoted (.one (← expandCommand engine inner body))
  | .arithmetic expression quoted => do
      let value ← calculate (← innerText inner expression)
      readingAtoms mode quoted (.one (Text.ofInt value))

/-- Expand the parts of a word, which may be nested up to a depth. -/
def expandParts (engine : Engine) : (depth : Nat) → Mode → Word → Act (List Atom)
  | 0, _, _ => return []
  | depth + 1, mode, word => do
      let inner : Inner := expandParts engine depth
      let count := word.length
      let mut atoms : List (List Atom) := []
      for (part, index) in word.zipIdx do
        atoms := (← expandPart engine inner mode (index = 0) (index + 1 = count) part) :: atoms
      return atoms.reverse.flatten

/-- How deep expansions are nested at most. -/
def expansionDepth : Nat := 100000

/-- Expand a word. -/
def expand (engine : Engine) (mode : Mode) (word : Word) : Act (List Atom) :=
  expandParts engine expansionDepth mode word

/-- The text that a word stands for. -/
def expandText (engine : Engine) (mode : Mode) (word : Word) : Act Octets := do
  return Atom.text (← expand engine mode word)

/-- The pattern that a word stands for. -/
def expandPattern (engine : Engine) (word : Word) : Act (List Glob.Item) := do
  return Glob.ofMarks (← get).manner (Atom.marks (← expand engine .single word))

/-- The fields of expanded atoms, patterns replaced by paths. -/
def expandAtoms (atoms : List Atom) : Act (List Octets) := do
  let state ← get
  let found := fields state.separators atoms
  if state.has 'f' then return found.map fun field => field.map (·.1)
  else
    let mut results : List (List Octets) := []
    for field in found do
      results := (← Act.program (paths state.manner field)) :: results
    return results.reverse.flatten

/-- The fields that a word stands for. -/
def expandFields (engine : Engine) (word : Word) : Act (List Octets) := do
  expandAtoms (← expand engine .fields word)

end Shell
end Host
end Turnwise
