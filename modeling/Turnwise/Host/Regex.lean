import Turnwise.Host.Glob

/-!
# Regular expressions

A regular expression is read in one of two notations: in the basic one most operators
have a backslash before them, in the extended one they have none.  Of all matches in a
text the one that begins first counts, and of those the longest.

The places at which a match can end are found as a set, part by part, so that a search
takes no more steps than it has to.  What the groups of an expression match is found
afterwards, between the two known ends.
-/

namespace Turnwise
namespace Host

namespace Regex

/-- A notation. -/
structure Flavour where
  /-- Operators have no backslash before them. -/
  extended : Bool
  /-- Small letters and capitals are the same. -/
  folds : Bool
  /-- Operators without something to repeat are faults. -/
  strict : Bool
  deriving DecidableEq, Repr

/-- What is wrong with an expression. -/
inductive Fault where
  | bad
  | openBracket
  | openParenthesis
  | closeParenthesis
  | openBrace
  | badInterval
  | badRange
  | badClass
  | badReference
  | badRepetition
  | trailingBackslash
  | tooBig
  deriving DecidableEq, Repr

/-- How a fault is called. -/
def Fault.title : Fault → Octets
  | .bad => "Invalid regular expression".toList
  | .openBracket => "Unmatched [, [^, [:, [., or [=".toList
  | .openParenthesis => "Unmatched ( or \\(".toList
  | .closeParenthesis => "Unmatched ) or \\)".toList
  | .openBrace => "Unmatched \\\x7b".toList
  | .badInterval => "Invalid content of \\\x7b\\\x7d".toList
  | .badRange => "Invalid range end".toList
  | .badClass => "Invalid character class name".toList
  | .badReference => "Invalid back reference".toList
  | .badRepetition => "Invalid preceding regular expression".toList
  | .trailingBackslash => "Trailing backslash".toList
  | .tooBig => "Regular expression too big".toList

/-- A part of an expression. -/
inductive Node where
  /-- Nothing. -/
  | empty
  /-- A character of a set. -/
  | one (set : CharSet)
  /-- The beginning of the text. -/
  | start
  /-- The end of the text. -/
  | finish
  /-- A place where a word may begin, and where it may end. -/
  | edge (begins ends : Bool)
  /-- A place inside a word or between words. -/
  | noEdge
  /-- A numbered group. -/
  | group (index : Nat) (body : Node)
  /-- One part after the other. -/
  | sequence (first second : Node)
  /-- One part or the other. -/
  | either (first second : Node)
  /-- A part, at least and at most a number of times. -/
  | times (body : Node) (least : Nat) (most : Option Nat)
  /-- What a group has matched. -/
  | reference (index : Nat)

end Regex

/-- A regular expression. -/
structure Regex where
  /-- Its parts. -/
  node : Regex.Node
  /-- How many groups it has. -/
  groups : Nat
  /-- Whether it refers to what groups have matched. -/
  refers : Bool
  /-- Whether small letters and capitals are the same. -/
  folds : Bool
  /-- Whether the name of a class stands in single brackets. -/
  lone : Bool
  /-- What is odd about it. -/
  warnings : List Octets

namespace Regex

/-- The same part, with small letters and capitals taken for the same. -/
def Node.folded : Node → Node
  | .one set => .one set.folded
  | .group index body => .group index body.folded
  | .sequence first second => .sequence first.folded second.folded
  | .either first second => .either first.folded second.folded
  | .times body least most => .times body.folded least most
  | node => node

/-- A token. -/
inductive Token where
  | finish
  | opening
  | closing
  | bar
  | star
  | plus
  | question
  | brace
  | any
  | bracket
  | caret
  | dollar
  | char (c : Char)
  | escape (c : Char)
  deriving DecidableEq, Repr

/-- The token of a character after a backslash. -/
def escapeToken (extended : Bool) (c : Char) : Token :=
  let basic : Option Token :=
    match c with
    | '(' => some .opening
    | ')' => some .closing
    | '\x7b' => some .brace
    | '|' => some .bar
    | '+' => some .plus
    | '?' => some .question
    | _ => none
  match if extended then none else basic with
  | some token => token
  | none => if "123456789wWsSbB<>'\x60".toList.contains c then .escape c else .char c

/-- The token of a character. -/
def charToken (extended : Bool) (c : Char) : Token :=
  match c with
  | '*' => .star
  | '.' => .any
  | '[' => .bracket
  | '^' => .caret
  | '$' => .dollar
  | '(' => if extended then .opening else .char c
  | ')' => if extended then .closing else .char c
  | '|' => if extended then .bar else .char c
  | '+' => if extended then .plus else .char c
  | '?' => if extended then .question else .char c
  | '\x7b' => if extended then .brace else .char c
  | c => .char c

/-- The first token of a text, and the rest. -/
def token (extended : Bool) : Octets → Except Fault (Token × Octets)
  | [] => .ok (.finish, [])
  | ['\\'] => .error .trailingBackslash
  | '\\' :: c :: rest => .ok (escapeToken extended c, rest)
  | c :: rest => .ok (charToken extended c, rest)

/-- The numbers of an interval, and the rest after its closing brace. -/
def interval? (flavour : Flavour) (text : Octets) :
    Except Fault (Option (Nat × Option Nat × Octets)) := do
  let low := text.takeWhile Char.isDigit
  let after := text.drop low.length
  let (high, rest, comma) : Octets × Octets × Bool :=
    match after with
    | ',' :: rest =>
        let high := rest.takeWhile Char.isDigit
        (high, rest.drop high.length, true)
    | rest => ([], rest, false)
  let closing : Octets := if flavour.extended then ['\x7d'] else ['\\', '\x7d']
  match Text.after? closing rest with
  | none =>
      if flavour.extended && !flavour.strict then return none
      else if rest.isEmpty then throw .openBrace
      else throw .badInterval
  | some rest =>
      if low.isEmpty && !comma then
        if flavour.extended && !flavour.strict then return none else throw .badInterval
      let least := Nat.ofDigitChars 10 low 0
      let most := Nat.ofDigitChars 10 high 0
      if 32767 < least || 32767 < most then throw .tooBig
      if !comma then return some (least, some least, rest)
      else if high.isEmpty then return some (least, none, rest)
      else if most < least then throw .badInterval
      else return some (least, some most, rest)

/-- The members of a set up to the closing bracket, given those so far and whether there
are none yet. -/
def members : (limit : Nat) → (first : Bool) → List (Char × Char) → Octets →
    Except Fault (List (Char × Char) × Octets)
  | 0, _, _, _ => .error .openBracket
  | limit + 1, first, found, text =>
      match text with
      | [] => .error (if first then .bad else .openBracket)
      | ']' :: rest => if first then single limit found ']' rest else .ok (found, rest)
      | '[' :: ':' :: rest =>
          match Text.cutAt? [':', ']'] rest with
          | none => .error .openBracket
          | some (name, rest) =>
              match CharSet.classRanges? name with
              | some ranges => members limit false (found ++ ranges) rest
              | none => .error .badClass
      | '[' :: '=' :: c :: '=' :: ']' :: rest => single limit found c rest
      | '[' :: '.' :: c :: '.' :: ']' :: rest => single limit found c rest
      | c :: rest => single limit found c rest
where
  /-- A character, or a range that it begins. -/
  single (limit : Nat) (found : List (Char × Char)) (c : Char) (rest : Octets) :
      Except Fault (List (Char × Char) × Octets) :=
    match rest with
    | '-' :: ']' :: _ => members limit false (found ++ [(c, c)]) rest
    | '-' :: '[' :: '.' :: high :: '.' :: ']' :: rest =>
        if high < c then .error .badRange else members limit false (found ++ [(c, high)]) rest
    | '-' :: high :: rest =>
        if high < c then .error .badRange else members limit false (found ++ [(c, high)]) rest
    | rest => members limit false (found ++ [(c, c)]) rest

/-- The set that a text begins with, after its opening bracket, and the rest. -/
def bracket (text : Octets) : Except Fault (CharSet × Octets) := do
  match text with
  | '^' :: rest =>
      let (ranges, rest) ← members (rest.length + 1) true [] rest
      return (⟨true, ranges⟩, rest)
  | text =>
      let (ranges, rest) ← members (text.length + 1) true [] text
      return (⟨false, ranges⟩, rest)

/-- Whether the name of a class stands in single brackets, given the text after the opening
bracket and the rest after the closing one. -/
def isLoneClass (text rest : Octets) : Bool :=
  let inside := text.take (text.length - rest.length - 1)
  inside.head? == some ':' && inside.getLast? == some ':' && decide (2 < inside.length)

/-- The set of all characters. -/
def anySet : CharSet := ⟨true, []⟩

/-- The set of one character. -/
def charSet (c : Char) : CharSet := ⟨false, [(c, c)]⟩

/-- The characters of words. -/
def wordRanges : List (Char × Char) :=
  [('a', 'z'), ('A', 'Z'), ('0', '9'), ('_', '_')]

/-- The blanks. -/
def spaceRanges : List (Char × Char) :=
  [(' ', ' '), ('\t', '\r')]

/-- How far an expression has been read. -/
structure Reading where
  /-- The rest. -/
  rest : Octets
  /-- How many groups have been opened. -/
  opened : Nat
  /-- The groups that have been closed. -/
  closed : List Nat
  /-- Whether there was a reference. -/
  refers : Bool
  /-- Whether the name of a class stood in single brackets. -/
  lone : Bool
  /-- What is odd about the expression. -/
  warnings : List Octets

/-- A step of reading. -/
abbrev Parser := StateT Reading (Except Fault)

/-- The next token, which is not passed. -/
def peek (extended : Bool) : Parser (Token × Octets) := do
  token extended (← get).rest

/-- Go on with a rest. -/
def goOn (rest : Octets) : Parser Unit :=
  modify fun reading => { reading with rest := rest }

/-- Note something odd. -/
def warn (text : String) : Parser Unit :=
  modify fun reading => { reading with warnings := reading.warnings ++ [text.toList] }

/-- What a character after a backslash stands for. -/
def escaped (c : Char) : Parser Node := do
  match c with
  | 'w' => return .one ⟨false, wordRanges⟩
  | 'W' => return .one ⟨true, wordRanges⟩
  | 's' => return .one ⟨false, spaceRanges⟩
  | 'S' => return .one ⟨true, spaceRanges⟩
  | 'b' => return .edge true true
  | 'B' => return .noEdge
  | '<' => return .edge true false
  | '>' => return .edge false true
  | '\x60' => return .start
  | '\'' => return .finish
  | c =>
      let index := c.toNat - 48
      if !(← get).closed.contains index then throw .badReference
      modify fun reading => { reading with refers := true }
      return .reference index

/-- Whether a dollar sign stands at the end of an alternative. -/
def endsBranch (extended : Bool) (rest : Octets) : Bool :=
  match token extended rest with
  | .ok (.finish, _) => true
  | .ok (.closing, _) => true
  | .ok (.bar, _) => true
  | _ => false

/-- The operators after a part. -/
def repeated (flavour : Flavour) : (limit : Nat) → Node → Parser Node
  | 0, node => return node
  | limit + 1, node => do
      let (found, rest) ← peek flavour.extended
      let goOnWith (least : Nat) (most : Option Nat) (rest : Octets) : Parser Node := do
        goOn rest
        let (next, _) ← peek flavour.extended
        if flavour.strict && !flavour.extended && (next = .star || next = .brace) then
          throw .badRepetition
        repeated flavour limit (.times node least most)
      match found with
      | .star => goOnWith 0 none rest
      | .plus => goOnWith 1 none rest
      | .question => goOnWith 0 (some 1) rest
      | .brace => do
          match interval? flavour rest with
          | .error fault => throw fault
          | .ok (some (least, most, rest)) => goOnWith least most rest
          | .ok none => return node
      | _ => return node

/-- One part of an alternative, before its operators.  Nothing is found at the end of the
alternative.  The second argument tells whether the part is the first one. -/
def atom (flavour : Flavour) (first : Bool) (depth : Nat) (inner : Parser Node) :
    Parser (Option Node) := do
  let (found, rest) ← peek flavour.extended
  let literal (c : Char) : Parser (Option Node) := do
    goOn rest
    return some (.one (charSet c))
  let odd (warning : String) (rest : Octets) : Parser (Option Node) := do
    if flavour.strict then throw .badRepetition
    warn warning
    goOn rest
    return some .empty
  match found with
  | .finish => return none
  | .bar => return none
  | .closing =>
      if 0 < depth then return none
      else if flavour.extended && !flavour.strict then literal ')'
      else throw .closeParenthesis
  | .opening => do
      goOn rest
      let index := (← get).opened + 1
      modify fun reading => { reading with opened := index }
      let body ← inner
      let (last, rest) ← peek flavour.extended
      if last != .closing then throw .openParenthesis
      goOn rest
      modify fun reading => { reading with closed := index :: reading.closed }
      return some (.group index body)
  | .star =>
      if first then
        if flavour.extended then odd "* at start of expression" rest else literal '*'
      else literal '*'
  | .plus => if flavour.extended then odd "+ at start of expression" rest else literal '+'
  | .question => if flavour.extended then odd "? at start of expression" rest else literal '?'
  | .brace => do
      if flavour.strict then throw .badRepetition
      match interval? flavour rest with
      | .ok (some (_, _, rest)) =>
          if flavour.extended then odd "\x7b...\x7d at start of expression" rest
          else throw .badInterval
      | .ok none => literal '\x7b'
      | .error fault => throw fault
  | .any => do
      goOn rest
      return some (.one anySet)
  | .bracket => do
      let (set, after) ← bracket rest
      if isLoneClass rest after then modify fun reading => { reading with lone := true }
      goOn after
      return some (.one set)
  | .caret =>
      if flavour.extended || first then do
        goOn rest
        return some .start
      else literal '^'
  | .dollar =>
      if flavour.extended || endsBranch flavour.extended rest then do
        goOn rest
        return some .finish
      else literal '$'
  | .char c => literal c
  | .escape c => do
      goOn rest
      return some (← escaped c)

/-- An alternative: parts one after the other. -/
def branch (flavour : Flavour) (depth : Nat) (inner : Parser Node) :
    (limit : Nat) → (first : Bool) → Parser Node
  | 0, _ => return .empty
  | limit + 1, first => do
      match ← atom flavour first depth inner with
      | none => return .empty
      | some .start => do
          let (next, _) ← peek flavour.extended
          if flavour.strict && flavour.extended &&
              [.star, .plus, .question, .brace].contains next then throw .badRepetition
          let node ←
            if flavour.extended && next = .star then repeated flavour (limit + 1) .start
            else pure .start
          return .sequence node (← branch flavour depth inner limit (!flavour.extended))
      | some node => do
          let node ← repeated flavour (limit + 1) node
          return .sequence node (← branch flavour depth inner limit false)

/-- Alternatives, in which groups may be nested up to a depth. -/
def alternatives (flavour : Flavour) (limit : Nat) : (fuel : Nat) → (depth : Nat) → Parser Node
  | 0, _ => return .empty
  | fuel + 1, depth => do
      let first ← branch flavour depth (alternatives flavour limit fuel (depth + 1)) limit true
      let (found, rest) ← peek flavour.extended
      if found = .bar then
        goOn rest
        return .either first (← alternatives flavour limit fuel depth)
      else return first

/-- Read an expression. -/
def parse (flavour : Flavour) (pattern : Octets) : Except Fault Regex := do
  let limit := pattern.length + 1
  let (node, reading) ← (alternatives flavour limit limit 0).run
    ⟨pattern, 0, [], false, false, []⟩
  return {
    node := if flavour.folds then node.folded else node
    groups := reading.opened
    refers := reading.refers
    folds := flavour.folds
    lone := reading.lone
    warnings := reading.warnings }

/-- An expression that matches exactly a text. -/
def ofText (folds : Bool) (text : Octets) : Regex :=
  let node := text.foldr (fun c rest => .sequence (.one (charSet c)) rest) .empty
  ⟨if folds then node.folded else node, 0, false, folds, false, []⟩

/-- An expression that matches what one of some expressions does. -/
def either (first second : Regex) : Regex :=
  ⟨.either first.node second.node, max first.groups second.groups,
    first.refers || second.refers, first.folds || second.folds, first.lone || second.lone,
    first.warnings ++ second.warnings⟩

/-- A text that is searched. -/
structure Subject where
  /-- Its characters. -/
  chars : Array Char
  /-- Whether small letters and capitals are the same. -/
  folds : Bool

namespace Subject

/-- Whether a character of a set stands at a place. -/
def has (subject : Subject) (set : CharSet) (place : Nat) : Bool :=
  (subject.chars[place]?).any set.contains

/-- Whether a character of a word stands before a place. -/
def wordBefore (subject : Subject) (place : Nat) : Bool :=
  match place with
  | 0 => false
  | place + 1 => (subject.chars[place]?).any fun c => c.isAlphanum || c == '_'

/-- Whether a character of a word stands after a place. -/
def wordAfter (subject : Subject) (place : Nat) : Bool :=
  (subject.chars[place]?).any fun c => c.isAlphanum || c == '_'

/-- Whether a word begins or ends at a place. -/
def isEdge (subject : Subject) (begins ends : Bool) (place : Nat) : Bool :=
  let before := subject.wordBefore place
  let after := subject.wordAfter place
  (begins && !before && after) || (ends && before && !after)

end Subject

/-- Merge two ascending lists of places. -/
def mergePlaces : (limit : Nat) → List Nat → List Nat → (reversed : List Nat) → List Nat
  | 0, first, _, reversed => reversed.reverse ++ first
  | _ + 1, [], second, reversed => reversed.reverse ++ second
  | _ + 1, first, [], reversed => reversed.reverse ++ first
  | limit + 1, a :: first, b :: second, reversed =>
      if a < b then mergePlaces limit first (b :: second) (a :: reversed)
      else if b < a then mergePlaces limit (a :: first) second (b :: reversed)
      else mergePlaces limit first second (a :: reversed)

/-- The places of either of two ascending lists. -/
def union (first second : List Nat) : List Nat :=
  mergePlaces (first.length + second.length + 1) first second []

/-- The places of an ascending list that are not in another one. -/
def difference : (limit : Nat) → List Nat → List Nat → List Nat
  | 0, first, _ => first
  | _ + 1, [], _ => []
  | _ + 1, first, [] => first
  | limit + 1, a :: first, b :: second =>
      if a < b then a :: difference limit first (b :: second)
      else if b < a then difference limit (a :: first) second
      else difference limit first second

/-- The places that can be reached from some by a step taken again and again, up to a
number of times. -/
def closure (step : List Nat → List Nat) :
    (limit : Nat) → (reached frontier : List Nat) → List Nat
  | 0, reached, _ => reached
  | limit + 1, reached, frontier =>
      let next := step frontier
      let fresh := difference (next.length + reached.length + 1) next reached
      if fresh.isEmpty then reached
      else closure step limit (union reached fresh) fresh

/-- The places that can be reached from some by passing characters of a set, up to an
end. -/
def sweep (subject : Subject) (set : CharSet) :
    (limit : Nat) → (place : Nat) → (active : Bool) → List Nat → (reversed : List Nat) →
      List Nat
  | 0, _, _, _, reversed => reversed.reverse
  | limit + 1, place, active, starts, reversed =>
      let (here, starts) : Bool × List Nat :=
        match starts with
        | start :: rest => if start = place then (true, rest) else (active, start :: rest)
        | [] => (active, [])
      if !here && starts.isEmpty then reversed.reverse
      else
        sweep subject set limit (place + 1) (here && subject.has set place) starts
          (if here then place :: reversed else reversed)

/-- Take a step a number of times. -/
def iterate (step : List Nat → List Nat) : (count : Nat) → List Nat → List Nat
  | 0, places => places
  | count + 1, places =>
      if places.isEmpty then [] else iterate step count (step places)

/-- The places at which a part can end when it begins at some places, references taken for
anything. -/
def ends (subject : Subject) : Node → List Nat → List Nat
  | .empty, places => places
  | .one set, places =>
      (places.filter (subject.has set)).map (· + 1)
  | .start, places => places.filter (· == 0)
  | .finish, places => places.filter (· == subject.chars.size)
  | .edge begins ends, places => places.filter (subject.isEdge begins ends)
  | .noEdge, places => places.filter (!subject.isEdge true true ·)
  | .group _ body, places => ends subject body places
  | .sequence first second, places =>
      let middle := ends subject first places
      if middle.isEmpty then [] else ends subject second middle
  | .either first second, places =>
      union (ends subject first places) (ends subject second places)
  | .times body least most, places =>
      let begun := iterate (ends subject body) least places
      match most, body with
      | none, .one set =>
          match begun with
          | [] => []
          | first :: _ =>
              sweep subject set (subject.chars.size + 2) first false begun []
      | none, body => closure (ends subject body) (subject.chars.size + 1) begun begun
      | some most, body => closure (ends subject body) (most - least) begun begun
  | .reference _, places =>
      places.flatMap fun place =>
        (List.range (subject.chars.size + 1 - place)).map (· + place)

/-- What groups have matched: for each its beginning and its end. -/
abbrev Groups := List (Nat × Nat × Nat)

/-- Whether two stretches of a text are equal. -/
def sameText (subject : Subject) (first second count : Nat) : Bool :=
  (List.range count).all fun offset =>
    match subject.chars[first + offset]?, subject.chars[second + offset]? with
    | some a, some b => a == b || (subject.folds && a.toLower == b.toLower)
    | _, _ => false

/-- Match a part as often as possible, then what follows it; a round that matches nothing
is not repeated. -/
def runTimes (body : Nat → Groups → (Nat → Groups → Option α) → Option α) (least : Nat)
    (most : Option Nat) (next : Nat → Groups → Option α) :
    (limit : Nat) → (count : Nat) → Nat → Groups → Option α
  | 0, _, place, groups => next place groups
  | limit + 1, count, place, groups =>
      let again :=
        if most.any (· ≤ count) then none
        else
          body place groups fun after groups =>
            if after = place && least ≤ count then none
            else runTimes body least most next limit (count + 1) after groups
      match again with
      | some result => some result
      | none => if least ≤ count then next place groups else none

/-- Match a part from a place, then what follows it. -/
def run (subject : Subject) :
    Node → Nat → Groups → (Nat → Groups → Option α) → Option α
  | .empty, place, groups, next => next place groups
  | .one set, place, groups, next =>
      if subject.has set place then next (place + 1) groups else none
  | .start, place, groups, next => if place = 0 then next place groups else none
  | .finish, place, groups, next =>
      if place = subject.chars.size then next place groups else none
  | .edge begins ends, place, groups, next =>
      if subject.isEdge begins ends place then next place groups else none
  | .noEdge, place, groups, next =>
      if subject.isEdge true true place then none else next place groups
  | .group index body, place, groups, next =>
      run subject body place groups fun after groups =>
        next after ((index, place, after) :: groups.filter (·.1 != index))
  | .sequence first second, place, groups, next =>
      run subject first place groups fun after groups => run subject second after groups next
  | .either first second, place, groups, next =>
      match run subject first place groups next with
      | some result => some result
      | none => run subject second place groups next
  | .times body least most, place, groups, next =>
      runTimes (run subject body) least most next (subject.chars.size + least + 2) 0 place groups
  | .reference index, place, groups, next =>
      match groups.find? (·.1 == index) with
      | none => none
      | some (_, start, stop) =>
          if sameText subject start place (stop - start) then
            next (place + (stop - start)) groups
          else none

/-- A match. -/
structure Match where
  /-- The text. -/
  subject : Subject
  /-- Where it begins. -/
  start : Nat
  /-- Where it ends. -/
  stop : Nat
  /-- What its groups match. -/
  groups : Groups

namespace Match

/-- The text that a match covers. -/
def text (found : Match) : Octets :=
  (found.subject.chars.extract found.start found.stop).toList

/-- The text that a group covers; the whole match counts as group zero. -/
def group? (found : Match) (index : Nat) : Option Octets :=
  if index = 0 then some found.text
  else
    (found.groups.find? (·.1 == index)).map fun (_, start, stop) =>
      (found.subject.chars.extract start stop).toList

end Match

/-- The text for a search. -/
def subject (regex : Regex) (text : Octets) : Subject :=
  ⟨List.toArray text, regex.folds⟩

/-- What the groups match between two places, if the whole does. -/
def groupsBetween? (regex : Regex) (subject : Subject) (start stop : Nat) : Option Groups :=
  run subject regex.node start [] fun place groups =>
    if place = stop then some groups else none

/-- The longest match that begins at a place. -/
def matchAt? (regex : Regex) (subject : Subject) (start : Nat) : Option Match :=
  let stops := (ends subject regex.node [start]).reverse
  if regex.refers then
    stops.findSome? fun stop =>
      (regex.groupsBetween? subject start stop).map fun groups => ⟨subject, start, stop, groups⟩
  else
    stops.head?.map fun stop =>
      let groups :=
        if regex.groups = 0 then [] else (regex.groupsBetween? subject start stop).getD []
      ⟨subject, start, stop, groups⟩

/-- The first match that begins at a place or after it. -/
def matchFrom? (regex : Regex) (subject : Subject) : (limit : Nat) → (start : Nat) → Option Match
  | 0, _ => none
  | limit + 1, start =>
      match regex.matchAt? subject start with
      | some found => some found
      | none =>
          if subject.chars.size ≤ start then none
          else matchFrom? regex subject limit (start + 1)

/-- The first match that begins at a place or after it, in a prepared text. -/
def searchFrom (regex : Regex) (subject : Subject) (start : Nat) : Option Match :=
  regex.matchFrom? subject (subject.chars.size + 1 - start + 1) start

/-- The first match in a text. -/
def search (regex : Regex) (text : Octets) : Option Match :=
  regex.searchFrom (regex.subject text) 0

/-- Whether there is a match in a text. -/
def isMatch (regex : Regex) (text : Octets) : Bool :=
  let subject := regex.subject text
  let places := List.range (subject.chars.size + 1)
  let found := !(ends subject regex.node places).isEmpty
  if regex.refers then found && (regex.search text).isSome else found

/-- All matches in a text that do not overlap, from a place on; the limit bounds their
number. -/
def matchesFrom (regex : Regex) (subject : Subject) :
    (limit : Nat) → (start : Nat) → (last : Option Nat) → List Match
  | 0, _, _ => []
  | limit + 1, start, last =>
      if subject.chars.size < start then []
      else
        match regex.searchFrom subject start with
        | none => []
        | some found =>
            if found.stop = found.start then
              let rest := matchesFrom regex subject limit (found.start + 1) none
              if last = some found.start then rest else found :: rest
            else found :: matchesFrom regex subject limit found.stop (some found.stop)

/-- All matches in a text that do not overlap; an empty match right after another one does
not count. -/
def allMatches (regex : Regex) (text : Octets) : List Match :=
  let subject := regex.subject text
  regex.matchesFrom subject (subject.chars.size + 2) 0 none

end Regex
end Host
end Turnwise
