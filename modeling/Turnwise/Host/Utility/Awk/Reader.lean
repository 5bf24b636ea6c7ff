import Turnwise.Host.Utility.Awk.Language

/-!
# Reading programs of patterns and actions

A program is divided into tokens, where a slash after an operand divides and elsewhere
begins a pattern, and the tokens are read by precedence: an assignment binds least and
a field most.
-/

namespace Turnwise
namespace Host
namespace Utility
namespace Awk

/-- A token. -/
inductive Token where
  /-- A number. -/
  | number (quantity : Quantity) (source : Octets)
  /-- A text between quotes. -/
  | text (octets : Octets)
  /-- A pattern between slashes. -/
  | pattern (octets : Octets)
  /-- A name. -/
  | name (octets : Octets)
  /-- A name right before an opening parenthesis. -/
  | call (octets : Octets)
  /-- A word of the language. -/
  | word (octets : Octets)
  /-- A function of the language. -/
  | builtin (octets : Octets)
  /-- An operator or another mark. -/
  | mark (octets : Octets)
  /-- The end. -/
  | stop
  deriving DecidableEq, Repr

namespace Token

/-- How a token is called. -/
def title : Token → Octets
  | .number _ source => source
  | .text octets => octets
  | .pattern octets => '/' :: octets ++ ['/']
  | .name octets => octets
  | .call octets => octets
  | .word octets => octets
  | .builtin octets => octets
  | .mark ['\n'] => "end of line".toList
  | .mark octets => octets
  | .stop => "end of file".toList

/-- Whether a value may end with this token, so that a slash after it divides. -/
def endsValue : Token → Bool
  | .number _ _ => true
  | .text _ => true
  | .pattern _ => true
  | .name _ => true
  | .builtin _ => true
  | .mark octets => [")", "]", "$", "++", "--"].any (·.toList == octets)
  | _ => false

end Token

/-- The words of the language. -/
def words : List String :=
  ["BEGIN", "END", "function", "if", "else", "while", "for", "do", "break", "continue",
    "next", "nextfile", "exit", "return", "delete", "in", "getline", "print", "printf"]

/-- The functions of the language, each with the least and the greatest number of its
arguments. -/
def builtins : List (String × Nat × Nat) :=
  [("length", 0, 1), ("substr", 2, 3), ("index", 2, 2), ("split", 2, 3), ("sub", 2, 3),
    ("gsub", 2, 3), ("match", 2, 2), ("sprintf", 1, 1000), ("tolower", 1, 1), ("toupper", 1, 1),
    ("int", 1, 1), ("sin", 1, 1), ("cos", 1, 1), ("atan2", 2, 2), ("exp", 1, 1), ("log", 1, 1),
    ("sqrt", 1, 1), ("rand", 0, 0), ("srand", 0, 1), ("system", 1, 1), ("close", 1, 1),
    ("fflush", 0, 1), ("systime", 0, 0)]

/-- The marks, the longest first. -/
def marks : List String :=
  ["&&", "||", "!~", "==", "<=", ">=", "!=", "++", "--", "+=", "-=", "*=", "/=", "%=", "^=",
    ">>", "\x7b", "\x7d", "(", ")", "[", "]", ";", ",", "+", "-", "*", "/", "%", "^", "!", ">",
    "<", "|", "?", ":", "~", "$", "=", "\n"]

/-- Whether a name may begin with a character. -/
def beginsName (c : Char) : Bool :=
  c.isAlpha || c = '_'

/-- Whether a name may hold a character. -/
def inName (c : Char) : Bool :=
  c.isAlphanum || c = '_'

/-- What a text between quotes stands for, with the rest after the closing quote; nothing is
found if there is none. -/
def readQuoted? : (limit : Nat) → Octets → (done : Octets) → Option (Octets × Octets)
  | 0, _, _ => none
  | limit + 1, text, done =>
      match text with
      | [] => none
      | '\n' :: _ => none
      | '"' :: rest => some (done.reverse, rest)
      | '\\' :: '\n' :: rest => readQuoted? limit rest done
      | '\\' :: c :: rest =>
          let plain (c : Char) : Option (Octets × Octets) :=
            readQuoted? limit rest (c :: done)
          match c with
          | '"' => plain '"'
          | '\\' => plain '\\'
          | 'a' => plain '\x07'
          | 'b' => plain '\x08'
          | 'f' => plain '\x0c'
          | 'n' => plain '\n'
          | 'r' => plain '\r'
          | 't' => plain '\t'
          | 'v' => plain '\x0b'
          | c =>
              let digits := ((c :: rest).take 3).takeWhile fun d => '0' ≤ d && d ≤ '7'
              match Octets.octalValue? digits with
              | some number =>
                  readQuoted? limit ((c :: rest).drop digits.length)
                    (Octets.octet number :: done)
              | none => readQuoted? limit rest (c :: '\\' :: done)
      | c :: rest => readQuoted? limit rest (c :: done)

/-- The pattern up to the closing slash, with the rest; a slash in brackets does not
close it. -/
def readPattern? : (bracket : Bool) → Octets → (done : Octets) → Option (Octets × Octets)
  | _, [], _ => none
  | _, '\n' :: _, _ => none
  | bracket, '\\' :: c :: rest, done =>
      if c = '/' then readPattern? bracket rest ('/' :: done)
      else readPattern? bracket rest (c :: '\\' :: done)
  | bracket, c :: rest, done =>
      if c = '/' && !bracket then some (done.reverse, rest)
      else if c = '[' && !bracket then
        match rest with
        | '^' :: ']' :: rest => readPattern? true rest (']' :: '^' :: '[' :: done)
        | ']' :: rest => readPattern? true rest (']' :: '[' :: done)
        | rest => readPattern? true rest ('[' :: done)
      else if c = ']' && bracket then readPattern? false rest (c :: done)
      else readPattern? bracket rest (c :: done)

/-- The tokens of a program, each with its line. -/
def tokens : (limit : Nat) → (line : Nat) → Octets → (done : List (Token × Nat)) →
    Except Octets (List (Token × Nat))
  | 0, line, _, done => .ok ((.stop, line) :: done).reverse
  | limit + 1, line, text, done =>
      match text with
      | [] => .ok ((.stop, line) :: done).reverse
      | '\\' :: '\n' :: rest => tokens limit (line + 1) rest done
      | '#' :: rest => tokens limit line (rest.dropWhile (· != '\n')) done
      | '"' :: rest =>
          match readQuoted? (rest.length + 1) rest [] with
          | some (octets, after) => tokens limit line after ((.text octets, line) :: done)
          | none =>
              .error ("line ".toList ++ Text.ofNat line ++ ": runaway string constant \"".toList ++
                (rest.takeWhile (· != '\n')).take 10 ++ " ...".toList)
      | c :: rest =>
          if c = ' ' || c = '\t' || c = '\r' then tokens limit line rest done
          else if beginsName c then
            let name := text.takeWhile inName
            let after := text.drop name.length
            let token : Token :=
              if words.any (·.toList == name) then .word name
              else if builtins.any (·.1.toList == name) then .builtin name
              else if after.head? == some '(' then .call name
              else .name name
            tokens limit line after ((token, line) :: done)
          else if c.isDigit || c = '.' && (rest.head?.any Char.isDigit) then
            let digits := Quantity.readDigits Char.isDigit text
            let after := (Quantity.readExponent ['e', 'E'] digits.2.2).2
            let source := text.take (text.length - after.length)
            tokens limit line after ((.number (Value.numberOf source) source, line) :: done)
          else
            let before : Option Token := done.head?.map (·.1)
            if c = '/' && !before.any Token.endsValue then
              match readPattern? false rest [] with
              | some (octets, after) => tokens limit line after ((.pattern octets, line) :: done)
              | none =>
                  .error ("line ".toList ++ Text.ofNat line ++
                    ": runaway regular expression /".toList ++
                    (rest.takeWhile (· != '\n')).take 10 ++ " ...".toList)
            else
              match marks.find? fun mark => mark.toList.isPrefixOf text with
              | some mark =>
                  tokens limit (if c = '\n' then line + 1 else line) (text.drop mark.length)
                    ((.mark mark.toList, line) :: done)
              | none =>
                  .error (Text.ofNat line ++ ": unexpected character '".toList ++ [c, '\''])

/-- A pattern in the notation of extended expressions: a backslash protects a character, also
in brackets, or stands for one that cannot be typed. -/
def plainPattern : (bracket : Bool) → Octets → Octets
  | _, [] => []
  | bracket, '\\' :: c :: rest =>
      let found : Octets :=
        match c with
        | 'n' => ['\n']
        | 't' => ['\t']
        | 'r' => ['\r']
        | 'f' => ['\x0c']
        | 'v' => ['\x0b']
        | 'a' => ['\x07']
        | c => if bracket || c.isAlphanum || c = '/' || c = '"' then [c] else ['\\', c]
      found ++ plainPattern bracket rest
  | bracket, c :: rest =>
      if c = '[' && !bracket then
        match rest with
        | '^' :: ']' :: rest => "[^]".toList ++ plainPattern true rest
        | ']' :: rest => "[]".toList ++ plainPattern true rest
        | rest => '[' :: plainPattern true rest
      else if c = ']' && bracket then c :: plainPattern false rest
      else c :: plainPattern bracket rest

/-- How a fault of a pattern is called. -/
def faultTitle : Regex.Fault → String
  | .openParenthesis => "missing ')'"
  | .closeParenthesis => "missing '('"
  | .badRepetition => "missing operand"
  | .openBracket => "bad class -- [], [^] or ["
  | _ => "syntax error"

/-- The expression of a pattern, or what is wrong with it. -/
def regexOf (pattern : Octets) : Except Octets Regex :=
  match Regex.parse ⟨true, false, true⟩ (plainPattern false pattern) with
  | .ok regex => .ok regex
  | .error fault =>
      .error ("regular expression compile failed (".toList ++ (faultTitle fault).toList ++
        ")\n".toList ++ pattern)

/-- How far a program has been read. -/
structure Cursor where
  /-- The rest. -/
  tokens : List (Token × Nat)
  /-- How many parentheses are open. -/
  parentheses : Nat
  /-- How many braces are open. -/
  braces : Nat
  /-- The functions that are called. -/
  called : List Octets
  /-- How many loops are around. -/
  loops : Nat
  /-- A function is read. -/
  inFunction : Bool
  /-- An action for lines is read. -/
  forLines : Bool

/-- A step of reading. -/
abbrev Reader := StateT Cursor (Except Octets)

namespace Reader

/-- The next token, which is not passed. -/
def peek : Reader Token := do
  return ((← get).tokens.head?.map (·.1)).getD .stop

/-- The line of the next token. -/
def line : Reader Nat := do
  return ((← get).tokens.head?.map (·.2)).getD 1

/-- Complain with the number of the line. -/
def refuse (message : Octets) : Reader α := do
  throw ("line ".toList ++ Text.ofNat (← line) ++ ": ".toList ++ message)

/-- Complain about the next token. -/
def unexpected : Reader α := do
  let token ← peek
  let cursor ← get
  let closes := [Token.mark ['\n'], .mark ['\x7d'], .mark [';'], .stop].contains token
  if token = .mark ['\x7d'] && cursor.braces = 0 then refuse "extra '\x7d'".toList
  else if closes && 0 < cursor.parentheses then
    refuse ("missing ) near ".toList ++ token.title)
  else if token = .stop && 0 < cursor.braces then
    refuse ("missing \x7d near ".toList ++ token.title)
  else refuse ("syntax error at or near ".toList ++ token.title)

/-- Pass the next token. -/
def pass : Reader Unit := do
  let token ← peek
  modify fun cursor =>
    { cursor with
      tokens := cursor.tokens.drop 1
      parentheses :=
        if token = .mark ['('] then cursor.parentheses + 1
        else if token = .mark [')'] then cursor.parentheses - 1 else cursor.parentheses
      braces :=
        if token = .mark ['\x7b'] then cursor.braces + 1
        else if token = .mark ['\x7d'] then cursor.braces - 1 else cursor.braces }

/-- Whether a mark comes next. -/
def sees (mark : String) : Reader Bool := do
  return (← peek) == .mark mark.toList

/-- Whether a word comes next. -/
def seesWord (word : String) : Reader Bool := do
  return (← peek) == .word word.toList

/-- Pass a mark if it comes next; the answer tells whether it did. -/
def accept (mark : String) : Reader Bool := do
  if ← sees mark then
    pass
    return true
  else return false

/-- Pass a word if it comes next; the answer tells whether it did. -/
def acceptWord (word : String) : Reader Bool := do
  if ← seesWord word then
    pass
    return true
  else return false

/-- Pass a mark that must come next. -/
def expect (mark : String) : Reader Unit := do
  if !(← accept mark) then unexpected

/-- Pass ends of lines. -/
def skipLines : Reader Unit := do
  modify fun cursor =>
    { cursor with tokens := cursor.tokens.dropWhile fun token => token.1 == .mark ['\n'] }

/-- Pass a name that must come next. -/
def expectName : Reader Octets := do
  match ← peek with
  | .name name => do
      pass
      return name
  | _ => unexpected

/-- Where an expression stands. -/
structure Place where
  /-- The word for membership ends it. -/
  noIn : Bool
  /-- The sign for more ends it. -/
  noMore : Bool

/-- What is to be read. -/
inductive Goal where
  /-- An expression of a level. -/
  | level (level : Nat)
  /-- What may follow a part of an expression of a level. -/
  | after (level : Nat) (left : Expression)
  /-- Expressions with commas between them, up to a closing mark, after some. -/
  | list (close : String) (done : List Expression)

/-- Whether an expression can be assigned to. -/
def isTarget : Expression → Bool
  | .name _ => true
  | .entry _ _ => true
  | .field _ => true
  | _ => false

/-- The assignments: the mark of each, with the operator. -/
def assignments : List (String × Option Operator) :=
  [("=", none), ("+=", some .add), ("-=", some .sub), ("*=", some .mul), ("/=", some .div),
    ("%=", some .mod), ("^=", some .pow)]

/-- The relations. -/
def relations : List (String × Relation) :=
  [("<", .less), ("<=", .notMore), ("==", .equal), ("!=", .unequal), (">", .more),
    (">=", .notLess)]

/-- Whether a token can begin the right part of two texts one after the other. -/
def beginsOperand : Token → Bool
  | .number _ _ => true
  | .text _ => true
  | .name _ => true
  | .call _ => true
  | .builtin _ => true
  | .mark octets => ["$", "(", "++", "--", "!", "-", "+"].any (·.toList == octets)
  | _ => false

/-- The values of several, or the one. -/
def values : Expression → List Expression
  | .several values => values
  | value => [value]

/-- A text that stands for a pattern, read as one. -/
def fixedPattern : Expression → Reader Expression
  | .literal (.text octets) => do
      match regexOf octets with
      | .error message => refuse message
      | .ok regex => return .pattern regex
  | value => return value

/-- Read what a goal says; the limit bounds the depth. -/
def read : (limit : Nat) → Place → Goal → Reader Expression
  | 0, _, _ => unexpected
  | limit + 1, place, goal => do
      let inside : Place := ⟨false, false⟩
      let whole : Reader Expression := read limit inside (.level 0)
      match goal with
      | .list close done => do
          let value ← whole
          if ← accept "," then
            skipLines
            read limit place (.list close (value :: done))
          else
            expect close
            return .several (value :: done).reverse
      | .level level => do
          match level with
          | 0 => do
              let left ← read limit place (.level 1)
              let token ← peek
              match assignments.find? fun entry => token == .mark entry.1.toList with
              | some (_, operator) =>
                  if isTarget left then
                    pass
                    skipLines
                    return .assign operator left (← read limit place (.level 0))
                  else unexpected
              | none =>
                  if ← accept "?" then
                    skipLines
                    let first ← read limit place (.level 0)
                    skipLines
                    expect ":"
                    skipLines
                    return .choose left first (← read limit place (.level 0))
                  else return left
          | 9 => do
              if ← accept "!" then return .negation (← read limit place (.level 9))
              else if ← accept "-" then return .signed true (← read limit place (.level 9))
              else if ← accept "+" then return .signed false (← read limit place (.level 9))
              else read limit place (.level 10)
          | 10 => do
              let left ← read limit place (.level 11)
              if ← accept "^" then
                return .calculate .pow left (← read limit place (.level 9))
              else return left
          | 11 => do
              for (mark, up) in [("++", true), ("--", false)] do
                if ← accept mark then
                  let target ← read limit place (.level 12)
                  if isTarget target then return .count up true target else unexpected
              let value ← read limit place (.level 12)
              if isTarget value then
                if ← accept "++" then return .count true false value
                else if ← accept "--" then return .count false false value
              return value
          | 12 => do
              match ← peek with
              | .number quantity _ => do
                  pass
                  return .literal (.number quantity)
              | .text octets => do
                  pass
                  return .literal (.text octets)
              | .pattern octets => do
                  match regexOf octets with
                  | .error message => refuse message
                  | .ok regex => do
                      pass
                      return .pattern regex
              | .name name => do
                  pass
                  if ← accept "[" then
                    return .entry name (values (← read limit inside (.list "]" [])))
                  else return .name name
              | .call name => do
                  pass
                  modify fun cursor => { cursor with called := name :: cursor.called }
                  expect "("
                  if ← accept ")" then return .call name []
                  else return .call name (values (← read limit inside (.list ")" [])))
              | .builtin name => do
                  pass
                  let (least, most) : Nat × Nat :=
                    ((builtins.find? (·.1.toList == name)).map (·.2)).getD (0, 0)
                  let arguments : List Expression ←
                    if ← accept "(" then
                      if ← accept ")" then pure []
                      else do pure (values (← read limit inside (.list ")" [])))
                    else if least = 0 then pure []
                    else unexpected
                  if arguments.length < least || most < arguments.length then
                    refuse ("wrong number of arguments in call to ".toList ++ name)
                  return .builtin name arguments
              | .mark ['$'] => do
                  pass
                  let unary := [Token.mark ['-'], .mark ['+'], .mark ['!']].contains (← peek)
                  let steps := [Token.mark ['+', '+'], .mark ['-', '-']].contains (← peek)
                  return .field
                    (← read limit place (.level (if unary then 9 else if steps then 11 else 12)))
              | .mark ['('] => do
                  pass
                  skipLines
                  let value ← whole
                  if ← accept "," then
                    skipLines
                    let several := values (← read limit inside (.list ")" [value]))
                    if ← acceptWord "in" then return .member several (← expectName)
                    else return .several several
                  else
                    skipLines
                    expect ")"
                    match value with
                    | .several _ => return value
                    | value =>
                        if isTarget value then return .several [value] else return value
              | .word word => do
                  if word = "getline".toList then
                    pass
                    let next ← peek
                    let target : Option Expression ←
                      match next with
                      | .name _ => do pure (some (← read limit place (.level 12)))
                      | .mark ['$'] => do pure (some (← read limit place (.level 12)))
                      | _ => pure none
                    if ← accept "<" then
                      return .line .file (some (← read limit place (.level 11))) target
                    else return .line .inputs none target
                  else unexpected
              | _ => unexpected
          | level => do
              let left ← read limit place (.level (level + 1))
              read limit place (.after level left)
      | .after level left => do
          let token ← peek
          let right : Reader Expression := do
            pass
            skipLines
            read limit place (.level (level + 1))
          let onward (value : Expression) : Reader Expression :=
            read limit place (.after level value)
          match level, token with
          | 1, .mark ['|', '|'] => do onward (.either left (← right))
          | 2, .mark ['&', '&'] => do onward (.both left (← right))
          | 3, .word ['i', 'n'] =>
              if place.noIn then return left
              else
                pass
                onward (.member (values left) (← expectName))
          | 4, .mark ['~'] => do onward (.fits left (← fixedPattern (← right)))
          | 4, .mark ['!', '~'] => do
              onward (.negation (.fits left (← fixedPattern (← right))))
          | 5, .mark ['|'] => do
              match (← get).tokens with
              | _ :: (.word word, _) :: _ =>
                  if word = "getline".toList then
                    pass
                    pass
                    let next ← peek
                    let target : Option Expression ←
                      match next with
                      | .name _ => do pure (some (← read limit place (.level 12)))
                      | .mark ['$'] => do pure (some (← read limit place (.level 12)))
                      | _ => pure none
                    onward (.line .command (some left) target)
                  else return left
              | _ => return left
          | 5, .mark octets =>
              match relations.find? (·.1.toList == octets) with
              | some (_, relation) =>
                  if relation = .more && place.noMore then return left
                  else onward (.compare relation left (← right))
              | none => return left
          | 6, token =>
              if beginsOperand token && token != .mark ['!'] && token != .mark ['-'] &&
                  token != .mark ['+'] then
                onward (.join left (← read limit place (.level 7)))
              else return left
          | 7, .mark ['+'] => do onward (.calculate .add left (← right))
          | 7, .mark ['-'] => do onward (.calculate .sub left (← right))
          | 8, .mark ['*'] => do onward (.calculate .mul left (← right))
          | 8, .mark ['/'] => do onward (.calculate .div left (← right))
          | 8, .mark ['%'] => do onward (.calculate .mod left (← right))
          | _, _ => return left

/-- How deep expressions may be nested. -/
def depth : Reader Nat := do
  return 16 * (← get).tokens.length + 16

/-- Read an expression. -/
def expression (place : Place) : Reader Expression := do
  read (← depth) place (.level 0)

/-- An expression that stands alone. -/
def plain : Reader Expression :=
  expression ⟨false, false⟩

/-- Whether a simple statement ends here. -/
def atEnd : Reader Bool := do
  let token ← peek
  return [Token.mark [';'], .mark ['\n'], .mark ['\x7d'], .stop].contains token

/-- Pass the end of a simple statement. -/
def finish : Reader Unit := do
  if ← accept ";" then skipLines
  else if ← sees "\n" then skipLines
  else if !(← sees "\x7d") then unexpected

/-- The expressions after a word that prints, with commas between them. -/
def printed : (limit : Nat) → (done : List Expression) → Reader (List Expression)
  | 0, done => return done.reverse
  | limit + 1, done => do
      let value ← expression ⟨false, true⟩
      if ← accept "," then
        skipLines
        printed limit (value :: done)
      else return (value :: done).reverse

/-- A statement that prints. -/
def printing (formatted : Bool) : Reader Statement := do
  let stops := (← atEnd) || (← sees ">") || (← sees ">>") || (← sees "|")
  let found : List Expression ← if stops then pure [] else printed (← depth) []
  let all : List Expression :=
    match found with
    | [.several several] => several
    | found => found
  let outlet : Option Outlet ←
    if ← accept ">" then pure (some .file)
    else if ← accept ">>" then pure (some .append)
    else if ← accept "|" then pure (some .command)
    else pure none
  match outlet with
  | some outlet => return .print formatted all (some (outlet, ← expression ⟨false, true⟩))
  | none => return .print formatted all none

/-- A word that has a meaning only in a loop. -/
def inLoop (word : Octets) : Reader Unit := do
  if (← get).loops = 0 then refuse (word ++ " statement outside of loop".toList)

/-- A word that has a meaning only in actions for lines. -/
def atLines (word : Octets) : Reader Unit := do
  if !(← get).forLines then refuse ("improper use of ".toList ++ word)

/-- A statement that needs no mark around it. -/
def simple : Reader Statement := do
  match ← peek with
  | .word word => do
      let at_ (name : String) : Bool := word = name.toList
      let optional : Reader (Option Expression) := do
        if ← atEnd then return none else return some (← plain)
      if at_ "print" then
        pass
        printing false
      else if at_ "printf" then
        pass
        printing true
      else if at_ "delete" then
        pass
        let name ← expectName
        if ← accept "[" then
          return .delete name (some (values (← read (← depth) ⟨false, false⟩ (.list "]" []))))
        else return .delete name none
      else if at_ "break" then
        inLoop word
        pass
        return .leave
      else if at_ "continue" then
        inLoop word
        pass
        return .resume
      else if at_ "next" then
        atLines word
        pass
        return .next
      else if at_ "nextfile" then
        atLines word
        pass
        return .nextInput
      else if at_ "exit" then
        pass
        return .exit (← optional)
      else if at_ "return" then
        if !(← get).inFunction then refuse "return outside function body".toList
        pass
        return .back (← optional)
      else return .compute (← plain)
  | _ => return .compute (← plain)

/-- What is to be read of statements. -/
inductive Part where
  /-- A statement. -/
  | one
  /-- Statements up to a closing brace, after some. -/
  | rest (done : List Statement)

/-- Read statements; the limit bounds the depth. -/
def statements : (limit : Nat) → Part → Reader Statement
  | 0, _ => unexpected
  | limit + 1, .rest done => do
      skipLines
      if ← accept "\x7d" then return .block done.reverse
      else
        let statement ← statements limit .one
        statements limit (.rest (statement :: done))
  | limit + 1, .one => do
      let body : Reader Statement := do
        skipLines
        if ← accept ";" then
          skipLines
          return .block []
        else statements limit .one
      let looped : Reader Statement := do
        modify fun cursor => { cursor with loops := cursor.loops + 1 }
        let inner ← body
        modify fun cursor => { cursor with loops := cursor.loops - 1 }
        return inner
      if ← accept "\x7b" then
        let block ← statements limit (.rest [])
        if ← accept ";" then skipLines
        return block
      else if ← accept ";" then
        skipLines
        return .block []
      else if ← acceptWord "if" then
        expect "("
        let condition ← plain
        expect ")"
        let first ← body
        let after := (← get).tokens.dropWhile fun token =>
          token.1 == .mark ['\n'] || token.1 == .mark [';']
        if (after.head?.map (·.1)) == some (.word "else".toList) then
          modify fun cursor => { cursor with tokens := after.drop 1 }
          return .choose condition first (← body)
        else return .choose condition first (.block [])
      else if ← acceptWord "while" then
        expect "("
        let condition ← plain
        expect ")"
        return .during condition (← looped)
      else if ← acceptWord "do" then
        let inner ← looped
        skipLines
        if !(← acceptWord "while") then unexpected
        expect "("
        let condition ← plain
        expect ")"
        if !(← atEnd) then unexpected
        finish
        return .again inner condition
      else if ← acceptWord "for" then
        expect "("
        match (← get).tokens with
        | (.name name, _) :: (.word ['i', 'n'], _) :: (.name table, _) ::
            (.mark [')'], _) :: _ => do
            pass
            pass
            pass
            pass
            return .visit name table (← looped)
        | _ => do
            let first : Statement ← if ← sees ";" then pure (.block []) else simple
            expect ";"
            skipLines
            let condition : Option Expression ←
              if ← sees ";" then pure none else do pure (some (← plain))
            expect ";"
            skipLines
            let step : Statement ← if ← sees ")" then pure (.block []) else simple
            expect ")"
            return .loop first condition step (← looped)
      else
        let statement ← simple
        finish
        return statement

/-- An action between braces. -/
def action : Reader Statement := do
  expect "\x7b"
  statements (2 * (← get).tokens.length + 2) (.rest [])

/-- The parameters of a function up to the closing parenthesis. -/
def parameters : (limit : Nat) → (done : List Octets) → Reader (List Octets)
  | 0, done => return done.reverse
  | limit + 1, done => do
      let name ← expectName
      if ← accept "," then
        skipLines
        parameters limit (name :: done)
      else
        expect ")"
        return (name :: done).reverse

/-- A function, after its word. -/
def function : Reader Function := do
  let name : Octets ←
    match ← peek with
    | .call name => do
        pass
        pure name
    | _ => expectName
  expect "("
  let names ← if ← accept ")" then pure [] else parameters (← get).tokens.length []
  skipLines
  modify fun cursor => { cursor with inFunction := true, forLines := false }
  let body ← action
  modify fun cursor => { cursor with inFunction := false }
  return ⟨name, names, body⟩

/-- A rule. -/
def rule : Reader Rule := do
  let begins := (← seesWord "BEGIN") || (← seesWord "END")
  modify fun cursor => { cursor with forLines := !begins }
  if ← acceptWord "BEGIN" then return ⟨.first, ← action⟩
  else if ← acceptWord "END" then return ⟨.last, ← action⟩
  else if ← sees "\x7b" then return ⟨.always, ← action⟩
  else
    let condition ← plain
    let occasion : Occasion ←
      if ← accept "," then do
        skipLines
        pure (.range condition (← plain))
      else pure (.condition condition)
    if ← sees "\x7b" then return ⟨occasion, ← action⟩
    else if ← atEnd then return ⟨occasion, .print false [] none⟩
    else unexpected

/-- All rules and functions, after some. -/
def items : (limit : Nat) → (done : Rules) → Reader Rules
  | 0, done => return done
  | limit + 1, done => do
      skipLines
      if (← peek) = .stop then return ⟨done.rules.reverse, done.functions.reverse⟩
      let isFunction ← acceptWord "function"
      let found : Rules ←
        if isFunction then do
          let found ← function
          pure { done with functions := found :: done.functions }
        else do
          let found ← rule
          pure { done with rules := found :: done.rules }
      let _ ← accept ";"
      items limit found

/-- A whole program. -/
def program : Reader Rules := do
  let found ← items ((← get).tokens.length + 1) ⟨[], []⟩
  match (← get).called.find? fun name => !found.functions.any (·.name == name) with
  | some name => refuse ("function ".toList ++ name ++ " never defined".toList)
  | none => return found

end Reader

/-- Read a program, or tell what is wrong with it. -/
def readRules (text : Octets) : Except Octets Rules := do
  let text := text ++ ['\n']
  let found ← tokens (text.length + 1) 1 text []
  Reader.program.run' ⟨found, 0, 0, [], 0, false, false⟩

end Awk
end Utility
end Host
end Turnwise
