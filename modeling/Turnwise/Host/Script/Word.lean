import Turnwise.Host.Script.Reader

/-!
# Reading words

A word is read part by part.  What a character means depends on where it stands:
outside quotes, inside them, inside the braces of a parameter, in a document or in an
arithmetic expression.
-/

namespace Turnwise
namespace Host
namespace Script

/-- Where a part of a word stands. -/
inductive Context where
  /-- Outside quotes. -/
  | word
  /-- In the word that ends a document, where nothing is expanded. -/
  | delimiter
  /-- In the braces of a parameter outside quotes. -/
  | operand
  /-- Inside double quotes. -/
  | quotes
  /-- In the braces of a parameter inside double quotes, or in a document. -/
  | quotedOperand (inDocument : Bool)
  /-- Between double quotes in such braces. -/
  | innerQuotes (inDocument : Bool)
  /-- In an arithmetic expression. -/
  | arithmetic
  /-- In a document that ends with a certain line. -/
  | document (delimiter : Octets) (stripsTabs : Bool)
  /-- In the text of a pattern or an index, up to a character. -/
  | upTo (closing : Char) (quoted : Bool)
  deriving DecidableEq, Repr

namespace Context

/-- Whether what stands here is quoted. -/
def quoted : Context → Bool
  | .word => false
  | .delimiter => false
  | .operand => false
  | .upTo _ quoted => quoted
  | _ => true

/-- Whether double quotes and single quotes can be opened here. -/
def opensQuotes : Context → Bool
  | .word => true
  | .delimiter => true
  | .operand => true
  | .upTo _ quoted => !quoted
  | _ => false

/-- Whether this stands inside braces that a quoted closing brace does not close. -/
def inBraces : Context → Bool
  | .quotedOperand _ => true
  | .innerQuotes _ => true
  | _ => false

/-- Whether this is a document. -/
def inDocument : Context → Bool
  | .document _ _ => true
  | .quotedOperand inDocument => inDocument
  | .innerQuotes inDocument => inDocument
  | _ => false

/-- The characters that end a word. -/
def endsWord (c : Char) : Bool :=
  " \t\n;&|<>()".toList.contains c

/-- Whether a character stands for itself here. -/
def isOrdinary (context : Context) (c : Char) : Bool :=
  if c == '\\' || c == '$' || c == '\x60' then false
  else
    match context with
    | .word => !(endsWord c || c == '\'' || c == '"')
    | .delimiter => !(endsWord c || c == '\'' || c == '"')
    | .operand => !(c == '\'' || c == '"' || c == '\x7d')
    | .quotes => c != '"'
    | .quotedOperand _ => !(c == '"' || c == '\x7d')
    | .innerQuotes _ => c != '"'
    | .arithmetic => !(c == '(' || c == ')')
    | .document _ _ => c != '\n'
    | .upTo closing quoted => !(c == closing || (!quoted && (c == '\'' || c == '"')))

/-- Whether a backslash takes away the meaning of a character inside quotes. -/
def isEscapable (context : Context) (c : Char) : Bool :=
  c == '\\' || c == '\x60' || c == '$' ||
    (c == '"' && !(context matches .document _ _)) || (c == '\x7d' && context.inBraces)

/-- What is missing when the script ends here: what closes it, and the complaint of a plain
shell. -/
def missing? : Context → Option (Char × Octets)
  | .word => none
  | .delimiter => none
  | .document _ _ => none
  | .operand => some ('\x7d', "Missing '\x7d'".toList)
  | .quotes => some ('"', "Unterminated quoted string".toList)
  | .quotedOperand inDocument =>
      some ('\x7d', if inDocument then "Missing '\x7d'".toList
        else "Unterminated quoted string".toList)
  | .innerQuotes inDocument =>
      some ('"', if inDocument then "Missing '\x7d'".toList
        else "Unterminated quoted string".toList)
  | .arithmetic => some (')', "Missing '))'".toList)
  | .upTo _ _ => some ('\x7d', "Missing '\x7d'".toList)

/-- Where the operand of a parameter stands. -/
def operandContext (context : Context) : Context :=
  if context.quoted then .quotedOperand context.inDocument else .operand

end Context

/-- How the commands of a command substitution are read: up to a closing parenthesis,
or up to the end of the text. -/
abbrev Nested := (closed : Bool) → Parser Command

namespace Parser

/-- Whether the next line ends a document; it is passed then. -/
def atDelimiter (delimiter : Octets) (stripsTabs : Bool) : Parser Bool := do
  let reader ← get
  let line := if stripsTabs then reader.rest.dropWhile (· == '\t') else reader.rest
  match Text.after? delimiter line with
  | some ('\n' :: rest) =>
      set { reader with rest := rest, line := reader.line + 1 }
      return true
  | some [] =>
      if !reader.whole then throw .incomplete
      set { reader with rest := [], line := reader.line + 1 }
      return true
  | _ =>
      if !reader.whole && !line.contains '\n' then throw .incomplete
      set { reader with rest := line }
      return false

/-- Read what stands between single quotes, after the first. -/
def singleQuoted : Parser Part := do
  let text ← run (· != '\'')
  match ← peek with
  | none => unclosed '\'' "Unterminated quoted string".toList
  | some _ =>
      advance
      return .literal text true

/-- The character that an escape with one letter stands for. -/
def escapeLetter? : Char → Option Char
  | 'a' => some '\x07'
  | 'b' => some '\x08'
  | 'e' => some '\x1b'
  | 'E' => some '\x1b'
  | 'f' => some '\x0c'
  | 'n' => some '\n'
  | 'r' => some '\r'
  | 't' => some '\t'
  | 'v' => some '\x0b'
  | '\\' => some '\\'
  | '\'' => some '\''
  | '"' => some '"'
  | '?' => some '?'
  | _ => none

/-- Replace the escapes in a text between quotes that begin with a dollar sign; the
count bounds their number. -/
def unescape : (limit : Nat) → Octets → Octets
  | 0, text => text
  | _ + 1, [] => []
  | limit + 1, '\\' :: 'x' :: rest =>
      let digits := (rest.take 2).takeWhile fun c => (Octets.hexValue? c).isSome
      let value := digits.foldl (fun value c => value * 16 + (Octets.hexValue? c).getD 0) 0
      Octets.octet value :: unescape limit (rest.drop digits.length)
  | limit + 1, '\\' :: c :: rest =>
      let digits := ((c :: rest).take 3).takeWhile fun c => '0' ≤ c && c ≤ '7'
      match escapeLetter? c with
      | some replaced => replaced :: unescape limit rest
      | none =>
          if digits.isEmpty then '\\' :: c :: unescape limit rest
          else
            Octets.octet (Nat.ofDigitChars 8 digits 0) ::
              unescape limit ((c :: rest).drop digits.length)
  | limit + 1, c :: rest => c :: unescape limit rest

/-- The text up to a single quote before which no backslash stands. -/
def upToQuote : Octets → (reversed : Octets) → Option (Octets × Octets)
  | [], _ => none
  | '\'' :: rest, reversed => some (reversed.reverse, rest)
  | '\\' :: c :: rest, reversed => upToQuote rest (c :: '\\' :: reversed)
  | c :: rest, reversed => upToQuote rest (c :: reversed)

/-- Read what stands between quotes that begin with a dollar sign, after the first. -/
def escapedQuoted : Parser Part := do
  match upToQuote (← get).rest [] with
  | none =>
      if (← get).whole then unclosed '\'' "Unterminated quoted string".toList
      else throw .incomplete
  | some (text, rest) =>
      modify fun reader =>
        { reader with rest := rest, line := reader.line + text.count '\n' }
      return .literal (unescape text.length text) true

/-- What stands between backquotes, with the backslashes that protect it taken away. -/
def backquotedText (quoted : Bool) : Octets → (reversed : Octets) → Option (Octets × Octets)
  | [], _ => none
  | '\x60' :: rest, reversed => some (reversed.reverse, rest)
  | '\\' :: '\n' :: rest, reversed => backquotedText quoted rest reversed
  | '\\' :: c :: rest, reversed =>
      if c == '\\' || c == '\x60' || c == '$' || (quoted && c == '"') then
        backquotedText quoted rest (c :: reversed)
      else backquotedText quoted rest (c :: '\\' :: reversed)
  | c :: rest, reversed => backquotedText quoted rest (c :: reversed)

/-- Read a command between backquotes, after the first. -/
def backquoted (nested : Nested) (quoted : Bool) : Parser Part := do
  let outer ← get
  match backquotedText quoted outer.rest [] with
  | none =>
      if outer.whole then
        countLines outer.rest
        unclosed '\x60' "EOF in backquote substitution".toList
      else throw .incomplete
  | some (text, rest) =>
      set { outer with
        rest := text, whole := true, line := 1, pushed := none, waiting := [],
        engaged := [], inviting := none, enclosing := none, limit := text.length + 16 }
      let body ← nested false
      let passed := outer.rest.length - rest.length
      modify fun inner =>
        { outer with
          rest := rest
          line := outer.line + (outer.rest.take passed).count '\n'
          found := inner.found
          fresh := inner.fresh
          deepest := inner.deepest }
      return .command body quoted

/-- Read a name. -/
def name : Parser Octets :=
  run isNameChar

/-- Read a run of digits. -/
def digits : Parser Octets :=
  run Char.isDigit

/-- The kind of fallback that a character stands for. -/
def fallback? : Char → Option Fallback
  | '-' => some .use
  | '=' => some .assign
  | '?' => some .complain
  | '+' => some .alternative
  | _ => none

/-- Read the operator after the name of a parameter in braces, up to the closing
brace. -/
def parameterUse (inner : Context → Parser Word) (context : Context) : Parser Use := do
  let operand := inner context.operandContext
  let rich := (← get).dialect = .rich
  let trim (atEnd : Bool) (mark : Char) : Parser Use := do
    advance
    let longest ← accept mark
    return .trim atEnd longest (← inner .operand)
  match ← peekJoined with
  | none => do
      let _ ← operand
      return .malformed
  | some '\x7d' => do
      advance
      return .plain
  | some '#' => trim false '#'
  | some '%' => trim true '%'
  | some ':' => do
      advance
      match ← peekJoined with
      | some c =>
          match fallback? c with
          | some kind => do
              advance
              return .fallback kind true (← operand)
          | none =>
              if rich && c != '\x7d' then
                let start ← inner (.upTo ':' false)
                slicing operand start
              else do
                advance
                let _ ← operand
                return if c = '\x7d' then .plain else .malformed
      | none => do
          let _ ← operand
          return .malformed
  | some c =>
      match fallback? c with
      | some kind => do
          advance
          return .fallback kind false (← operand)
      | none => if rich then richUse c operand else malformed operand
where
  /-- Read on to the closing brace of something that makes no sense. -/
  malformed (operand : Parser Word) : Parser Use := do
    advance
    let _ ← operand
    return .malformed
  /-- Read the second number of a slice, if there is one; the first was read up to the
  colon or to the end. -/
  slicing (operand : Parser Word) (start : Word) : Parser Use := do
    if ← accept ':' then return .slice start (some (← operand))
    else do
      let _ ← operand
      return .slice start none
  /-- Read an operator of the rich dialect. -/
  richUse (c : Char) (operand : Parser Word) : Parser Use := do
    match c with
    | '/' => do
        advance
        let extent ← do
          if ← accept '/' then pure Extent.all
          else if ← accept '#' then pure Extent.atStart
          else if ← accept '%' then pure Extent.atEnd
          else pure Extent.first
        let pattern ← inner (.upTo '/' false)
        if ← accept '/' then return .replace extent pattern (← operand)
        else do
          let _ ← operand
          return .replace extent pattern []
    | '^' => do
        advance
        let all ← accept '^'
        let _ ← operand
        return .recase true all
    | ',' => do
        advance
        let all ← accept ','
        let _ ← operand
        return .recase false all
    | _ => malformed operand

/-- Read the index of an item in brackets, if there is one. -/
def itemIndex (inner : Context → Parser Word) : Parser (Option Word) := do
  if (← get).dialect = .rich && (← peek) = some '[' then
    advance
    let index ← inner (.upTo ']' false)
    let _ ← accept ']'
    return some index
  else return none

/-- Read a parameter in braces, after the first brace. -/
def braced (inner : Context → Parser Word) (context : Context) : Parser Part := do
  let quoted := context.quoted
  let finishing (name : Octets) : Parser Part := do
    let item ← itemIndex inner
    return .parameter name item (← parameterUse inner context) quoted
  let malformed : Parser Part := do
    let _ ← inner context.operandContext
    return .parameter [] none .malformed quoted
  let ofLength (name : Octets) : Parser Part := do
    let item ← itemIndex inner
    if ← accept '\x7d' then return .parameter name item .length quoted else malformed
  match ← peekJoined with
  | none => malformed
  | some '#' => do
      advance
      match ← peekJoined with
      | some c =>
          if isNameStart c then ofLength (← name)
          else if c.isDigit then ofLength (← digits)
          else if c = '\x7d' then finishing ['#']
          else
            let reader ← get
            match reader.rest with
            | _ :: '\x7d' :: _ =>
                if isSpecial c then do
                  advance
                  ofLength [c]
                else if reader.dialect = .plain then malformed
                else finishing ['#']
            | _ => finishing ['#']
      | none => malformed
  | some '!' =>
      let reader ← get
      match reader.dialect, reader.rest with
      | .rich, _ :: c :: _ =>
          if isNameStart c then do
            advance
            let found ← name
            let item ← itemIndex inner
            let _ ← accept '\x7d'
            return .parameter found item (if item.isSome then .keys else .indirect) quoted
          else do
            advance
            finishing ['!']
      | _, _ => do
          advance
          finishing ['!']
  | some c =>
      if isNameStart c then do finishing (← name)
      else if c.isDigit then do finishing (← digits)
      else if isSpecial c then do
        advance
        finishing [c]
      else do
        if c != '\x7d' then advance
        malformed

/-- Read an expansion, after its dollar sign. -/
def expansion
    (nested : Nested)
    (inner : Context → Parser Word)
    (context : Context) : Parser (List Part) := do
  let quoted := context.quoted
  match ← peekJoined with
  | none => return [.literal ['$'] quoted]
  | some '(' => do
      advance
      if ← accept '(' then return [.arithmetic (← inner .arithmetic) quoted]
      else do
        let outer ← get
        set { outer with pushed := none, waiting := [], enclosing := none }
        let body ← nested true
        modify fun reader =>
          { reader with pushed := none, waiting := outer.waiting, enclosing := outer.enclosing }
        return [.command body quoted]
  | some '\x7b' => do
      advance
      return [← braced inner context]
  | some c =>
      if isNameStart c then return [.parameter (← name) none .plain quoted]
      else if isSpecial c then do
        advance
        return [.parameter [c] none .plain quoted]
      else if (← get).dialect = .rich && context.opensQuotes && c = '\'' then do
        advance
        return [← escapedQuoted]
      else if (← get).dialect = .rich && context.opensQuotes && c = '"' then return []
      else return [.literal ['$'] quoted]

/-- What one step of reading a word gives. -/
inductive Step where
  /-- Some parts in reverse, and how deep parentheses are nested now. -/
  | more (parts : List Part) (level : Nat)
  /-- The last parts in reverse. -/
  | last (parts : List Part)

/-- The parts between double quotes, in reverse.  They count as something even if they are
empty, unless they are nothing but all arguments. -/
def anchored : Word → List Part
  | [.parameter ['@'] none .plain true] => [.parameter ['@'] none .plain true]
  | parts => parts.reverse ++ [.literal [] true]

/-- Read one or a few parts of a word. -/
def step
    (nested : Nested)
    (inner : Context → Parser Word)
    (context : Context)
    (level : Nat) : Parser Step := do
  let quoted := context.quoted
  let plain (c : Char) : Parser Step := do
    advance
    countLines [c]
    return .more [.literal [c] quoted] level
  match ← peekJoined with
  | none =>
      match context.missing? with
      | some (closing, message) => unclosed closing message
      | none => return .last []
  | some '\\' => do
      advance
      match ← peek with
      | none => return .more [.literal ['\\'] true] level
      | some c => do
          advance
          if !quoted || context.isEscapable c then return .more [.literal [c] true] level
          else return .more [.literal ['\\', c] true] level
  | some '$' =>
      if context = .delimiter then plain '$'
      else do
        advance
        return .more (← expansion nested inner context) level
  | some '\x60' =>
      if context = .delimiter then plain '\x60'
      else do
        advance
        return .more [← backquoted nested quoted] level
  | some '"' =>
      match context with
      | .quotes => do
          advance
          return .last []
      | .innerQuotes _ => do
          advance
          return .last []
      | .quotedOperand inDocument => do
          advance
          return .more (anchored (← inner (.innerQuotes inDocument))) level
      | .operand => do
          advance
          let inside : Context :=
            if (← get).dialect = .plain then .innerQuotes false else .quotes
          return .more (anchored (← inner inside)) level
      | context =>
          if context.opensQuotes then do
            advance
            return .more (anchored (← inner .quotes)) level
          else plain '"'
  | some '\'' =>
      if context.opensQuotes then do
        advance
        return .more [← singleQuoted] level
      else plain '\''
  | some '\x7d' =>
      match context with
      | .operand => do
          advance
          return .last []
      | .quotedOperand _ => do
          advance
          return .last []
      | .upTo _ _ => return .last []
      | _ => plain '\x7d'
  | some '(' =>
      if context = .arithmetic then do
        advance
        return .more [.literal ['('] quoted] (level + 1)
      else if context = .word || context = .delimiter then return .last []
      else plain '('
  | some ')' =>
      if context = .arithmetic then do
        advance
        if 0 < level then return .more [.literal [')'] quoted] (level - 1)
        else if ← accept ')' then return .last []
        else return .more [.literal [')'] quoted] level
      else if context = .word || context = .delimiter then return .last []
      else plain ')'
  | some '\n' =>
      match context with
      | .document delimiter stripsTabs => do
          advance
          countLines ['\n']
          if ← atDelimiter delimiter stripsTabs then return .last [.literal ['\n'] true]
          else return .more [.literal ['\n'] true] level
      | context =>
          match context.isOrdinary '\n', (← get).enclosing with
          | false, _ => return .last []
          | true, none => plain '\n'
          | true, some document => do
              let found ← plain '\n'
              if ← atDelimiter document.delimiter document.stripsTabs then
                match context.missing? with
                | some (closing, message) => unclosed closing message
                | none => return found
              else return found
  | some c =>
      if context.isOrdinary c then
        let enclosed := (← get).enclosing.isSome
        let test (c : Char) : Bool := context.isOrdinary c && !(enclosed && c == '\n')
        return .more [.literal (← run test) quoted] level
      else return .last []

/-- Read the parts of a word up to its end, given those before it in reverse. -/
def parts (nested : Nested) :
    (limit : Nat) → Context → (level : Nat) → (reversed : Word) → Parser Word
  | 0, _, _, _ => fail "too long".toList
  | limit + 1, context, level, reversed => do
      let inner (context : Context) : Parser Word := parts nested limit context 0 []
      match ← step nested inner context level with
      | .more found level => parts nested limit context level (found ++ reversed)
      | .last found => return assemble (found ++ reversed)

/-- Read a word, as far as it goes. -/
def word (nested : Nested) (context : Context) : Parser Word := do
  parts nested (← get).limit context 0 []

/-- The lines of a document in which nothing is expanded. -/
def literalDocument (delimiter : Octets) (stripsTabs : Bool) : Parser Octets :=
  repeating [] fun (reversed : List Octets) => do
    if ← atDelimiter delimiter stripsTabs then
      return .inr reversed.reverse.flatten
    else
      let line ← run (· != '\n')
      match ← peek with
      | none => return .inr (line :: reversed).reverse.flatten
      | some _ => do
          advance
          countLines ['\n']
          return .inl ((line ++ ['\n']) :: reversed)

/-- Read the text of a document. -/
def documentText (nested : Nested) (document : Document) : Parser Word := do
  if document.expands then
    if ← atDelimiter document.delimiter document.stripsTabs then return []
    else
      let outer ← get
      if outer.dialect = .plain then set { outer with enclosing := some document }
      let text ← word nested (.document document.delimiter document.stripsTabs)
      modify fun reader => { reader with enclosing := outer.enclosing }
      return text
  else
    return [.literal (← literalDocument document.delimiter document.stripsTabs) true]

/-- Read the texts of all documents that wait for it. -/
def documents (nested : Nested) : Parser Unit := do
  let waiting := (← get).waiting
  modify fun reader => { reader with waiting := [] }
  let level := (← get).nesting
  for document in waiting do
    modify fun reader =>
      { reader with nesting := level + 1, deepest := max reader.deepest (level + 1) }
    let text ← documentText nested document
    modify fun reader =>
      { reader with nesting := level, found := (document.number, text) :: reader.found }

end Parser
end Script
end Host
end Turnwise
