import Turnwise.Host.Script.Word

/-!
# Reading commands

The commands of a script are read one after the other, each up to the end of its line,
so that a command can run before the next one is read.  A document that a command
mentions stands after its line; a first reading finds the documents, and a second one
puts them where they belong.
-/

namespace Turnwise
namespace Host
namespace Script

/-- Which words have a meaning of their own where a token is read. -/
structure Expectation where
  /-- Newlines are passed over. -/
  skipsNewlines : Bool
  /-- Keywords are recognised. -/
  keywords : Bool
  /-- Words that stand for other texts are replaced. -/
  aliases : Bool

namespace Expectation

/-- Any token. -/
def any : Expectation := ⟨false, false, false⟩

/-- The beginning of a command. -/
def command : Expectation := ⟨false, true, true⟩

/-- The beginning of a command that may stand on a later line. -/
def laterCommand : Expectation := ⟨true, true, true⟩

end Expectation

/-- The words that have a meaning of their own at the beginning of a command. -/
def keywords : List Octets :=
  ["!", "case", "do", "done", "elif", "else", "esac", "fi", "for", "if", "in", "then", "until",
    "while", "\x7b", "\x7d"].map String.toList

/-- Such words of the rich dialect. -/
def richKeywords : List Octets :=
  ["function", "[[", "]]", "time", "select"].map String.toList

/-- The commands that have a special place among the builtin ones; no function can have
the name of one. -/
def specialNames : List Octets :=
  [".", ":", "break", "continue", "eval", "exec", "exit", "export", "local", "readonly",
    "return", "set", "shift", "times", "trap", "unset"].map String.toList

/-- How a list of commands ends. -/
inductive Listing where
  /-- With its line. -/
  | line
  /-- With a keyword or an operator, after at least one command. -/
  | body
  /-- With a keyword or an operator. -/
  | optional
  deriving DecidableEq, Repr

/-- What can be read on its own. -/
inductive Entry where
  /-- A list of commands. -/
  | list (listing : Listing)
  /-- A command. -/
  | command

/-- How something is read that may contain what is being read. -/
abbrev Recursion := Entry → Parser (Option Command)

namespace Parser

/-- Read commands up to a closing parenthesis or the end of the text. -/
def listOf (self : Recursion) (listing : Listing) : Parser Command := do
  return (← self (.list listing)).getD .nothing

/-- Keep a token for the next time that one is read. -/
def pushBack (token : Token) : Parser Unit :=
  modify fun reader => { reader with pushed := some token }

/-- Read the operator of a redirection, after its first character. -/
def redirectSymbol (first : Char) : Parser RedirectSymbol := do
  if first = '>' then
    if ← accept '>' then return .file .append
    else if ← accept '|' then return .file .clobber
    else if ← accept '&' then return .copy false
    else return .file .output
  else if ← accept '<' then
    if ← acceptRich '<' then return .text
    else return .document (← accept '-')
  else if ← accept '&' then return .copy true
  else if ← accept '>' then return .file .update
  else return .file .input

/-- Whether something in a word is quoted. -/
def hasQuotes (word : Word) : Bool :=
  word.any fun part => part matches .literal _ true

/-- The descriptor that a text before a redirection names. -/
def descriptor? : Word → Option (Option Nat)
  | [] => some none
  | [.literal [c] false] => if c.isDigit then some (some (c.toNat - 48)) else none
  | _ => none

/-- Read a word, or a redirection that it is the beginning of. -/
def wordToken (nested : Nested) : Parser Token := do
  let found ← word nested .word
  match ← peekJoined, descriptor? found with
  | some c, some descriptor =>
      if c = '<' || c = '>' then do
        advance
        return .redirect descriptor (← redirectSymbol c)
      else return .word found (hasQuotes found)
  | _, _ => return .word found (hasQuotes found)

/-- Read an operator that may have a second character. -/
def twofold (first second : Char) : Parser Token := do
  if ← accept second then return .operator [first, second] else return .operator [first]

/-- Read the next token from the text. -/
def scan (nested : Nested) : Parser Token :=
  repeating () fun _ => do
    modify fun reader => { reader with mark := reader.rest, markLine := reader.line }
    match ← peekJoined with
    | none => return .inr .finish
    | some '\n' => do
        advance
        countLines ['\n']
        return .inr (.operator ['\n'])
    | some '#' => do
        let _ ← run (· != '\n')
        return .inl ()
    | some '&' => do
        advance
        if ← acceptRich '>' then return .inr (.redirect none (.both (← accept '>')))
        else return .inr (← twofold '&' '&')
    | some '|' => do
        advance
        if ← acceptRich '&' then return .inr (.operator ['|', '&'])
        else return .inr (← twofold '|' '|')
    | some ';' => do
        advance
        let token ← twofold ';' ';'
        if ← acceptRich '&' then
          return .inr (.operator (if token matches .operator [';'] then [';', '&']
            else [';', ';', '&']))
        else return .inr token
    | some '(' => do
        advance
        return .inr (.operator ['('])
    | some ')' => do
        advance
        return .inr (.operator [')'])
    | some c =>
        if Octets.isBlank c then do
          let _ ← run Octets.isBlank
          return .inl ()
        else return .inr (← wordToken nested)

/-- The next token: the one that was pushed back, or one from the text. -/
def nextToken (nested : Nested) : Parser Token := do
  match (← get).pushed with
  | some token => do
      modify fun reader => { reader with pushed := none }
      return token
  | none => scan nested

/-- Pass newlines, and read the documents after them. -/
def skipNewlines (nested : Nested) (first : Token) : Parser Token :=
  repeating first fun token => do
    match token with
    | .operator ['\n'] => do
        documents nested
        return .inl (← scan nested)
    | token => return .inr token

/-- The text that a word stands for here. -/
def alias? (reader : Reader) (name : Octets) : Option Octets :=
  let busy := reader.engaged.any fun entry =>
    entry.1 == name && entry.2 < reader.rest.length + 1
  if busy then none else (reader.aliases.find? (·.1 == name)).map (·.2)

/-- Whether the last token follows a text that invites the word after it to stand for
another text; that is so only once. -/
def isInvited : Parser Bool := do
  let reader ← get
  match reader.inviting with
  | some length =>
      if reader.mark.length ≤ length then do
        set { reader with inviting := none }
        return true
      else return false
  | none => return false

/-- Read a token, with the words that have a meaning of their own recognised. -/
def token (nested : Nested) (expectation : Expectation) : Parser Token := do
  let limit := (← get).aliases.length + 1
  iterate (fun _ => do
    let first ← nextToken nested
    let found ← if expectation.skipsNewlines then skipNewlines nested first else pure first
    let invited ← isInvited
    let reader ← get
    match found with
    | .word word false =>
        match bare? word with
        | none => return .inr found
        | some name =>
            if expectation.keywords && (keywords.contains name ||
                (reader.dialect = .rich && richKeywords.contains name)) then
              return .inr (.keyword name)
            else
              match if expectation.aliases || invited then alias? reader name else none with
              | some text => do
                  set { reader with
                    inviting :=
                      if (text.getLast?).any Octets.isBlank then some reader.rest.length
                      else reader.inviting
                    rest := text ++ reader.rest
                    limit := reader.limit + text.length
                    engaged := (name, reader.rest.length) :: reader.engaged }
                  return .inl ()
              | none => return .inr found
    | found => return .inr found) (limit + 64) ()

/-- Whether a token is a given operator. -/
def isOperator (symbol : String) : Token → Bool
  | .operator found => found == symbol.toList
  | _ => false

/-- Whether a token is a given keyword. -/
def isKeyword (name : String) : Token → Bool
  | .keyword found => found == name.toList
  | _ => false

/-- Whether a token ends a list of commands. -/
def endsList : Token → Bool
  | .finish => true
  | .operator symbol =>
      [")", ";;", ";&", ";;&"].contains (String.ofList symbol)
  | .keyword keyword =>
      ["do", "done", "elif", "else", "esac", "fi", "then", "\x7d"].contains
        (String.ofList keyword)
  | _ => false

/-- Pass a keyword. -/
def expectKeyword (nested : Nested) (name : String) : Parser Unit := do
  let found ← token nested .command
  if !isKeyword name found then expected found ('"' :: name.toList ++ ['"'])

/-- Note a document, whose text follows on the next line. -/
def noteDocument (delimiter : Word) (stripsTabs : Bool) : Parser Word := do
  let reader ← get
  let document : Document :=
    ⟨reader.fresh, plainText delimiter, stripsTabs, !hasQuotes delimiter⟩
  set { reader with
    waiting := reader.waiting ++ [document], fresh := reader.fresh + 1 }
  return ((reader.known.find? (·.1 == document.number)).map (·.2)).getD []

/-- Read the target of a redirection. -/
def redirectTarget (nested : Nested) (descriptor : Option Nat) (symbol : RedirectSymbol) :
    Parser Redirect := do
  match symbol with
  | .document stripsTabs => do
      let delimiter ← target .delimiter
      return .document (descriptor.getD 0) (← noteDocument delimiter stripsTabs)
  | .file direction =>
      let standard := if direction = .input || direction = .update then 0 else 1
      return .file (descriptor.getD standard) direction (← target .word)
  | .copy reads =>
      return .copy (descriptor.getD (if reads then 0 else 1)) reads (← target .word)
  | .text => do
      let text ← target .word
      return .document (descriptor.getD 0) (text ++ [.literal ['\n'] true])
  | .both appends => return .both appends (← target .word)
where
  /-- Read the word after the operator. -/
  target (context : Context) : Parser Word := do
    let _ ← run Octets.isBlank
    let found ←
      if context = .delimiter then do
        let text ← word nested .delimiter
        if text.isEmpty then nextToken nested else pure (.word text (hasQuotes text))
      else nextToken nested
    let reader ← get
    match found with
    | .word word _ => return word
    | .finish =>
        if reader.dialect = .rich then unexpected (.operator ['\n']) else unexpected .finish
    | other => unexpected other

/-- Read the redirections that follow a command. -/
def redirects (nested : Nested) : Parser (List Redirect) :=
  repeating [] fun (reversed : List Redirect) => do
    match ← token nested .command with
    | .redirect descriptor symbol =>
        return .inl ((← redirectTarget nested descriptor symbol) :: reversed)
    | other => do
        pushBack other
        return .inr reversed.reverse

/-- The name, the item and the value of an assignment that a word is. -/
def assignment? (rich : Bool) : Word → Option (Octets × Option Word × Bool × Word)
  | .literal text false :: rest =>
      let name := text.takeWhile isNameChar
      if !isName name then none
      else
        match text.drop name.length with
        | '=' :: value => some (name, none, false, valueWord value rest)
        | '+' :: '=' :: value =>
            if rich then some (name, none, true, valueWord value rest) else none
        | '[' :: index =>
            if !rich then none
            else
              match Text.cutAt? [']', '='] index with
              | some (inside, value) =>
                  some (name, some [.literal inside false], false, valueWord value rest)
              | none =>
                  match Text.cutAt? [']', '+', '='] index with
                  | some (inside, value) =>
                      some (name, some [.literal inside false], true, valueWord value rest)
                  | none => indexed name index rest
        | _ => none
  | _ => none
where
  /-- The value of an assignment. -/
  valueWord (value : Octets) (rest : Word) : Word :=
    if value.isEmpty then rest else .literal value false :: rest
  /-- An assignment whose index holds one expansion. -/
  indexed (name index : Octets) : Word → Option (Octets × Option Word × Bool × Word)
    | part :: .literal (']' :: '=' :: value) false :: rest =>
        some (name, some (valueWord index [part]), false, valueWord value rest)
    | _ => none

/-- Read the values of a list, up to the closing parenthesis. -/
def listValues (nested : Nested) : Parser (List Word) :=
  repeating [] fun (reversed : List Word) => do
    match ← token nested ⟨true, false, false⟩ with
    | .word word _ => return .inl (word :: reversed)
    | .operator [')'] => return .inr reversed.reverse
    | other => unexpected other

/-- What of a simple command has been read, each kind in reverse. -/
structure SimpleParts where
  /-- The assignments. -/
  assignments : List Assignment
  /-- The words. -/
  words : List Word
  /-- The redirections. -/
  redirects : List Redirect

/-- Builtin commands that take assignments as arguments in the rich dialect. -/
def takesAssignments (words : List Word) : Bool :=
  match words.getLast?.bind bare? with
  | some name =>
      ["declare", "local", "export", "readonly", "typeset"].contains (String.ofList name)
  | none => false

/-- Read a simple command, or the definition of a function. -/
def simple (self : Recursion) (nested : Nested) : Parser Command := do
  let line := (← get).line
  let finish (parts : SimpleParts) : Command :=
    .simple line parts.assignments.reverse parts.words.reverse parts.redirects.reverse
  repeating (⟨[], [], []⟩ : SimpleParts) fun parts => do
    let rich := (← get).dialect = .rich
    match ← token nested ⟨false, false, parts.words.isEmpty⟩ with
    | .word word _ => do
        match assignment? rich word with
        | some (name, item, appends, value) =>
            let isList := rich && item.isNone && value.isEmpty && (← get).rest.head? == some '('
            if parts.words.isEmpty || (isList && takesAssignments parts.words) then
              if isList then do
                advance
                let values ← listValues nested
                let made := Assignment.values name appends values
                if parts.words.isEmpty then
                  return .inl { parts with assignments := made :: parts.assignments }
                else
                  return .inl { parts with
                    assignments := made :: parts.assignments
                    words := [.literal name false] :: parts.words }
              else
                return .inl { parts with
                  assignments := .value name item appends value :: parts.assignments }
            else return .inl { parts with words := word :: parts.words }
        | none => return .inl { parts with words := word :: parts.words }
    | .redirect descriptor symbol => do
        let made ← redirectTarget nested descriptor symbol
        return .inl { parts with redirects := made :: parts.redirects }
    | .operator ['('] =>
        match parts with
        | ⟨[], [name], []⟩ => return .inr (← function name)
        | parts => do
            pushBack (.operator ['('])
            return .inr (finish parts)
    | other => do
        pushBack other
        return .inr (finish parts)
where
  /-- Read the definition of a function, after its name and a parenthesis. -/
  function (name : Word) : Parser Command := do
    let closing ← token nested .any
    if !isOperator ")" closing then expected closing "\")\"".toList
    match bare? name with
    | some name =>
        let rich := (← get).dialect = .rich
        if rich || (isName name && !specialNames.contains name) then
          let first ← token nested .laterCommand
          pushBack first
          let line := (← get).line
          return .define line name ((← self .command).getD .nothing)
        else fail "Bad function name".toList
    | none => fail "Bad function name".toList

/-- Read the branches of a choice by status, after its first keyword. -/
def conditional (self : Recursion) (nested : Nested) : Parser Command := do
  let condition ← listOf self .body
  expectKeyword nested "then"
  let consequence ← listOf self .body
  let branches ← repeating [(condition, consequence)] fun branches => do
    let found ← token nested .command
    if isKeyword "elif" found then do
      let condition ← listOf self .body
      expectKeyword nested "then"
      return .inl ((condition, ← listOf self .body) :: branches)
    else if isKeyword "else" found then do
      let alternative ← listOf self .body
      return .inr (branches, alternative)
    else do
      pushBack found
      return .inr (branches, .nothing)
  expectKeyword nested "fi"
  return branches.1.foldl
    (fun alternative branch => .conditional branch.1 branch.2 alternative) branches.2

/-- Read the words of a loop. -/
def loopWords (nested : Nested) : Parser (List Word) :=
  repeating [] fun (reversed : List Word) => do
    match ← token nested .any with
    | .word word _ => return .inl (word :: reversed)
    | other =>
        if isOperator "\n" other || isOperator ";" other then return .inr reversed.reverse
        else unexpected other

/-- All arguments of the process, as the words of a loop. -/
def allArguments : List Word :=
  [[.parameter ['@'] none .plain true]]

/-- The text up to a semicolon or the two parentheses that end a head. -/
def headPart (nested : Nested) (closing : Char) : Parser Word := do
  let text ← parts nested (← get).limit (.upTo closing true) 0 []
  advance
  return text

/-- Read the body of a loop. -/
def loopBody (self : Recursion) (nested : Nested) : Parser Command := do
  let found ← token nested .laterCommand
  if isKeyword "do" found then do
    let body ← listOf self .body
    expectKeyword nested "done"
    return body
  else expected found "\"do\"".toList

/-- Read a loop over words, after its keyword. -/
def each (self : Recursion) (nested : Nested) (line : Nat) : Parser Command := do
  match ← token nested .any with
  | .word word false =>
      match bare? word with
      | some name =>
          if !isName name then fail "Bad for loop variable".toList
          let found ← token nested .laterCommand
          if isKeyword "in" found then
            let words ← loopWords nested
            return .each line name words (← loopBody self nested)
          else do
            if !isOperator ";" found then pushBack found
            return .each line name allArguments (← loopBody self nested)
      | none => fail "Bad for loop variable".toList
  | .operator ['('] =>
      if ← acceptRich '(' then
        let start ← headPart nested ';'
        let condition ← headPart nested ';'
        let step ← headPart nested ')'
        let _ ← accept ')'
        let found ← token nested .laterCommand
        if !isOperator ";" found then pushBack found
        return .count line start condition step (← loopBody self nested)
      else fail "Bad for loop variable".toList
  | _ => fail "Bad for loop variable".toList

/-- Read the patterns of an arm, given its first token. -/
def armPatterns (nested : Nested) (first : Token) : Parser (List Word) := do
  let start ← if isOperator "(" first then token nested .any else pure first
  repeating (start, ([] : List Word)) fun (found, reversed) => do
    let pattern : Word :=
      match found with
      | .word word _ => word
      | .keyword name => [.literal name false]
      | _ => []
    let after ← token nested .any
    if isOperator "|" after then
      return .inl (← token nested .any, pattern :: reversed)
    else if isOperator ")" after then return .inr (pattern :: reversed).reverse
    else expected after "\")\"".toList

/-- Read the arms of a choice, up to its last keyword. -/
def arms (self : Recursion) (nested : Nested) : Parser (List Arm) :=
  repeating [] fun (reversed : List Arm) => do
    let first ← token nested ⟨true, true, false⟩
    if isKeyword "esac" first then return .inr reversed.reverse
    else do
      let patterns ← armPatterns nested first
      let body ← listOf self .optional
      let after ← token nested ⟨true, true, false⟩
      let made (next : Option Bool) : List Arm := .arm patterns body next :: reversed
      if isKeyword "esac" after then return .inr (made none).reverse
      else if isOperator ";;" after then return .inl (made none)
      else if isOperator ";&" after then return .inl (made (some true))
      else if isOperator ";;&" after then return .inl (made (some false))
      else expected after "\";;\"".toList

/-- Read a choice by patterns, after its keyword. -/
def choice (self : Recursion) (nested : Nested) (line : Nat) : Parser Command := do
  match ← token nested .any with
  | .word subject _ => do
      let found ← token nested .laterCommand
      if !isKeyword "in" found then expected found "\"in\"".toList
      return .choice line subject (← arms self nested)
  | other => expected other "word".toList

/-- Read the operand of a condition in double brackets. -/
def conditionWord (nested : Nested) : Parser Word := do
  match ← token nested .any with
  | .word word _ => return word
  | other => unexpected other

/-- Read a pattern in double brackets: up to a blank, with parentheses and bars taken as
they are. -/
def patternWord (nested : Nested) : Parser Word := do
  let _ ← run Octets.isBlank
  repeating [] fun (found : Word) => do
    let more ← word nested .word
    match ← peek with
    | some c =>
        if c == '(' || c == ')' || c == '|' || c == '<' || c == '>' then do
          advance
          return .inl (found ++ more ++ [.literal [c] false])
        else return .inr (found ++ more)
    | none => return .inr (found ++ more)

/-- Combine the operands of a condition. -/
def conditionFrom (nested : Nested) (first : Word) : Parser Condition := do
  match ← token nested .command with
  | .word operator false =>
      match bare? operator with
      | some symbol =>
          match String.ofList symbol with
          | "==" => return .binary (.pattern true) first (← patternWord nested)
          | "=" => return .binary (.pattern true) first (← patternWord nested)
          | "!=" => return .binary (.pattern false) first (← patternWord nested)
          | "=~" => return .binary .expression first (← patternWord nested)
          | _ => return .binary (.operator symbol) first (← conditionWord nested)
      | none => unexpected (.word operator false)
  | .redirect none (.file .input) =>
      return .binary (.operator ['<']) first (← conditionWord nested)
  | .redirect none (.file .output) =>
      return .binary (.operator ['>']) first (← conditionWord nested)
  | other => do
      pushBack other
      return .given first

/-- Read a condition without conjunctions. -/
def simpleCondition (nested : Nested) (inner : Parser Condition) : Parser Condition := do
  match ← token nested ⟨true, true, false⟩ with
  | .keyword ['!'] => do return .negation (← inner)
  | .operator ['('] => do
      let found ← inner
      let closing ← token nested ⟨true, true, false⟩
      if isOperator ")" closing then return found else expected closing "\")\"".toList
  | .word word quoted => do
      match if quoted then none else bare? word with
      | some ['-', letter] => do
          let next ← token nested .command
          match next with
          | .word operand _ =>
              match bare? operand with
              | some symbol =>
                  if ["=", "==", "!="].contains (String.ofList symbol) then do
                    pushBack next
                    conditionFrom nested word
                  else return .unary ['-', letter] operand
              | none => return .unary ['-', letter] operand
          | other => do
              pushBack other
              return .given word
      | _ => conditionFrom nested word
  | other => unexpected other

/-- Read a condition: conjunctions of conditions, joined by alternatives. -/
def condition (nested : Nested) : (limit : Nat) → Parser Condition
  | 0 => fail "too long".toList
  | limit + 1 => do
      let conjunction : Parser Condition := do
        let first ← simpleCondition nested (condition nested limit)
        repeating first fun found => do
          let after ← token nested ⟨true, true, false⟩
          if isOperator "&&" after then
            return .inl (.both found (← simpleCondition nested (condition nested limit)))
          else do
            pushBack after
            return .inr found
      let first ← conjunction
      repeating first fun found => do
        let after ← token nested ⟨true, true, false⟩
        if isOperator "||" after then return .inl (.either found (← conjunction))
        else do
          pushBack after
          return .inr found

/-- Put redirections on a command. -/
def withRedirects (line : Nat) (body : Command) (found : List Redirect) : Command :=
  if found.isEmpty then body
  else
    match body with
    | .subshell line body [] => .subshell line body found
    | body => .redirected line body found

/-- Read an arithmetic expression between double parentheses, after the first two. -/
def computation (nested : Nested) (line : Nat) : Parser Command := do
  return .compute line (← word nested .arithmetic)

/-- Read a compound command, given its first token. -/
def compound (self : Recursion) (nested : Nested) (line : Nat) (first : Token) :
    Parser Command := do
  let rich := (← get).dialect = .rich
  match first with
  | .operator ['('] => do
      if rich && (← get).rest.head? == some '(' then do
        advance
        computation nested line
      else do
        let body ← listOf self .body
        let closing ← token nested .command
        if isOperator ")" closing then return .subshell line body []
        else expected closing "\")\"".toList
  | .keyword keyword =>
      match String.ofList keyword with
      | "if" => conditional self nested
      | "while" => loop false
      | "until" => loop true
      | "for" => each self nested line
      | "case" => choice self nested line
      | "\x7b" => do
          let body ← listOf self .body
          expectKeyword nested "\x7d"
          return body
      | "[[" => do
          let found ← condition nested (← get).limit
          let closing ← token nested ⟨true, true, false⟩
          if isKeyword "]]" closing then return .test line found
          else expected closing "\"]]\"".toList
      | "function" => do
          let name ← conditionWord nested
          let after ← token nested .laterCommand
          if isOperator "(" after then do
            let _ ← token nested .any
            let first ← token nested .laterCommand
            pushBack first
          else pushBack after
          return .define line (plainText name) ((← self .command).getD .nothing)
      | _ => unexpected first
  | other => unexpected other
where
  /-- Read a loop, after its keyword. -/
  loop (untilTrue : Bool) : Parser Command := do
    let condition ← listOf self .body
    expectKeyword nested "do"
    let body ← listOf self .body
    expectKeyword nested "done"
    return .loop untilTrue condition body

/-- Read a command. -/
def command (self : Recursion) (nested : Nested) : Parser Command := do
  let line := (← get).line
  let first ← token nested .command
  match first with
  | .word _ _ => do
      pushBack first
      simple self nested
  | .redirect _ _ => do
      pushBack first
      simple self nested
  | first => do
      let body ← compound self nested line first
      return withRedirects line body (← redirects nested)

/-- Read commands joined by pipes, which may be negated. -/
def pipeline (self : Recursion) (nested : Nested) : Parser Command := do
  let first ← token nested .command
  let negated := isKeyword "!" first
  if !negated then pushBack first
  let start ← command self nested
  let commands ← repeating [start] fun (reversed : List Command) => do
    let after ← token nested .any
    if isOperator "|" after || isOperator "|&" after then do
      let next ← token nested .laterCommand
      pushBack next
      let reversed :=
        match isOperator "|&" after, reversed with
        | true, last :: rest =>
            withRedirects 0 last [.copy 2 false [.literal ['1'] false]] :: rest
        | _, reversed => reversed
      return .inl ((← command self nested) :: reversed)
    else do
      pushBack after
      return .inr reversed.reverse
  let body : Command :=
    match commands with
    | [only] => only
    | commands => .pipeline commands
  return if negated then .negation body else body

/-- Read commands joined by conditions on their status; joints group to the left. -/
def andOr (self : Recursion) (nested : Nested) : Parser Command := do
  let first ← pipeline self nested
  repeating first fun found => do
    let after ← token nested .any
    if isOperator "&&" after || isOperator "||" after then do
      let next ← token nested .laterCommand
      pushBack next
      let second ← pipeline self nested
      return .inl (if isOperator "&&" after then .both found second else .either found second)
    else do
      pushBack after
      return .inr found

/-- Put a command after those before it. -/
def joined : Option Command → Command → Command
  | none, second => second
  | some first, second => .sequence first second

/-- Read a list of commands; there is none when the script ends first. -/
def list (self : Recursion) (nested : Nested) (listing : Listing) :
    Parser (Option Command) := do
  let lineEnds := listing = .line
  let expectation : Expectation := ⟨!lineEnds, true, true⟩
  repeating (none : Option Command) fun found => do
    let first ← token nested expectation
    match first with
    | .operator ['\n'] => do
        documents nested
        return .inr (some (found.getD .nothing))
    | .finish => do
        documents nested
        pushBack .finish
        return .inr (if found.isNone && lineEnds then none else some (found.getD .nothing))
    | first => do
        pushBack first
        if !lineEnds && (listing = .optional || found.isSome) && endsList first then
          return .inr (some (found.getD .nothing))
        else do
          let next ← andOr self nested
          let after ← token nested .any
          let made := joined found (if isOperator "&" after then .background next else next)
          match after with
          | .finish => do
              documents nested
              pushBack .finish
              return .inr (some made)
          | .operator ['\n'] => do
              pushBack after
              return .inl (some made)
          | after =>
              if isOperator "&" after || isOperator ";" after then return .inl (some made)
              else if lineEnds then unexpected after
              else do
                pushBack after
                return .inr (some made)

/-- Read the commands of a substitution. -/
def nestedIn (self : Recursion) (nested : Nested) : Nested := fun closed => do
  let body ← listOf self .optional
  if closed then do
    let closing ← token nested .any
    if isOperator ")" closing then return body else expected closing "\")\"".toList
  else return body

/-- Read something that may contain what is being read, up to a depth. -/
def entry : (depth : Nat) → Entry → Parser (Option Command)
  | 0, _ => fail "too deep".toList
  | depth + 1, wanted => do
      let self : Recursion := entry depth
      let nested : Nested := nestedIn self fun _ => fail "too deep".toList
      match wanted with
      | .list listing => list self nested listing
      | .command => do return some (← command self nested)

end Parser

/-- What a script begins with. -/
inductive Next where
  /-- Nothing is left of it. -/
  | finished
  /-- A command, the script after it and its line, and whether that is empty. -/
  | command (body : Command) (rest : Octets) (line : Nat) (last : Bool)

/-- Read the first command of a script whose first line has a number.  The text may be
only the beginning of the script.  The text of a document stands after the command that it
belongs to, so the command is read again with the documents that were found, as often as
documents stand inside each other. -/
def next
    (dialect : Dialect)
    (aliases : List (Octets × Octets))
    (whole : Bool)
    (line : Nat)
    (text : Octets) : Except Fault Next := do
  let limit := text.length + 16
  let start (known : List (Nat × Word)) : Reader :=
    ⟨text, whole, line, text, line, none, [], [], known, 0, none, 0, 0, dialect, aliases, [],
      none, limit⟩
  let read (known : List (Nat × Word)) : Except Fault (Option Command × Reader) :=
    StateT.run (Parser.entry limit (.list .line)) (start known)
  let first ← read []
  let (found, reader) ← (List.range first.2.deepest).foldlM
    (fun (before : Option Command × Reader) _ => read before.2.found) first
  match found with
  | none => return .finished
  | some body =>
      return .command body reader.rest reader.line (reader.pushed matches some .finish)

/-- Read a whole text as if it stood in a document. -/
def documentWord (dialect : Dialect) (text : Octets) : Except Fault Word := do
  let limit := text.length + 16
  let nested : Nested := Parser.nestedIn (Parser.entry limit) fun _ =>
    Parser.fail "too deep".toList
  let reader : Reader :=
    ⟨text, true, 1, text, 1, none, [], [], [], 0, none, 0, 0, dialect, [], [], none, limit⟩
  let (found, _) ← StateT.run (Parser.word nested (.document ['\x00'] false)) reader
  return found

end Script
end Host
end Turnwise
