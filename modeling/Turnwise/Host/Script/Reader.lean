import Turnwise.Host.Script.Syntax

/-!
# Reading scripts

A reader walks over the text of a script.  It counts lines, joins lines that end in a
backslash, keeps a token that was read too early, and remembers the documents whose
text begins on the next line.

A text may be only the beginning of a script.  A reader that comes to its end then
asks for more instead of taking the end for the end of the script.
-/

namespace Turnwise
namespace Host
namespace Script

/-- Why reading stops. -/
inductive Fault where
  /-- There has to be more text. -/
  | incomplete
  /-- Something is wrong on a line. -/
  | malformed (line : Nat) (message : Octets)
  /-- A token cannot stand on a line. -/
  | surprising (line : Nat) (token : Octets)
  /-- The script ends too early, on a line. -/
  | unfinished (line : Nat)
  deriving DecidableEq, Repr

/-- The operator of a redirection. -/
inductive RedirectSymbol where
  /-- To a file. -/
  | file (direction : Direction)
  /-- To what another descriptor leads to. -/
  | copy (reads : Bool)
  /-- To a document; tabs before its lines may be left out. -/
  | document (stripsTabs : Bool)
  /-- To the text of a word. -/
  | text
  /-- Of both outputs. -/
  | both (appends : Bool)
  deriving DecidableEq, Repr

/-- A token. -/
inductive Token where
  /-- A word, and whether something in it is quoted. -/
  | word (word : Word) (quoted : Bool)
  /-- The operator of a redirection, with a descriptor if one is given. -/
  | redirect (descriptor : Option Nat) (symbol : RedirectSymbol)
  /-- Another operator, or a newline. -/
  | operator (symbol : Octets)
  /-- A word with a meaning of its own. -/
  | keyword (keyword : Octets)
  /-- The end of the script. -/
  | finish

/-- How a token is called in a complaint. -/
def Token.title : Token → Octets
  | .word _ _ => "word".toList
  | .redirect _ _ => "redirection".toList
  | .operator ['\n'] => "newline".toList
  | .operator symbol => '"' :: symbol ++ ['"']
  | .keyword name => '"' :: name ++ ['"']
  | .finish => "end of file".toList

/-- A document whose text has not been read yet. -/
structure Document where
  /-- Its number. -/
  number : Nat
  /-- The line that ends it. -/
  delimiter : Octets
  /-- Whether tabs before its lines are left out. -/
  stripsTabs : Bool
  /-- Whether expansions take place in it. -/
  expands : Bool
  deriving DecidableEq, Repr

/-- A reader. -/
structure Reader where
  /-- The text that has not been read. -/
  rest : Octets
  /-- Whether the text ends where the script ends. -/
  whole : Bool
  /-- The number of the current line. -/
  line : Nat
  /-- The text from the last token on. -/
  mark : Octets
  /-- The line of the last token. -/
  markLine : Nat
  /-- A token that was read too early. -/
  pushed : Option Token
  /-- The documents that begin on the next line. -/
  waiting : List Document
  /-- The documents that were read, by number. -/
  found : List (Nat × Word)
  /-- The documents that an earlier reading has found. -/
  known : List (Nat × Word)
  /-- The number of the next document. -/
  fresh : Nat
  /-- The document that is being read, if what stands in it is expanded. -/
  enclosing : Option Document
  /-- How many documents are being read inside each other. -/
  nesting : Nat
  /-- How many documents have been inside each other at most. -/
  deepest : Nat
  /-- The dialect. -/
  dialect : Dialect
  /-- Words that stand for other texts. -/
  aliases : List (Octets × Octets)
  /-- Such words whose text is being read, with the length of the text after it. -/
  engaged : List (Octets × Nat)
  /-- The length of the text after the text of such a word that ends in a blank; the word
  that follows may stand for a text too. -/
  inviting : Option Nat
  /-- More than the number of parts of any word. -/
  limit : Nat

/-- A step of reading. -/
abbrev Parser := StateT Reader (Except Fault)

namespace Parser

/-- Complain about the current line. -/
def fail (message : Octets) : Parser α := do
  throw (.malformed (← get).line ("Syntax error: ".toList ++ message))

/-- A token as it stands in the text, given that it was the last one. -/
def sourceOf (reader : Reader) : Token → Octets
  | .operator ['\n'] => "newline".toList
  | .operator symbol => symbol
  | .keyword name => name
  | .word _ _ => reader.mark.take (reader.mark.length - reader.rest.length)
  | .redirect _ _ =>
      (reader.mark.take (reader.mark.length - reader.rest.length)).dropWhile Char.isDigit
  | .finish => []

/-- Complain about a token: in a plain shell with a message, in a rich one by showing it. -/
def surprise (token : Token) (message : Octets) : Parser α := do
  let reader ← get
  match reader.dialect, token with
  | .plain, _ => fail message
  | .rich, .finish => throw (.unfinished reader.line)
  | .rich, token => throw (.surprising reader.markLine (sourceOf reader token))

/-- Complain about a token that cannot stand here. -/
def unexpected (token : Token) : Parser α :=
  surprise token (token.title ++ " unexpected".toList)

/-- Complain about a token that stands in place of another one. -/
def expected (token : Token) (wanted : Octets) : Parser α :=
  surprise token (token.title ++ " unexpected (expecting ".toList ++ wanted ++ [')'])

/-- Complain that the script ends before something is closed. -/
def unclosed (closing : Char) (message : Octets) : Parser α := do
  let reader ← get
  match reader.dialect with
  | .plain => fail message
  | .rich =>
      throw (.malformed reader.markLine
        ("unexpected EOF while looking for matching \x60".toList ++ [closing, '\'']))

/-- Count the lines of a text that was read. -/
def countLines (text : Octets) : Parser Unit :=
  modify fun reader => { reader with line := reader.line + text.count '\n' }

/-- The next character. -/
def peek : Parser (Option Char) := do
  let reader ← get
  match reader.rest with
  | c :: _ => return some c
  | [] => if reader.whole then return none else throw .incomplete

/-- Pass one character. -/
def advance : Parser Unit :=
  modify fun reader => { reader with rest := reader.rest.drop 1 }

/-- Drop the backslashes and newlines by which lines are joined. -/
def joinedLines : Octets → (lines : Nat) → Octets × Nat
  | '\\' :: '\n' :: rest, lines => joinedLines rest (lines + 1)
  | rest, lines => (rest, lines)

/-- The next character after lines have been joined. -/
def peekJoined : Parser (Option Char) := do
  let reader ← get
  match reader.rest with
  | '\\' :: '\n' :: rest =>
      let (rest, lines) := joinedLines rest (reader.line + 1)
      set { reader with rest := rest, line := lines }
      if rest = ['\\'] && !reader.whole then throw .incomplete
      peek
  | ['\\'] => if reader.whole then return some '\\' else throw .incomplete
  | _ => peek

/-- Pass the next character if it is the given one. -/
def accept (c : Char) : Parser Bool := do
  if (← peekJoined) = some c then
    advance
    return true
  else return false

/-- Pass a character if it comes next and the script is of the rich dialect. -/
def acceptRich (c : Char) : Parser Bool := do
  if (← get).dialect = .rich then accept c else return false

/-- Read the longest run of characters that satisfy a test. -/
def run (test : Char → Bool) : Parser Octets := do
  let reader ← get
  let (text, rest) := reader.rest.span test
  set { reader with rest := rest, line := reader.line + text.count '\n' }
  return text

/-- Repeat a step with a state until it gives a result. -/
def iterate (step : σ → Parser (σ ⊕ α)) : (limit : Nat) → σ → Parser α
  | 0, _ => fail "too long".toList
  | limit + 1, state => do
      match ← step state with
      | .inl state => iterate step limit state
      | .inr result => return result

/-- Repeat a step with a state until it gives a result; each step reads something. -/
def repeating (state : σ) (step : σ → Parser (σ ⊕ α)) : Parser α := do
  iterate step (← get).limit state

end Parser
end Script
end Host
end Turnwise
