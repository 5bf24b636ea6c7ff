import Turnwise.Host.Octets

/-!
# The command language

A script is a sequence of commands.  The words of a command are made of parts: text,
and expansions that are replaced when the command runs.  Each part is quoted or not;
what is not quoted may fall apart into several fields and may stand for file names.

There are two dialects.  The plain one is what system scripts are written in; the rich
one has lists of values, comparisons in double brackets and more expansions.
-/

namespace Turnwise
namespace Host
namespace Script

/-- A dialect of the command language. -/
inductive Dialect where
  | plain
  | rich
  deriving DecidableEq, Repr

/-- What to do when a parameter is not set. -/
inductive Fallback where
  /-- Use the operand. -/
  | use
  /-- Set the parameter to the operand and use it. -/
  | assign
  /-- Complain with the operand. -/
  | complain
  /-- Use the operand when the parameter is set, and nothing otherwise. -/
  | alternative
  deriving DecidableEq, Repr

/-- Where a pattern is replaced. -/
inductive Extent where
  /-- At the first place. -/
  | first
  /-- At every place. -/
  | all
  /-- At the beginning. -/
  | atStart
  /-- At the end. -/
  | atEnd
  deriving DecidableEq, Repr

/-- What a redirection does with a file. -/
inductive Direction where
  /-- Read it. -/
  | input
  /-- Write it from its beginning. -/
  | output
  /-- Write it from its beginning, even if it must not be overwritten. -/
  | clobber
  /-- Write at its end. -/
  | append
  /-- Read and write it. -/
  | update
  deriving DecidableEq, Repr

/-- How two texts or files are compared in double brackets. -/
inductive Comparison where
  /-- The operator of a test. -/
  | operator (symbol : Octets)
  /-- The left side matches the right side as a pattern, or does not. -/
  | pattern (holds : Bool)
  /-- The left side matches a regular expression. -/
  | expression
  deriving DecidableEq, Repr

mutual

/-- A part of a word. -/
inductive Part where
  /-- Text, which is quoted or not. -/
  | literal (text : Octets) (quoted : Bool)
  /-- The value of a parameter, or of an item of a list. -/
  | parameter (name : Octets) (item : Option (List Part)) (use : Use) (quoted : Bool)
  /-- What a command prints. -/
  | command (body : Command) (quoted : Bool)
  /-- The value of an arithmetic expression. -/
  | arithmetic (expression : List Part) (quoted : Bool)

/-- How the value of a parameter is used. -/
inductive Use where
  /-- As it is. -/
  | plain
  /-- Its length. -/
  | length
  /-- In no way that makes sense. -/
  | malformed
  /-- Unless it is missing, or also unless it is empty. -/
  | fallback (kind : Fallback) (orEmpty : Bool) (operand : List Part)
  /-- Without a beginning or an end that matches a pattern. -/
  | trim (atEnd longest : Bool) (pattern : List Part)
  /-- A piece of it. -/
  | slice (start : List Part) (count : Option (List Part))
  /-- With a pattern replaced. -/
  | replace (extent : Extent) (pattern replacement : List Part)
  /-- With other letters: capital or small, all of them or the first. -/
  | recase (upper all : Bool)
  /-- As the name of the parameter to use. -/
  | indirect
  /-- The numbers of the items of a list. -/
  | keys

/-- An assignment to a variable. -/
inductive Assignment where
  /-- Of one value, perhaps to an item, perhaps after the old value. -/
  | value (name : Octets) (item : Option (List Part)) (appends : Bool) (value : List Part)
  /-- Of a list of values. -/
  | values (name : Octets) (appends : Bool) (values : List (List Part))

/-- A redirection of a descriptor. -/
inductive Redirect where
  /-- To a file. -/
  | file (descriptor : Nat) (direction : Direction) (target : List Part)
  /-- To what another descriptor leads to, for reading or for writing. -/
  | copy (descriptor : Nat) (reads : Bool) (target : List Part)
  /-- To a text that stands in the script. -/
  | document (descriptor : Nat) (content : List Part)
  /-- Of both outputs to a file. -/
  | both (appends : Bool) (target : List Part)

/-- A condition in double brackets. -/
inductive Condition where
  /-- A text is not empty. -/
  | given (text : List Part)
  /-- A test of one operand. -/
  | unary (operator : Octets) (operand : List Part)
  /-- A test of two operands. -/
  | binary (comparison : Comparison) (first second : List Part)
  /-- The opposite. -/
  | negation (condition : Condition)
  /-- Both conditions hold. -/
  | both (first second : Condition)
  /-- One of two conditions holds. -/
  | either (first second : Condition)

/-- A command. -/
inductive Command where
  /-- Nothing. -/
  | nothing
  /-- Assignments, the words of a command and its redirections, on a line. -/
  | simple (line : Nat) (assignments : List Assignment) (words : List (List Part))
      (redirects : List Redirect)
  /-- One command after the other. -/
  | sequence (first second : Command)
  /-- The second command, if the first succeeds. -/
  | both (first second : Command)
  /-- The second command, if the first fails. -/
  | either (first second : Command)
  /-- The opposite status. -/
  | negation (body : Command)
  /-- Commands, each with the output of the one before as its input. -/
  | pipeline (commands : List Command)
  /-- A command that is not waited for. -/
  | background (body : Command)
  /-- A command with redirections. -/
  | redirected (line : Nat) (body : Command) (redirects : List Redirect)
  /-- A command in a process of its own. -/
  | subshell (line : Nat) (body : Command) (redirects : List Redirect)
  /-- A choice by the status of a command. -/
  | conditional (condition consequence alternative : Command)
  /-- Repetition as long as a condition succeeds, or until it does. -/
  | loop (untilTrue : Bool) (condition body : Command)
  /-- Repetition for words. -/
  | each (line : Nat) (name : Octets) (words : List (List Part)) (body : Command)
  /-- Repetition with a counter: a start, a condition and a step. -/
  | count (line : Nat) (start condition step : List Part) (body : Command)
  /-- A choice by patterns. -/
  | choice (line : Nat) (subject : List Part) (arms : List Arm)
  /-- The definition of a function. -/
  | define (line : Nat) (name : Octets) (body : Command)
  /-- A condition in double brackets. -/
  | test (line : Nat) (condition : Condition)
  /-- An arithmetic expression, which fails when it is zero. -/
  | compute (line : Nat) (expression : List Part)

/-- An arm of a choice, and what follows it: nothing, the next body, or the next
patterns. -/
inductive Arm where
  | arm (patterns : List (List Part)) (body : Command) (next : Option Bool)

end

/-- A word. -/
abbrev Word := List Part

/-- Whether a character can begin a name. -/
def isNameStart (c : Char) : Bool :=
  c.isAlpha || c == '_'

/-- Whether a character can stand in a name. -/
def isNameChar (c : Char) : Bool :=
  c.isAlphanum || c == '_'

/-- Whether a text is a name. -/
def isName : Octets → Bool
  | [] => false
  | c :: rest => isNameStart c && rest.all isNameChar

/-- The parameters whose names are no words. -/
def isSpecial (c : Char) : Bool :=
  "@*#?$!-".toList.contains c || c.isDigit

/-- The text of a word in which nothing is quoted or expanded. -/
def bare? : Word → Option Octets
  | [] => some []
  | .literal text false :: rest => (bare? rest).map (text ++ ·)
  | _ => none

/-- The text of a word, expansions left out. -/
def plainText (word : Word) : Octets :=
  word.flatMap fun part =>
    match part with
    | .literal text _ => text
    | _ => []

/-- Put a part before others; neighbouring texts of one kind are joined. -/
def consPart : Part → Word → Word
  | .literal text false, .literal more false :: rest => .literal (text ++ more) false :: rest
  | part, rest => part :: rest

/-- The parts of a word, given in reverse, with neighbouring texts joined. -/
def assemble (reversed : Word) : Word :=
  reversed.foldl (fun word part => consPart part word) []

end Script
end Host
end Turnwise
