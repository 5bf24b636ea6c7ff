import Turnwise.Host.Regex
import Turnwise.Host.Utility.Awk.Value

/-!
# The pattern language

A program is a list of rules, each with a pattern and an action, and of functions.  The
actions are statements about variables, tables and the fields of a line.
-/

namespace Turnwise
namespace Host
namespace Utility
namespace Awk

/-- An operator between numbers. -/
inductive Operator where
  | add
  | sub
  | mul
  | div
  | mod
  | pow
  deriving DecidableEq, Repr

/-- Apply an operator. -/
def Operator.apply : Operator → Quantity → Quantity → Quantity
  | .add => Quantity.add
  | .sub => Quantity.sub
  | .mul => Quantity.mul
  | .div => Quantity.div
  | .mod => Quantity.mod
  | .pow => Quantity.pow

/-- A relation between values. -/
inductive Relation where
  | less
  | notMore
  | equal
  | unequal
  | more
  | notLess
  deriving DecidableEq, Repr

/-- Whether a relation holds for an order; things without order are only unequal. -/
def Relation.holds : Relation → Option Ordering → Bool
  | .less, order => order == some .lt
  | .notMore, order => order == some .lt || order == some .eq
  | .equal, order => order == some .eq
  | .unequal, order => order != some .eq
  | .more, order => order == some .gt
  | .notLess, order => order == some .gt || order == some .eq

/-- Where a line is taken from. -/
inductive Origin where
  /-- The inputs of the program. -/
  | inputs
  /-- A file. -/
  | file
  /-- What a command prints. -/
  | command
  deriving DecidableEq, Repr

/-- An expression. -/
inductive Expression where
  /-- A value. -/
  | literal (value : Value)
  /-- A pattern; alone it asks whether the line matches. -/
  | pattern (regex : Regex)
  /-- A variable, or a table. -/
  | name (name : Octets)
  /-- An entry of a table. -/
  | entry (table : Octets) (keys : List Expression)
  /-- A field of the line. -/
  | field (number : Expression)
  /-- An assignment, perhaps with an operator. -/
  | assign (operator : Option Operator) (target value : Expression)
  /-- One of two values. -/
  | choose (condition first second : Expression)
  /-- Whether one of two values is true. -/
  | either (first second : Expression)
  /-- Whether both values are true. -/
  | both (first second : Expression)
  /-- Whether a table has a key. -/
  | member (keys : List Expression) (table : Octets)
  /-- Whether a text matches a pattern. -/
  | fits (subject pattern : Expression)
  /-- Whether a relation holds. -/
  | compare (relation : Relation) (first second : Expression)
  /-- Two texts one after the other. -/
  | join (first second : Expression)
  /-- A calculation. -/
  | calculate (operator : Operator) (first second : Expression)
  /-- Whether a value is false. -/
  | negation (value : Expression)
  /-- A value as a number, perhaps with the other sign. -/
  | signed (negative : Bool) (value : Expression)
  /-- Count a target up or down; the value is the new one or the old one. -/
  | count (up fresh : Bool) (target : Expression)
  /-- A call of a function of the language. -/
  | builtin (name : Octets) (arguments : List Expression)
  /-- A call of a function of the program. -/
  | call (name : Octets) (arguments : List Expression)
  /-- Take a line. -/
  | line (origin : Origin) (source target : Option Expression)
  /-- Several values between parentheses. -/
  | several (values : List Expression)

/-- Where something is printed. -/
inductive Outlet where
  /-- A file that is emptied first. -/
  | file
  /-- The end of a file. -/
  | append
  /-- A command. -/
  | command
  deriving DecidableEq, Repr

/-- A statement. -/
inductive Statement where
  /-- Compute something. -/
  | compute (value : Expression)
  /-- Print values, perhaps in a format, perhaps elsewhere. -/
  | print (formatted : Bool) (values : List Expression) (outlet : Option (Outlet × Expression))
  /-- One of two statements. -/
  | choose (condition : Expression) (first second : Statement)
  /-- Repeat a statement while a condition holds. -/
  | during (condition : Expression) (body : Statement)
  /-- Repeat a statement as long as a condition holds afterwards. -/
  | again (body : Statement) (condition : Expression)
  /-- Repeat a statement, with a step after each time. -/
  | loop (first : Statement) (condition : Option Expression) (step body : Statement)
  /-- Do something for each key of a table. -/
  | visit (name table : Octets) (body : Statement)
  /-- Statements one after the other. -/
  | block (body : List Statement)
  /-- Leave a loop. -/
  | leave
  /-- Go on with the next round of a loop. -/
  | resume
  /-- Go on with the next line. -/
  | next
  /-- Go on with the next input. -/
  | nextInput
  /-- End the program. -/
  | exit (status : Option Expression)
  /-- Return from a function. -/
  | back (value : Option Expression)
  /-- Remove an entry of a table, or all. -/
  | delete (table : Octets) (keys : Option (List Expression))

/-- When a rule applies. -/
inductive Occasion where
  /-- Before the first line. -/
  | first
  /-- After the last line. -/
  | last
  /-- At each line. -/
  | always
  /-- At lines for which a condition holds. -/
  | condition (value : Expression)
  /-- From a line for which a condition holds to one for which another does. -/
  | range (start stop : Expression)

/-- A rule. -/
structure Rule where
  /-- When it applies. -/
  occasion : Occasion
  /-- What is done. -/
  action : Statement

/-- A function. -/
structure Function where
  /-- Its name. -/
  name : Octets
  /-- The names of its parameters. -/
  parameters : List Octets
  /-- What it does. -/
  body : Statement

/-- A program. -/
structure Rules where
  /-- The rules. -/
  rules : List Rule
  /-- The functions. -/
  functions : List Function

end Awk
end Utility
end Host
end Turnwise
