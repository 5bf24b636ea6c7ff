import Turnwise.Toolchain.Store
import Turnwise.Composition
import Turnwise.Diagnostic

/-!
# A miniature toolchain

The miniature toolchain knows a small part of the language: bindings of integers,
discards, printing, panics, declarations that never type-check, and blocks in
braces whose bodies always run.  It compiles and runs a program in one pass over
the lines of its entry point, and words its answers as the real tools do.
-/

namespace Turnwise
namespace Miniature

/-- A complaint at a place in the source. -/
structure Complaint where
  /-- The line, from one. -/
  line : Nat
  /-- The column, from one. -/
  column : Nat
  /-- What is wrong. -/
  message : Text
  deriving DecidableEq, Repr

/-- A variable that the program has declared. -/
structure Binding where
  /-- Its name. -/
  name : Text
  /-- The line of its declaration. -/
  line : Nat
  /-- Its value. -/
  value : Int
  /-- Whether a later line uses it. -/
  used : Bool
  deriving DecidableEq, Repr

/-- What the program does when it runs. -/
inductive Effect where
  /-- Print a number on a line of its own. -/
  | print (value : Int)
  /-- Stop with a message. -/
  | panic (message : Text)
  deriving DecidableEq, Repr

/-- The meaning of one line of the entry point. -/
inductive Statement where
  /-- The line does nothing: it is empty, or opens or closes a block. -/
  | skip
  /-- Use a variable and do nothing with it. -/
  | discard (name : Text)
  /-- Print a number or the value of a variable. -/
  | print (argument : Text)
  /-- Stop with a message. -/
  | panic (message : Text)
  /-- A typed declaration, whose initial value stands at a column. -/
  | declare (column : Nat)
  /-- Declare a variable with an initial value. -/
  | bind (name value : Text)
  /-- No statement begins with this word. -/
  | unknown (word : Text)
  deriving DecidableEq, Repr

/-- The line that opens the entry point. -/
def entryLine : Text := "func main() \x7b".toList

/-- The text before the last place where a pattern stands. -/
def beforeLast? (pattern text : Text) : Option Text :=
  (Text.cutAt? pattern.reverse text.reverse).map fun cut => cut.2.reverse

/-- The column of the initial value in a typed declaration, counted in bytes. -/
def declarationColumn (line : Text) : Nat :=
  match beforeLast? "= ".toList line with
  | some before => (Utf8.encode before).length + 3
  | none => 1

/-- The part of a text between a beginning and an ending. -/
def between? (beginning ending text : Text) : Option Text :=
  (Text.after? beginning text).bind (Text.upTo? ending)

/-- Read a line that has no blanks at its ends. -/
def Statement.ofLine (line : Text) : Statement :=
  if line.isEmpty || line == ['\x7d'] || Text.endsIn '\x7b' line then .skip
  else if let some name := Text.after? "_ = ".toList line then .discard name
  else if let some argument := between? "println(".toList ")".toList line then .print argument
  else if let some message := between? "panic(\"".toList "\")".toList line then .panic message
  else if Text.beginsWith "var ".toList line then .declare (declarationColumn line)
  else if let some (name, value) := Text.cutAt? " := ".toList line then
    .bind name.trim value.trim
  else .unknown (line.words.headD line)

/-- What compilation has found so far. -/
structure Program where
  /-- The variables, in order of declaration. -/
  bindings : List Binding
  /-- What is wrong, in order of discovery. -/
  complaints : List Complaint
  /-- What the program does, in order. -/
  effects : List Effect
  deriving DecidableEq, Repr

namespace Program

/-- A program without statements. -/
def empty : Program := ⟨[], [], []⟩

/-- The variable with a given name. -/
def lookup? (program : Program) (name : Text) : Option Binding :=
  program.bindings.find? (·.name == name)

/-- Mark the variable with a given name as used. -/
def use (program : Program) (name : Text) : Program :=
  { program with
    bindings := program.bindings.map fun binding =>
      if binding.name == name then { binding with used := true } else binding }

/-- Add a complaint. -/
def complain (program : Program) (line column : Nat) (message : Text) : Program :=
  { program with complaints := program.complaints ++ [⟨line, column, message⟩] }

/-- Add an effect. -/
def perform (program : Program) (effect : Effect) : Program :=
  { program with effects := program.effects ++ [effect] }

/-- Add a variable that nothing uses yet. -/
def declare (program : Program) (name : Text) (line : Nat) (value : Int) : Program :=
  { program with bindings := program.bindings ++ [⟨name, line, value, false⟩] }

/-- The complaint about a name or a value that stands for nothing. -/
def undefinedMessage (name : Text) : Text :=
  "undefined: ".toList ++ name

/-- Compile one statement at a line. -/
def extend (program : Program) (line : Nat) : Statement → Program
  | .skip => program
  | .discard name =>
      match program.lookup? name with
      | some _ => program.use name
      | none => program.complain line 5 (undefinedMessage name)
  | .print argument =>
      match argument.int64? with
      | some value => program.perform (.print value)
      | none =>
          match program.lookup? argument with
          | some binding => (program.use argument).perform (.print binding.value)
          | none => program.complain line 9 (undefinedMessage argument)
  | .panic message => program.perform (.panic message)
  | .declare column =>
      program.complain line column
        ("cannot use 1 (untyped int constant) as string value" ++
          " in variable declaration").toList
  | .bind name value =>
      match program.lookup? name with
      | some _ => program.complain line 3 "no new variables on left side of :=".toList
      | none =>
          match value.int64? with
          | some number => program.declare name line number
          | none => program.complain line 6 (undefinedMessage value)
  | .unknown word => program.complain line 1 ("syntax error: unexpected ".toList ++ word)

/-- Compile the lines of the entry point; the first has the given number. -/
def extendAll (program : Program) (number : Nat) : List Text → Program
  | [] => program
  | line :: rest =>
      extendAll (program.extend number (.ofLine line.trim)) (number + 1) rest

/-- The variables that nothing uses. -/
def unused (program : Program) : List Binding :=
  program.bindings.filter (!·.used)

/-- The complaint about a variable that nothing uses. -/
def unusedComplaint (binding : Binding) : Complaint :=
  ⟨binding.line, 1, Diagnostic.unusedMarker ++ binding.name⟩

/-- Whether a complaint stands no later in the source than another. -/
def notAfter (first second : Complaint) : Bool :=
  first.line < second.line ||
    (first.line == second.line && first.column ≤ second.column)

/-- Everything that is wrong, in the order of the source. -/
def allComplaints (program : Program) : List Complaint :=
  (program.complaints ++ program.unused.map unusedComplaint).mergeSort notAfter

end Program

/-- The lines after the one that opens the entry point, and the number of the first
of them. -/
def entryLines (number : Nat) : List Text → Nat × List Text
  | [] => (number, [])
  | line :: rest =>
      if line.trim == entryLine then (number + 1, rest) else entryLines (number + 1) rest

/-- Compile a source text. -/
def compile (source : Text) : Program :=
  let (number, lines) := entryLines 1 source.lines
  Program.empty.extendAll number lines

/-- The line that reports a complaint about a file. -/
def complaintLine (marker : Text) (complaint : Complaint) : Text :=
  marker ++ ":".toList ++ Text.ofNat complaint.line ++ ":".toList ++
    Text.ofNat complaint.column ++ ": ".toList ++ complaint.message ++ "\n".toList

/-- What a program prints before it ends or panics, and whether it ends. -/
def execute : List Effect → Text × Bool
  | [] => ([], true)
  | .print value :: rest =>
      let (output, success) := execute rest
      (Text.ofInt value ++ '\n' :: output, success)
  | .panic message :: _ =>
      ("panic: ".toList ++ message ++
        "\n\ngoroutine 1 [running]:\nmain.main()\nexit status 2\n".toList, false)

/-- Compile a source text and, when nothing is wrong, execute it. -/
def simulate (source marker : Text) : Run :=
  let program := compile source
  if program.allComplaints.isEmpty then
    let (output, success) := execute program.effects
    .ofOutput output success
  else
    .ofOutput
      ("# command-line-arguments\n".toList ++
        program.allComplaints.flatMap (complaintLine marker))
      false

/-- The position of the first line, counted from one, that ends in an operator with
nothing after it; the column is counted in bytes. -/
def danglingOperator? (number : Nat) : List Text → Option (Nat × Nat)
  | [] => none
  | line :: rest =>
      if Text.endsIn '+' line.trimEnd then some (number, (Utf8.encode line).length + 1)
      else danglingOperator? (number + 1) rest

/-- What the formatter says about a place in its source. -/
def formatterMessage (line column : Nat) (complaint : Text) : Text :=
  "<standard input>:".toList ++ Text.ofNat line ++ ":".toList ++ Text.ofNat column ++
    ": ".toList ++ complaint

/-- The formatter rejects a source text that leaves a brace open or an operator
without its operand, and leaves all others unchanged. -/
def format (source : Text) : Except ToolError Text :=
  if source.count '\x7d' < source.count '\x7b' then
    .error (.rejected (formatterMessage (source.lines.length + 1) 1
      "expected '\x7d', found 'EOF'".toList))
  else
    match danglingOperator? 1 source.lines with
    | some (line, column) =>
        .error (.rejected (formatterMessage line column "expected operand".toList))
    | none => .ok source

/-- How diagnostics name a program file. -/
def marker (file : Path) : Text :=
  Diagnostic.fileMarker ++ (Path.fileName? file).getD []

/-- Compile and run the file that a store holds. -/
def runFile (store : Store State) (file : Path) (state : State) : Except ToolError Run := do
  match store.read file state with
  | .error cause => throw (.spawn "go".toList cause)
  | .ok content =>
      match Utf8.strict content with
      | .error _ =>
          throw (.spawn "go".toList
            (.described .other "stream did not contain valid UTF-8".toList))
      | .ok source => return simulate source (marker file)

/-- The miniature toolchain over a store. -/
def bench (store : Store State) : Bench State where
  organize source _ state := (format source, state)
  write := store.writeText
  run file _ state := (runFile store file state, state)

end Miniature
end Turnwise
