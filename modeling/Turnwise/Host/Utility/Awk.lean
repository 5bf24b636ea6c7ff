import Turnwise.Host.Utility.Awk.Bench

/-!
# Patterns and actions

A program is run over the lines of its inputs: for each line the rules are tried one
after the other, and the actions of those that apply are done.  Rules may also apply
before the first line and after the last one.
-/

namespace Turnwise
namespace Host
namespace Utility
namespace Awk
namespace Run

/-- What stands for a match in a replacement. -/
def replacement (matched : Octets) : Octets → Octets
  | [] => []
  | '\\' :: '&' :: rest => '&' :: replacement matched rest
  | '\\' :: '\\' :: rest => '\\' :: replacement matched rest
  | '&' :: rest => matched ++ replacement matched rest
  | c :: rest => c :: replacement matched rest

/-- Replace matches in a text. -/
def replaced (text template : Octets) (found : List Regex.Match) : Octets :=
  let step (state : Octets × Nat) (found : Regex.Match) : Octets × Nat :=
    (state.1 ++ (text.drop state.2).take (found.start - state.2) ++
      replacement found.text template, found.stop)
  let (done, stop) := found.foldl step ([], 0)
  done ++ text.drop stop

/-- The part of a text from a place on, counted from one, of a length. -/
def portion (text : Octets) (start : Int) (length : Option Int) : Octets :=
  let rest := text.drop (start - 1).toNat
  match length with
  | none => rest
  | some length => rest.take (if start < 0 then length - start else length).toNat

/-- The integer part of a value, kept in bounds. -/
def integer (value : Value) : Int :=
  match value.quantity with
  | .infinite negative => if negative then -0x7FFFFFFF else 0x7FFFFFFF
  | quantity => (quantity.whole?).getD 0

/-- Write values in a format. -/
def format (what : String) (template : Octets) (values : List Value) : Run Octets := do
  let conversion ← conversion
  match formatted (Value.toText conversion) template values with
  | (octets, none) => return octets
  | (octets, some misfit) => do
      if what = "printf" then tool (Tool.print octets)
      match misfit with
      | .tooFew =>
          failAt ("not enough arguments passed to ".toList ++ what.toList ++ "(\"".toList ++
            template ++ "\")".toList)
      | .improper number =>
          failAt ("improper conversion(number ".toList ++ Text.ofNat number ++ ") in ".toList ++
            what.toList ++ "(\"".toList ++ template ++ "\")".toList)

/-- The place in a text at which another one begins, counted from one; zero if there is
none. -/
def place : (count : Nat) → (text sought : Octets) → Nat
  | count, text, sought =>
      if sought.isPrefixOf text then count + 1
      else
        match text with
        | [] => 0
        | _ :: rest => place (count + 1) rest sought

/-- The functions of one number. -/
def numeric? (name : Octets) : Option (Quantity → Quantity) :=
  let real (function : Float → Float) : Option (Quantity → Quantity) :=
    some fun quantity => .ofFloat (function quantity.toFloat)
  if name = "int".toList then some Quantity.whole
  else if name = "sqrt".toList then real Float.sqrt
  else if name = "exp".toList then real Float.exp
  else if name = "log".toList then real Float.log
  else if name = "sin".toList then real Float.sin
  else if name = "cos".toList then real Float.cos
  else none

/-- The functions of values that need nothing else. -/
def pureBuiltin (name : Octets) (values : List Value) : Run Value := do
  let first := values.headD .unset
  let text ← toText first
  let is (word : String) : Bool := name = word.toList
  match numeric? name with
  | some function => return .number (function first.quantity)
  | none =>
      if is "length" then return .ofInt text.length
      else if is "substr" then
        let start := integer ((values[1]?).getD .unset)
        return .text (portion text start (values[2]?.map integer))
      else if is "index" then
        return .ofInt (place 0 text (← toText ((values[1]?).getD .unset)))
      else if is "tolower" then return .text (text.map Char.toLower)
      else if is "toupper" then return .text (text.map Char.toUpper)
      else if is "sprintf" then return .text (← format "sprintf" text (values.drop 1))
      else if is "atan2" then
        let second : Value := (values[1]?).getD .unset
        return .number (.ofFloat
          (Float.atan2 first.quantity.toFloat second.quantity.toFloat))
      else if is "system" then
        flushAll
        let number ← ask (.fork (shellTask (← get) text (pure ())))
        return .ofInt (← await number)
      else if is "close" then return .ofInt (← closeNamed text)
      else if is "fflush" then
        flushAll
        return .ofInt 0
      else if is "systime" then return .ofInt ((← ask .now) / 1000000000 : Nat)
      else if is "srand" then
        let seed ← valueOf "\x00seed".toList
        modify fun bench =>
          { bench with globals := bench.globals.insert "\x00seed".toList first }
        return seed
      else return .ofInt 0

/-- Evaluate expressions and perform statements. -/
structure Engine where
  /-- Evaluate an expression. -/
  evaluate : Expression → Run Value
  /-- Perform a statement. -/
  perform : Statement → Run Unit

/-- The engine for what is nested too deeply. -/
def Engine.exhausted : Engine :=
  ⟨fun _ => ask .spin, fun _ => ask .spin⟩

namespace Engine

/-- The key that expressions stand for. -/
def key (engine : Engine) (keys : List Expression) : Run Octets := do
  let texts ← keys.mapM fun key => do toText (← engine.evaluate key)
  return Text.joinWith (← textOf "SUBSEP") texts

/-- The expression that a pattern or a value stands for. -/
def regexFor (engine : Engine) (value : Expression) : Run Regex := do
  match value with
  | .pattern regex => return regex
  | value => regex (← toText (← engine.evaluate value))

/-- Assign a value to a target. -/
def store (engine : Engine) (target : Expression) (value : Value) : Run Unit := do
  match target with
  | .name name => setVariable name value
  | .entry name keys => do
      let key ← engine.key keys
      changeTable name (·.set key value)
  | .field number => do setField (integer (← engine.evaluate number)) value
  | .several [inner] =>
      match inner with
      | .name name => setVariable name value
      | .field number => do setField (integer (← engine.evaluate number)) value
      | _ => return
  | _ => return

/-- Replace matches in a target; the answer is their number. -/
def substitute (engine : Engine) (all : Bool) (arguments : List Expression) : Run Value := do
  match arguments with
  | pattern :: template :: rest => do
      let regex ← engine.regexFor pattern
      let template ← toText (← engine.evaluate template)
      let target := rest.headD (.field (.literal (.ofInt 0)))
      let text ← toText (← engine.evaluate target)
      let found := if all then regex.allMatches text else (regex.search text).toList
      if !found.isEmpty then engine.store target (.text (replaced text template found))
      return .ofInt found.length
  | _ => return .unset

/-- A call of a function of the language. -/
def builtin (engine : Engine) (name : Octets) (arguments : List Expression) : Run Value := do
  let is (word : String) : Bool := name = word.toList
  if is "sub" then engine.substitute false arguments
  else if is "gsub" then engine.substitute true arguments
  else if is "length" && arguments.isEmpty then
    pureBuiltin name [(← get).record]
  else
    match arguments with
    | [.name table] =>
        let key ← tableName table
        match (← get).tables[key]? with
        | some found => if is "length" then return .ofInt found.entries.size
        | none => pure ()
        pureBuiltin name [← engine.evaluate (.name table)]
    | subject :: pattern :: rest =>
        if is "match" then
          let text ← toText (← engine.evaluate subject)
          let regex ← engine.regexFor pattern
          let (start, length) : Int × Int :=
            match regex.search text with
            | some found => (found.start + 1, (found.stop : Int) - found.start)
            | none => (0, -1)
          setVariable "RSTART".toList (.ofInt start)
          setVariable "RLENGTH".toList (.ofInt length)
          return .ofInt start
        else if is "split" then
          let text ← toText (← engine.evaluate subject)
          let parts : List Octets ←
            match rest with
            | [] => do split (← textOf "FS") text
            | .pattern regex :: _ =>
                if text.isEmpty then pure [] else pure (between regex text)
            | separator :: _ => do split (← toText (← engine.evaluate separator)) text
          let filled := parts.foldl
            (fun (table, number) part =>
              (table.set (Text.ofNat number) (.input part), number + 1)) (Table.empty, 1)
          match pattern with
          | .name table => changeTable table fun _ => filled.1
          | _ => pure ()
          return .ofInt parts.length
        else pureBuiltin name (← arguments.mapM engine.evaluate)
    | arguments => do pureBuiltin name (← arguments.mapM engine.evaluate)

/-- Bind a parameter to an argument. -/
def bindParameter (engine : Engine) (parameter : Octets) (argument : Option Expression) :
    Run Local := do
  match argument with
  | some (.name name) =>
      return ⟨parameter, ← valueOf name, ← tableName name⟩
  | argument => do
      let value : Value ←
        match argument with
        | some expression => engine.evaluate expression
        | none => pure .unset
      let made := (← get).made
      modify fun bench => { bench with made := made + 1 }
      return ⟨parameter, value, '\x00' :: Text.ofNat made⟩

/-- A call of a function of the program. -/
def call (engine : Engine) (name : Octets) (arguments : List Expression) : Run Value := do
  match (← get).functions.find? (·.name == name) with
  | none => return .unset
  | some function => do
      let count := function.parameters.length
      let given := arguments.map some ++ List.replicate (count - arguments.length) none
      let mut frame : List Local := []
      for (parameter, argument) in function.parameters.zip given do
        frame := (← engine.bindParameter parameter argument) :: frame
      let bound := frame
      modify fun bench => { bench with frames := bound :: bench.frames }
      let outcome ← attempt (engine.perform function.body)
      modify fun bench =>
        { bench with
          frames := bench.frames.drop 1
          tables := bound.foldl
            (fun tables parameter =>
              if parameter.table.head? == some '\x00' &&
                  !(bench.frames.drop 1).any fun frame => frame.any fun other =>
                    other.table == parameter.table
              then tables.erase parameter.table else tables) bench.tables }
      match outcome with
      | .ok () => return .unset
      | .error (.back value) => return value
      | .error jump => throw jump

/-- Take a line. -/
def takeLine (engine : Engine) (origin : Origin) (source target : Option Expression) :
    Run Value := do
  let keep (line : Octets) : Run Unit :=
    match target with
    | some target => engine.store target (.input line)
    | none => setRecord (.input line)
  match origin with
  | .inputs => do
      match ← nextLine with
      | some line => do
          keep line
          return .ofInt 1
      | none => return .ofInt 0
  | origin => do
      let name : Octets ←
        match source with
        | some expression => do toText (← engine.evaluate expression)
        | none => pure []
      match ← lineFrom (origin = .command) name with
      | some (some line) => do
          keep line
          return .ofInt 1
      | some none => return .ofInt 0
      | none => return .ofInt (-1)

/-- Evaluate an expression, the parts of it by an engine. -/
def evaluateBy (engine : Engine) (expression : Expression) : Run Value := do
  let truth (expression : Expression) : Run Bool := do
    return (← engine.evaluate expression).isTrue
  match expression with
  | .literal value => return value
  | .pattern regex => do return .ofBool (regex.isMatch (← toText (← get).record))
  | .name name => valueOf name
  | .entry name keys => do
      let key ← engine.key keys
      match (← table name).get? key with
      | some value => return value
      | none => do
          changeTable name (·.set key .unset)
          return .unset
  | .field number => do field (integer (← engine.evaluate number))
  | .assign none target value => do
      let value ← engine.evaluate value
      engine.store target value
      return value
  | .assign (some operator) target value => do
      let value ← engine.evaluate value
      let old ← engine.evaluate target
      let result := Value.number (operator.apply old.quantity value.quantity)
      engine.store target result
      return result
  | .choose condition first second => do
      if ← truth condition then engine.evaluate first else engine.evaluate second
  | .either first second => do
      if ← truth first then return .ofBool true else return .ofBool (← truth second)
  | .both first second => do
      if ← truth first then return .ofBool (← truth second) else return .ofBool false
  | .member keys name => do
      let key ← engine.key keys
      return .ofBool ((← table name).get? key).isSome
  | .fits subject pattern => do
      let text ← toText (← engine.evaluate subject)
      return .ofBool ((← engine.regexFor pattern).isMatch text)
  | .compare relation first second => do
      let first ← engine.evaluate first
      let second ← engine.evaluate second
      return .ofBool (relation.holds (first.order? (← conversion) second))
  | .join first second => do
      let first ← toText (← engine.evaluate first)
      let second ← toText (← engine.evaluate second)
      return .text (first ++ second)
  | .calculate operator first second => do
      let first ← engine.evaluate first
      let second ← engine.evaluate second
      return .number (operator.apply first.quantity second.quantity)
  | .negation value => do return .ofBool (!(← truth value))
  | .signed negative value => do
      let quantity := (← engine.evaluate value).quantity
      return .number (if negative then quantity.negated else quantity)
  | .count up fresh target => do
      let old := (← engine.evaluate target).quantity
      let new := old.add (.ofInt (if up then 1 else -1))
      engine.store target (.number new)
      return .number (if fresh then new else old)
  | .builtin name arguments => engine.builtin name arguments
  | .call name arguments => engine.call name arguments
  | .line origin source target => engine.takeLine origin source target
  | .several [value] => engine.evaluate value
  | .several values => do return .text (← engine.key values)

/-- Print values. -/
def print
    (engine : Engine)
    (inFormat : Bool)
    (values : List Expression)
    (outlet : Option (Outlet × Expression)) : Run Unit := do
  let found : List Value ←
    if values.isEmpty then pure [(← get).record] else values.mapM engine.evaluate
  let octets : Octets ←
    if inFormat then do
      format "printf" (← toText (found.headD Value.unset)) (found.drop 1)
    else do
      let conversion ← textOf "OFMT"
      pure (Text.joinWith (← textOf "OFS") (found.map (Value.toText conversion)) ++
        (← textOf "ORS"))
  match outlet with
  | none => tool (Tool.print octets)
  | some (outlet, name) => do
      let name ← toText (← engine.evaluate name)
      printTo outlet name octets

/-- Run a round of a loop; the answer tells whether the loop goes on. -/
def round (engine : Engine) (body : Statement) : Run Bool := do
  match ← attempt (engine.perform body) with
  | .ok () => return true
  | .error .resume => return true
  | .error .leave => return false
  | .error jump => throw jump

/-- Perform a statement, the parts of it by an engine. -/
def performBy (engine : Engine) (statement : Statement) : Run Unit := do
  let truth (expression : Expression) : Run Bool := do
    return (← engine.evaluate expression).isTrue
  match statement with
  | .compute value => do
      let _ ← engine.evaluate value
      return
  | .print inFormat values outlet => engine.print inFormat values outlet
  | .choose condition first second => do
      if ← truth condition then engine.perform first else engine.perform second
  | .during condition body => do
      let step : Run (Option Unit) := do
        if ← truth condition then
          if ← engine.round body then return none
        return some ()
      iterate step Program.patience
  | .again body condition => do
      let step : Run (Option Unit) := do
        if ← engine.round body then
          if ← truth condition then return none
        return some ()
      iterate step Program.patience
  | .loop first condition step body => do
      engine.perform first
      let next : Run (Option Unit) := do
        let goesOn : Bool ←
          match condition with
          | some condition => truth condition
          | none => pure true
        if goesOn then
          if ← engine.round body then
            engine.perform step
            return none
        return some ()
      iterate next Program.patience
  | .visit name from_ body => do
      let mut going := true
      for key in (← table from_).keys do
        if going then
          setVariable name (.text key)
          going ← engine.round body
  | .block body => for inner in body do engine.perform inner
  | .leave => throw .leave
  | .resume => throw .resume
  | .next => throw .next
  | .nextInput => throw .nextInput
  | .exit status => do
      match status with
      | some expression => do
          let status := integer (← engine.evaluate expression)
          modify fun bench => { bench with status := (status % 256).toNat }
      | none => pure ()
      throw .exit
  | .back value => do
      match value with
      | some expression => throw (.back (← engine.evaluate expression))
      | none => throw (.back .unset)
  | .delete name keys =>
      match keys with
      | some keys => do
          let key ← engine.key keys
          changeTable name (·.erase key)
      | none => changeTable name fun _ => .empty

/-- The engine for what is nested up to a depth. -/
def within : (depth : Nat) → Engine
  | 0 => exhausted
  | depth + 1 =>
      ⟨fun expression => evaluateBy (within depth) expression,
        fun statement => performBy (within depth) statement⟩

/-- How deep expressions, statements and calls may be nested. -/
def depth : Nat := 100000

/-- Whether a rule applies to the line, given its number. -/
def applies (engine : Engine) (index : Nat) (occasion : Occasion) : Run Bool := do
  let truth (expression : Expression) : Run Bool := do
    return (← engine.evaluate expression).isTrue
  match occasion with
  | .always => return true
  | .condition value => truth value
  | .range start stop => do
      let inside : Bool ←
        if (← get).ranges.contains index then pure true else truth start
      if inside then
        let ends ← truth stop
        modify fun bench =>
          { bench with
            ranges := if ends then bench.ranges.erase index
              else if bench.ranges.contains index then bench.ranges
              else index :: bench.ranges }
      return inside
  | _ => return false

/-- Apply the rules to the line. -/
def takeRules (engine : Engine) (rules : List (Nat × Rule)) : Run Unit := do
  for (index, rule) in rules do
    if ← engine.applies index rule.occasion then engine.perform rule.action

/-- Apply the rules to each line of the inputs. -/
def takeLines (engine : Engine) (rules : List (Nat × Rule)) : Run Unit := do
  let step : Run (Option Unit) := do
    match ← nextLine with
    | none => return some ()
    | some line => do
        setRecord (.input line)
        match ← attempt (engine.takeRules rules) with
        | .ok () => return none
        | .error .next => return none
        | .error .nextInput => do
            closeInput
            return none
        | .error jump => throw jump
  iterate step Program.patience

/-- Run all rules in their order. -/
def runAll (engine : Engine) (rules : List Rule) : Run Unit := do
  let numbered := rules.zipIdx.map fun (rule, index) => (index, rule)
  let isFirst (rule : Rule) : Bool := match rule.occasion with
    | .first => true
    | _ => false
  let isLast (rule : Rule) : Bool := match rule.occasion with
    | .last => true
    | _ => false
  let middle := numbered.filter fun (_, rule) => !isFirst rule && !isLast rule
  let outcome ← attempt do
    for rule in rules.filter isFirst do engine.perform rule.action
    if !middle.isEmpty || rules.any isLast then engine.takeLines middle
  match outcome with
  | .ok () => pure ()
  | .error .exit => pure ()
  | .error jump => throw jump
  for rule in rules.filter isLast do engine.perform rule.action

end Engine

/-- Close all that was printed to. -/
def closeAll : Run Unit := do
  for drain in (← get).drains do
    let _ ← closeDrain drain

end Run

/-- How the tool is called. -/
def usage : Octets :=
  ("Usage: mawk [Options] [Program] [file ...]\n" ++
    "\n" ++
    "Program:\n" ++
    "    The -f option value is the name of a file containing program text.\n" ++
    "    If no -f option is given, a \"--\" ends option processing; the following\n" ++
    "    parameters are the program text.\n" ++
    "\n" ++
    "Options:\n" ++
    "    -f program-file  Program  text is read from file instead of from the\n" ++
    "                     command-line.  Multiple -f options are accepted.\n" ++
    "    -F value         sets the field separator, FS, to value.\n" ++
    "    -v var=value     assigns value to program variable var.\n" ++
    "    --               unambiguous end of options.\n" ++
    "\n" ++
    "    Implementation-specific options are prefixed with \"-W\".  They can be\n" ++
    "    abbreviated:\n" ++
    "\n" ++
    "    -W version       show version information and exit.\n" ++
    "    -W compat        pre-POSIX 2001.\n" ++
    "    -W dump          show assembler-like listing of program and exit.\n" ++
    "    -W help          show this message and exit.\n" ++
    "    -W interactive   set unbuffered output, line-buffered input.\n" ++
    "    -W exec file     use file as program as well as last option.\n" ++
    "    -W posix         stricter POSIX checking.\n" ++
    "    -W random=number set initial random seed.\n" ++
    "    -W sprintf=number adjust size of sprintf buffer.\n" ++
    "    -W usage         show this message and exit.\n").toList

/-- The variables at the beginning. -/
def firstGlobals : Std.TreeMap Octets Value :=
  let texts := [("FS", " "), ("OFS", " "), ("ORS", "\n"), ("RS", "\n"), ("SUBSEP", "\x1c"),
    ("CONVFMT", "%.6g"), ("OFMT", "%.6g"), ("FILENAME", "")]
  let named := texts.foldl
    (fun globals (name, value) => globals.insert name.toList (Value.text value.toList))
    (Std.TreeMap.empty : Std.TreeMap Octets Value)
  ["NR", "FNR", "RSTART"].foldl
    (fun globals name => globals.insert name.toList (Value.ofInt 0)) named

/-- The options of a call: those that were read, and the words after them. -/
structure Options where
  /-- The assignments, the last one first. -/
  assignments : List (Octets × Octets)
  /-- The parts of the program, the last one first. -/
  files : List Octets

/-- Read the options of a call. -/
def readOptions : (limit : Nat) → List Octets → Options → Tool (Options × List Octets)
  | 0, words, options => return (options, words)
  | limit + 1, words, options => do
      match words with
      | ['-', '-'] :: rest => return (options, rest)
      | ('-' :: c :: more) :: rest =>
          if ['F', 'f', 'v'].contains c then
            match more, rest with
            | [], [] =>
                Tool.die 2 ("option -".toList ++ c :: " lacks argument".toList)
            | more, rest => do
                let (value, rest) : Octets × List Octets :=
                  match more, rest with
                  | [], value :: rest => (value, rest)
                  | more, rest => (more, rest)
                if c = 'f' then
                  readOptions limit rest { options with files := value :: options.files }
                else
                  let word := if c = 'F' then "FS=".toList ++ value else value
                  match Run.assignment? word with
                  | some found =>
                      readOptions limit rest
                        { options with assignments := found :: options.assignments }
                  | none =>
                      Tool.die 2 ("improper assignment: -v ".toList ++ value)
          else Tool.die 2 ("not an option: ".toList ++ '-' :: c :: more)
      | words => return (options, words)

end Awk

/-- Run a program of patterns and actions over inputs. -/
def awk (launch : Launch) : Work := fun start => do
  Tool.lamenting 2 fun code =>
    "close failed on file \"/dev/stdout\" (".toList ++ code.title ++ [')']
  let (options, rest) ← Awk.readOptions start.arguments.length start.arguments ⟨[], []⟩
  let (text, operands) : Octets × List Octets ←
    if options.files.isEmpty then
      match rest with
      | [] => do
          let _ ← Tool.program (.write 2 Awk.usage)
          Tool.exit 0
      | text :: operands => pure (text, operands)
    else do
      let mut text : Octets := []
      for path in options.files.reverse do
        match ← Tool.readInput path with
        | .ok content => text := text ++ content
        | .error code =>
            Tool.die 2 ("cannot open \"".toList ++ path ++ "\" (".toList ++ code.title ++ [')'])
      pure (text, rest)
  match Awk.readRules text with
  | .error message => Tool.die 2 message
  | .ok found => do
      let given := (options.assignments.reverse).foldl
        (fun globals (name, value) => globals.insert name (Awk.Value.input value))
        Awk.firstGlobals
      let words := start.name :: operands
      let arguments := words.zipIdx.foldl
        (fun table (word, index) => table.set (Text.ofNat index) (Awk.Value.input word))
        Awk.Table.empty
      let environment := start.environment.foldl
        (fun table (name, value) => table.set name (Awk.Value.input value)) Awk.Table.empty
      let tables : Std.TreeMap Octets Awk.Table :=
        (Std.TreeMap.empty.insert "ARGV".toList arguments).insert "ENVIRON".toList environment
      let bench : Awk.Bench :=
        { launch := launch, start := start, functions := found.functions
          globals := given.insert "ARGC".toList (.ofInt words.length)
          tables := tables, frames := [], made := 0, record := .input [], fields := []
          operands := operands, named := false, input := none, sources := [], drains := []
          ranges := [], status := 0 }
      let engine := Awk.Run.Engine.within Awk.Run.Engine.depth
      let (_, bench) ← (ExceptT.run (Awk.Run.Engine.runAll engine found.rules)).run bench
      let (_, bench) ← (ExceptT.run Awk.Run.closeAll).run bench
      if bench.status != 0 then Tool.exit bench.status

end Utility
end Host
end Turnwise
