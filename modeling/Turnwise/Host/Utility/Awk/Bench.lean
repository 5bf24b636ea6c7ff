import Turnwise.Host.Utility.Awk.Reader
import Turnwise.Host.Utility.Tool

/-!
# The state of a program of patterns and actions

A running program has variables and tables, a line with its fields, inputs from which
lines are taken, and files and commands to which it prints.
-/

namespace Turnwise
namespace Host
namespace Utility
namespace Awk

open SystemError (Code)

/-- Something that lines are taken from. -/
structure Stream where
  /-- Its descriptor. -/
  descriptor : Nat
  /-- What was read and not taken. -/
  buffer : Octets
  /-- All has been read. -/
  drained : Bool
  /-- The command that writes it. -/
  child : Option Nat

/-- Something that is printed to. -/
structure Drain where
  /-- Its name. -/
  name : Octets
  /-- Its descriptor. -/
  descriptor : Nat
  /-- What was printed and not written, the newest piece first. -/
  pending : List Octets
  /-- The command that reads it. -/
  child : Option Nat

/-- A parameter of a function that runs. -/
structure Local where
  /-- Its name. -/
  name : Octets
  /-- Its value. -/
  value : Value
  /-- The table that it stands for where a table is meant. -/
  table : Octets

/-- What a program knows while it runs. -/
structure Bench where
  /-- How commands are started. -/
  launch : Launch
  /-- With what the program was started. -/
  start : Start
  /-- The functions. -/
  functions : List Function
  /-- The variables. -/
  globals : Std.TreeMap Octets Value
  /-- The tables. -/
  tables : Std.TreeMap Octets Table
  /-- The parameters of the functions that run, the innermost first. -/
  frames : List (List Local)
  /-- How many tables were made for parameters. -/
  made : Nat
  /-- The line. -/
  record : Value
  /-- Its fields. -/
  fields : List Value
  /-- The inputs that are left. -/
  operands : List Octets
  /-- An input has been named. -/
  named : Bool
  /-- The input that is read. -/
  input : Option Stream
  /-- What lines were asked from, and whether each is a command. -/
  sources : List ((Bool × Octets) × Stream)
  /-- What was printed to. -/
  drains : List Drain
  /-- The rules whose ranges have begun. -/
  ranges : List Nat
  /-- The status at the end. -/
  status : Nat

/-- Why a statement does not go on with the next one. -/
inductive Jump where
  /-- The loop is left. -/
  | leave
  /-- The loop goes on with its next round. -/
  | resume
  /-- The next line comes. -/
  | next
  /-- The next input comes. -/
  | nextInput
  /-- The program ends. -/
  | exit
  /-- The function returns. -/
  | back (value : Value)

/-- A step of a program. -/
abbrev Run := ExceptT Jump (StateT Bench Tool)

namespace Run

/-- Make a step of a tool a step of a program. -/
def tool (step : Tool α) : Run α :=
  liftM (liftM step : StateT Bench Tool α)

/-- Make a request. -/
def ask (step : Program α) : Run α :=
  tool (Tool.program step)

/-- Run a step, and tell whether it jumped. -/
def attempt (step : Run α) : Run (Except Jump α) :=
  ExceptT.mk do return .ok (← ExceptT.run step)

/-- Complain, before what was printed, and exit. -/
def die (message : Octets) : Run α := do
  let name := (← tool get).name
  let _ ← ask (.write 2 (name ++ ": ".toList ++ message ++ ['\n']))
  tool (Tool.exit 2)

/-- The table that a name stands for. -/
def tableName (name : Octets) : Run Octets := do
  match ((← get).frames.headD []).find? (·.name == name) with
  | some parameter => return parameter.table
  | none => return name

/-- The value of a variable. -/
def valueOf (name : Octets) : Run Value := do
  let bench ← get
  match (bench.frames.headD []).find? (·.name == name) with
  | some parameter => return parameter.value
  | none =>
      if name = "NF".toList then return .ofInt bench.fields.length
      else return (bench.globals[name]?).getD .unset

/-- How numbers become texts. -/
def conversion : Run Octets := do
  return (((← get).globals["CONVFMT".toList]?).getD .unset).toText "%.6g".toList

/-- A value as a text. -/
def toText (value : Value) : Run Octets := do
  match value with
  | .number _ => return value.toText (← conversion)
  | value => return value.toText []

/-- The text of a variable. -/
def textOf (name : String) : Run Octets := do
  toText (← valueOf name.toList)

/-- Complain about something that happened at a line, and exit. -/
def failAt (message : Octets) : Run α := do
  let path ← textOf "FILENAME"
  let own ← textOf "FNR"
  let all ← textOf "NR"
  die ("run time error: ".toList ++ message ++ "\n\tFILENAME=\"".toList ++ path ++
    "\" FNR=".toList ++ own ++ " NR=".toList ++ all)

/-- The expression of a pattern. -/
def regex (pattern : Octets) : Run Regex := do
  match regexOf pattern with
  | .ok regex => return regex
  | .error message => die message

/-- The parts of a text between the matches of an expression. -/
def between (regex : Regex) (text : Octets) : List Octets :=
  let found := (regex.allMatches text).filter fun found => found.start < found.stop
  let starts := 0 :: found.map (·.stop)
  let stops := found.map (·.start) ++ [text.length]
  (starts.zip stops).map fun (start, stop) => (text.drop start).take (stop - start)

/-- Split a text into fields by a separator. -/
def split (separator text : Octets) : Run (List Octets) := do
  if text.isEmpty then return []
  match separator with
  | [' '] =>
      return (text.splitBy fun a b => Octets.isSpace a == Octets.isSpace b).filter fun part =>
        !part.all Octets.isSpace
  | [] => return text.map ([·])
  | [c] => return text.splitOn c
  | separator => return between (← regex separator) text

/-- Split a line into fields. -/
def splitLine (text : Octets) : Run (List Value) := do
  let separator ← textOf "FS"
  let paragraphs := (← textOf "RS").isEmpty
  let parts : List Octets ←
    if paragraphs && separator != [' '] then
      return (← (text.splitOn '\n').mapM (split separator)).flatten.map Value.input
    else split separator text
  return parts.map Value.input

/-- Set the line. -/
def setRecord (value : Value) : Run Unit := do
  let fields ← splitLine (← toText value)
  modify fun bench => { bench with record := value, fields := fields }

/-- Make the line again from its fields. -/
def setFields (fields : List Value) : Run Unit := do
  let texts ← fields.mapM toText
  let separator ← textOf "OFS"
  modify fun bench =>
    { bench with record := .input (Text.joinWith separator texts), fields := fields }

/-- The most fields that a line may have. -/
def fieldLimit : Nat := 1000000

/-- Set a field. -/
def setField (number : Int) (value : Value) : Run Unit := do
  if number < 0 then failAt ("negative field index $".toList ++ Text.ofInt number)
  else if fieldLimit < number.toNat then failAt "maximum number of fields exceeded".toList
  else
    match number.toNat with
    | 0 => setRecord value
    | index + 1 => do
        let fields := (← get).fields
        let padded := fields ++ List.replicate (index + 1 - fields.length) (.input [])
        setFields (padded.set index value)

/-- A field. -/
def field (number : Int) : Run Value := do
  if number < 0 then failAt ("negative field index $".toList ++ Text.ofInt number)
  else
    match number.toNat with
    | 0 => return (← get).record
    | index + 1 => return ((← get).fields[index]?).getD .unset

/-- Set a variable. -/
def setVariable (name : Octets) (value : Value) : Run Unit := do
  let bench ← get
  match bench.frames with
  | frame :: frames =>
      if frame.any (·.name == name) then
        let changed := frame.map fun parameter =>
          if parameter.name == name then { parameter with value := value } else parameter
        set { bench with frames := changed :: frames }
        return
  | [] => pure ()
  if name = "NF".toList then
    let count := ((value.quantity.whole?).getD 0).toNat
    let fields := bench.fields.take count
    setFields (fields ++ List.replicate (min count fieldLimit - fields.length) (.input []))
  else set { bench with globals := bench.globals.insert name value }

/-- The table with a name. -/
def table (name : Octets) : Run Table := do
  let key ← tableName name
  return ((← get).tables[key]?).getD .empty

/-- Change the table with a name. -/
def changeTable (name : Octets) (change : Table → Table) : Run Unit := do
  let key ← tableName name
  modify fun bench =>
    { bench with
      tables := bench.tables.insert key (change ((bench.tables[key]?).getD .empty)) }

/-- How much is read at a time. -/
def blockSize : Nat := 4096

/-- How lines are divided. -/
inductive Division where
  /-- By a character. -/
  | character (c : Char)
  /-- By empty lines. -/
  | paragraphs
  /-- By what matches an expression. -/
  | regex (gap : Regex)

/-- How lines are divided now. -/
def division : Run Division := do
  match ← textOf "RS" with
  | [] => return .paragraphs
  | [c] => return .character c
  | pattern => return .regex (← regex pattern)

/-- Take a line from what was read; nothing is found if more must be read first. -/
def Division.take? (division : Division) (stream : Stream) :
    Option (Option Octets × Stream) :=
  let last : Option (Option Octets × Stream) :=
    if !stream.drained then none
    else if stream.buffer.isEmpty then some (none, stream)
    else some (some stream.buffer, { stream with buffer := [] })
  match division with
  | .character c =>
      let line := stream.buffer.takeWhile (· != c)
      match stream.buffer.drop line.length with
      | _ :: rest => some (some line, { stream with buffer := rest })
      | [] => last
  | .paragraphs =>
      if !stream.drained then none
      else
        let text : Octets := stream.buffer.dropWhile (· == '\n')
        match Regex.parse ⟨true, false, false⟩ "\n\n+".toList with
        | .ok gap =>
            match gap.search text with
            | some found =>
                some (some (text.take found.start),
                  { stream with buffer := text.drop found.stop })
            | none =>
                if text.isEmpty then some (none, { stream with buffer := [] })
                else
                  let line : Octets := text.dropEndWhile (· == '\n')
                  some (some line, { stream with buffer := [] })
        | .error _ => last
  | .regex gap =>
      if !stream.drained then none
      else
        match gap.search stream.buffer with
        | some found =>
            if found.start < found.stop then
              some (some (stream.buffer.take found.start),
                { stream with buffer := stream.buffer.drop found.stop })
            else last
        | none => last

/-- The next line of a stream; a failure may come instead. -/
def nextOf (division : Division) (stream : Stream) :
    Tool (Except Code (Option Octets × Stream)) :=
  Tool.repeating stream fun stream => do
    match division.take? stream with
    | some found => return .inr (.ok found)
    | none =>
        match ← Tool.program (.read stream.descriptor blockSize) with
        | .ok [] => return .inl { stream with drained := true }
        | .ok block => return .inl { stream with buffer := stream.buffer ++ block }
        | .error code => return .inr (.error code)

/-- What a word that assigns says: the name and the value. -/
def assignment? (word : Octets) : Option (Octets × Octets) :=
  let name := word.takeWhile inName
  match name, word.drop name.length with
  | c :: _, '=' :: value =>
      if beginsName c then
        some (name, match readQuoted? (2 * value.length + 2) (value.flatMap fun c =>
            if c = '"' then ['\\', '"'] else [c]) [] with
          | some (octets, _) => octets
          | none =>
              match readQuoted? (2 * value.length + 3) ((value.flatMap fun c =>
                  if c = '"' then ['\\', '"'] else [c]) ++ ['"']) [] with
              | some (octets, _) => octets
              | none => value)
      else none
  | _, _ => none

/-- Open the next input; the answer tells whether there was one. -/
def openNext : Run Bool := do
  let bench ← get
  match bench.operands with
  | [] =>
      if bench.named then return false
      else
        set { bench with named := true, input := some ⟨0, [], false, none⟩ }
        return true
  | word :: rest => do
      set { bench with operands := rest }
      match assignment? word with
      | some (name, value) => do
          setVariable name (.input value)
          return true
      | none =>
          if word.isEmpty then return true
          let descriptor : Nat ←
            if word = ['-'] then pure 0
            else
              match ← ask (.openFile word .reading) with
              | .ok descriptor => pure descriptor
              | .error code =>
                  die ("cannot open \"".toList ++ word ++ "\" (".toList ++ code.title ++ [')'])
          modify fun bench =>
            { bench with named := true, input := some ⟨descriptor, [], false, none⟩ }
          setVariable "FILENAME".toList (.input word)
          setVariable "FNR".toList (.ofInt 0)
          return true

/-- Leave the input. -/
def closeInput : Run Unit := do
  match (← get).input with
  | some stream => do
      if stream.descriptor != 0 then ask (.close stream.descriptor)
      modify fun bench => { bench with input := none }
  | none => return

/-- Count a line in a variable. -/
def countLine (name : String) : Run Unit := do
  setVariable name.toList
    (.number ((← valueOf name.toList).quantity.add (.ofInt 1)))

/-- Take a line of the inputs, if one can be had without opening another input; the answer
tells whether all is done. -/
def stepInput : Run (Option (Option Octets)) := do
  match (← get).input with
  | none => do
      if ← openNext then return none else return some none
  | some stream => do
      let division ← division
      match ← tool (nextOf division stream) with
      | .error code => die ("read error (".toList ++ code.title ++ [')'])
      | .ok (some line, stream) => do
          modify fun bench => { bench with input := some stream }
          countLine "NR"
          countLine "FNR"
          return some (some line)
      | .ok (none, _) => do
          closeInput
          return none

/-- Repeat a step until it gives a result; the limit bounds how often. -/
def iterate (step : Run (Option α)) : (limit : Nat) → Run α
  | 0 => ask .spin
  | limit + 1 => do
      match ← step with
      | some result => return result
      | none => iterate step limit

/-- The next line of the inputs. -/
def nextLine : Run (Option Octets) :=
  iterate stepInput Program.patience

/-- The task of the shell with a command. -/
def shellTask (bench : Bench) (command : Octets) (prepare : Program Unit) : Task :=
  let child : Program Nat := do
    prepare
    let shell : Octets := "/bin/sh".toList
    let _ ← Image.become bench.launch shell
      ⟨"sh".toList, ["-c".toList, command], bench.start.environment⟩
    pure 127
  child.task

/-- Write what was printed to a drain. -/
def flushDrain (drain : Drain) : Run Drain := do
  if !drain.pending.isEmpty then
    let _ ← ask (.write drain.descriptor drain.pending.reverse.flatten)
  return { drain with pending := [] }

/-- Write all that was printed. -/
def flushAll : Run Unit := do
  tool Tool.flush
  let drains ← (← get).drains.mapM flushDrain
  modify fun bench => { bench with drains := drains }

/-- Start a command with a pipe at one of its descriptors; the number of its process and
the other end of the pipe are given. -/
def startCommand (command : Octets) (reads : Bool) : Run (Nat × Nat) := do
  flushAll
  let (source, sink) ← ask .pipe
  let (own, other) := if reads then (sink, source) else (source, sink)
  let bench ← get
  let inherited := bench.drains.map (·.descriptor) ++ bench.sources.map (·.2.descriptor)
  let prepare : Program Unit := do
    let _ ← Program.connect other (if reads then 0 else 1)
    Program.close source
    Program.close sink
    for descriptor in inherited do
      if 2 < descriptor then Program.close descriptor
  let number ← ask (.fork (shellTask bench command prepare))
  ask (.close other)
  return (number, own)

/-- Wait for a command; the answer is its status. -/
def await (number : Nat) : Run Nat := do
  match ← ask (.wait (some number) .deaf) with
  | .ok (some (_, ending)) =>
      match ending with
      | .exited status => return status
      | .signalled signal => return 256 + signal
  | _ => return 0

/-- Write to a drain and close it; the answer is the status of its command. -/
def closeDrain (drain : Drain) : Run Nat := do
  let drain ← flushDrain drain
  if 2 < drain.descriptor then ask (.close drain.descriptor)
  match drain.child with
  | some number => await number
  | none => return 0

/-- Close a stream; the answer is the status of its command. -/
def closeStream (stream : Stream) : Run Nat := do
  if 2 < stream.descriptor then ask (.close stream.descriptor)
  match stream.child with
  | some number => await number
  | none => return 0

/-- Close what has a name; the answer is a status. -/
def closeNamed (name : Octets) : Run Int := do
  let bench ← get
  match bench.drains.find? (·.name == name) with
  | some drain => do
      set { bench with drains := bench.drains.filter (·.name != name) }
      return ← closeDrain drain
  | none =>
      match bench.sources.find? (·.1.2 == name) with
      | some (_, stream) => do
          set { bench with sources := bench.sources.filter (·.1.2 != name) }
          return ← closeStream stream
      | none => return -1

/-- Print elsewhere. -/
def printTo (outlet : Outlet) (name octets : Octets) : Run Unit := do
  if outlet != .command && (name = "/dev/stdout".toList || name = ['-']) then
    tool (Tool.print octets)
  else if outlet != .command && name = "/dev/stderr".toList then
    let _ ← ask (.write 2 octets)
    return
  else
    if !(← get).drains.any (·.name == name) then
      let drain : Drain ←
        if outlet = .command then do
          let (number, descriptor) ← startCommand name true
          pure ⟨name, descriptor, [], some number⟩
        else
          match ← ask (.openFile name (if outlet = .file then .writing else .appending)) with
          | .ok descriptor => pure ⟨name, descriptor, [], none⟩
          | .error code =>
              die ("cannot open \"".toList ++ name ++ "\" for output (".toList ++ code.title ++
                [')'])
      modify fun bench => { bench with drains := bench.drains ++ [drain] }
    modify fun bench =>
      { bench with
        drains := bench.drains.map fun drain =>
          if drain.name == name then { drain with pending := octets :: drain.pending }
          else drain }

/-- The stream that lines are asked from, which is opened if need be. -/
def source? (command : Bool) (name : Octets) : Run (Option Stream) := do
  match (← get).sources.find? (·.1 == (command, name)) with
  | some (_, stream) => return some stream
  | none =>
      if command then
        let (number, descriptor) ← startCommand name false
        return some ⟨descriptor, [], false, some number⟩
      else if name = ['-'] then return some ⟨0, [], false, none⟩
      else
        match ← ask (.openFile name .reading) with
        | .ok descriptor => return some ⟨descriptor, [], false, none⟩
        | .error _ => return none

/-- The next line of a file or of a command; nothing at all comes from a file that cannot
be read. -/
def lineFrom (command : Bool) (name : Octets) : Run (Option (Option Octets)) := do
  match ← source? command name with
  | none => return none
  | some stream => do
      let division ← division
      match ← tool (nextOf division stream) with
      | .error _ => return none
      | .ok (line, stream) => do
          modify fun bench =>
            { bench with
              sources := ((command, name), stream) ::
                bench.sources.filter (·.1 != (command, name)) }
          return some line

end Run
end Awk
end Utility
end Host
end Turnwise
