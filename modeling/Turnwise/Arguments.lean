import Turnwise.Settings

/-!
# Command-line arguments

A command line holds at most one file and at most one value for each option.  The
arguments are read from left to right.  The value of an option is checked when the
next argument has been recognised, so a later argument that is not known wins over
a value that is no good.
-/

namespace Turnwise

/-- What a command line asks for. -/
structure Arguments where
  /-- The file to extend. -/
  file : Option Path
  /-- The program that compiles and runs. -/
  go : Option Path
  /-- The program that formats. -/
  goimports : Option Path
  /-- Seconds for one run. -/
  timeout : Option Nat
  /-- Compile attempts per turn. -/
  maxPasses : Option Nat
  /-- Where discards stand. -/
  placement : Option Placement
  deriving DecidableEq, Repr

namespace Arguments

/-- Why a command line starts no session. -/
inductive Refusal where
  /-- The user asks for help. -/
  | help
  /-- The user asks for the version. -/
  | version
  /-- An argument is not known, or there is one file too many. -/
  | unknown
  /-- An option has no value, or a path is empty. -/
  | missingValue
  /-- A value is not of the kind that its option needs. -/
  | badValue
  /-- An option is given twice. -/
  | repeated
  /-- A value is attached to an option that takes none. -/
  | unneededValue
  deriving DecidableEq, Repr

/-- Asking for help or for the version is no error. -/
def Refusal.isError : Refusal → Bool
  | .help => false
  | .version => false
  | _ => true

/-- What a value can be given to. -/
inductive Slot where
  | file
  | go
  | goimports
  | timeout
  | maxPasses
  | placement
  deriving DecidableEq, Repr

/-- What an option name stands for. -/
inductive Meaning where
  /-- An option that takes a value. -/
  | value (slot : Slot)
  /-- An option that ends the reading. -/
  | stop (refusal : Refusal)
  deriving DecidableEq, Repr

/-- The meaning of the name after two dashes. -/
def longMeaning? (name : Text) : Option Meaning :=
  ([("go", Meaning.value .go), ("goimports", .value .goimports),
      ("timeout", .value .timeout), ("max-fix-passes", .value .maxPasses),
      ("fix-placement", .value .placement), ("help", .stop .help),
      ("version", .stop .version)].find? (·.1.toList == name)).map (·.2)

/-- The meaning of the letter after one dash. -/
def shortMeaning? (letter : Char) : Option Meaning :=
  if letter = 'h' then some (.stop .help)
  else if letter = 'V' then some (.stop .version)
  else none

/-- A command line that asks for nothing. -/
def none : Arguments :=
  ⟨.none, .none, .none, .none, .none, .none⟩

/-- A path from the command line; it is not empty. -/
def path (value : Text) : Except Refusal Path :=
  if value.isEmpty then .error .missingValue else .ok value

/-- A number from the command line. -/
def number (value : Text) : Except Refusal Nat :=
  match Text.natBelow? Settings.numberBound value with
  | some number => .ok number
  | .none => .error .badValue

/-- Put a value into an empty place. -/
def fill (place : Option α) (value : Except Refusal α) : Except Refusal (Option α) :=
  if place.isSome then .error .repeated else value.map some

/-- Give a value to a slot. -/
def give (arguments : Arguments) (value : Text) : Slot → Except Refusal Arguments
  | .file => do return { arguments with file := ← fill arguments.file (path value) }
  | .go => do return { arguments with go := ← fill arguments.go (path value) }
  | .goimports => do
      return { arguments with goimports := ← fill arguments.goimports (path value) }
  | .timeout => do return { arguments with timeout := ← fill arguments.timeout (number value) }
  | .maxPasses => do
      return { arguments with maxPasses := ← fill arguments.maxPasses (number value) }
  | .placement => do
      return { arguments with
        placement := ← fill arguments.placement
          (match Placement.ofName? value with
          | some placement => .ok placement
          | .none => .error .badValue) }

/-- Where the reading of a command line stands. -/
structure Reading where
  /-- What has been settled. -/
  settled : Arguments
  /-- A slot that was named last, with its value when that was read. -/
  open? : Option (Slot × Option Text)
  /-- Whether a file was named. -/
  fileNamed : Bool
  /-- Whether every further argument is a file. -/
  onlyFiles : Bool

/-- Settle the slot that was named last. -/
def Reading.settle (reading : Reading) : Except Refusal Arguments :=
  match reading.open? with
  | .none => .ok reading.settled
  | some (_, .none) => .error .missingValue
  | some (slot, some value) => reading.settled.give value slot

/-- Take an argument that names a file. -/
def Reading.takeFile (reading : Reading) (argument : Text) : Except Refusal Reading := do
  if reading.fileNamed then throw .unknown
  let settled ← reading.settle
  return { reading with
    settled := settled, open? := some (.file, some argument), fileNamed := true }

/-- Take an option with the value attached to it, if there is one. -/
def Reading.takeOption
    (reading : Reading)
    (attached : Option Text) : Meaning → Except Refusal Reading
  | .stop refusal => do
      if attached.isSome then throw .unneededValue
      let _ ← reading.settle
      throw refusal
  | .value slot => do
      let settled ← reading.settle
      match attached with
      | some value =>
          return { reading with settled := ← settled.give value slot, open? := .none }
      | .none => return { reading with settled := settled, open? := some (slot, .none) }

/-- The name of a long option and the value attached to it. -/
def splitLong (option : Text) : Text × Option Text :=
  match Text.cutAt? ['='] option with
  | some (name, value) => (name, some value)
  | .none => (option, .none)

/-- Take one argument. -/
def Reading.take (reading : Reading) (argument : Text) : Except Refusal Reading :=
  if reading.onlyFiles then reading.takeFile argument
  else
    match argument, reading.open? with
    | ['-', '-'], _ => .ok { reading with onlyFiles := true }
    | '-' :: '-' :: option, _ =>
        match longMeaning? (splitLong option).1 with
        | some meaning => reading.takeOption (splitLong option).2 meaning
        | .none => .error .unknown
    | '-' :: letter :: _, _ =>
        match shortMeaning? letter with
        | some meaning => reading.takeOption .none meaning
        | .none => .error .unknown
    | _, some (slot, .none) => .ok { reading with open? := some (slot, some argument) }
    | _, _ => reading.takeFile argument

/-- Read the arguments after the program name. -/
def parse (arguments : List Text) : Except Refusal Arguments := do
  let reading ← arguments.foldlM Reading.take ⟨Arguments.none, .none, false, false⟩
  reading.settle

/-- The settings of an environment, changed as a command line asks. -/
def apply (arguments : Arguments) (settings : Settings) : Settings :=
  { tools :=
      { settings.tools with
        go := arguments.go.getD settings.tools.go
        goimports := arguments.goimports.getD settings.tools.goimports
        runSeconds := arguments.timeout.getD settings.tools.runSeconds }
    repair :=
      { maxPasses := arguments.maxPasses.getD settings.repair.maxPasses
        placement := arguments.placement.getD settings.repair.placement }
    history := settings.history }

end Arguments
end Turnwise
