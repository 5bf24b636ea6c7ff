import Turnwise.Turn.Loop

/-!
# Settings

The settings of a session come from the environment, and the command line changes
them.  The file that keeps the history of lines lies under the home directory
unless its override is an absolute path.
-/

namespace Turnwise

/-- Which tools a session uses, and how long they may run. -/
structure ToolSettings where
  /-- The program that compiles and runs. -/
  go : Path
  /-- The program that formats and completes imports. -/
  goimports : Path
  /-- Seconds for one compile-and-run. -/
  runSeconds : Nat
  /-- Seconds for one pass of the formatter. -/
  formatSeconds : Nat
  deriving DecidableEq, Repr

/-- All settings of a session. -/
structure Settings where
  /-- The tools. -/
  tools : ToolSettings
  /-- How turns repair unused bindings. -/
  repair : RepairSettings
  /-- The file that keeps the history, if one does. -/
  history : Option Path
  deriving DecidableEq, Repr

/-- The values of variables, by name; the last value of a name counts. -/
abbrev Environment := List (Text × Text)

namespace Environment

/-- The value of a variable. -/
def get? (environment : Environment) (name : String) : Option Text :=
  (environment.reverse.find? (·.1 == name.toList)).map (·.2)

/-- Set a variable, in its place or at the end. -/
def set (environment : Environment) (entry : Text × Text) : Environment :=
  if environment.any (·.1 == entry.1) then
    environment.map fun old => if old.1 == entry.1 then entry else old
  else environment ++ [entry]

/-- Each variable once, with its value. -/
def distinct (environment : Environment) : Environment :=
  environment.foldl set []

end Environment

namespace Settings

/-- Durations and counts are numbers of 64 bits. -/
def numberBound : Nat := 0x10000000000000000

/-- The name of the history file under the home directory. -/
def historyName : Text := ".gostep_history".toList

/-- The path of the history file: under the home directory by default, for the
override `~` the home directory itself, and for any other override the path that
it names from there. -/
def historyPath (home : Option Path) (override : Option Text) : Option Path :=
  let raw := (override.getD []).trim
  if raw.isEmpty then home.map (Path.join · historyName)
  else if raw = ['~'] then home
  else
    match Text.after? ['~', '/'] raw with
    | some rest => home.map (Path.join · rest)
    | none => if Path.isAbsolute raw then some raw else home.map (Path.join · raw)

/-- The settings that an environment gives. -/
def ofEnvironment (environment : Environment) : Settings :=
  let number (name : String) (standard : Nat) : Nat :=
    ((environment.get? name).bind (Text.natBelow? numberBound)).getD standard
  { tools :=
      { go := (environment.get? "GOSTEP_GO").getD "go".toList
        goimports := (environment.get? "GOSTEP_GOIMPORTS").getD "goimports".toList
        runSeconds := number "GOSTEP_TIMEOUT_SECS" 60
        formatSeconds := 30 }
    repair :=
      { maxPasses := number "GOSTEP_MAX_FIX_PASSES" 16
        placement := .standard }
    history := historyPath (environment.get? "HOME") (environment.get? "GOSTEP_HISTORY") }

end Settings
end Turnwise
