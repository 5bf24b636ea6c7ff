import Turnwise.Host.Shell.State

/-!
# Names of commands

A name stands for a keyword, another text, a function, a builtin command, or a file
that is looked for in the directories of the search path.
-/

namespace Turnwise
namespace Host
namespace Shell

open SystemError (Code)
open Script (Dialect)

/-- The builtin commands of all shells. -/
def commonBuiltins : List Octets :=
  [".", ":", "[", "alias", "bg", "break", "cd", "command", "continue", "echo", "eval",
    "exec", "exit", "export", "false", "fg", "getopts", "hash", "jobs", "kill", "local", "printf",
    "pwd", "read", "readonly", "return", "set", "shift", "test", "times", "trap", "true",
    "type", "ulimit", "umask", "unalias", "unset", "wait"].map String.toList

/-- The builtin commands of a plain shell alone. -/
def plainBuiltins : List Octets :=
  ["chdir"].map String.toList

/-- The builtin commands of a rich shell alone. -/
def richBuiltins : List Octets :=
  ["builtin", "declare", "let", "shopt", "source", "typeset"].map String.toList

/-- Whether a name stands for a builtin command. -/
def isBuiltin (dialect : Dialect) (name : Octets) : Bool :=
  commonBuiltins.contains name ||
    (match dialect with
    | .plain => plainBuiltins.contains name
    | .rich => richBuiltins.contains name)

/-- Whether a name stands for a builtin command whose failure ends a shell. -/
def isSpecialBuiltin (name : Octets) : Bool :=
  Script.specialNames.contains name

/-- Whether a builtin command takes assignments as arguments. -/
def takesAssignments (name : Octets) : Bool :=
  ["export", "local", "readonly", "alias", "declare", "typeset"].any (·.toList == name)

/-- How a failure to find or to execute a file is called. -/
def executionTitle (code : Code) : Octets :=
  if code = .noEntry || code = .notDirectory then "not found".toList else code.title

/-- The status after a failure to execute a file. -/
def executionStatus (code : Code) : Nat :=
  if code = .noEntry || code = .notDirectory || code = .nameTooLong || code = .tooManyLinks then
    127
  else 126

/-- Look for an executable file in directories; a failure other than that there is none is
remembered. -/
def searchIn (failure : Code) : List Octets → Program (Except Code Octets)
  | [] => pure (.error failure)
  | path :: rest => do
      match ← Program.status path with
      | .error code =>
          searchIn (if code = .noEntry || code = .notDirectory then failure else code) rest
      | .ok status =>
          if status.form = .file && status.mode &&& 0o111 != 0 then pure (.ok path)
          else searchIn .accessDenied rest

/-- The file that a name without a slash stands for. -/
def locate (path name : Octets) : Program (Except Code Octets) :=
  searchIn .noEntry (Image.candidates path name)

/-- What a name stands for as a command. -/
inductive Meaning where
  /-- A function. -/
  | function (function : Function)
  /-- A builtin command. -/
  | builtin
  /-- A file. -/
  | file (path : Octets)
  /-- Nothing. -/
  | unknown (code : Code)

/-- Find out what a name stands for. -/
def meaning (functions : Bool) (path : Octets) (name : Octets) : Act Meaning := do
  let state ← get
  if name.contains '/' then return .file name
  else
    match if functions then state.functions.find? (·.1 == name) else none with
    | some (_, function) => return .function function
    | none =>
        if isBuiltin state.dialect name then return .builtin
        else
          match ← Act.program (locate path name) with
          | .ok path => do
              modify fun state =>
                { state with
                  located := (name, path) :: state.located.filter (·.1 != name) }
              return .file path
          | .error code => return .unknown code

/-- A text between single quotes, as a script would write it. -/
def singleQuoted (text : Octets) : Octets :=
  let pieces := text.splitOn '\''
  Text.joinWith "\"'\"".toList (pieces.map fun piece => '\'' :: piece ++ ['\''])

/-- Say what a name stands for, in a sentence or shortly; nothing is said about a name that
stands for nothing. -/
def describe? (verbose tracked : Bool) (name : Octets) : Act (Option Octets) := do
  let state ← get
  let sentence (text : String) : Option Octets := some (name ++ text.toList)
  if Script.keywords.contains name then
    return if verbose then sentence " is a shell keyword" else some name
  else
    match state.aliases.find? (·.1 == name) with
    | some (_, text) =>
        return if verbose then some (name ++ " is an alias for ".toList ++ text)
          else some ("alias ".toList ++ name ++ '=' :: singleQuoted text)
    | none =>
        let known := tracked || state.located.any (·.1 == name)
        match ← meaning true state.path name with
        | .function _ => return if verbose then sentence " is a shell function" else some name
        | .builtin =>
            if !verbose then return some name
            else if isSpecialBuiltin name && state.dialect = .plain then
              return sentence " is a special shell builtin"
            else return sentence " is a shell builtin"
        | .file path =>
            set state
            let there ← Act.program (.status path)
            if there matches .error _ then return none
            else if !verbose then return some path
            else if known && !name.contains '/' then
              return some (name ++ " is a tracked alias for ".toList ++ path)
            else return some (name ++ " is ".toList ++ path)
        | .unknown _ => return none

end Shell
end Host
end Turnwise
