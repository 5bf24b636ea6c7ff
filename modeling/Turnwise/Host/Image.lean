import Turnwise.Host.Task

/-!
# Images of programs

A file that can be executed is an image.  An installed program is a file that begins
with a mark and names the utility that it is; a script begins with another mark and
names the program that interprets it.  A process becomes the program of an image; a
name without a slash is looked up in the directories of the search path.
-/

namespace Turnwise
namespace Host

open SystemError (Code)

/-- With what a program is started. -/
structure Start where
  /-- The name by which it was called. -/
  name : Octets
  /-- Its arguments. -/
  arguments : List Octets
  /-- Its variables. -/
  environment : List (Octets × Octets)

/-- How a utility is started: given its name, all that it will do. -/
abbrev Launch := (utility : Octets) → Start → Task

namespace Start

/-- The value of a variable. -/
def value? (start : Start) (name : String) : Option Octets :=
  (start.environment.find? (·.1 == name.toList)).map (·.2)

end Start

namespace Image

/-- How the file of an installed program begins. -/
def mark : Octets := "\x7fELF".toList

/-- The file of an installed program. -/
def content (utility : Octets) : Octets :=
  mark ++ utility ++ ['\x00']

/-- How a script begins that names its interpreter. -/
def scriptMark : Octets := "#!".toList

/-- How long the first line of a script may be. -/
def lineLimit : Nat := 255

/-- The interpreter that a script names, and the argument for it. -/
def interpreter? (content : Octets) : Option (Octets × Option Octets) := do
  let rest ← Text.after? scriptMark (content.take lineLimit)
  let line : Octets := (rest.takeWhile (· != '\n')).dropWhile Octets.isBlank
  let line : Octets := line.dropEndWhile Octets.isBlank
  let path := line.takeWhile (!Octets.isBlank ·)
  let argument := (line.drop path.length).dropWhile Octets.isBlank
  if path.isEmpty then none
  else some (path, if argument.isEmpty then none else some argument)

/-- The longest argument of a program. -/
def argumentLimit : Nat := 131071

/-- The most that all arguments and variables may take. -/
def totalLimit : Nat := 2097152

/-- Whether arguments and variables are not too long for a program. -/
def fits (start : Start) : Bool :=
  let words := start.name :: start.arguments ++
    start.environment.map fun entry => entry.1 ++ '=' :: entry.2
  words.all (·.length ≤ argumentLimit) &&
    words.foldl (fun total word => total + word.length + 9) 0 ≤ totalLimit

/-- Find the utility behind an executable file, and with what it is started, given how
files are loaded; scripts may interpret scripts, but not too often. -/
def resolve {m : Type → Type} [Monad m] (load : Octets → m (Except Code Octets)) :
    (depth : Nat) → (path : Octets) → Start → m (Except Code (Octets × Start))
  | 0, _, _ => pure (.error .tooManyLinks)
  | depth + 1, path, start => do
      match ← load path with
      | .error code => pure (.error code)
      | .ok content =>
          match Text.after? mark content with
          | some rest => pure (.ok (rest.takeWhile (· != '\x00'), start))
          | none =>
              match interpreter? content with
              | some (interpreter, argument) =>
                  resolve load depth interpreter
                    { start with
                      name := interpreter
                      arguments := argument.toList ++ path :: start.arguments }
              | none => pure (.error .badFormat)

/-- How often scripts may interpret scripts. -/
def scriptDepth : Nat := 6

/-- The content of an executable file. -/
def load (path : Octets) : Program (Except Code Octets) :=
  Program.call (.load path)

/-- Become the program of a file; the answer tells why that is impossible. -/
def become (launch : Launch) (path : Octets) (start : Start) : Program Code := do
  if !fits start then pure .tooManyArguments
  else
    match ← resolve load scriptDepth path start with
    | .error code => pure code
    | .ok (utility, start) =>
        fun _ => .call .become fun _ => launch utility start

/-- The program that interprets files which name no interpreter. -/
def standardShell : Octets := "/bin/sh".toList

/-- Whether the first line of a file looks like text. -/
def looksLikeText (content : Octets) : Bool :=
  ((content.take lineLimit).takeWhile (· != '\n')).all fun c =>
    Octets.isSpace c || (' ' ≤ c && c != '\x7f')

/-- Become the program of a file, or of the standard shell with the file as its script
when the file has no format of its own but looks like text. -/
def becomeOrInterpret (launch : Launch) (path : Octets) (start : Start) : Program Code := do
  let code ← become launch path start
  if code = .badFormat then
    match ← load path with
    | .ok content =>
        if looksLikeText content then
          become launch standardShell
            { start with name := standardShell, arguments := path :: start.arguments }
        else pure code
    | .error _ => pure code
  else pure code

/-- Where a name is looked up when there is no search path. -/
def standardPath : Octets := "/bin:/usr/bin".toList

/-- The files that a name may stand for. -/
def candidates (path name : Octets) : List Octets :=
  (path.splitOn ':').map fun directory =>
    if directory.isEmpty then name else directory ++ '/' :: name

/-- Try files one after the other; a file that may not be executed is remembered, and
other failures than that there is none end the search. -/
def tryFirst {m : Type → Type} [Monad m] (attempt : Octets → m Code) :
    (denied : Bool) → List Octets → m Code
  | denied, [] => pure (if denied then .accessDenied else .noEntry)
  | denied, path :: rest => do
      match ← attempt path with
      | .accessDenied => tryFirst attempt true rest
      | .noEntry => tryFirst attempt denied rest
      | .notDirectory => tryFirst attempt denied rest
      | code => pure code

/-- Try the files that a name may stand for. -/
def search {m : Type → Type} [Monad m]
    (attempt : Octets → m Code)
    (path : Option Octets)
    (name : Octets) : m Code :=
  if name.isEmpty then pure .noEntry
  else if name.contains '/' then attempt name
  else if Disk.segmentLimit < name.length then pure .nameTooLong
  else tryFirst attempt false (candidates (path.getD standardPath) name)

/-- Become the program that words name; scripts without an interpreter are interpreted
by the standard shell. -/
def becomeNamed (launch : Launch) (start : Start) : Program Code :=
  search (becomeOrInterpret launch · start) (start.value? "PATH") start.name

end Image
end Host
end Turnwise
