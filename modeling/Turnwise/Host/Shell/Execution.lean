import Turnwise.Host.Shell.Naming

/-!
# Executing files from a shell

A shell becomes the program of a file, or tells why it cannot.
-/

namespace Turnwise
namespace Host
namespace Shell

open SystemError (Code)

/-- Become the first program among files; the last failure that is not that a file is
missing is remembered. -/
def becomeFirst (attempt : Octets → Program Code) (failure : Code) : List Octets → Program Code
  | [] => pure failure
  | path :: rest => do
      let code ← attempt path
      becomeFirst attempt
        (if code = .noEntry || code = .notDirectory then failure else code) rest

/-- Become the program that words name, or complain and exit. -/
def execute (engine : Engine) (path : Octets) (words : List Octets) : Act Unit := do
  match words with
  | [] => return
  | name :: arguments => do
      let state ← get
      let start : Start := ⟨name, arguments, state.environment⟩
      let files := if name.contains '/' then [name] else Image.candidates path name
      let code ← Act.program
        (becomeFirst (Image.becomeOrInterpret engine.launch · start) .noEntry files)
      match state.dialect with
      | .plain => Act.complain (name ++ ": ".toList ++ executionTitle code)
      | .rich =>
          let directory ← Act.program (.status name)
          let isDirectory : Bool :=
            match directory with
            | .ok status => status.form == .directory && name.contains '/'
            | .error _ => false
          Act.complain (name ++ ": ".toList ++
            (if isDirectory then "Is a directory".toList
            else if code = .noEntry && !name.contains '/' then "not found".toList
            else code.title))
      let status := executionStatus code
      Act.finish status
      throw (.exit status)

end Shell
end Host
end Turnwise
