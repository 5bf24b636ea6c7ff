import Turnwise.Toolchain
import Turnwise.Text.Utf8

/-!
# Stores of files

Simulated toolchains need files and nothing else of a machine.  A store reads and
writes files over a state of any type.  Most of what is said about it asks for one file
only, that of the program: the file accepts what is written to it, and keeps it.
-/

namespace Turnwise

/-- Files over a state. -/
structure Store (State : Type) where
  /-- The content of a file. -/
  read : (file : Path) → State → Except SystemError Bytes
  /-- Replace the content of a file. -/
  write : (file : Path) → (content : Bytes) → State → Except SystemError Unit × State

namespace Store

/-- Replace the content of a file by the encoding of a text. -/
def writeText
    (store : Store State)
    (file : Path)
    (content : Text)
    (state : State) : Except SystemError Unit × State :=
  store.write file (Utf8.encode content) state

/-- The content of a file as text, when the file can be read and holds text. -/
def text?
    (store : Store State)
    (file : Path)
    (state : State) : Option Text :=
  (store.read file state).toOption.bind Utf8.text?

/-- A file that accepts whatever is written to it. -/
def Accepts (store : Store State) (file : Path) : Prop :=
  ∀ content state, (store.write file content state).1 = .ok ()

/-- What was written to a file can be read from it right after. -/
def Keeps (store : Store State) (file : Path) : Prop :=
  ∀ content state next,
    store.write file content state = (.ok (), next) → store.read file next = .ok content

/-- A store that holds one file, under every path. -/
def oneFile : Store Bytes where
  read _ content := .ok content
  write _ content _ := (.ok (), content)

theorem accepts_oneFile (file : Path) : oneFile.Accepts file :=
  fun _ _ => rfl

theorem keeps_oneFile (file : Path) : oneFile.Keeps file := by
  intro content state next written
  cases written
  rfl

/-- Files that take every content and keep none. -/
def forgetful : Store Unit where
  read _ _ := .error (.coded .noEntry)
  write _ _ _ := (.ok (), ())

end Store
end Turnwise
