import Turnwise.Host.Shell.Builtin.Options
import Turnwise.Host.Shell.Naming

/-!
# Settings and arguments of a shell

Each setting has a name, and most have a letter.  The command that changes settings also
sets the arguments of the shell.
-/

namespace Turnwise
namespace Host
namespace Shell

/-- The settings with their letters, in the order in which they are listed. -/
def settings : List (String × Option Char) :=
  [("errexit", some 'e'), ("noglob", some 'f'), ("ignoreeof", some 'I'),
    ("interactive", some 'i'), ("monitor", some 'm'), ("noexec", some 'n'),
    ("stdin", some 's'), ("xtrace", some 'x'), ("verbose", some 'v'), ("vi", some 'V'),
    ("emacs", some 'E'), ("noclobber", some 'C'), ("allexport", some 'a'),
    ("notify", some 'b'), ("nounset", some 'u'), ("privileged", some 'p'), ("nolog", none),
    ("debug", none)]

/-- The letters of a rich shell alone. -/
def richLetters : List Char :=
  "hkptBHTP".toList

/-- Switch a setting by its letter. -/
def State.switch (state : State) (letter : Char) (value : Bool) : State :=
  let others := state.flags.filter (· != letter)
  { state with flags := if value then letter :: others else others }

/-- Switch a setting by its letter, if there is one. -/
def switchLetter (letter : Char) (value : Bool) : Act Unit := do
  let rich := (← get).dialect = .rich
  if settings.any (·.2 == some letter) || (rich && richLetters.contains letter) then
    modify (·.switch letter value)
  else illegalOption letter

/-- Switch a setting by its name. -/
def switchName (name : Octets) (value : Bool) : Act Unit := do
  let rich := (← get).dialect = .rich
  match settings.find? (·.1.toList == name) with
  | some (_, some letter) => modify (·.switch letter value)
  | some (_, none) => return
  | none =>
      if rich && name = "pipefail".toList then
        modify fun state => { state with failsInPipes := value }
      else if rich then do
        Act.complain (name ++ ": invalid option name".toList)
        Act.fail 2
      else Act.raise ("Illegal option -o ".toList ++ name)

/-- List the settings, for users or for scripts. -/
def listSettings (readable : Bool) : Act Unit := do
  let state ← get
  let line (name : String) (letter : Option Char) : Octets :=
    let value := letter.any state.has
    if readable then
      Octets.padRight 16 ' ' name.toList ++ (if value then "on\n" else "off\n").toList
    else (if value then "set -o " else "set +o ").toList ++ name.toList ++ ['\n']
  let lines := settings.flatMap fun entry => line entry.1 entry.2
  Act.print (if readable then "Current option settings\n".toList ++ lines else lines)

/-- Switch the settings of one word's letters; a name may follow in the next word. -/
def switchWord (value : Bool) : Octets → List Octets → Act (List Octets)
  | [], rest => return rest
  | 'o' :: more, [] => do
      listSettings value
      switchWord value more []
  | 'o' :: more, name :: rest => do
      switchName name value
      switchWord value more rest
  | letter :: more, rest => do
      switchLetter letter value
      switchWord value more rest

/-- Switch settings by words; the words after them are given back, if there are any to be
set as arguments. -/
def switchWords : (limit : Nat) → List Octets → Act (Option (List Octets))
  | 0, _ => return none
  | limit + 1, words => do
      match words with
      | [] => return none
      | ['-'] :: rest => do
          modify fun state => (state.switch 'x' false).switch 'v' false
          return if rest.isEmpty then none else some rest
      | ['-', '-'] :: rest => return some rest
      | ('-' :: letters) :: rest => do
          switchWords limit (← switchWord true letters rest)
      | ('+' :: letters) :: rest => do
          switchWords limit (← switchWord false letters rest)
      | words => return some words

/-- The variables with their values, sorted and written as a script would set them. -/
def listing (state : State) (lead : Octets) (test : Binding → Bool) (all : Bool) : Octets :=
  let entries := (state.bindings.filter fun entry =>
    test entry.2 && (all || entry.2.value.isSome)).mergeSort fun a b => Octets.notAfter a.1 b.1
  let beginning := if lead.isEmpty then [] else lead ++ [' ']
  entries.flatMap fun (name, binding) =>
    match binding.value with
    | some (.text text) => beginning ++ name ++ '=' :: singleQuoted text ++ ['\n']
    | some (.items items) =>
        beginning ++ name ++ "=(".toList ++
          Text.joinWith [' '] (items.map fun (index, text) =>
            '[' :: Text.ofNat index ++ "]=\"".toList ++ text ++ ['"']) ++ ")\n".toList
    | none => beginning ++ name ++ ['\n']

/-- Change settings, set the arguments, or list the variables. -/
def setBuiltin (words : List Octets) : Act Nat := do
  if words.isEmpty then
    Act.print (listing (← get) [] (fun _ => true) false)
  else
    match ← switchWords (words.length + 1) words with
    | some arguments =>
        modify fun state =>
          { state with arguments := arguments, optionIndex := 1, optionOffset := none }
    | none => pure ()
  return 0

/-- Drop some of the first arguments. -/
def shiftBuiltin (words : List Octets) : Act Nat := do
  let count ←
    match words with
    | [] => pure 1
    | word :: _ => number word
  let arguments := (← get).arguments
  if arguments.length < count then
    match (← get).dialect with
    | .plain => Act.raise "can't shift that many".toList
    | .rich => return 1
  else do
    modify fun state =>
      { state with
        arguments := arguments.drop count, optionIndex := 1, optionOffset := none }
    return 0

end Shell
end Host
end Turnwise
