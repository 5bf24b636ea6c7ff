import Turnwise.Host.Shell.Expansion

/-!
# Redirections

Before a command runs, its descriptors are led elsewhere: to files, to what other
descriptors lead to, or to a text that stands in the script.  What they led to before
is kept under other descriptors, which programs do not inherit, and put back later.
-/

namespace Turnwise
namespace Host
namespace Shell

open SystemError (Code)
open Script (Word Redirect Direction)

/-- Where a descriptor is led to. -/
inductive Target where
  /-- To a file. -/
  | file (descriptor : Nat) (direction : Direction) (path : Octets)
  /-- To what another descriptor leads to, or nowhere. -/
  | copy (descriptor : Nat) (source : Option Nat)
  /-- To a text. -/
  | document (descriptor : Nat) (content : Word)

namespace Target

/-- The descriptor that is led somewhere. -/
def descriptor : Target → Nat
  | .file descriptor _ _ => descriptor
  | .copy descriptor _ => descriptor
  | .document descriptor _ => descriptor

end Target

/-- What a descriptor led to before: a copy of it, unless it was closed. -/
structure Saved where
  /-- The descriptor. -/
  descriptor : Nat
  /-- The copy. -/
  copy : Option Nat
  deriving DecidableEq, Repr

/-- The least descriptor that copies get. -/
def leastCopy : Nat := 10

/-- The descriptor that a text names, or that it names none. -/
def source? (text : Octets) : Option (Option Nat) :=
  match text with
  | ['-'] => some none
  | [c] => if c.isDigit then some (some (c.toNat - 48)) else none
  | _ => none

/-- Where a redirection leads to. -/
def expandRedirect (engine : Engine) : Redirect → Act (List Target)
  | .file descriptor direction target => do
      return [.file descriptor direction (← expandText engine .single target)]
  | .copy descriptor _ target => do
      let text ← expandText engine .single target
      match source? text, (← get).dialect with
      | some source, _ => return [.copy descriptor source]
      | none, .plain => Act.raise "Syntax error: Bad fd number".toList
      | none, .rich =>
          match Text.digits? text with
          | some source => return [.copy descriptor (some source)]
          | none =>
              if descriptor = 1 then
                return [.file 1 .output text, .copy 2 (some 1)]
              else do
                Act.complain (text ++ ": ambiguous redirect".toList)
                Act.fail 1
  | .document descriptor content => return [.document descriptor content]
  | .both appends target => do
      let path ← expandText engine .single target
      return [.file 1 (if appends then .append else .output) path, .copy 2 (some 1)]

/-- Where redirections lead to. -/
def expandRedirects (engine : Engine) (redirects : List Redirect) : Act (List Target) := do
  let mut targets : List (List Target) := []
  for redirect in redirects do
    targets := (← expandRedirect engine redirect) :: targets
  return targets.reverse.flatten

/-- How a file is opened for a direction. -/
def opening : Direction → Opening
  | .input => .reading
  | .output => .writing
  | .clobber => .writing
  | .append => .appending
  | .update => .updating

/-- Complain about a file that cannot be opened. -/
def refuse (direction : Direction) (path : Octets) (code : Code) : Act α := do
  match (← get).dialect with
  | .rich => do
      Act.complain (path ++ ": ".toList ++ code.title)
      Act.fail 1
  | .plain =>
      let reads := direction = .input
      let verb := if reads then "cannot open ".toList else "cannot create ".toList
      let reason :=
        if code = .noEntry || code = .notDirectory then
          if reads then "No such file".toList else "Directory nonexistent".toList
        else code.title
      Act.raise (verb ++ path ++ ": ".toList ++ reason)

/-- Open a file for a redirection. -/
def openFor (direction : Direction) (path : Octets) : Act Nat := do
  let guarded ←
    if direction = .output && (← get).has 'C' then
      match ← Act.program (.status path) with
      | .ok status => pure (status.form == .file)
      | .error _ => pure false
    else pure false
  if guarded then refuse direction path .exists
  else
    match ← Act.program (.openFile path (opening direction)) with
    | .ok descriptor => return descriptor
    | .error code => refuse direction path code

/-- A descriptor from which a text can be read. -/
def openText (text : Octets) : Act Nat := do
  let (reader, writer) ← Act.program .pipe
  let _ ← Act.program (.write writer text)
  Act.program (.close writer)
  return reader

/-- Keep what a descriptor leads to, unless that has been done. -/
def save (saved : List Saved) (descriptor : Nat) (fresh : Option Nat) : Act (List Saved) := do
  if saved.any (·.descriptor == descriptor) then return saved
  else if fresh = some descriptor then return ⟨descriptor, none⟩ :: saved
  else
    match ← Act.program (.duplicate descriptor leastCopy true) with
    | .ok copy => return ⟨descriptor, some copy⟩ :: saved
    | .error _ => return ⟨descriptor, none⟩ :: saved

/-- Lead descriptors to targets, one after the other, up to the first failure; what they
led to before is told.  In a plain shell a descriptor that cannot become a copy leads nowhere
from then on, so that a complaint about the standard errors is lost, unless the process has
the descriptors for itself. -/
def redirect (engine : Engine) (own : Bool) :
    List Saved → List Target → Act (List Saved × Except Halt Unit)
  | saved, [] => return (saved, .ok ())
  | saved, target :: rest => do
      let outcome ← Act.observe (attempt saved target)
      match outcome with
      | .ok (saved, .ok ()) => redirect engine own saved rest
      | .ok (saved, .error halt) => return (saved, .error halt)
      | .error halt => return (saved, .error halt)
where
  /-- Lead one descriptor to a target; a failure comes with what was saved. -/
  attempt (saved : List Saved) (target : Target) : Act (List Saved × Except Halt Unit) := do
    let descriptor := target.descriptor
    let settle (fresh : Nat) : Act (List Saved × Except Halt Unit) := do
      let saved ← save saved descriptor (some fresh)
      if fresh != descriptor then
        let _ ← Act.program (.connect fresh descriptor)
        Act.program (.close fresh)
      return (saved, .ok ())
    match target with
    | .file _ direction path => do settle (← openFor direction path)
    | .document _ content => do
        settle (← openText (← expandText engine .single content))
    | .copy _ none => do
        let saved ← save saved descriptor none
        Act.program (.close descriptor)
        return (saved, .ok ())
    | .copy _ (some source) =>
        if source = descriptor then return (saved, .ok ())
        else do
          let saved ← save saved descriptor none
          match ← Act.program (.connect source descriptor) with
          | .ok () => return (saved, .ok ())
          | .error code => do
              let plain := (← get).dialect = .plain
              if plain && !own then Act.program (.close descriptor)
              Act.complain (Text.ofNat source ++ ": ".toList ++ code.title)
              return (saved, .error (.failure (if plain then 2 else 1)))

/-- Put back what descriptors led to. -/
def restore (saved : List Saved) : Act Unit := do
  for entry in saved do
    match entry.copy with
    | some copy => do
        let _ ← Act.program (.connect copy entry.descriptor)
        Act.program (.close copy)
    | none => Act.program (.close entry.descriptor)

/-- Forget what descriptors led to. -/
def discard (saved : List Saved) : Act Unit := do
  for entry in saved do
    match entry.copy with
    | some copy => Act.program (.close copy)
    | none => pure ()

/-- The descriptor to which the standard errors went before. -/
def errorsBefore (saved : List Saved) : Nat :=
  ((saved.find? (·.descriptor == 2)).bind (·.copy)).getD 2

end Shell
end Host
end Turnwise
