import Turnwise.Host.Disk
import Turnwise.Host.Signal

/-!
# Tasks and programs

A process talks to the system by requests, and each request has replies of its own
type.  A task is all that a process will do: it ends, it makes a request and goes on
with the reply, or it starts a child and goes on with the number of the child.

A program with a result is written against the rest of its task: given what is to be
done with the result, it is a task.  Programs so compose like steps of a recipe, and
one that exits simply drops the rest.
-/

namespace Turnwise
namespace Host

open SystemError (Code)

/-- How long a process waits for a child. -/
inductive Patience where
  /-- Not at all. -/
  | none
  /-- Up to a time, in nanoseconds. -/
  | upTo (time : Nat)
  /-- As long as it takes, or until a signal is caught. -/
  | endless
  /-- As long as it takes, whatever signals come. -/
  | deaf
  deriving DecidableEq, Repr

/-- What a process does about a signal. -/
inductive Disposition where
  /-- What the signal does by itself. -/
  | standard
  /-- Nothing. -/
  | ignored
  /-- It is noted for the process to look at. -/
  | caught
  deriving DecidableEq, Repr

/-- What a process knows about itself. -/
structure Identity where
  /-- Its number. -/
  number : Nat
  /-- The number of its parent. -/
  parent : Nat
  /-- The number of its group. -/
  group : Nat
  deriving DecidableEq, Repr

/-- A request to the system. -/
inductive Request where
  /-- Let others run. -/
  | pause
  /-- Run forever. -/
  | spin
  /-- Read at most some bytes from a descriptor. -/
  | read (descriptor count : Nat)
  /-- Write to a descriptor. -/
  | write (descriptor : Nat) (octets : Octets)
  /-- Open a file. -/
  | openFile (path : Octets) (opening : Opening)
  /-- Close a descriptor. -/
  | close (descriptor : Nat)
  /-- Open a descriptor again under the least free number that is not below a bound; it
  may be kept from programs that the process becomes. -/
  | duplicate (descriptor least : Nat) (withheld : Bool)
  /-- Open a descriptor again under a given number. -/
  | connect (descriptor target : Nat)
  /-- Move the position of a descriptor. -/
  | seek (descriptor position : Nat)
  /-- The position of a descriptor. -/
  | position (descriptor : Nat)
  /-- Make a pipe: a descriptor to read from it, and one to write to it. -/
  | pipe
  /-- Wait for a child, or for any. -/
  | wait (child : Option Nat) (patience : Patience)
  /-- Sleep up to a time, in nanoseconds. -/
  | sleep (time : Nat)
  /-- Send a signal to a process or a group. -/
  | signal (target : Int) (signal : Signal)
  /-- Say what to do about a signal. -/
  | dispose (signal : Signal) (disposition : Disposition)
  /-- The signals that have been caught. -/
  | caught
  /-- What the process does about a signal. -/
  | disposition (signal : Signal)
  /-- Who the process is. -/
  | identity
  /-- Become the leader of a group of its own. -/
  | lead
  /-- The time, in nanoseconds. -/
  | now
  /-- What is known about the object that a path leads to. -/
  | status (path : Octets) (follows : Bool)
  /-- What is known about what a descriptor leads to. -/
  | statusOf (descriptor : Nat)
  /-- The names in a directory. -/
  | names (path : Octets)
  /-- What a symbolic link says. -/
  | target (path : Octets)
  /-- Change names on the disk. -/
  | change (change : Disk.Change)
  /-- Change the current directory. -/
  | moveTo (path : Octets)
  /-- The path of the current directory. -/
  | current
  /-- Set the permissions that new objects do not get, and return the ones before. -/
  | mask (mask : Option Nat)
  /-- The content of a file that can be executed. -/
  | load (path : Octets)
  /-- Become a new program: withheld descriptors are closed, caught signals are not
  caught any more. -/
  | become

/-- The type of replies to a request. -/
def Request.Reply : Request → Type
  | .pause => Unit
  | .spin => Empty
  | .read _ _ => Except Code Octets
  | .write _ _ => Except Code Nat
  | .openFile _ _ => Except Code Nat
  | .close _ => Except Code Unit
  | .duplicate _ _ _ => Except Code Nat
  | .connect _ _ => Except Code Unit
  | .seek _ _ => Except Code Unit
  | .position _ => Except Code Nat
  | .pipe => Nat × Nat
  | .wait _ _ => Except Code (Option (Nat × Ending))
  | .sleep _ => Except Code Unit
  | .signal _ _ => Except Code Unit
  | .dispose _ _ => Unit
  | .caught => List Signal
  | .disposition _ => Disposition
  | .identity => Identity
  | .lead => Unit
  | .now => Nat
  | .status _ _ => Except Code Status
  | .statusOf _ => Except Code Status
  | .names _ => Except Code (List Octets)
  | .target _ => Except Code Octets
  | .change _ => Except Code Unit
  | .moveTo _ => Except Code Unit
  | .current => Except Code Octets
  | .mask _ => Nat
  | .load _ => Except Code Octets
  | .become => Unit

/-- All that a process will do. -/
inductive Task where
  /-- End. -/
  | done (ending : Ending)
  /-- Make a request and go on with the reply. -/
  | call (request : Request) (next : request.Reply → Task)
  /-- Start a child and go on with its number. -/
  | fork (child : Task) (next : Nat → Task)

/-- A program with a result: the task that it is before a given rest. -/
def Program (α : Type) : Type :=
  (α → Task) → Task

namespace Program

instance : Monad Program where
  pure result := fun rest => rest result
  bind program next := fun rest => program fun result => next result rest

/-- Make a request. -/
def call (request : Request) : Program request.Reply :=
  fun rest => .call request rest

/-- Exit with a status; there is no rest. -/
def exit (status : Nat) : Program α :=
  fun _ => .done (.exited (status % 256))

/-- End by a signal; there is no rest. -/
def die (signal : Signal) : Program α :=
  fun _ => .done (.signalled signal)

/-- Run forever. -/
def spin : Program α :=
  fun _ => .call .spin fun never => nomatch (never : Empty)

/-- Start a child. -/
def fork (child : Task) : Program Nat :=
  fun rest => .fork child rest

/-- The task of a program whose result is its exit status. -/
def task (program : Program Nat) : Task :=
  program fun status => .done (.exited (status % 256))

/-- Repeat a step with a state until it gives a result; a program that repeats too
often is taken to run forever. -/
def iterate (step : σ → Program (σ ⊕ α)) : (limit : Nat) → σ → Program α
  | 0, _ => spin
  | limit + 1, state => do
      match ← step state with
      | .inl state => iterate step limit state
      | .inr result => pure result

/-- How often a step is repeated at most. -/
def patience : Nat := 10000000

/-- Repeat a step with a state until it gives a result. -/
def repeating (state : σ) (step : σ → Program (σ ⊕ α)) : Program α :=
  iterate step patience state

/-- How many bytes are read at a time. -/
def blockSize : Nat := 65536

/-- Read from a descriptor; nothing is left when nothing comes. -/
def read (descriptor count : Nat) : Program (Except Code Octets) :=
  call (.read descriptor count)

/-- All blocks up to the end of a descriptor, the last one first, or the failure that
ends them. -/
def readBlocks (descriptor : Nat) : Program (List Octets × Option Code) :=
  repeating [] fun blocks => do
    match ← read descriptor blockSize with
    | .error code => pure (.inr (blocks, some code))
    | .ok [] => pure (.inr (blocks, none))
    | .ok block => pure (.inl (block :: blocks))

/-- All that can be read from a descriptor, and the failure that may have ended it. -/
def readAll (descriptor : Nat) : Program (Octets × Option Code) := do
  let (blocks, failure) ← readBlocks descriptor
  pure (blocks.reverse.flatten, failure)

/-- Write to a descriptor. -/
def write (descriptor : Nat) (octets : Octets) : Program (Except Code Nat) :=
  if octets.isEmpty then pure (.ok 0) else call (.write descriptor octets)

/-- Open a file. -/
def openFile (path : Octets) (opening : Opening) : Program (Except Code Nat) :=
  call (.openFile path opening)

/-- Close a descriptor. -/
def close (descriptor : Nat) : Program Unit := do
  let _ ← call (.close descriptor)
  pure ()

/-- What is known about the object that a path leads to. -/
def status (path : Octets) : Program (Except Code Status) :=
  call (.status path true)

/-- What is known about the object at a path, a symbolic link not followed. -/
def statusHere (path : Octets) : Program (Except Code Status) :=
  call (.status path false)

/-- Change names on the disk. -/
def change (change : Disk.Change) : Program (Except Code Unit) :=
  call (.change change)

/-- The time, in nanoseconds. -/
def now : Program Nat :=
  call .now

/-- Sleep for some nanoseconds. -/
def sleep (duration : Nat) : Program (Except Code Unit) := do
  let start ← now
  call (.sleep (start + duration))

/-- Wait for a child, or for any. -/
def wait (child : Option Nat) (patience : Patience) :
    Program (Except Code (Option (Nat × Ending))) :=
  call (.wait child patience)

/-- Send a signal to a process or a group. -/
def signal (target : Int) (signal : Signal) : Program (Except Code Unit) :=
  call (.signal target signal)

/-- Say what to do about a signal. -/
def dispose (signal : Signal) (disposition : Disposition) : Program Unit :=
  call (.dispose signal disposition)

/-- Who the process is. -/
def identity : Program Identity :=
  call .identity

/-- Let others run. -/
def pause : Program Unit :=
  call .pause

/-- The signals that have been caught since this was last asked. -/
def caught : Program (List Signal) :=
  call .caught

/-- What the process does about a signal. -/
def disposition (signal : Signal) : Program Disposition :=
  call (.disposition signal)

/-- Become the leader of a group of its own. -/
def lead : Program Unit :=
  call .lead

/-- Make a pipe. -/
def pipe : Program (Nat × Nat) :=
  call .pipe

/-- Open a descriptor again under the least free number that is not below a bound. -/
def duplicate (descriptor least : Nat) (withheld : Bool) : Program (Except Code Nat) :=
  call (.duplicate descriptor least withheld)

/-- Move the position of a descriptor. -/
def seek (descriptor position : Nat) : Program (Except Code Unit) :=
  call (.seek descriptor position)

/-- The position of a descriptor. -/
def position (descriptor : Nat) : Program (Except Code Nat) :=
  call (.position descriptor)

/-- What is known about what a descriptor leads to. -/
def statusOf (descriptor : Nat) : Program (Except Code Status) :=
  call (.statusOf descriptor)

/-- Change the current directory. -/
def moveTo (path : Octets) : Program (Except Code Unit) :=
  call (.moveTo path)

/-- The permissions that new objects do not get; they may be set. -/
def mask (mask : Option Nat) : Program Nat :=
  call (.mask mask)

/-- Open a descriptor again under a given number. -/
def connect (descriptor target : Nat) : Program (Except Code Unit) :=
  call (.connect descriptor target)

/-- The names in a directory, sorted. -/
def names (path : Octets) : Program (Except Code (List Octets)) := do
  match ← (call (.names path) : Program (Except Code (List Octets))) with
  | .ok names => pure (.ok (names.mergeSort Octets.notAfter))
  | .error code => pure (.error code)

/-- What a symbolic link says. -/
def target (path : Octets) : Program (Except Code Octets) :=
  call (.target path)

/-- The path of the current directory. -/
def current : Program (Except Code Octets) :=
  call .current

/-- The content of the file that a path leads to. -/
def readFile (path : Octets) : Program (Except Code Octets) := do
  match ← openFile path .reading with
  | .error code => pure (.error code)
  | .ok descriptor => do
      let (content, failure) ← readAll descriptor
      close descriptor
      match failure with
      | some code => pure (.error code)
      | none => pure (.ok content)

end Program
end Host
end Turnwise
