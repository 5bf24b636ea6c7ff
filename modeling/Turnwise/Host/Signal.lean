import Turnwise.Host.Octets

/-!
# Signals

A signal has a number, a name, and a description for users.  Unless a process ignores
or catches it, it ends the process, stops it, lets it go on, or does nothing.
-/

namespace Turnwise
namespace Host

/-- A signal, by its number. -/
abbrev Signal := Nat

namespace Signal

/-- The number, the name and the description of each signal. -/
def table : List (Nat × String × String) :=
  [(1, "HUP", "Hangup"), (2, "INT", "Interrupt"), (3, "QUIT", "Quit"),
    (4, "ILL", "Illegal instruction"), (5, "TRAP", "Trace/breakpoint trap"),
    (6, "ABRT", "Aborted"), (7, "BUS", "Bus error"), (8, "FPE", "Floating point exception"),
    (9, "KILL", "Killed"), (10, "USR1", "User defined signal 1"),
    (11, "SEGV", "Segmentation fault"), (12, "USR2", "User defined signal 2"),
    (13, "PIPE", "Broken pipe"), (14, "ALRM", "Alarm clock"), (15, "TERM", "Terminated"),
    (16, "16", "Stack fault"), (17, "CHLD", "Child exited"), (18, "CONT", "Continued"),
    (19, "STOP", "Stopped (signal)"), (20, "TSTP", "Stopped"),
    (21, "TTIN", "Stopped (tty input)"), (22, "TTOU", "Stopped (tty output)"),
    (23, "URG", "Urgent I/O condition"), (24, "XCPU", "CPU time limit exceeded"),
    (25, "XFSZ", "File size limit exceeded"), (26, "VTALRM", "Virtual timer expired"),
    (27, "PROF", "Profiling timer expired"), (28, "WINCH", "Window changed"),
    (29, "IO", "I/O possible"), (30, "PWR", "Power failure"), (31, "SYS", "Bad system call")]

/-- Hang up. -/
def hangup : Signal := 1

/-- Interrupt. -/
def interrupt : Signal := 2

/-- A calculation without a result. -/
def arithmetic : Signal := 8

/-- Kill, which cannot be ignored. -/
def kill : Signal := 9

/-- A write that nobody reads. -/
def pipe : Signal := 13

/-- Terminate. -/
def terminate : Signal := 15

/-- Go on after a stop. -/
def proceed : Signal := 18

/-- The highest number of a signal. -/
def highest : Nat := 64

/-- The name of a signal. -/
def name (signal : Signal) : Octets :=
  match table.find? (·.1 == signal) with
  | some (_, name, _) => name.toList
  | none =>
      if signal = 34 then "RTMIN".toList
      else if 34 < signal ∧ signal ≤ 49 then "RTMIN+".toList ++ Text.ofNat (signal - 34)
      else if signal = 64 then "RTMAX".toList
      else if 49 < signal ∧ signal < 64 then "RTMAX-".toList ++ Text.ofNat (64 - signal)
      else Text.ofNat signal

/-- The description of a signal. -/
def description (signal : Signal) : Octets :=
  match table.find? (·.1 == signal) with
  | some (_, _, description) => description.toList
  | none =>
      if 34 ≤ signal ∧ signal ≤ 64 then
        "Real-time signal ".toList ++ Text.ofNat (signal - 34)
      else "Unknown signal ".toList ++ Text.ofNat signal

/-- The signal with a name; the case of letters does not matter. -/
def named? (name : Octets) : Option Signal :=
  let upper := name.map Char.toUpper
  (table.find? (·.2.1.toList == upper)).map (·.1)

/-- What a signal does to a process that neither ignores nor catches it. -/
inductive Effect where
  /-- The process ends. -/
  | ends
  /-- The process stops. -/
  | stops
  /-- The process goes on. -/
  | proceeds
  /-- Nothing happens. -/
  | nothing
  deriving DecidableEq, Repr

/-- What a signal does by itself. -/
def effect (signal : Signal) : Effect :=
  if [17, 23, 28].contains signal then .nothing
  else if [19, 20, 21, 22].contains signal then .stops
  else if signal = proceed then .proceeds
  else .ends

end Signal

/-- How a process ended. -/
inductive Ending where
  /-- With a status. -/
  | exited (status : Nat)
  /-- By a signal. -/
  | signalled (signal : Signal)
  deriving DecidableEq, Repr

/-- The status by which a script sees an ending. -/
def Ending.status : Ending → Nat
  | .exited status => status
  | .signalled signal => 128 + signal

end Host
end Turnwise
