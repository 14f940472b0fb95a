/-!
# Signals

A signal is known by its number. Most of them end a process that makes no provision for
them.
-/

namespace Crosscheck

/-- What a signal does to a process that makes no provision for it. -/
inductive SignalEffect where
  | ignored
  | stopped
  | continued
  | ended
  deriving DecidableEq, Repr

namespace Signal

/-- The names of signals with their numbers, in order. -/
def names : List (String × Nat) := [
  ("HUP", 1), ("INT", 2), ("QUIT", 3), ("ILL", 4), ("TRAP", 5), ("ABRT", 6), ("BUS", 7),
  ("FPE", 8), ("KILL", 9), ("USR1", 10), ("SEGV", 11), ("USR2", 12), ("PIPE", 13),
  ("ALRM", 14), ("TERM", 15), ("STKFLT", 16), ("CHLD", 17), ("CONT", 18), ("STOP", 19),
  ("TSTP", 20), ("TTIN", 21), ("TTOU", 22), ("URG", 23), ("XCPU", 24), ("XFSZ", 25),
  ("VTALRM", 26), ("PROF", 27), ("WINCH", 28), ("POLL", 29), ("PWR", 30), ("SYS", 31)]

/-- One more than the greatest number of a signal. -/
def bound : Nat := 65

/-- The signal that asks a process to hang up, those that a process cannot make provision
for, and those that are sent by the system or by default. -/
def kill : Nat := 9

/-- The signal for writing where nobody reads. -/
def brokenPipe : Nat := 13

/-- The signal that asks a process to end. -/
def terminate : Nat := 15

/-- The signal that lets a stopped process go on. -/
def proceed : Nat := 18

/-- The signal that stops a process. -/
def stop : Nat := 19

/-- What a signal does to a process that makes no provision for it. -/
def effect (number : Nat) : SignalEffect :=
  if number = proceed then .continued
  else if [0, 17, 23, 28].contains number then .ignored
  else if [19, 20, 21, 22].contains number then .stopped
  else .ended

/-- Whether a process can make provision for a signal. -/
def isManageable (number : Nat) : Bool := number ≠ kill ∧ number ≠ stop

/-- How the end of a process by a signal is described. -/
def description (number : Nat) : String :=
  let texts := [
    "Hangup", "Interrupt", "Quit", "Illegal instruction", "Trace/breakpoint trap", "Aborted",
    "Bus error", "Floating point exception", "Killed", "User defined signal 1",
    "Segmentation fault", "User defined signal 2", "Broken pipe", "Alarm clock", "Terminated",
    "Stack fault", "Child exited", "Continued", "Stopped (signal)", "Stopped",
    "Stopped (tty input)", "Stopped (tty output)", "Urgent I/O condition",
    "CPU time limit exceeded", "File size limit exceeded", "Virtual timer expired",
    "Profiling timer expired", "Window changed", "I/O possible", "Power failure",
    "Bad system call"]
  match texts[number - 1]? with
  | some text => text
  | none => if number < bound then s!"Real-time signal {number - 34}" else s!"Unknown signal {number}"

end Signal
end Crosscheck
