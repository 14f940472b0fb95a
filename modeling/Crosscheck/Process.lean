import Crosscheck.Files.Tree

/-!
# Processes

A process is known by what it asks of the system that runs it: to write to open files and to
read from them, to start other processes and to await them, to let time pass, to look at
files and to change them, and to end. What it does next may depend on the answers. How it
gets there is no part of it.
-/

namespace Crosscheck

/-- The two streams on which a process is listened to from outside. -/
inductive Stream where
  | out
  | err
  deriving DecidableEq, Repr

/-- How a process ends. -/
inductive ExitStatus where
  | code (number : Nat)
  | signal (number : Nat)
  deriving DecidableEq, Repr

/-- The wording of how a process ended. -/
def ExitStatus.describe : ExitStatus → String
  | .code number => s!"Exited with code {number}"
  | .signal number => s!"Terminated by signal {number}"

/-- The number by which processes know an open file. -/
abbrev Handle := Nat

/-- How a file is opened. -/
inductive OpenMode where
  | read
  /-- For writing, from the start. -/
  | write
  /-- For writing, always at the end. -/
  | append
  /-- For reading and writing, with what the file holds. -/
  | update
  deriving DecidableEq, Repr

/-- What a process has a signal do to it. -/
inductive Provision where
  /-- What the signal does on its own. -/
  | usual
  | ignored
  /-- The signal is noted until the process asks for it. -/
  | noted
  deriving DecidableEq, Repr

/-- How the end of another process is awaited. -/
inductive Patience where
  /-- Until it comes. -/
  | unlimited
  /-- Until it comes or a signal is noted. -/
  | interruptible
  /-- Not at all. -/
  | none
  deriving DecidableEq, Repr

/-- The behaviour of a process. -/
inductive Process where
  | exit (status : ExitStatus)
  /-- Write octets; the answer tells why they were not taken. -/
  | write (handle : Handle) (octets : List UInt8) (next : Option FileError → Process)
  /-- Read a line with its terminator, which the last line may lack; an empty list stands
  for the end of the file. -/
  | readLine (handle : Handle) (next : Except FileError (List UInt8) → Process)
  /-- Read what is there, up to a number of octets; an empty list stands for the end of
  the file. -/
  | readSome (handle : Handle) (count : Nat) (next : Except FileError (List UInt8) → Process)
  /-- Have the octets that were read last from a file read again. What does not come from a
  file cannot be read twice. -/
  | giveBack (handle : Handle) (count : Nat) (next : Unit → Process)
  /-- Ask for the number of octets of an open file; `none` if it is none. -/
  | measure (handle : Handle) (next : Option Nat → Process)
  | openFile (place : Place) (mode : OpenMode) (next : Handle → Process)
  /-- Create a pipe; the answer is its reading end and its writing end. -/
  | openPipe (next : Handle → Handle → Process)
  /-- Have no more use for open files. -/
  | release (handles : List Handle) (next : Unit → Process)
  /-- Start a process that shares the open files. Both learn its number. -/
  | fork (child : Nat → Process) (next : Nat → Process)
  /-- Await the end of a process that was started by this one. -/
  | await (child : Nat) (patience : Patience) (next : Option ExitStatus → Process)
  /-- Send a signal to a process; the answer tells whether there is one. -/
  | send (signal receiver : Nat) (next : Bool → Process)
  /-- Make provision for a signal. -/
  | provide (signal : Nat) (provision : Provision) (next : Unit → Process)
  /-- Ask for the signals that were noted since the last time. -/
  | noted (next : List Nat → Process)
  | pause (nanos : Nat) (next : Unit → Process)
  | look (next : FileTree → Process)
  | edit (change : FileTree → FileTree) (next : Unit → Process)

/-- The number of the first process that a system runs. -/
def Process.firstNumber : Nat := 4000

/-- The open file from which the first process reads what is written to it from outside. -/
def Handle.input : Handle := 0

/-- The open file through which a process is heard on a stream. -/
def Stream.handle : Stream → Handle
  | .out => 1
  | .err => 2

/-- What is to be launched: a program with its arguments, where and with which
environment. -/
structure Invocation where
  words : List String
  directory : Option String := none
  environment : List (String × String) := []
  deriving DecidableEq, Repr

/-- Why nothing is launched. -/
inductive LaunchError where
  | file (error : FileError)
  /-- A word contains the octet zero. -/
  | malformedWord
  deriving DecidableEq, Repr

/-- The wording of why nothing is launched. -/
def LaunchError.message : LaunchError → String
  | .file error => error.message
  | .malformedWord => "nul byte found in provided data"

/-- Gives each launch its process. The number counts the launches before it, since the
same program need not behave the same way again. -/
abbrev Launcher := Nat → FileTree → Invocation → Except LaunchError Process

end Crosscheck
