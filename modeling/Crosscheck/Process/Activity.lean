import Crosscheck.Process

/-!
# Activities

What a process does up to the point where some value is known. An activity is given what
happens then; one that ends the process never comes to that.
-/

namespace Crosscheck

/-- What a process does until a value is known. -/
def Activity (α : Type) : Type := (α → Process) → Process

namespace Activity

instance : Monad Activity where
  pure value := fun next => next value
  bind action further := fun next => action fun value => further value next

instance {α : Type} : Inhabited (Activity α) := ⟨fun _ => .exit (.code 0)⟩

/-- End the process. -/
def exit {α : Type} (status : ExitStatus) : Activity α := fun _ => .exit status

/-- Write octets; the answer tells why they were not taken. -/
def write (handle : Handle) (octets : List UInt8) : Activity (Option FileError) :=
  fun next => .write handle octets next

/-- Read a line with its terminator. -/
def readLine (handle : Handle) : Activity (Except FileError (List UInt8)) :=
  fun next => .readLine handle next

/-- Read what is there, up to a number of octets. -/
def readSome (handle : Handle) (count : Nat) : Activity (Except FileError (List UInt8)) :=
  fun next => .readSome handle count next

/-- Have the octets that were read last from a file read again. -/
def giveBack (handle : Handle) (count : Nat) : Activity Unit :=
  fun next => if count = 0 then next () else .giveBack handle count next

/-- Ask for the number of octets of an open file; `none` if it is none. -/
def measure (handle : Handle) : Activity (Option Nat) := fun next => .measure handle next

/-- Open the file at a place. -/
def openFile (place : Place) (mode : OpenMode) : Activity Handle :=
  fun next => .openFile place mode next

/-- Create a pipe; the answer is its reading end and its writing end. -/
def openPipe : Activity (Handle × Handle) := fun next =>
  .openPipe fun reader writer => next (reader, writer)

/-- Have no more use for open files. -/
def release (handles : List Handle) : Activity Unit :=
  fun next => if handles.isEmpty then next () else .release handles next

/-- Start a process, whose number both learn. -/
def fork (child : Nat → Process) : Activity Nat := fun next => .fork child next

/-- Await the end of a process that was started by this one. -/
def await (child : Nat) (patience : Patience) : Activity (Option ExitStatus) :=
  fun next => .await child patience next

/-- Send a signal; the answer tells whether there is a process to receive it. -/
def send (signal receiver : Nat) : Activity Bool := fun next => .send signal receiver next

/-- Make provision for a signal. -/
def provide (signal : Nat) (provision : Provision) : Activity Unit :=
  fun next => .provide signal provision next

/-- Ask for the signals that were noted since the last time. -/
def noted : Activity (List Nat) := fun next => .noted next

/-- Let time pass. -/
def pause (nanos : Nat) : Activity Unit := fun next => .pause nanos next

/-- Look at the files. -/
def look : Activity FileTree := fun next => .look next

/-- Change the files. -/
def edit (change : FileTree → FileTree) : Activity Unit := fun next => .edit change next

/-- Change the files if that is not refused. -/
def attempt (change : FileTree → Except FileError FileTree) : Activity (Option FileError) := do
  match change (← look) with
  | .ok tree =>
    edit fun _ => tree
    return none
  | .error error => return some error

end Activity
end Crosscheck
