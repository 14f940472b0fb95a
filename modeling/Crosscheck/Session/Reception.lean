import Crosscheck.Session.Sentinel
import Crosscheck.Session.Transcript

/-!
# Receiving output

Lines of both streams arrive one at a time, in no fixed order between the streams. They
are collected until the sentinel arrives, and after it for as long as another line comes
before a certain silence, since a line on the error stream may be overtaken.
-/

namespace Crosscheck

/-- What arrives from an engine. -/
inductive Line where
  | out (text : String)
  | err (text : String)
  /-- One of the two streams has ended. -/
  | closed
  deriving DecidableEq, Repr

/-- How far a reception has come. Times are in nanoseconds. -/
inductive Phase where
  /-- Nobody listens before the given time. -/
  | absent (time : Nat)
  /-- The sentinel is awaited up to the deadline. -/
  | awaiting (deadline : Nat)
  /-- The sentinel has arrived; the last line came at the given time. -/
  | settling (last : Nat)
  /-- A stream ended at the given time, with or without the sentinel before it. -/
  | ended (time : Nat) (complete : Bool)
  deriving DecidableEq, Repr

/-- Output being received. -/
structure Reception where
  token : String := ""
  /-- The silence that ends a reception after the sentinel. -/
  settle : Nat := 0
  transcript : Transcript := {}
  phase : Phase
  deriving DecidableEq, Repr

namespace Reception

/-- The time at which nobody listens any more unless something arrives before it. -/
def limit (reception : Reception) : Nat :=
  match reception.phase with
  | .absent time => time
  | .awaiting deadline => deadline
  | .settling last => last + reception.settle
  | .ended time _ => time

/-- The transcript with one more line. -/
def Transcript.add (transcript : Transcript) : Line → Transcript
  | .out text => { transcript with out := transcript.out ++ [text] }
  | .err text => { transcript with err := transcript.err ++ [text] }
  | .closed => transcript

/-- Take a line that arrives at a time; `none` if nobody listens any more. -/
def take? (reception : Reception) (time : Nat) (line : Line) : Option Reception :=
  match reception.phase with
  | .absent _ => none
  | .ended .. => none
  | .settling _ =>
    match line with
    | .closed => some { reception with phase := .ended time true }
    | line =>
      some { reception with
        transcript := Transcript.add reception.transcript line, phase := .settling time }
  | .awaiting _ =>
    match line with
    | .closed => some { reception with phase := .ended time false }
    | .err _ =>
      some { reception with transcript := Transcript.add reception.transcript line }
    | .out text =>
      match Sentinel.parse? text reception.token with
      | some changes =>
        some { reception with
          transcript := { reception.transcript with changes }, phase := .settling time }
      | none => some { reception with transcript := Transcript.add reception.transcript line }

end Reception
end Crosscheck
