import Crosscheck.Failure
import Crosscheck.Outcome

/-!
# Harnesses

A harness is the engine as a function within this program. What it does with an input
is told as a timeline: the edges that it reports and the pauses between them, in
order, and the result that stands at the end.
-/

namespace Crosscheck

/-- One thing that a harness does while it runs. -/
inductive Action where
  | hit (guard : UInt32)
  /-- Let nanoseconds pass. -/
  | pause (nanos : Nat)
  deriving DecidableEq, Repr

/-- How a harness ends. -/
inductive HarnessResult where
  | output (output : Output)
  | fault (kind : FaultKind)
  | unwound (payload : Payload)
  deriving DecidableEq, Repr

/-- What a harness does with one input. -/
structure Timeline where
  actions : List Action
  result : HarnessResult
  deriving DecidableEq, Repr

namespace Timeline

/-- The reported guards, each with the time of its report, from a given time on. -/
def hitsFrom (time : Nat) : List Action → List (Nat × UInt32)
  | [] => []
  | .hit guard :: rest => (time, guard) :: hitsFrom time rest
  | .pause nanos :: rest => hitsFrom (time + nanos) rest

/-- The reported guards, each with the time since the start. -/
def hits (timeline : Timeline) : List (Nat × UInt32) := hitsFrom 0 timeline.actions

/-- The nanoseconds of an action. -/
def span : Action → Nat
  | .hit _ => 0
  | .pause nanos => nanos

/-- The nanoseconds from start to result. -/
def duration (timeline : Timeline) : Nat := (timeline.actions.map span).foldr (· + ·) 0

end Timeline

/-- The engine as a function of the number of the call and the input. A deterministic
harness makes no use of the number. -/
abbrev Harness := Nat → List UInt8 → Timeline

/-- The outcome of a result, where `detail` describes a fault of the harness's own. -/
def HarnessResult.outcome (detail : String) : HarnessResult → Outcome
  | .output answer => .completed answer
  | .fault kind => .faulted ⟨kind, detail⟩
  | .unwound payload => .faulted ⟨.crash, payload.message⟩

end Crosscheck
