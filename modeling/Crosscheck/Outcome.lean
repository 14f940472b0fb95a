/-!
# Outcomes

An execution either completes with an output, which is compared across versions, or
faults. A statement that an engine rejects is an ordinary output.
-/

namespace Crosscheck

/-- What a completed execution answers. -/
inductive Output where
  /-- Result rows, each a list of column values. -/
  | rows (rows : List (List String))
  /-- The number of rows that the input changed. -/
  | changes (count : UInt64)
  /-- The engine's own refusal of the input. -/
  | error (text : String)
  deriving DecidableEq, Repr, Inhabited

/-- The ways in which an execution fails to complete. -/
inductive FaultKind where
  | crash
  | timeout
  | resourceExhausted
  deriving DecidableEq, Repr, Inhabited

/-- The name of a kind of fault. -/
def FaultKind.name : FaultKind → String
  | .crash => "crash"
  | .timeout => "timeout"
  | .resourceExhausted => "resource-exhausted"

/-- The kind of fault with a name. -/
def FaultKind.ofName? : String → Option FaultKind
  | "crash" => some .crash
  | "timeout" => some .timeout
  | "resource-exhausted" => some .resourceExhausted
  | _ => none

/-- A kind of fault and what is known of it. -/
structure Fault where
  kind : FaultKind
  detail : String
  deriving DecidableEq, Repr

/-- How one execution ended. -/
inductive Outcome where
  | completed (output : Output)
  | faulted (fault : Fault)
  deriving DecidableEq, Repr

namespace Outcome

/-- The fault of an execution that did not complete. -/
def fault? : Outcome → Option Fault
  | .faulted fault => some fault
  | .completed _ => none

/-- The output of an execution that completed. -/
def output? : Outcome → Option Output
  | .completed output => some output
  | .faulted _ => none

end Outcome
end Crosscheck
