import Crosscheck.Record
import Crosscheck.Target

/-!
# Runners

A runner owns a target and the map that it reports to. Every run starts from a map of
zeros and ends in a record, and a target that faulted is recycled before the next run.
A context that ran out of time may report for as long as it lives, so after a timeout
the runner takes a new map.
-/

namespace Crosscheck

/-- A target, where it reports, how long it may take and how often it has answered. -/
structure Runner (τ : Type) where
  target : τ
  sink : Sink
  /-- Nanoseconds for one input. -/
  timeout : Nat
  executions : Nat := 0

/-- Why a target is not fit for a run. -/
inductive Unready where
  | faulted (version : String) (fault : Fault)
  | unwound (payload : Payload)
  deriving DecidableEq, Repr

/-- The wording of why a target is not fit. -/
def Unready.message : Unready → String
  | .faulted version fault =>
    s!"target '{version}' failed to start: {fault.kind.name} ({fault.detail})"
  | .unwound payload => payload.message

namespace Runner

variable {τ : Type} [Target τ]

/-- A runner whose map has the given capacity. -/
def ofTarget (target : τ) (capacity timeout : Nat) : Except CoverageError (Runner τ) :=
  (Sink.ofCapacity capacity).map fun sink => { target, sink, timeout }

/-- The version of the target. -/
def version (runner : Runner τ) : String := Target.version runner.target

/-- The capacity of the map. -/
def capacity (runner : Runner τ) : Nat := runner.sink.map.capacity

/-- Whether an outcome is a timeout. -/
def isTimeout (outcome : Outcome) : Bool :=
  outcome.fault?.map Fault.kind == some .timeout

/-- Prepare for the next run after an outcome. A target that cannot be recycled stays
as it is. -/
def settle (runner : Runner τ) (outcome : Outcome) : Runner τ :=
  if outcome.fault?.isNone then runner
  else
    { runner with
      sink := if isTimeout outcome then runner.sink.renew else runner.sink
      target := (Target.recycle runner.target).2 }

/-- Run an input. A target that unwinds leaves no record. -/
def run (runner : Runner τ) (input : List UInt8) : Except Payload Record × Runner τ :=
  let execution := Target.execute runner.target runner.sink.reset input runner.timeout
  let after := { runner with target := execution.target, sink := execution.sink }
  match execution.ending with
  | .unwound payload => (.error payload, after)
  | .answered outcome =>
    let settled := { after with executions := after.executions + 1 }.settle outcome
    let coverage := execution.sink.map.snapshotBeside execution.trailing
    (.ok ⟨settled.version, coverage, outcome, execution.elapsed⟩, settled)

/-- Run an empty input, which every fit target completes. -/
def warmUp (runner : Runner τ) : Except Unready Unit × Runner τ :=
  match runner.run [] with
  | (.error payload, runner) => (.error (.unwound payload), runner)
  | (.ok record, runner) =>
    match record.outcome.fault? with
    | some fault => (.error (.faulted record.version fault), runner)
    | none => (.ok (), runner)

end Runner
end Crosscheck
