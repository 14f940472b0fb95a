import Crosscheck.Coverage.Map
import Crosscheck.Failure
import Crosscheck.Outcome

/-!
# Targets

A target is one version of the engine. It executes whole inputs, reports coverage
through a sink and answers within roughly the time it is given. After a fault its
owner has it recycled, so that the next input meets a fresh context.
-/

namespace Crosscheck

/-- Where a target reports coverage: a map, and which of its owner's maps it is. A
context that outlives its execution holds on to the generation that it was given. -/
structure Sink where
  generation : Nat
  map : CoverageMap

namespace Sink

/-- A first map of the given capacity. -/
def ofCapacity (capacity : Nat) : Except CoverageError Sink :=
  (CoverageMap.ofCapacity capacity).map (⟨0, ·⟩)

/-- Report the execution of an edge. -/
def hit (sink : Sink) (guard : UInt32) : Sink := { sink with map := sink.map.hit guard }

/-- Report an edge on behalf of the holder of a generation. Only the current one
still reaches the map. -/
def hitAs (sink : Sink) (generation : Nat) (guard : UInt32) : Sink :=
  if generation = sink.generation then sink.hit guard else sink

/-- The sink with every counter at zero. -/
def reset (sink : Sink) : Sink := { sink with map := sink.map.reset }

/-- A new map of the same capacity, out of reach of all who hold the old one. -/
def renew (sink : Sink) : Sink := ⟨sink.generation + 1, sink.map.reset⟩

@[simp] theorem capacity_hit (sink : Sink) (guard : UInt32) :
    (sink.hit guard).map.capacity = sink.map.capacity :=
  CoverageMap.capacity_hit sink.map guard

@[simp] theorem capacity_hitAs (sink : Sink) (generation : Nat) (guard : UInt32) :
    (sink.hitAs generation guard).map.capacity = sink.map.capacity := by
  unfold hitAs
  split
  · exact capacity_hit sink guard
  · rfl

@[simp] theorem capacity_reset (sink : Sink) : sink.reset.map.capacity = sink.map.capacity :=
  CoverageMap.capacity_reset sink.map

@[simp] theorem capacity_renew (sink : Sink) : sink.renew.map.capacity = sink.map.capacity :=
  CoverageMap.capacity_reset sink.map

/-- Any number of reports leaves the capacity as it was. -/
theorem capacity_foldl {α : Type} (report : Sink → α → Sink)
    (kept : ∀ sink item, (report sink item).map.capacity = sink.map.capacity)
    (items : List α) (sink : Sink) :
    (items.foldl report sink).map.capacity = sink.map.capacity := by
  induction items generalizing sink with
  | nil => rfl
  | cons item rest inductionHypothesis =>
      rw [List.foldl_cons, inductionHypothesis, kept]

end Sink

/-- How a call to a target ends. -/
inductive Ending where
  | answered (outcome : Outcome)
  /-- The call unwound through its caller. -/
  | unwound (payload : Payload)
  deriving DecidableEq, Repr

/-- What one call to a target leaves behind. -/
structure Execution (τ : Type) where
  target : τ
  sink : Sink
  ending : Ending
  /-- Nanoseconds that the call took. -/
  elapsed : Nat
  /-- What a context that outlives the call reports to the map, with the nanoseconds since the
  call has ended. -/
  trailing : List (Nat × UInt32) := []

/-- The execution seen through a function on targets. -/
def Execution.map {τ υ : Type} (wrap : τ → υ) (execution : Execution τ) : Execution υ where
  target := wrap execution.target
  sink := execution.sink
  ending := execution.ending
  elapsed := execution.elapsed
  trailing := execution.trailing

/-- A state that is one version of the engine. -/
class Target (τ : Type) where
  version : τ → String
  /-- Execute an input, reporting to the sink, with a number of nanoseconds to do so. -/
  execute : τ → Sink → List UInt8 → Nat → Execution τ
  /-- Discard the context of execution. -/
  recycle : τ → Except Failure Unit × τ
  /-- Whoever executes writes into the map that it was given and cannot put one of another
  size in its place. -/
  capacity_execute : ∀ target sink input deadline,
    (execute target sink input deadline).sink.map.capacity = sink.map.capacity

/-- A target that is one of two kinds. -/
instance {τ υ : Type} [Target τ] [Target υ] : Target (τ ⊕ υ) where
  version
    | .inl target => Target.version target
    | .inr target => Target.version target
  execute
    | .inl target, sink, input, deadline => (Target.execute target sink input deadline).map .inl
    | .inr target, sink, input, deadline => (Target.execute target sink input deadline).map .inr
  recycle
    | .inl target => (Target.recycle target).map id .inl
    | .inr target => (Target.recycle target).map id .inr
  capacity_execute
    | .inl target, sink, input, deadline => Target.capacity_execute target sink input deadline
    | .inr target, sink, input, deadline => Target.capacity_execute target sink input deadline

end Crosscheck
