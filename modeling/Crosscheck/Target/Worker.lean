import Crosscheck.Duration
import Crosscheck.Target
import Crosscheck.Target.Harness

/-!
# Harnesses on a worker

The harness runs on a worker of its own, which is the context of execution. A harness
that unwinds has crashed, and its worker lives on. A harness that misses its deadline
is abandoned together with its worker: nothing can stop it, so it goes on reporting
edges through the sink it was given, but nobody awaits its result.
-/

namespace Crosscheck

/-- An edge that an abandoned worker will report. -/
structure LateHit where
  /-- The time of the report, on the clock of the target. -/
  time : Nat
  generation : Nat
  guard : UInt32
  deriving DecidableEq, Repr

/-- A harness that runs on a worker. -/
structure WorkerTarget where
  version : String
  harness : Harness
  /-- Whether a worker stands ready. -/
  hasWorker : Bool := false
  /-- The number of calls made so far. -/
  calls : Nat := 0
  /-- The clock, in nanoseconds. -/
  clock : Nat := 0
  /-- What abandoned workers have yet to report. -/
  lateHits : List LateHit := []

namespace WorkerTarget

/-- Let abandoned workers report up to a time. -/
def overtake (target : WorkerTarget) (sink : Sink) (time : Nat) : Sink :=
  (target.lateHits.filter (·.time < time)).foldl
    (fun sink late => sink.hitAs late.generation late.guard) sink

/-- The target when its clock has reached a time. -/
def advance (target : WorkerTarget) (time : Nat) : WorkerTarget :=
  { target with clock := time, lateHits := target.lateHits.filter fun late => !(late.time < time) }

/-- What abandoned workers will report to a map, each with the time until then. -/
def trailing (target : WorkerTarget) (generation : Nat) : List (Nat × UInt32) :=
  (target.lateHits.filter (·.generation = generation)).map fun late =>
    (late.time - target.clock, late.guard)

/-- Execute an input. A result counts when it comes before the deadline. -/
def execute (target : WorkerTarget) (sink : Sink) (input : List UInt8) (deadline : Nat) :
    Execution WorkerTarget :=
  let timeline := target.harness target.calls input
  let started := { target with calls := target.calls + 1, hasWorker := true }
  if timeline.duration < deadline then
    let stop := target.clock + timeline.duration
    let after := started.advance stop
    { target := after
      sink := (timeline.hits.map Prod.snd).foldl Sink.hit (target.overtake sink stop)
      ending := .answered (timeline.result.outcome "reported by harness")
      elapsed := timeline.duration
      trailing := after.trailing sink.generation }
  else
    let stop := target.clock + deadline
    let (early, late) := timeline.hits.partition fun (time, _) => time < deadline
    let abandoned := late.map fun (time, guard) => ⟨target.clock + time, sink.generation, guard⟩
    let after :=
      { started.advance stop with
        hasWorker := false
        lateHits := (started.advance stop).lateHits ++ abandoned }
    { target := after
      sink := (early.map Prod.snd).foldl Sink.hit (target.overtake sink stop)
      ending := .answered (.faulted ⟨.timeout, "no result within " ++ Duration.text deadline⟩)
      elapsed := deadline
      trailing := after.trailing sink.generation }

@[simp] theorem capacity_overtake (target : WorkerTarget) (sink : Sink) (time : Nat) :
    (target.overtake sink time).map.capacity = sink.map.capacity := by
  unfold overtake
  apply Sink.capacity_foldl
  intro sink late
  exact Sink.capacity_hitAs sink late.generation late.guard

/-- Late reports and the harness's own leave the capacity as it was. -/
theorem capacity_execute (target : WorkerTarget) (sink : Sink) (input : List UInt8)
    (deadline : Nat) :
    (target.execute sink input deadline).sink.map.capacity = sink.map.capacity := by
  unfold execute
  dsimp only
  split
  all_goals
    rw [Sink.capacity_foldl _ Sink.capacity_hit]
    exact capacity_overtake target sink _

instance : Target WorkerTarget where
  version := version
  execute := execute
  recycle target := (.ok (), { target with hasWorker := false })
  capacity_execute := capacity_execute

end WorkerTarget
end Crosscheck
