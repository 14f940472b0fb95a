import Crosscheck.Target.Worker

/-!
# Workers that fail

A worker is a thread of the system, which may refuse to start it. A started one ends when
what its harness has unwound with unwinds in turn on being dropped; then no result comes.
Where neither happens these are the workers of `WorkerTarget`.
-/

namespace Crosscheck

/-- A harness whose workers may fail. -/
structure ThreadTarget where
  worker : WorkerTarget
  /-- Why the system refuses to start a worker, by the number of the attempt. -/
  refusal? : Nat → Option String
  /-- Whether what a call unwinds with unwinds once more when it is dropped. -/
  relapses : Nat → List UInt8 → Bool
  /-- The number of attempts to start a worker so far. -/
  attempts : Nat := 0

namespace ThreadTarget

/-- Whether the worker ends over an input before it has a result. -/
def isLost (target : ThreadTarget) (input : List UInt8) (deadline : Nat) : Bool :=
  let timeline := target.worker.harness target.worker.calls input
  match timeline.result with
  | .unwound _ => timeline.duration < deadline && target.relapses target.worker.calls input
  | _ => false

/-- Execute an input on a worker that runs. -/
def engage (target : ThreadTarget) (sink : Sink) (input : List UInt8) (deadline : Nat) :
    Execution ThreadTarget :=
  let execution := target.worker.execute sink input deadline
  if target.isLost input deadline then
    { target := { target with worker := { execution.target with hasWorker := false } }
      sink := execution.sink
      ending := .answered (.faulted ⟨.crash, "worker thread exited"⟩)
      elapsed := execution.elapsed
      trailing := execution.trailing }
  else execution.map fun worker => { target with worker }

/-- Execute an input, starting a worker if there is none. -/
def execute (target : ThreadTarget) (sink : Sink) (input : List UInt8) (deadline : Nat) :
    Execution ThreadTarget :=
  if target.worker.hasWorker then target.engage sink input deadline
  else
    let tried := { target with attempts := target.attempts + 1 }
    match target.refusal? target.attempts with
    | some cause =>
      { target := tried
        sink
        ending := .answered
          (.faulted ⟨.resourceExhausted, "failed to spawn worker thread: " ++ cause⟩)
        elapsed := 0 }
    | none => tried.engage sink input deadline

theorem capacity_engage (target : ThreadTarget) (sink : Sink) (input : List UInt8)
    (deadline : Nat) :
    (target.engage sink input deadline).sink.map.capacity = sink.map.capacity := by
  unfold engage
  dsimp only
  split <;> exact WorkerTarget.capacity_execute target.worker sink input deadline

/-- A refused start leaves the map as it was. -/
theorem capacity_execute (target : ThreadTarget) (sink : Sink) (input : List UInt8)
    (deadline : Nat) :
    (target.execute sink input deadline).sink.map.capacity = sink.map.capacity := by
  unfold execute
  split
  · exact capacity_engage target sink input deadline
  · dsimp only
    split
    · rfl
    · exact capacity_engage _ sink input deadline

instance : Target ThreadTarget where
  version target := target.worker.version
  execute := execute
  recycle target := (.ok (), { target with worker := { target.worker with hasWorker := false } })
  capacity_execute := capacity_execute

end ThreadTarget
end Crosscheck
