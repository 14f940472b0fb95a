import Mathlib
import Crosscheck.Runner
import Crosscheck.Target.Worker

/-!
# Schedules of a runner and its workers

A runner over a harness on a worker shares nothing with its workers but channels and maps. It
zeroes its map, hands the input to a worker together with the map, waits for a result as long
as it cares to, and when the wait is over it reads the map. A worker takes what it is handed,
lets the threads of the harness report to the map that came with it, delivers the result into
its own channel when all of them are done, and goes on like that when nobody waits any more.

Nothing but the access to a single counter happens at once. A report reads its counter and
writes it afterwards, and the map is zeroed and read counter by counter. `Step` lets any side
take one of these steps at any moment, and `Runs` is any number of steps, so that every
schedule is a run.
-/

namespace Crosscheck

/-- The guard that an action reports. -/
def Action.guard? : Action → Option UInt32
  | .hit guard => some guard
  | .pause _ => none

/-- The guards that are reported, in order. -/
def Timeline.guards (timeline : Timeline) : List UInt32 :=
  timeline.actions.filterMap Action.guard?

namespace CoverageMap

/-- Write a counter. -/
def store (map : CoverageMap) (slot : Nat) (count : UInt8) : CoverageMap :=
  ⟨map.counters.setIfInBounds slot count, by simpa using map.supported⟩

/-- Complete a report that has found its counter at a count. -/
def complete (map : CoverageMap) (guard : UInt32) (seen : UInt8) : CoverageMap :=
  if seen = 255 then map else map.store (guard.toNat % map.capacity) (seen + 1)

@[simp] theorem capacity_store (map : CoverageMap) (slot : Nat) (count : UInt8) :
    (map.store slot count).capacity = map.capacity := by
  simp [store, capacity]

@[simp] theorem capacity_complete (map : CoverageMap) (guard : UInt32) (seen : UInt8) :
    (map.complete guard seen).capacity = map.capacity := by
  unfold complete
  split
  · rfl
  · exact capacity_store map _ _

end CoverageMap

namespace Isolation

/-- What a harness does with an input: the guards that each of its threads reports, in order,
and how it ends when all of them are done. -/
structure Work where
  strands : List (List UInt32)
  result : HarnessResult
  deriving DecidableEq, Repr

/-- A harness with its threads, as a function of the number of the call and the input. -/
abbrev Crew := Nat → List UInt8 → Work

/-- A harness that reports on one thread. -/
def ofHarness (harness : Harness) : Crew := fun call input =>
  ⟨[(harness call input).guards], (harness call input).result⟩

/-- What a harness returns when it has done its work. -/
def Work.delivery (work : Work) : Outcome := work.result.outcome "reported by harness"

/-- The outcome of a wait that is over before anything was delivered. -/
def expired (deadline : Nat) : Outcome :=
  .faulted ⟨.timeout, "no result within " ++ Duration.text deadline⟩

/-- The two accesses to a counter that a report consists of. -/
inductive Access where
  | load (guard : UInt32)
  | store (guard : UInt32)
  deriving DecidableEq, Repr

/-- The guard that is being reported. -/
def Access.guard : Access → UInt32
  | .load guard => guard
  | .store guard => guard

/-- Whether an access makes a report complete. -/
def Access.isStore : Access → Bool
  | .load _ => false
  | .store _ => true

@[simp] theorem Access.isStore_load (guard : UInt32) : (load guard).isStore = false := rfl

@[simp] theorem Access.isStore_store (guard : UInt32) : (store guard).isStore = true := rfl

/-- A thread of a harness, with the guards that it has reported and those that it has yet to
report. -/
structure Strand where
  made : List UInt32 := []
  /-- What the next report has found its counter at, if it has begun. -/
  seen : Option UInt8 := none
  rest : List UInt32
  deriving DecidableEq, Repr

/-- A thread that has not begun. -/
def Strand.ofGuards (guards : List UInt32) : Strand := { rest := guards }

/-- One step of a thread, with what it leaves of the map. Guard zero is never counted. -/
inductive Strand.Step (map : CoverageMap) : Strand → Access → Strand → CoverageMap → Prop where
  | skip {made rest} :
      Step map ⟨made, none, 0 :: rest⟩ (.store 0) ⟨made ++ [0], none, rest⟩ map
  | load {made guard rest} (active : guard ≠ 0) :
      Step map ⟨made, none, guard :: rest⟩ (.load guard)
        ⟨made, some (map.get guard.toNat), guard :: rest⟩ map
  | store {made guard seen rest} (active : guard ≠ 0) :
      Step map ⟨made, some seen, guard :: rest⟩ (.store guard) ⟨made ++ [guard], none, rest⟩
        (map.complete guard seen)

/-- An input that a worker is handed, with the number of the call and of the map that it
belongs to. -/
structure Job where
  call : Nat
  input : List UInt8
  generation : Nat
  deriving DecidableEq, Repr

/-- What a harness does with a job. -/
def Job.work (crew : Crew) (job : Job) : Work := crew job.call job.input

/-- A job in progress, with the threads that work on it. -/
structure Task where
  job : Job
  strands : List Strand
  deriving DecidableEq, Repr

/-- A worker between its two channels. -/
structure Worker where
  /-- What it has been handed and has not taken yet. -/
  jobs : List Job := []
  task : Option Task := none
  /-- What it has delivered and nobody has received yet. -/
  results : List Outcome := []
  deriving DecidableEq, Repr

/-- The jobs that a worker may yet report for. -/
def Worker.held (worker : Worker) : List Job :=
  worker.jobs ++ (worker.task.map Task.job).toList

/-- An access to a counter on behalf of a job, and the map as it is afterwards. -/
structure Touch where
  job : Job
  access : Access
  map : CoverageMap

/-- One step of a worker among all maps, with the access that it makes. -/
inductive Worker.Step (crew : Crew) (maps : Nat → CoverageMap) :
    Worker → Option Touch → Worker → Prop where
  | take {job jobs results} :
      Step crew maps ⟨job :: jobs, none, results⟩ none
        ⟨jobs, some ⟨job, (job.work crew).strands.map Strand.ofGuards⟩, results⟩
  | touch {jobs job before strand after next access map results}
      (stepped : Strand.Step (maps job.generation) strand access next map) :
      Step crew maps ⟨jobs, some ⟨job, before ++ strand :: after⟩, results⟩
        (some ⟨job, access, map⟩) ⟨jobs, some ⟨job, before ++ next :: after⟩, results⟩
  | deliver {jobs job strands results} (done : ∀ strand ∈ strands, strand.rest = []) :
      Step crew maps ⟨jobs, some ⟨job, strands⟩, results⟩ none
        ⟨jobs, none, results ++ [(job.work crew).delivery]⟩

/-- How far a runner has come with an input. -/
inductive Phase where
  | idle
  /-- The first counters of the map have been zeroed. -/
  | zeroing (input : List UInt8) (slots : Nat)
  /-- A worker has been asked and a result is awaited. -/
  | waiting (input : List UInt8)
  /-- The target has returned, and the first counters of the map have been read. -/
  | returned (input : List UInt8) (outcome : Outcome) (counts : Array UInt8)
  deriving DecidableEq, Repr

/-- A runner with all maps that it has ever had and all workers that it has ever asked. -/
structure Scene where
  maps : Nat → CoverageMap
  /-- The number of the current map. -/
  generation : Nat := 0
  workers : Nat → Worker := fun _ => {}
  /-- The number of workers that were ever started. -/
  spawned : Nat := 0
  /-- The worker that stands ready, whose channels the runner holds. -/
  handle : Option Nat := none
  /-- The number of the current or next call. -/
  calls : Nat := 0
  phase : Phase := .idle

namespace Scene

/-- A runner that has not run anything. -/
def ofMap (map : CoverageMap) : Scene := { maps := fun _ => map }

/-- The current map. -/
def map (scene : Scene) : CoverageMap := scene.maps scene.generation

/-- Put a map in the place of another one. -/
def setMap (scene : Scene) (generation : Nat) (map : CoverageMap) : Scene :=
  { scene with maps := Function.update scene.maps generation map }

/-- Put a worker in the place of another one. -/
def setWorker (scene : Scene) (number : Nat) (worker : Worker) : Scene :=
  { scene with workers := Function.update scene.workers number worker }

/-- The job that is made of an input. -/
def job (scene : Scene) (input : List UInt8) : Job := ⟨scene.calls, input, scene.generation⟩

/-- Prepare for the next call after an outcome, as a runner settles. -/
def settle (scene : Scene) (outcome : Outcome) : Scene :=
  let ended := { scene with phase := .idle, calls := scene.calls + 1 }
  if outcome.fault?.isNone then ended
  else if Runner.isTimeout outcome then
    { ended with handle := none, generation := scene.generation + 1 }.setMap
      (scene.generation + 1) scene.map.reset
  else { ended with handle := none }

/-- Let an access reach the map that its job came with. -/
def touch (scene : Scene) : Option Touch → Scene
  | some touch => scene.setMap touch.job.generation touch.map
  | none => scene

end Scene

/-- What the history of a run tells. -/
inductive Event where
  /-- A counter was accessed on behalf of a call. -/
  | accessed (call : Nat) (access : Access)
  /-- The target has returned from a call. -/
  | returned (call : Nat) (outcome : Outcome)
  /-- A counter was read for the record of a call. -/
  | read (call : Nat) (slot : Nat)
  /-- The record of a call is complete. -/
  | recorded (call : Nat) (input : List UInt8) (outcome : Outcome) (coverage : CoverageSnapshot)
  deriving DecidableEq, Repr

/-- The event of an access. -/
def Event.ofTouch (touch : Touch) : Event := .accessed touch.job.call touch.access

/-- One step of a runner or of one of its workers. -/
inductive Step (crew : Crew) (deadline : Nat) (scene : Scene) : Option Event → Scene → Prop where
  | call (input : List UInt8) (idle : scene.phase = .idle) :
      Step crew deadline scene none { scene with phase := .zeroing input 0 }
  | zero {input slot} (zeroing : scene.phase = .zeroing input slot)
      (inside : slot < scene.map.capacity) :
      Step crew deadline scene none
        ({ scene with phase := .zeroing input (slot + 1) }.setMap scene.generation
          (scene.map.store slot 0))
  | spawn {input} (zeroed : scene.phase = .zeroing input scene.map.capacity)
      (vacant : scene.handle = none) :
      Step crew deadline scene none
        { scene with handle := some scene.spawned, spawned := scene.spawned + 1 }
  | send {input number worker} (zeroed : scene.phase = .zeroing input scene.map.capacity)
      (ready : scene.handle = some number) (found : scene.workers number = worker) :
      Step crew deadline scene none
        ({ scene with phase := .waiting input }.setWorker number
          { worker with jobs := worker.jobs ++ [scene.job input] })
  | receive {input number jobs task outcome results} (waiting : scene.phase = .waiting input)
      (ready : scene.handle = some number)
      (found : scene.workers number = ⟨jobs, task, outcome :: results⟩) :
      Step crew deadline scene (some (.returned scene.calls outcome))
        ({ scene with phase := .returned input outcome #[] }.setWorker number
          ⟨jobs, task, results⟩)
  | expire {input} (waiting : scene.phase = .waiting input) :
      Step crew deadline scene (some (.returned scene.calls (expired deadline)))
        { scene with phase := .returned input (expired deadline) #[], handle := none }
  | read {input outcome counts} (returned : scene.phase = .returned input outcome counts)
      (inside : counts.size < scene.map.capacity) :
      Step crew deadline scene (some (.read scene.calls counts.size))
        { scene with phase := .returned input outcome (counts.push (scene.map.get counts.size)) }
  | record {input outcome counts} (returned : scene.phase = .returned input outcome counts)
      (complete : counts.size = scene.map.capacity) :
      Step crew deadline scene (some (.recorded scene.calls input outcome ⟨counts⟩))
        (scene.settle outcome)
  | work {number worker touch after} (found : scene.workers number = worker)
      (worked : Worker.Step crew scene.maps worker touch after) :
      Step crew deadline scene (touch.map Event.ofTouch)
        ((scene.touch touch).setWorker number after)

/-- Any number of steps, with their history. -/
inductive Runs (crew : Crew) (deadline : Nat) (origin : Scene) : List Event → Scene → Prop where
  | start : Runs crew deadline origin [] origin
  | next {events scene event after} (prior : Runs crew deadline origin events scene)
      (step : Step crew deadline scene event after) :
      Runs crew deadline origin (events ++ event.toList) after

section Runs

variable {crew : Crew} {deadline : Nat} {origin scene : Scene} {events : List Event}

/-- Runs go on with a step of any worker. -/
theorem Runs.work (runs : Runs crew deadline origin events scene) (number : Nat)
    {touch : Option Touch} {after : Worker}
    (worked : Worker.Step crew scene.maps (scene.workers number) touch after) :
    Runs crew deadline origin (events ++ (touch.map Event.ofTouch).toList)
      ((scene.touch touch).setWorker number after) :=
  runs.next (.work rfl worked)

/-- Runs go on where others end. -/
theorem Runs.trans {middle : Scene} {late : List Event}
    (first : Runs crew deadline origin events middle)
    (second : Runs crew deadline middle late scene) :
    Runs crew deadline origin (events ++ late) scene := by
  induction second with
  | start => simpa using first
  | next _ step inductionHypothesis =>
      rw [← List.append_assoc]
      exact inductionHypothesis.next step

end Runs

end Isolation
end Crosscheck
