import Mathlib
import Crosscheck.Proofs.Isolation.Counter

/-!
# Who works for the current call

At most one worker does, and it alone holds the current map. `Progress` tells how far its
threads have come and `Serves` how far it has come itself; all others are `Stale`: their
jobs came with past maps and belong to past calls. A `Stage` puts this together, and whatever
step a worker takes, the scene stays at its stage (`Stage.work`).
-/

namespace Crosscheck.Isolation

/-- The access that an event makes on behalf of a call. -/
def Event.accessOf? (call : Nat) : Event → Option Access
  | .accessed number access => if number = call then some access else none
  | .returned .. | .read .. | .recorded .. => none

/-- The number of the call that an event records. -/
def Event.recorded? : Event → Option Nat
  | .recorded call .. => some call
  | .accessed .. | .returned .. | .read .. => none

/-- The accesses made on behalf of a call, in order. -/
def accessesOf (call : Nat) (events : List Event) : List Access :=
  events.filterMap (Event.accessOf? call)

/-- The guards reported on behalf of a call, in the order in which the reports were complete. -/
def reportsOf (call : Nat) (events : List Event) : List UInt32 := madeOf (accessesOf call events)

section Events

variable {call : Nat} {touch : Option Touch}

@[simp] theorem accessesOf_append (call : Nat) (earlier later : List Event) :
    accessesOf call (earlier ++ later) = accessesOf call earlier ++ accessesOf call later := by
  simp [accessesOf]

/-- The runner reports nothing itself. -/
@[simp] theorem accessesOf_returned (call number : Nat) (outcome : Outcome)
    (events : List Event) :
    accessesOf call (.returned number outcome :: events) = accessesOf call events := rfl

@[simp] theorem accessesOf_read (call number slot : Nat) (events : List Event) :
    accessesOf call (.read number slot :: events) = accessesOf call events := rfl

@[simp] theorem accessesOf_recorded (call number : Nat) (input : List UInt8) (outcome : Outcome)
    (coverage : CoverageSnapshot) (events : List Event) :
    accessesOf call (.recorded number input outcome coverage :: events) =
      accessesOf call events := rfl

@[simp] theorem accessesOf_nil (call : Nat) : accessesOf call [] = [] := rfl

/-- Accesses made on behalf of other calls are not those of a call. -/
theorem accessesOf_touch_of_ne (others : ∀ made ∈ touch, made.job.call ≠ call) :
    accessesOf call (touch.map Event.ofTouch).toList = [] := by
  cases touch with
  | none => rfl
  | some made => simp [accessesOf, Event.ofTouch, Event.accessOf?, others made rfl]

theorem accessesOf_touch (own : ∀ made ∈ touch, made.job.call = call) :
    accessesOf call (touch.map Event.ofTouch).toList = (touch.map Touch.access).toList := by
  cases touch with
  | none => rfl
  | some made => simp [accessesOf, Event.ofTouch, Event.accessOf?, own made rfl]

end Events

section Progress

/-- How far the threads of a harness have come with an input since the map was at zero. -/
structure Progress (work : Work) (map : CoverageMap) (accesses : List Access)
    (strands : List Strand) : Prop where
  whole : strands.map Strand.whole = work.strands
  made : (madeOf accesses).Perm (strands.flatMap Strand.made)
  shows : Shows map accesses strands
  apart : ∀ slot < map.capacity, Lone map.capacity slot work.strands →
    Unraced map.capacity slot accesses

/-- A count that tells the truth about the accesses made so far. They belong to the first
reports of each thread. The count shows no more of them than there are, it shows one if there
is one, and it shows them all, up to 255, if they did not overlap. Those of a single thread
never do. -/
structure Truthful (work : Work) (capacity slot : Nat) (accesses : List Access) (count : Nat) :
    Prop where
  le : count ≤ min 255 ((madeOf accesses).countP (CoverageMap.reaches capacity slot))
  pos : 0 < (madeOf accesses).countP (CoverageMap.reaches capacity slot) → 0 < count
  exact : Unraced capacity slot accesses →
    count = min 255 ((madeOf accesses).countP (CoverageMap.reaches capacity slot))
  apart : Lone capacity slot work.strands → Unraced capacity slot accesses
  parts : ∃ parts, List.Forall₂ (fun part strand => part <+: strand) parts work.strands ∧
    (madeOf accesses).Perm parts.flatten

namespace Progress

variable {work : Work} {map : CoverageMap} {accesses : List Access} {strands : List Strand}

/-- Threads that have not begun leave the counters at zero. -/
theorem start (work : Work) (zeroed : ∀ slot < map.capacity, map.get slot = 0) :
    Progress work map [] (work.strands.map .ofGuards) where
  whole := by simp [Function.comp_def, Strand.whole, Strand.ofGuards]
  made := by simp [madeOf, List.flatMap_map, Strand.ofGuards]
  shows slot inside := by
    have none : (work.strands.map Strand.ofGuards).filterMap
        (Strand.pending? map.capacity slot) = [] := by
      simp [Strand.ofGuards, Strand.pending?]
    rw [none, zeroed slot inside]
    exact .zero
  apart _ _ _ := .nil

/-- A step of a thread goes on with it. -/
theorem step {left right : List Strand} {strand next : Strand} {access : Access}
    {after : CoverageMap} (progress : Progress work map accesses (left ++ strand :: right))
    (stepped : Strand.Step map strand access next after) :
    Progress work after (accesses ++ [access]) (left ++ next :: right) where
  whole := by simpa [stepped.whole] using progress.whole
  made := by
    have before := progress.made.append_right (madeOf [access])
    rw [madeOf_append]
    refine before.trans ?_
    simp only [List.flatMap_append, List.flatMap_cons, stepped.made, List.append_assoc]
    exact (List.perm_append_comm.append_left _).append_left _
  shows := progress.shows.step stepped
  apart slot inside lone := by
    rw [stepped.capacity] at inside lone ⊢
    rw [← progress.whole] at lone
    exact .step progress.shows rfl inside lone
      (progress.apart slot inside (progress.whole ▸ lone)) stepped

/-- Threads that are done have reported all that the harness reports. -/
theorem complete (progress : Progress work map accesses strands)
    (done : ∀ strand ∈ strands, strand.rest = []) :
    (madeOf accesses).Perm work.strands.flatten := by
  have same : strands.map Strand.whole = strands.map Strand.made :=
    List.map_congr_left fun strand member => by simp [Strand.whole, done strand member]
  rw [← progress.whole, same]
  exact progress.made

theorem truthful (progress : Progress work map accesses strands) {slot : Nat}
    (inside : slot < map.capacity) :
    Truthful work map.capacity slot accesses (map.get slot).toNat := by
  have counted := progress.shows slot inside
  have bounded := (map.get slot).toNat_lt
  have writes := countP_touching map.capacity slot accesses
  refine ⟨?_, fun some => ?_, fun unraced => ?_, progress.apart slot inside, ?_⟩
  · have fewer := counted.le_countP.1
    omega
  · have shown := counted.ne_zero.1 (writes ▸ some)
    exact Nat.pos_of_ne_zero fun none => shown (UInt8.toNat.inj none)
  · rw [← writes]
    exact (counted.eq_of_isChain unraced).1
  · refine ⟨strands.map Strand.made, ?_, progress.made⟩
    rw [← progress.whole, List.forall₂_map_left_iff, List.forall₂_map_right_iff]
    exact List.forall₂_same.mpr fun strand _ => List.prefix_append _ _

end Progress

end Progress

section Worker

variable {crew : Crew} {maps : Nat → CoverageMap} {worker after : Worker} {touch : Option Touch}

/-- A worker takes on nothing by itself. -/
theorem Worker.Step.held_subset (step : Worker.Step crew maps worker touch after) :
    after.held ⊆ worker.held := by
  cases step <;> simp [Worker.held]

/-- It reports for nothing but a job that it holds, and no map changes its size. -/
theorem Worker.Step.of_touch (step : Worker.Step crew maps worker touch after) {made : Touch}
    (touched : made ∈ touch) :
    made.job ∈ worker.held ∧ made.map.capacity = (maps made.job.generation).capacity := by
  cases step with
  | touch stepped =>
      cases touched
      exact ⟨by simp [Worker.held], stepped.capacity⟩
  | take | deliver => cases touched

/-- A worker that has been handed nothing has nothing to do. -/
theorem Worker.Step.ne_blank (step : Worker.Step crew maps worker touch after) :
    worker ≠ {} := by
  cases step <;> simp

/-- A worker that was blank when it was handed a job, with threads that have come so far: it
has not taken the job yet, or is at it, or has delivered the result. -/
inductive Serves (crew : Crew) (job : Job) (strands : List Strand) : Worker → Prop where
  | queued (fresh : strands = (job.work crew).strands.map .ofGuards) :
      Serves crew job strands { jobs := [job] }
  | running : Serves crew job strands { task := some ⟨job, strands⟩ }
  | finished (done : ∀ strand ∈ strands, strand.rest = []) :
      Serves crew job strands { results := [(job.work crew).delivery] }

namespace Serves

variable {job : Job} {strands : List Strand}

theorem held_subset (serves : Serves crew job strands worker) : worker.held ⊆ [job] := by
  cases serves <;> simp [Worker.held]

/-- A delivered result is that of the job, and comes after all its reports. -/
theorem received {jobs : List Job} {task : Option Task} {outcome : Outcome}
    {results : List Outcome} (serves : Serves crew job strands ⟨jobs, task, outcome :: results⟩) :
    outcome = (job.work crew).delivery ∧ (∀ strand ∈ strands, strand.rest = []) ∧
      (⟨jobs, task, results⟩ : Worker) = {} := by
  cases serves with
  | finished done => exact ⟨rfl, done, rfl⟩

/-- A step of the worker goes on with the job, or with one of its threads. -/
theorem step (serves : Serves crew job strands worker)
    (worked : Worker.Step crew maps worker touch after) :
    touch = none ∧ Serves crew job strands after ∨
      ∃ left strand right next access map, strands = left ++ strand :: right ∧
        Strand.Step (maps job.generation) strand access next map ∧
        touch = some ⟨job, access, map⟩ ∧ Serves crew job (left ++ next :: right) after := by
  cases serves with
  | queued fresh =>
      cases worked
      subst fresh
      exact .inl ⟨rfl, .running⟩
  | running =>
      cases worked with
      | touch stepped => exact .inr ⟨_, _, _, _, _, _, rfl, stepped, rfl, .running⟩
      | deliver done => exact .inl ⟨rfl, .finished done⟩
  | finished => cases worked

end Serves

end Worker

namespace Scene

variable {crew : Crew} {maps : Nat → CoverageMap} {scene : Scene}

/-- A worker that works for past calls only, and reports to past maps only. -/
def Stale (scene : Scene) (worker : Worker) : Prop :=
  ∀ job ∈ worker.held, job.generation < scene.generation ∧ job.call < scene.calls

/-- No step of a worker makes it less stale. -/
theorem Stale.step {worker after : Worker} {touch : Option Touch} (stale : scene.Stale worker)
    (worked : Worker.Step crew maps worker touch after) : scene.Stale after := fun job held =>
  stale job (worked.held_subset held)

theorem Stale.mono {later : Scene} {worker : Worker} (stale : scene.Stale worker)
    (generation : scene.generation ≤ later.generation) (calls : scene.calls ≤ later.calls) :
    later.Stale worker := fun job held =>
  ⟨(stale job held).1.trans_le generation, (stale job held).2.trans_le calls⟩

@[simp] theorem workers_setWorker (scene : Scene) (number : Nat) (worker : Worker) :
    (scene.setWorker number worker).workers number = worker := by
  simp [setWorker]

theorem workers_setWorker_of_ne {other number : Nat} (different : other ≠ number)
    (scene : Scene) (worker : Worker) :
    (scene.setWorker number worker).workers other = scene.workers other := by
  simp [setWorker, different]

/-- Putting a map of the same size in the place of another one keeps all sizes. -/
theorem capacity_update {capacity generation : Nat} {map : CoverageMap}
    (sized : ∀ number, (maps number).capacity = capacity) (same : map.capacity = capacity)
    (number : Nat) : (Function.update maps generation map number).capacity = capacity := by
  by_cases here : number = generation
  · subst here
    simpa using same
  · simpa [here] using sized number

/-- An access changes nothing but maps, which keep their size. -/
theorem touch_eq {capacity number : Nat} {touch : Option Touch} {after : Worker}
    (sized : ∀ generation, (scene.maps generation).capacity = capacity)
    (worked : Worker.Step crew scene.maps (scene.workers number) touch after) :
    ∃ maps, scene.touch touch = { scene with maps } ∧
      ∀ generation, (maps generation).capacity = capacity := by
  cases touch with
  | none => exact ⟨scene.maps, rfl, sized⟩
  | some made =>
      refine ⟨_, rfl, capacity_update sized ?_⟩
      exact (worked.of_touch rfl).2.trans (sized _)

/-- An access to a past map does not reach the current one. -/
theorem map_touch_of_past {touch : Option Touch}
    (past : ∀ made ∈ touch, made.job.generation < scene.generation) :
    (scene.touch touch).map = scene.map := by
  cases touch with
  | none => rfl
  | some made => simp [map, Scene.touch, setMap, Function.update_of_ne (past made rfl).ne']

/-- Settling goes on to the next call. It gives up no more than the worker that stands ready,
and never goes back to a past map. -/
theorem settle_eq {capacity : Nat} (scene : Scene) (outcome : Outcome)
    (sized : ∀ generation, (scene.maps generation).capacity = capacity) :
    ∃ maps generation handle, scene.settle outcome =
        { scene with maps, generation, handle, calls := scene.calls + 1, phase := .idle } ∧
      (∀ number, (maps number).capacity = capacity) ∧ scene.generation ≤ generation ∧
      ∀ number, handle = some number → scene.handle = some number := by
  unfold settle
  split
  · exact ⟨scene.maps, scene.generation, scene.handle, rfl, sized, le_rfl, fun _ => id⟩
  · split
    · refine ⟨_, scene.generation + 1, none, rfl, capacity_update sized ?_, Nat.le_succ _,
        by simp⟩
      exact scene.map.capacity_reset.trans (sized _)
    · exact ⟨scene.maps, scene.generation, none, rfl, sized, le_rfl, by simp⟩

/-- After a wait that is over the map and whoever held it are given up. -/
theorem settle_expired (scene : Scene) (deadline : Nat) :
    (scene.settle (expired deadline)).generation = scene.generation + 1 ∧
      (scene.settle (expired deadline)).handle = none := ⟨rfl, rfl⟩

end Scene

section Stage

/-- The work of the current call for an input. -/
def Scene.work (crew : Crew) (scene : Scene) (input : List UInt8) : Work :=
  (scene.job input).work crew

/-- A scene in which nobody works for the current call: it has not been made yet, or no worker
has been asked yet, or the result has been received. -/
inductive Rests (crew : Crew) (scene : Scene) (accesses : List Access) : Prop where
  | idle (idle : scene.phase = .idle) (untouched : accesses = [])
  | zeroing {input slots} (zeroing : scene.phase = .zeroing input slots)
      (untouched : accesses = []) (within : slots ≤ scene.map.capacity)
      (zeroed : ∀ slot < slots, scene.map.get slot = 0)
  | answered {input counts strands}
      (answered : scene.phase = .returned input (scene.work crew input).delivery counts)
      (progress : Progress (scene.work crew input) scene.map accesses strands)
      (done : ∀ strand ∈ strands, strand.rest = [])

/-- What a resting scene is like tells nothing of workers and past maps. -/
theorem Rests.of_map {crew : Crew} {scene : Scene} {accesses : List Access}
    (rests : Rests crew scene accesses) {maps : Nat → CoverageMap}
    (same : maps scene.generation = scene.map) (workers : Nat → Worker) :
    Rests crew { scene with maps, workers } accesses := by
  have kept : Scene.map { scene with maps, workers } = scene.map := same
  cases rests with
  | idle idle untouched => exact .idle idle untouched
  | zeroing zeroing untouched within zeroed =>
      exact .zeroing zeroing untouched (kept ▸ within) (kept ▸ zeroed)
  | answered answered progress done => exact .answered answered (kept ▸ progress) done

/-- A worker has been asked for the current call. Its result is awaited, or the wait is over
and the worker given up. -/
inductive Engaged (deadline : Nat) (scene : Scene) (number : Nat) (input : List UInt8) :
    Prop where
  | waiting (waiting : scene.phase = .waiting input) (ready : scene.handle = some number)
  | expired {counts} (returned : scene.phase = .returned input (expired deadline) counts)
      (vacant : scene.handle = none)

/-- Who works for the current call: nobody, or one worker that holds the current map. -/
inductive Stage (crew : Crew) (deadline : Nat) (scene : Scene) (accesses : List Access) :
    Prop where
  | resting (rests : Rests crew scene accesses)
      (stale : ∀ number, scene.Stale (scene.workers number))
      (clear : ∀ number, scene.handle = some number → scene.workers number = {})
  | serving {number input strands} (engaged : Engaged deadline scene number input)
      (serves : Serves crew (scene.job input) strands (scene.workers number))
      (stale : ∀ other, other ≠ number → scene.Stale (scene.workers other))
      (progress : Progress (scene.work crew input) scene.map accesses strands)

section Phases

variable {crew : Crew} {deadline : Nat} {scene : Scene} {accesses : List Access}
variable {input : List UInt8} {outcome : Outcome} {counts : Array UInt8} {slots : Nat}

/-- The phase of a scene tells its stage. Before a call nothing has been accessed for it. -/
theorem Stage.of_idle (stage : Stage crew deadline scene accesses) (idle : scene.phase = .idle) :
    accesses = [] ∧ (∀ number, scene.Stale (scene.workers number)) ∧
      ∀ number, scene.handle = some number → scene.workers number = {} := by
  cases stage with
  | serving engaged => cases engaged <;> simp_all
  | resting rests stale clear =>
      cases rests with
      | idle _ untouched => exact ⟨untouched, stale, clear⟩
      | zeroing zeroing => simp [idle] at zeroing
      | answered answered => simp [idle] at answered

theorem Stage.of_zeroing (stage : Stage crew deadline scene accesses)
    (zeroing : scene.phase = .zeroing input slots) :
    (accesses = [] ∧ slots ≤ scene.map.capacity ∧ ∀ slot < slots, scene.map.get slot = 0) ∧
      (∀ number, scene.Stale (scene.workers number)) ∧
      ∀ number, scene.handle = some number → scene.workers number = {} := by
  cases stage with
  | serving engaged => cases engaged <;> simp_all
  | resting rests stale clear =>
      cases rests with
      | idle idle => simp [idle] at zeroing
      | zeroing still untouched within zeroed =>
          obtain ⟨rfl, rfl⟩ := Phase.zeroing.inj (still.symm.trans zeroing)
          exact ⟨⟨untouched, within, zeroed⟩, stale, clear⟩
      | answered answered => simp [answered] at zeroing

/-- While a result is awaited the worker that stands ready works for it. -/
theorem Stage.of_waiting (stage : Stage crew deadline scene accesses)
    (waiting : scene.phase = .waiting input) :
    ∃ number strands, scene.handle = some number ∧
      Serves crew (scene.job input) strands (scene.workers number) ∧
      (∀ other, other ≠ number → scene.Stale (scene.workers other)) ∧
      Progress (scene.work crew input) scene.map accesses strands := by
  cases stage with
  | resting rests => cases rests <;> simp_all
  | serving engaged serves stale progress =>
      cases engaged with
      | expired returned => simp [waiting] at returned
      | waiting still ready =>
          cases still.symm.trans waiting
          exact ⟨_, _, ready, serves, stale, progress⟩

/-- When the target has returned the outcome is that of the harness, which is done, or a worker
was given up that goes on. -/
theorem Stage.of_returned (stage : Stage crew deadline scene accesses)
    (returned : scene.phase = .returned input outcome counts) :
    ∃ strands, Progress (scene.work crew input) scene.map accesses strands ∧
      ((outcome = (scene.work crew input).delivery ∧ (∀ strand ∈ strands, strand.rest = []) ∧
          (∀ number, scene.Stale (scene.workers number)) ∧
          ∀ number, scene.handle = some number → scene.workers number = {}) ∨
        outcome = expired deadline ∧ scene.handle = none ∧
          ∃ number, Serves crew (scene.job input) strands (scene.workers number) ∧
            ∀ other, other ≠ number → scene.Stale (scene.workers other)) := by
  cases stage with
  | resting rests stale clear =>
      cases rests with
      | idle idle => simp [idle] at returned
      | zeroing zeroing => simp [zeroing] at returned
      | answered still progress done =>
          obtain ⟨rfl, rfl, rfl⟩ := Phase.returned.inj (still.symm.trans returned)
          exact ⟨_, progress, .inl ⟨rfl, done, stale, clear⟩⟩
  | serving engaged serves stale progress =>
      cases engaged with
      | waiting waiting => simp [waiting] at returned
      | expired still vacant =>
          obtain ⟨rfl, rfl, rfl⟩ := Phase.returned.inj (still.symm.trans returned)
          exact ⟨_, progress, .inr ⟨rfl, vacant, _, serves, stale⟩⟩

/-- Reading a counter changes nothing. -/
theorem Stage.read (stage : Stage crew deadline scene accesses)
    (returned : scene.phase = .returned input outcome counts) (more : Array UInt8) :
    Stage crew deadline { scene with phase := .returned input outcome more } accesses := by
  obtain ⟨strands, progress, ⟨rfl, done, stale, clear⟩ | ⟨rfl, vacant, number, serves, stale⟩⟩ :=
    stage.of_returned returned
  · exact .resting (.answered rfl progress done) stale clear
  · exact .serving (.expired rfl vacant) serves stale progress

/-- Once a call is recorded whoever worked for it is stale: it has delivered its result, or
the current map is given up together with it. -/
theorem Stage.settle {capacity : Nat} (stage : Stage crew deadline scene accesses)
    (sized : ∀ generation, (scene.maps generation).capacity = capacity)
    (returned : scene.phase = .returned input outcome counts) :
    Stage crew deadline (scene.settle outcome) [] := by
  obtain ⟨maps, generation, handle, settled, _, forward, kept⟩ := scene.settle_eq outcome sized
  have idle : (scene.settle outcome).phase = .idle := by rw [settled]
  have calls : (scene.settle outcome).calls = scene.calls + 1 := by rw [settled]
  have workers : (scene.settle outcome).workers = scene.workers := by rw [settled]
  have outdated : ∀ {worker}, scene.Stale worker → (scene.settle outcome).Stale worker := by
    intro worker stale
    rw [settled]
    exact stale.mono forward (Nat.le_succ _)
  obtain ⟨_, _, ⟨_, _, stale, clear⟩ | ⟨rfl, _, server, serves, stale⟩⟩ :=
    stage.of_returned returned
  · refine .resting (.idle idle rfl) (fun number => ?_) fun number ready => ?_
    · rw [workers]
      exact outdated (stale number)
    · rw [workers]
      rw [settled] at ready
      exact clear number (kept number ready)
  · obtain ⟨renewed, vacant⟩ := scene.settle_expired deadline
    refine .resting (.idle idle rfl) (fun number => ?_) (by simp [vacant])
    rw [workers]
    by_cases same : number = server
    · subst same
      intro job held
      obtain rfl := List.mem_singleton.mp (serves.held_subset held)
      rw [renewed, calls]
      exact ⟨Nat.lt_succ_self _, Nat.lt_succ_self _⟩
    · exact outdated (stale number same)

end Phases

section Work

variable {crew : Crew} {deadline : Nat} {scene : Scene} {accesses : List Access}
variable {number : Nat} {after : Worker} {touch : Option Touch}

/-- A worker that takes a step leaves the others as they are. -/
theorem Scene.Stale.setWorker {others : Nat → Prop}
    (stale : ∀ other, others other → scene.Stale (scene.workers other))
    (now : others number → scene.Stale after) (other : Nat) (among : others other) :
    scene.Stale ((scene.setWorker number after).workers other) := by
  by_cases same : other = number
  · subst same
    rw [Scene.workers_setWorker]
    exact now among
  · rw [Scene.workers_setWorker_of_ne same]
    exact stale other among

/-- What a stale worker accesses is a past map, on behalf of a past call. -/
theorem Scene.Stale.touches (stale : scene.Stale (scene.workers number))
    (worked : Worker.Step crew scene.maps (scene.workers number) touch after) :
    (scene.touch touch).map = scene.map ∧
      accessesOf scene.calls (touch.map Event.ofTouch).toList = [] ∧
      ∀ made ∈ touch, made.job.call ≤ scene.calls := by
  have past : ∀ made ∈ touch, _ := fun made touched =>
    stale made.job (worked.of_touch touched).1
  exact ⟨Scene.map_touch_of_past fun made touched => (past made touched).1,
    accessesOf_touch_of_ne fun made touched => (past made touched).2.ne,
    fun made touched => (past made touched).2.le⟩

/-- What the worker accesses that serves the current call is the current map. -/
theorem Serves.touches {input : List UInt8} {strands : List Strand}
    (serves : Serves crew (scene.job input) strands (scene.workers number))
    (progress : Progress (scene.work crew input) scene.map accesses strands)
    (worked : Worker.Step crew scene.maps (scene.workers number) touch after) :
    ∃ threads, Serves crew (scene.job input) threads after ∧
      Progress (scene.work crew input) (scene.touch touch).map
        (accesses ++ accessesOf scene.calls (touch.map Event.ofTouch).toList) threads ∧
      ∀ made ∈ touch, made.job.call ≤ scene.calls := by
  obtain ⟨rfl, served⟩ | ⟨left, strand, right, next, access, map, rfl, stepped, rfl, served⟩ :=
    serves.step worked
  · refine ⟨strands, served, ?_, by simp⟩
    simpa [Scene.touch] using progress
  · have current : ∀ made ∈ some (⟨scene.job input, access, map⟩ : Touch),
        made.job.call = scene.calls := by
      rintro _ ⟨⟩
      rfl
    refine ⟨_, served, ?_, fun made touched => (current made touched).le⟩
    rw [accessesOf_touch current]
    have reached : (scene.touch (some ⟨scene.job input, access, map⟩)).map = map := by
      simp [Scene.map, Scene.touch, Scene.setMap, Scene.job]
    rw [reached]
    exact progress.step stepped

/-- Whoever works, the scene stays at its stage, and nobody works for a call to come. -/
theorem Stage.work {capacity : Nat} (stage : Stage crew deadline scene accesses)
    (sized : ∀ generation, (scene.maps generation).capacity = capacity)
    (worked : Worker.Step crew scene.maps (scene.workers number) touch after) :
    Stage crew deadline ((scene.touch touch).setWorker number after)
        (accesses ++ accessesOf scene.calls (touch.map Event.ofTouch).toList) ∧
      ∀ made ∈ touch, made.job.call ≤ scene.calls := by
  obtain ⟨maps, touched, -⟩ := Scene.touch_eq sized worked
  cases stage with
  | resting rests stale clear =>
      obtain ⟨unreached, untouched, known⟩ := (stale number).touches worked
      refine ⟨?_, known⟩
      rw [untouched, List.append_nil]
      rw [touched] at unreached ⊢
      refine .resting (rests.of_map unreached _) (fun other => ?_) fun other ready => ?_
      · exact Scene.Stale.setWorker (fun other (_ : True) => stale other)
          (fun _ => (stale number).step worked) other trivial
      · have different : other ≠ number := by
          rintro rfl
          exact worked.ne_blank (clear other ready)
        rw [Scene.workers_setWorker_of_ne different]
        exact clear other ready
  | @serving server input strands engaged serves stale progress =>
      have still : Engaged deadline ({ scene with maps }.setWorker number after) server input := by
        cases engaged with
        | waiting waiting ready => exact .waiting waiting ready
        | expired returned vacant => exact .expired returned vacant
      by_cases same : number = server
      · subst same
        obtain ⟨threads, served, reached, known⟩ := serves.touches progress worked
        refine ⟨?_, known⟩
        rw [touched] at reached ⊢
        refine .serving still ?_ (Scene.Stale.setWorker stale (absurd rfl)) reached
        rw [Scene.workers_setWorker]
        exact served
      · obtain ⟨unreached, untouched, known⟩ := (stale number same).touches worked
        refine ⟨?_, known⟩
        rw [untouched, List.append_nil]
        rw [touched] at unreached ⊢
        refine .serving still ?_
          (Scene.Stale.setWorker stale fun _ => (stale number same).step worked)
          (unreached ▸ progress)
        rw [Scene.workers_setWorker_of_ne (Ne.symm same)]
        exact serves

end Work

end Stage

end Crosscheck.Isolation
