import Mathlib
import Crosscheck.Proofs.Isolation.Stage

/-!
# What every schedule keeps apart

`Isolated` is kept by every step of a runner and of its workers, in whatever order they come.
From it every record shows the reports of its own call and nothing else, each counter those
that were made before it was read, and has an outcome that no other call can have delivered
(`Runs.faithful`).
-/

namespace Crosscheck.Isolation

/-- A call that has returned, of whose map the first counters have been read. The outcome is
that of the harness, which has then made all its reports, or that of a wait that was over. A
count tells of what was reported for the call before its counter was read, be it before or
after the return. -/
structure Faithful (crew : Crew) (deadline capacity : Nat) (first second : List Event)
    (call : Nat) (input : List UInt8) (outcome : Outcome) (counts : Array UInt8) : Prop where
  outcome : outcome = expired deadline ∨ outcome = (crew call input).delivery ∧
    (reportsOf call first).Perm (crew call input).strands.flatten
  counts : ∀ slot < counts.size, ∃ early late, second = early ++ .read call slot :: late ∧
    Truthful (crew call input) capacity slot (accessesOf call (first ++ early))
      (counts.getD slot 0).toNat

/-- What holds of a scene and its history under every schedule. -/
structure Isolated (crew : Crew) (deadline capacity : Nat) (events : List Event)
    (scene : Scene) : Prop where
  sized : ∀ generation, (scene.maps generation).capacity = capacity
  unspawned : ∀ number, scene.spawned ≤ number → scene.workers number = {}
  ready : ∀ number, scene.handle = some number → number < scene.spawned
  untouched : ∀ call, scene.calls < call → accessesOf call events = []
  recorded : events.filterMap Event.recorded? = List.range scene.calls
  stage : Stage crew deadline scene (accessesOf scene.calls events)
  returned : ∀ input outcome counts, scene.phase = .returned input outcome counts →
    ∃ first second, events = first ++ .returned scene.calls outcome :: second ∧
      Faithful crew deadline capacity first second scene.calls input outcome counts

namespace Faithful

variable {crew : Crew} {deadline capacity : Nat} {first second : List Event} {call : Nat}
variable {input : List UInt8} {outcome : Outcome} {counts : Array UInt8}

/-- What happens later changes nothing about counters that have been read. -/
theorem later (faithful : Faithful crew deadline capacity first second call input outcome counts)
    (more : List Event) :
    Faithful crew deadline capacity first (second ++ more) call input outcome counts where
  outcome := faithful.outcome
  counts slot inside := by
    obtain ⟨early, late, rfl, truthful⟩ := faithful.counts slot inside
    exact ⟨early, late ++ more, by simp, truthful⟩

/-- The next counter is read. -/
theorem read (faithful : Faithful crew deadline capacity first second call input outcome counts)
    {count : UInt8}
    (truthful : Truthful (crew call input) capacity counts.size
      (accessesOf call (first ++ second)) count.toNat) :
    Faithful crew deadline capacity first (second ++ [.read call counts.size]) call input outcome
      (counts.push count) where
  outcome := faithful.outcome
  counts slot inside := by
    rw [Array.size_push] at inside
    rcases Nat.lt_succ_iff_lt_or_eq.mp inside with known | rfl
    · obtain ⟨early, late, rfl, told⟩ := faithful.counts slot known
      refine ⟨early, late ++ [.read call counts.size], by simp, ?_⟩
      simpa [Array.getD_eq_getD_getElem?, Array.getElem?_push_lt known, known] using told
    · refine ⟨second, [], rfl, ?_⟩
      simpa [Array.getD_eq_getD_getElem?] using truthful

end Faithful

namespace Isolated

variable {crew : Crew} {deadline capacity : Nat} {events : List Event} {scene : Scene}

theorem ofMap (map : CoverageMap) :
    Isolated crew deadline map.capacity [] (Scene.ofMap map) where
  sized _ := rfl
  unspawned _ _ := rfl
  ready := by simp [Scene.ofMap]
  untouched _ _ := rfl
  recorded := rfl
  stage := .resting (.idle rfl rfl) (by simp [Scene.ofMap, Scene.Stale, Worker.held])
    (by simp [Scene.ofMap])
  returned := by simp [Scene.ofMap]

theorem call (isolated : Isolated crew deadline capacity events scene) (input : List UInt8)
    (idle : scene.phase = .idle) :
    Isolated crew deadline capacity events { scene with phase := .zeroing input 0 } := by
  obtain ⟨untouched, stale, clear⟩ := isolated.stage.of_idle idle
  exact { isolated with
    stage := .resting (.zeroing rfl untouched (Nat.zero_le _) (by simp)) stale clear
    returned := by simp }

/-- While the map is zeroed nobody else holds it. -/
theorem zero (isolated : Isolated crew deadline capacity events scene) {input : List UInt8}
    {slot : Nat} (zeroing : scene.phase = .zeroing input slot)
    (inside : slot < scene.map.capacity) :
    Isolated crew deadline capacity events
      ({ scene with phase := .zeroing input (slot + 1) }.setMap scene.generation
        (scene.map.store slot 0)) := by
  obtain ⟨⟨untouched, within, zeroed⟩, stale, clear⟩ := isolated.stage.of_zeroing zeroing
  refine { isolated with sized := ?_, stage := ?_, returned := by simp [Scene.setMap] }
  · exact Scene.capacity_update isolated.sized
      ((scene.map.capacity_store slot 0).trans (isolated.sized _))
  · have current : Scene.map ({ scene with phase := .zeroing input (slot + 1) }.setMap
        scene.generation (scene.map.store slot 0)) = scene.map.store slot 0 := by
      simp [Scene.map, Scene.setMap]
    refine .resting (.zeroing rfl untouched ?_ fun other below => ?_) stale clear
    · rw [current, CoverageMap.capacity_store]
      exact inside
    · rw [current, CoverageMap.get_store _ _ (by omega) inside]
      split
      · rfl
      · exact zeroed other (by omega)

/-- A worker that has just been started is blank. -/
theorem spawn (isolated : Isolated crew deadline capacity events scene) {input : List UInt8}
    {slots : Nat} (zeroing : scene.phase = .zeroing input slots) :
    Isolated crew deadline capacity events
      { scene with handle := some scene.spawned, spawned := scene.spawned + 1 } := by
  refine { isolated with unspawned := fun number late => ?_, ready := ?_, stage := ?_ }
  · exact isolated.unspawned number (Nat.le_of_succ_le late)
  · rintro _ ⟨⟩
    exact Nat.lt_succ_self _
  · obtain ⟨⟨untouched, within, zeroed⟩, stale, _⟩ := isolated.stage.of_zeroing zeroing
    refine .resting (.zeroing zeroing untouched within zeroed) stale ?_
    rintro _ ⟨⟩
    exact isolated.unspawned _ le_rfl

/-- A worker that stands ready and takes a step of some other kind stays one that was started. -/
theorem unspawned_setWorker (isolated : Isolated crew deadline capacity events scene)
    {number : Nat} (ready : scene.handle = some number) (worker : Worker) (other : Nat)
    (late : scene.spawned ≤ other) : (scene.setWorker number worker).workers other = {} := by
  rw [Scene.workers_setWorker_of_ne ((isolated.ready number ready).trans_le late).ne']
  exact isolated.unspawned other late

/-- The worker that is asked was blank, so that it serves the current call only. -/
theorem send (isolated : Isolated crew deadline capacity events scene) {input : List UInt8}
    {number : Nat} (zeroing : scene.phase = .zeroing input scene.map.capacity)
    (ready : scene.handle = some number) :
    Isolated crew deadline capacity events
      ({ scene with phase := .waiting input }.setWorker number
        { scene.workers number with
          jobs := (scene.workers number).jobs ++ [scene.job input] }) := by
  refine { isolated with
    unspawned := fun other late => isolated.unspawned_setWorker ready _ other late
    stage := ?_
    returned := by simp [Scene.setWorker] }
  obtain ⟨⟨untouched, _, zeroed⟩, stale, clear⟩ := isolated.stage.of_zeroing zeroing
  change Stage crew deadline _ (accessesOf scene.calls events)
  rw [untouched]
  refine .serving (.waiting rfl ready) ?_ (fun other different => ?_)
    (.start (scene.work crew input) zeroed)
  · rw [Scene.workers_setWorker, clear number ready]
    exact .queued rfl
  · rw [Scene.workers_setWorker_of_ne different]
    exact stale other

/-- A result that is received is that of the current call, whose worker is blank again. -/
theorem receive (isolated : Isolated crew deadline capacity events scene) {input : List UInt8}
    {number : Nat} {jobs : List Job} {task : Option Task} {outcome : Outcome}
    {results : List Outcome} (waiting : scene.phase = .waiting input)
    (ready : scene.handle = some number)
    (found : scene.workers number = ⟨jobs, task, outcome :: results⟩) :
    Isolated crew deadline capacity (events ++ [.returned scene.calls outcome])
      ({ scene with phase := .returned input outcome #[] }.setWorker number
        ⟨jobs, task, results⟩) := by
  obtain ⟨server, strands, held, serves, stale, progress⟩ := isolated.stage.of_waiting waiting
  obtain rfl : server = number := Option.some.inj (held.symm.trans ready)
  rw [found] at serves
  obtain ⟨rfl, done, blank⟩ := serves.received
  refine ⟨isolated.sized, ?_, isolated.ready, ?_, ?_, ?_, ?_⟩
  · exact fun other late => isolated.unspawned_setWorker ready _ other late
  · intro call later
    simpa using isolated.untouched call later
  · rw [List.filterMap_append, isolated.recorded]
    exact List.append_nil _
  · rw [blank]
    have same : accessesOf scene.calls (events ++
        [.returned scene.calls (scene.work crew input).delivery]) =
          accessesOf scene.calls events := by simp
    refine .resting (.answered rfl (same ▸ progress) done) (fun other => ?_) fun other again => ?_
    · by_cases same : other = server
      · subst same
        rw [Scene.workers_setWorker]
        simp [Scene.Stale, Worker.held]
      · exact Scene.Stale.setWorker stale (absurd rfl) other same
    · obtain rfl : server = other := Option.some.inj (held.symm.trans again)
      exact Scene.workers_setWorker _ _ _
  · rintro _ _ _ ⟨⟩
    exact ⟨events, [], rfl, .inr ⟨rfl, progress.complete done⟩, by simp⟩

theorem expire (isolated : Isolated crew deadline capacity events scene) {input : List UInt8}
    (waiting : scene.phase = .waiting input) :
    Isolated crew deadline capacity (events ++ [.returned scene.calls (expired deadline)])
      { scene with phase := .returned input (expired deadline) #[], handle := none } := by
  obtain ⟨_, _, _, serves, stale, progress⟩ := isolated.stage.of_waiting waiting
  refine ⟨isolated.sized, isolated.unspawned, by simp, ?_, ?_, ?_, ?_⟩
  · intro call later
    simpa using isolated.untouched call later
  · rw [List.filterMap_append, isolated.recorded]
    exact List.append_nil _
  · have same : accessesOf scene.calls (events ++ [.returned scene.calls (expired deadline)]) =
        accessesOf scene.calls events := by simp
    exact .serving (.expired rfl rfl) serves stale (same ▸ progress)
  · rintro _ _ _ ⟨⟩
    exact ⟨events, [], rfl, .inl rfl, by simp⟩

/-- A counter that is read tells of what has been reported for the call so far. -/
theorem read (isolated : Isolated crew deadline capacity events scene) {input : List UInt8}
    {outcome : Outcome} {counts : Array UInt8}
    (returned : scene.phase = .returned input outcome counts)
    (inside : counts.size < scene.map.capacity) :
    Isolated crew deadline capacity (events ++ [.read scene.calls counts.size])
      { scene with
        phase := .returned input outcome (counts.push (scene.map.get counts.size)) } := by
  have same : accessesOf scene.calls (events ++ [.read scene.calls counts.size]) =
      accessesOf scene.calls events := by simp
  refine ⟨isolated.sized, isolated.unspawned, isolated.ready, ?_, ?_, ?_, ?_⟩
  · intro call later
    simpa using isolated.untouched call later
  · rw [List.filterMap_append, isolated.recorded]
    exact List.append_nil _
  · rw [same]
    exact isolated.stage.read returned _
  · rintro _ _ _ ⟨⟩
    obtain ⟨_, progress, _⟩ := isolated.stage.of_returned returned
    obtain ⟨first, second, rfl, faithful⟩ := isolated.returned _ _ _ returned
    refine ⟨first, second ++ [.read scene.calls counts.size], by simp, faithful.read ?_⟩
    have truthful : Truthful (crew scene.calls input) _ _ _ _ := progress.truthful inside
    have sized : scene.map.capacity = capacity := isolated.sized _
    rw [sized] at truthful
    simpa using truthful

theorem record (isolated : Isolated crew deadline capacity events scene) {input : List UInt8}
    {outcome : Outcome} {counts : Array UInt8}
    (returned : scene.phase = .returned input outcome counts) :
    Isolated crew deadline capacity
      (events ++ [.recorded scene.calls input outcome ⟨counts⟩]) (scene.settle outcome) := by
  have stage := isolated.stage.settle isolated.sized returned
  obtain ⟨maps, generation, handle, settled, sized, _, kept⟩ :=
    scene.settle_eq outcome isolated.sized
  rw [settled] at stage ⊢
  refine ⟨sized, isolated.unspawned, ?_, ?_, ?_, ?_, by simp⟩
  · exact fun number ready => isolated.ready number (kept number ready)
  · intro call later
    simpa using isolated.untouched call (Nat.lt_of_succ_lt later)
  · rw [List.filterMap_append, isolated.recorded]
    exact List.range_succ.symm
  · have untouched := isolated.untouched (scene.calls + 1) (Nat.lt_succ_self _)
    simpa [untouched] using stage

/-- Whoever works, the scene stays at the stage that it is at. -/
theorem work (isolated : Isolated crew deadline capacity events scene) {number : Nat}
    {after : Worker} {touch : Option Touch}
    (worked : Worker.Step crew scene.maps (scene.workers number) touch after) :
    Isolated crew deadline capacity (events ++ (touch.map Event.ofTouch).toList)
      ((scene.touch touch).setWorker number after) := by
  obtain ⟨stage, known⟩ := isolated.stage.work isolated.sized worked
  have silent : (touch.map Event.ofTouch).toList.filterMap Event.recorded? = [] := by
    cases touch <;> rfl
  rw [← accessesOf_append] at stage
  obtain ⟨maps, touched, sized⟩ := Scene.touch_eq isolated.sized worked
  rw [touched] at stage ⊢
  refine ⟨sized, fun other late => ?_, isolated.ready, fun call later => ?_, ?_, stage, ?_⟩
  · have different : other ≠ number := by
      rintro rfl
      exact worked.ne_blank (isolated.unspawned other late)
    rw [Scene.workers_setWorker_of_ne different]
    exact isolated.unspawned other late
  · rw [accessesOf_append, isolated.untouched call later,
      accessesOf_touch_of_ne fun made told => ((known made told).trans_lt later).ne]
    rfl
  · rw [List.filterMap_append, silent, List.append_nil]
    exact isolated.recorded
  · intro input outcome counts returned
    obtain ⟨first, second, rfl, faithful⟩ := isolated.returned input outcome counts returned
    exact ⟨first, second ++ (touch.map Event.ofTouch).toList, by simp [Scene.setWorker],
      faithful.later _⟩

/-- Every step keeps the current call apart from all others. -/
theorem step (isolated : Isolated crew deadline capacity events scene) {event : Option Event}
    {after : Scene} (stepped : Step crew deadline scene event after) :
    Isolated crew deadline capacity (events ++ event.toList) after := by
  cases stepped with
  | call input idle => simpa using isolated.call input idle
  | zero zeroing inside => simpa using isolated.zero zeroing inside
  | spawn zeroed => simpa using isolated.spawn zeroed
  | send zeroed ready found =>
      subst found
      simpa using isolated.send zeroed ready
  | receive waiting ready found => exact isolated.receive waiting ready found
  | expire waiting => exact isolated.expire waiting
  | read returned inside => exact isolated.read returned inside
  | record returned => exact isolated.record returned
  | work found worked =>
      subst found
      exact isolated.work worked

/-- A call that is about to be recorded has been told apart from all others. If the result was
received nothing was reported for the call since. -/
theorem faithful (isolated : Isolated crew deadline capacity events scene) {input : List UInt8}
    {outcome : Outcome} {counts : Array UInt8}
    (returned : scene.phase = .returned input outcome counts) :
    ∃ first second, events = first ++ .returned scene.calls outcome :: second ∧
      Faithful crew deadline capacity first second scene.calls input outcome counts ∧
      (outcome ≠ expired deadline → reportsOf scene.calls second = []) := by
  obtain ⟨first, second, rfl, faithful⟩ := isolated.returned input outcome counts returned
  refine ⟨first, second, rfl, faithful, fun awaited => ?_⟩
  obtain ⟨_, complete⟩ := faithful.outcome.resolve_left awaited
  obtain ⟨strands, progress, ⟨_, done, _⟩ | ⟨late, _⟩⟩ := isolated.stage.of_returned returned
  · have made : (reportsOf scene.calls first ++ reportsOf scene.calls second).Perm
        (reportsOf scene.calls first) := by
      refine .trans ?_ ((progress.complete done).trans complete.symm)
      simp [reportsOf]
    have lengths := made.length_eq
    rw [List.length_append] at lengths
    exact List.eq_nil_of_length_eq_zero (by omega)
  · exact absurd late awaited

end Isolated

section Runs

variable {crew : Crew} {deadline : Nat} {map : CoverageMap} {events : List Event}
variable {scene : Scene}

/-- Under every schedule the current call is kept apart. -/
theorem Runs.isolated (runs : Runs crew deadline (.ofMap map) events scene) :
    Isolated crew deadline map.capacity events scene := by
  induction runs with
  | start => exact .ofMap map
  | next _ step inductionHypothesis => exact inductionHypothesis.step step

/-- So is every call that was ever recorded, from all that came before its record. -/
theorem Runs.faithful (runs : Runs crew deadline (.ofMap map) events scene)
    {before after : List Event} {call : Nat} {input : List UInt8} {outcome : Outcome}
    {coverage : CoverageSnapshot}
    (recorded : events = before ++ .recorded call input outcome coverage :: after) :
    coverage.capacity = map.capacity ∧
      ∃ first second, before = first ++ .returned call outcome :: second ∧
        Faithful crew deadline map.capacity first second call input outcome coverage.counts ∧
        (outcome ≠ expired deadline → reportsOf call second = []) := by
  induction runs generalizing after with
  | start => simp at recorded
  | @next events scene event _ prior step inductionHypothesis =>
      cases event with
      | none => exact inductionHypothesis (by simpa using recorded)
      | some event =>
          rcases after.eq_nil_or_concat with rfl | ⟨after, last, rfl⟩
          · obtain ⟨rfl, told⟩ := List.append_inj' recorded rfl
            obtain rfl := List.singleton_injective told
            generalize shown : some (Event.recorded call input outcome coverage) = event at step
            cases step with
            | record returned complete =>
                cases shown
                exact ⟨complete.trans (prior.isolated.sized _), prior.isolated.faithful returned⟩
            | @work _ _ touch _ _ _ => cases touch <;> cases shown
            | _ => cases shown
          · rw [List.concat_eq_append, ← List.cons_append, ← List.append_assoc] at recorded
            exact inductionHypothesis (List.append_inj' recorded rfl).1

end Runs

end Crosscheck.Isolation
