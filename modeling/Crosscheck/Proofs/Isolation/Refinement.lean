import Mathlib
import Crosscheck.Proofs.Isolation.Path
import Crosscheck.Proofs.Runner

/-!
# A runner follows a schedule

A runner over a harness on a worker tells time: it knows when an edge is reported, when a
result would come and when a counter is read. What it records is what some schedule of the
runner and its workers records (`Models.run`), one in which given up workers make no more of
their steps once the map is read. That they may make them at any moment is what schedules are
for.
-/

namespace Crosscheck

namespace Timeline

theorem map_snd_hitsFrom (time : Nat) (actions : List Action) :
    (hitsFrom time actions).map Prod.snd = actions.filterMap Action.guard? := by
  induction actions generalizing time with
  | nil => rfl
  | cons action rest inductionHypothesis =>
      cases action with
      | hit guard => simp [hitsFrom, Action.guard?, inductionHypothesis]
      | pause nanos => exact inductionHypothesis (time + nanos)

/-- Times aside, the reports of a timeline are its guards. -/
theorem map_snd_hits (timeline : Timeline) : timeline.hits.map Prod.snd = timeline.guards :=
  map_snd_hitsFrom 0 timeline.actions

/-- Nothing is reported before its time. -/
theorem le_of_mem_hitsFrom {time : Nat} {actions : List Action} {hit : Nat × UInt32}
    (member : hit ∈ hitsFrom time actions) : time ≤ hit.1 := by
  induction actions generalizing time with
  | nil => cases member
  | cons action rest inductionHypothesis =>
      cases action with
      | hit guard =>
          rcases List.mem_cons.mp member with rfl | later
          · rfl
          · exact inductionHypothesis later
      | pause nanos => exact (Nat.le_add_right time nanos).trans (inductionHypothesis member)

theorem pairwise_hitsFrom (time : Nat) (actions : List Action) :
    (hitsFrom time actions).Pairwise fun one other => one.1 ≤ other.1 := by
  induction actions generalizing time with
  | nil => exact .nil
  | cons action rest inductionHypothesis =>
      cases action with
      | hit guard =>
          exact .cons (fun other member => le_of_mem_hitsFrom member) (inductionHypothesis time)
      | pause nanos => exact inductionHypothesis (time + nanos)

/-- A timeline reports in the order of its times. -/
theorem pairwise_hits (timeline : Timeline) :
    timeline.hits.Pairwise fun one other => one.1 ≤ other.1 :=
  pairwise_hitsFrom 0 timeline.actions

end Timeline

namespace WorkerTarget

/-- Reports of given up workers do not reach a map that is newer than all of theirs. -/
theorem overtake_eq {target : WorkerTarget} {sink : Sink}
    (late : ∀ hit ∈ target.lateHits, hit.generation < sink.generation) (time : Nat) :
    target.overtake sink time = sink := by
  unfold overtake
  have stale : ∀ hit ∈ target.lateHits.filter (·.time < time),
      hit.generation < sink.generation := fun hit member => late hit (List.mem_of_mem_filter member)
  generalize target.lateHits.filter (·.time < time) = hits at stale
  induction hits with
  | nil => rfl
  | cons hit rest inductionHypothesis =>
      rw [List.foldl_cons, Sink.hitAs, if_neg (stale hit List.mem_cons_self).ne]
      exact inductionHypothesis fun other member => stale other (List.mem_cons_of_mem hit member)

variable {target : WorkerTarget} {sink : Sink} {input : List UInt8} {deadline : Nat}

/-- What an execution leaves that has reported some guards and ended with an outcome, with a
worker that stands ready or without one, and with reports that are still to come. -/
structure Leaves (target : WorkerTarget) (sink : Sink) (reported : List UInt32)
    (outcome : Outcome) (ready : Bool) (trailing : List (Nat × UInt32))
    (execution : Execution WorkerTarget) : Prop where
  sink : execution.sink = ⟨sink.generation, sink.map.hitAll reported⟩
  ending : execution.ending = .answered outcome
  trailing : execution.trailing = trailing
  harness : execution.target.harness = target.harness
  calls : execution.target.calls = target.calls + 1
  hasWorker : execution.target.hasWorker = ready

/-- What is still to come for a map comes from the worker that was given up with it, not from
those that were given up earlier. -/
theorem trailing_eq {later : WorkerTarget} {generation : Nat} {old new : List LateHit}
    (held : later.lateHits = old ++ new) (stale : ∀ hit ∈ old, hit.generation < generation)
    (current : ∀ hit ∈ new, hit.generation = generation) :
    later.trailing generation = new.map fun hit => (hit.time - later.clock, hit.guard) := by
  have none : old.filter (fun hit => hit.generation = generation) = [] :=
    List.filter_eq_nil_iff.mpr fun hit member => by simpa using (stale hit member).ne
  have all : new.filter (fun hit => hit.generation = generation) = new :=
    List.filter_eq_self.mpr fun hit member => by simpa using current hit member
  rw [trailing, held, List.filter_append, none, all, List.nil_append]

/-- Where a list comes apart as a property has it, so does its partition. -/
theorem partition_append {α : Type} {p : α → Bool} {early late : List α}
    (before : ∀ item ∈ early, p item) (after : ∀ item ∈ late, ¬ p item) :
    (early ++ late).partition p = (early, late) := by
  rw [List.partition_eq_filter_filter, List.filter_append, List.filter_append,
    List.filter_eq_self.mpr before, List.filter_eq_nil_iff.mpr after, List.append_nil]
  have none : early.filter (not ∘ p) = [] :=
    List.filter_eq_nil_iff.mpr fun item member => by simp [before item member]
  have all : late.filter (not ∘ p) = late :=
    List.filter_eq_self.mpr fun item member => by simpa using after item member
  rw [none, all, List.nil_append]

/-- A result in time is that of the harness, and all reports of the harness have been made. -/
theorem leaves_of_prompt (stale : ∀ hit ∈ target.lateHits, hit.generation < sink.generation)
    (prompt : (target.harness target.calls input).duration < deadline) :
    let execution := target.execute sink input deadline
    Leaves target sink (target.harness target.calls input).guards
        (Isolation.ofHarness target.harness target.calls input).delivery true [] execution ∧
      ∀ hit ∈ execution.target.lateHits, hit.generation < sink.generation := by
  unfold execute
  dsimp only
  rw [if_pos prompt, overtake_eq stale, Timeline.map_snd_hits, Sink.foldl_hit]
  have past : ∀ hit ∈ target.lateHits.filter fun late =>
      !(late.time < target.clock + (target.harness target.calls input).duration),
      hit.generation < sink.generation :=
    fun hit member => stale hit (List.mem_of_mem_filter member)
  exact ⟨⟨rfl, rfl, trailing_eq (List.append_nil _).symm past (by simp), rfl, rfl, rfl⟩, past⟩

/-- After the deadline the first reports of the harness have been made. The others are late,
and will reach for the same map. -/
theorem leaves_of_late (stale : ∀ hit ∈ target.lateHits, hit.generation < sink.generation)
    (tardy : ¬ (target.harness target.calls input).duration < deadline) :
    ∃ early late, (target.harness target.calls input).hits = early ++ late ∧
      (∀ hit ∈ late, deadline ≤ hit.1) ∧
      let execution := target.execute sink input deadline
      Leaves target sink (early.map Prod.snd) (Isolation.expired deadline) false
          (late.map fun hit => (hit.1 - deadline, hit.2)) execution ∧
        ∀ hit ∈ execution.target.lateHits, hit.generation ≤ sink.generation := by
  obtain ⟨early, late, divided, before, after⟩ :=
    Isolation.exists_split deadline (target.harness target.calls input).pairwise_hits
  refine ⟨early, late, divided, after, ?_⟩
  unfold execute
  dsimp only
  rw [if_neg tardy, overtake_eq stale, divided,
    partition_append (by simpa using before) (by simpa using after), Sink.foldl_hit]
  have past : ∀ hit ∈ target.lateHits.filter fun late => !(late.time < target.clock + deadline),
      hit.generation < sink.generation :=
    fun hit member => stale hit (List.mem_of_mem_filter member)
  refine ⟨⟨rfl, rfl, ?_, rfl, rfl, rfl⟩, fun hit member => ?_⟩
  · refine (trailing_eq rfl past fun hit member => ?_).trans ?_
    · obtain ⟨_, _, rfl⟩ := List.mem_map.mp member
      rfl
    rw [List.map_map]
    exact List.map_congr_left fun hit _ => Prod.ext (Nat.add_sub_add_left ..) rfl
  · rcases List.mem_append.mp member with known | new
    · exact (past hit known).le
    · obtain ⟨_, _, rfl⟩ := List.mem_map.mp new
      exact le_rfl

end WorkerTarget

namespace Isolation

section Models

variable {harness : Harness} {deadline : Nat} {runner : Runner WorkerTarget} {scene : Scene}

/-- A scene that a runner between two inputs is the picture of. -/
structure Models (harness : Harness) (deadline : Nat) (runner : Runner WorkerTarget)
    (scene : Scene) : Prop where
  harness : runner.target.harness = harness
  timeout : runner.timeout = deadline
  idle : scene.phase = .idle
  generation : runner.sink.generation = scene.generation
  sized : runner.sink.map.capacity = scene.map.capacity
  calls : runner.target.calls = scene.calls
  ready : runner.target.hasWorker = scene.handle.isSome
  stale : ∀ hit ∈ runner.target.lateHits, hit.generation < runner.sink.generation

/-- A runner and its picture settle alike. -/
theorem Models.settle {outcome : Outcome} (same : runner.target.harness = harness)
    (timeout : runner.timeout = deadline) (generation : runner.sink.generation = scene.generation)
    (sized : runner.sink.map.capacity = scene.map.capacity)
    (calls : runner.target.calls = scene.calls + 1)
    (ready : runner.target.hasWorker = scene.handle.isSome)
    (stale : ∀ hit ∈ runner.target.lateHits,
      hit.generation < (runner.settle outcome).sink.generation) :
    Models harness deadline (runner.settle outcome) (scene.settle outcome) := by
  cases completed : outcome.fault?.isNone with
  | true =>
      simp only [Runner.settle, Scene.settle, completed, ↓reduceIte] at stale ⊢
      exact ⟨same, timeout, rfl, generation, sized, calls, ready, stale⟩
  | false =>
      cases late : Runner.isTimeout outcome with
      | false =>
          simp only [Runner.settle, Scene.settle, completed, late, Bool.false_eq_true,
            ↓reduceIte] at stale ⊢
          exact ⟨same, timeout, rfl, generation, sized, calls, rfl, stale⟩
      | true =>
          simp only [Runner.settle, Scene.settle, completed, late, Bool.false_eq_true,
            ↓reduceIte] at stale ⊢
          refine ⟨same, timeout, rfl, congrArg (· + 1) generation, ?_, calls, rfl, stale⟩
          simpa [Sink.renew, Scene.map, Scene.setMap] using sized

theorem generation_le_settle (runner : Runner WorkerTarget) (outcome : Outcome) :
    runner.sink.generation ≤ (runner.settle outcome).sink.generation := by
  unfold Runner.settle
  split
  · rfl
  · dsimp only
    split
    · exact Nat.le_succ _
    · rfl

/-- A runner records what its picture records, if an execution has gone as far as its picture
has come and both have read the same. -/
theorem Models.record (models : Models harness deadline runner scene) {input : List UInt8}
    {reported : List UInt32} {outcome : Outcome} {ready : Bool}
    {trailing : List (Nat × UInt32)} {counts : Array UInt8} {ended : Scene}
    (left : WorkerTarget.Leaves runner.target runner.sink.reset reported outcome ready trailing
      (runner.target.execute runner.sink.reset input runner.timeout))
    (stale : ∀ hit ∈
      (runner.target.execute runner.sink.reset input runner.timeout).target.lateHits,
      hit.generation < scene.generation ∨
        outcome = expired deadline ∧ hit.generation ≤ scene.generation)
    (reached : Leads (ofHarness harness) deadline scene ended)
    (returned : ended.phase = .returned input outcome counts)
    (generation : ended.generation = scene.generation)
    (sized : ended.map.capacity = scene.map.capacity)
    (read : (⟨counts⟩ : CoverageSnapshot) =
      (scene.map.reset.hitAll reported).snapshotBeside trailing)
    (calls : ended.calls = scene.calls) (handle : ended.handle.isSome = ready) :
    ∃ events record after, (runner.run input).1 = .ok record ∧ record.outcome = outcome ∧
      record.coverage = ⟨counts⟩ ∧ Runs (ofHarness harness) deadline scene events after ∧
      events.filterMap Event.told? = [(input, record.outcome, record.coverage)] ∧
      Models harness deadline (runner.after input) after := by
  let execution := runner.target.execute runner.sink.reset input runner.timeout
  let answered : Runner WorkerTarget :=
    { runner with
      target := execution.target, sink := execution.sink, executions := runner.executions + 1 }
  have zeroed : runner.sink.map.reset = scene.map.reset :=
    CoverageMap.reset_of_capacity models.sized
  have covered : execution.sink.map.snapshotBeside execution.trailing = ⟨counts⟩ := by
    rw [left.sink, left.trailing, read, ← zeroed]
    rfl
  have ran : runner.run input =
      (.ok ⟨(answered.settle outcome).version, ⟨counts⟩, outcome, execution.elapsed⟩,
        answered.settle outcome) := by
    have ending := left.ending
    rw [← covered]
    unfold Runner.run
    simp only [Target.execute]
    rw [ending]
  have size : counts.size = ended.map.capacity := by
    have capacity := congrArg CoverageSnapshot.capacity read
    rw [CoverageMap.capacity_snapshotBeside, CoverageMap.capacity_hitAll,
      CoverageMap.capacity_reset] at capacity
    exact capacity.trans sized.symm
  obtain ⟨events, whole, silent⟩ := reached
  refine ⟨_, _, _, congrArg Prod.fst ran, rfl, rfl, whole.next (.record returned size), ?_, ?_⟩
  · rw [List.filterMap_append, silent]
    rfl
  · have followed : runner.after input = answered.settle outcome := congrArg Prod.snd ran
    have held : answered.sink.generation = scene.generation :=
      (congrArg Sink.generation left.sink).trans models.generation
    rw [followed]
    refine .settle (left.harness.trans models.harness) models.timeout
      (held.trans generation.symm) ?_ ?_ (left.hasWorker.trans handle.symm) fun hit member => ?_
    · have capacity : execution.sink.map.capacity = scene.map.capacity := by
        rw [left.sink]
        simp [Sink.reset, models.sized]
      exact capacity.trans sized.symm
    · have count : execution.target.calls = runner.target.calls + 1 := left.calls
      rw [models.calls, ← calls] at count
      exact count
    · have forward := generation_le_settle answered outcome
      rcases stale hit member with past | ⟨rfl, known⟩
      · omega
      · -- A wait that is over makes the runner take a new map.
        have renewed : (answered.settle (expired deadline)).sink.generation =
            answered.sink.generation + 1 := rfl
        omega

/-- What a runner records of an input is what a schedule records, which leads to the picture
of the runner as it goes on. A harness that is in time is waited for. -/
theorem Models.run {capacity : Nat} {events : List Event}
    (models : Models harness deadline runner scene)
    (isolated : Isolated (ofHarness harness) deadline capacity events scene) (input : List UInt8) :
    ∃ more record after, (runner.run input).1 = .ok record ∧
      ((harness scene.calls input).duration < deadline →
        record.outcome = (ofHarness harness scene.calls input).delivery ∧
        record.coverage = (scene.map.reset.hitAll (harness scene.calls input).guards).snapshot) ∧
      Runs (ofHarness harness) deadline scene more after ∧
      more.filterMap Event.told? = [(input, record.outcome, record.coverage)] ∧
      Models harness deadline (runner.after input) after := by
  have stale : ∀ hit ∈ runner.target.lateHits, hit.generation < runner.sink.reset.generation :=
    models.stale
  have current : runner.sink.reset.generation = scene.generation := models.generation
  have own : runner.target.harness runner.target.calls input = harness scene.calls input := by
    rw [models.harness, models.calls]
  by_cases prompt : (runner.target.harness runner.target.calls input).duration < runner.timeout
  · obtain ⟨left, past⟩ := WorkerTarget.leaves_of_prompt stale prompt
    rw [models.harness, models.calls] at left
    have alone : (scene.work (ofHarness harness) input).strands =
        [(harness scene.calls input).guards] := rfl
    obtain ⟨number, spawned, workers, reached⟩ := isolated.exists_answered models.idle alone
    obtain ⟨more, record, after, ran, ended, covered, recorded, told, next⟩ :=
      models.record left (fun hit member => .inl (current ▸ past hit member)) reached rfl rfl
        (by simp [Scene.map]) rfl rfl rfl
    exact ⟨more, record, after, ran, fun _ => ⟨ended, covered⟩, recorded, told, next⟩
  · obtain ⟨early, late, divided, after, left, past⟩ := WorkerTarget.leaves_of_late stale prompt
    rw [models.timeout] at left after
    rw [own] at divided
    let trailing := late.map fun hit => (hit.1 - deadline, hit.2)
    have alone : (scene.work (ofHarness harness) input).strands =
        [early.map Prod.snd ++ trailing.map Prod.snd] := by
      have whole := (harness scene.calls input).map_snd_hits
      rw [divided, List.map_append] at whole
      rw [List.map_map]
      exact congrArg (fun guards => [guards]) whole.symm
    have ordered : trailing.Pairwise fun one other => one.1 ≤ other.1 := by
      have whole := (harness scene.calls input).pairwise_hits
      rw [divided] at whole
      refine List.pairwise_map.mpr ((List.pairwise_append.mp whole).2.1.imp fun before => ?_)
      exact Nat.sub_le_sub_right before deadline
    obtain ⟨counts, maps, spawned, workers, reached, sized, read⟩ :=
      isolated.exists_expired models.idle alone ordered
    obtain ⟨more, record, ended, ran, _, _, recorded, told, next⟩ :=
      models.record (by rwa [models.timeout])
        (fun hit member => .inr ⟨rfl, current ▸ past hit member⟩) reached rfl rfl sized read rfl rfl
    rw [own, models.timeout] at prompt
    exact ⟨more, record, ended, ran, fun soon => absurd soon prompt, recorded, told, next⟩

end Models

end Isolation
end Crosscheck
