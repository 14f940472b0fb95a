import Mathlib
import Crosscheck.Proofs.Isolation.Invariant

/-!
# What schedules there are

A schedule can go straight on: the map is zeroed, a worker is asked, its thread makes its
reports one after another without a break, and the map is read. `Leads` says that some
schedule leads from one scene to another one without a record. Where the harness is in time
nothing is reported while the map is read (`Isolated.exists_answered`). Where it is late its
reports fall between the reads of counters as their times have it
(`Isolated.exists_expired`).
-/

namespace Crosscheck

namespace CoverageMap

/-- A report that is made without a break is a hit. -/
theorem complete_get (map : CoverageMap) {guard : UInt32} (active : guard ≠ 0) :
    map.complete guard (map.get guard.toNat) = map.hit guard := by
  refine ext_count (by simp) fun slot inside => ?_
  rw [capacity_complete] at inside
  have bounded := map.count_le slot
  have shown : ∀ after : CoverageMap, after.capacity = map.capacity →
      after.count slot = (after.get slot).toNat := fun after sized => by
    rw [after.get_of_lt (sized ▸ inside)]
    rfl
  rw [count_hit map guard inside, shown _ (map.capacity_complete guard _), shown map rfl]
  by_cases reached : reaches map.capacity slot guard
  · obtain ⟨_, rfl⟩ := reaches_iff.mp reached
    rw [get_complete_self, get_mod, if_pos reached]
    split
    next largest =>
      rw [largest]
      rfl
    next small =>
      rw [Isolation.Counted.toNat_succ small, Nat.min_eq_right]
      have fits : (map.get guard.toNat + 1).toNat ≤ 255 := by
        have := (map.get guard.toNat + 1).toNat_lt
        omega
      rwa [Isolation.Counted.toNat_succ small] at fits
  · rw [get_complete_of_not_reaches map _ active inside reached, if_neg reached]
    rw [← shown map rfl]
    omega

/-- Counters that are read while reports still come show those that came before the read. -/
theorem eq_snapshotBeside {map : CoverageMap} {trailing : List (Nat × UInt32)}
    {counts : Array UInt8} (size : counts.size = map.capacity)
    (same : ∀ slot < map.capacity, counts.getD slot 0 =
      (map.hitAll ((trailing.filter fun hit => hit.1 < slot).map Prod.snd)).get slot) :
    (⟨counts⟩ : CoverageSnapshot) = map.snapshotBeside trailing := by
  have seen : ∀ slot < map.capacity, counts.getD slot 0 =
      (map.snapshotBeside trailing).counts.getD slot 0 := by
    intro slot inside
    have same := same slot inside
    rw [get_of_lt _ (by simpa using inside)] at same
    refine UInt8.toNat.inj (same ▸ ?_)
    change count _ slot = count _ slot
    rw [count_hitAll map _ inside, count_hitAll map _ inside, List.countP_map, List.countP_map,
      List.countP_filter, List.countP_filter]
    congr 2
    refine List.countP_congr fun hit _ => ?_
    simp only [Function.comp_apply, Bool.and_eq_true, decide_eq_true_eq, and_congr_right_iff]
    intro reached
    rw [(reaches_iff.mp reached).2]
  have sized : (map.snapshotBeside trailing).counts.size = map.capacity :=
    map.capacity_snapshotBeside trailing
  generalize map.snapshotBeside trailing = shown at seen sized ⊢
  obtain ⟨others⟩ := shown
  refine congrArg CoverageSnapshot.mk (Array.ext (size.trans sized.symm) fun slot here there => ?_)
  have equal := seen slot (size ▸ here)
  rwa [Array.getD_eq_getD_getElem?, Array.getD_eq_getD_getElem?, Array.getElem?_eq_getElem here,
    Array.getElem?_eq_getElem there] at equal

end CoverageMap

namespace Isolation

/-- What an event records of a call, its number aside. -/
def Event.told? : Event → Option (List UInt8 × Outcome × CoverageSnapshot)
  | .recorded _ input outcome coverage => some (input, outcome, coverage)
  | .accessed .. | .returned .. | .read .. => none

section Silent

variable {crew : Crew} {deadline capacity : Nat} {scene : Scene} {events : List Event}

/-- A map can be zeroed from the first counter to the last. -/
theorem Runs.zeroed (idle : scene.phase = .idle) (input : List UInt8) :
    Runs crew deadline scene []
      { scene with
        maps := Function.update scene.maps scene.generation scene.map.reset
        phase := .zeroing input scene.map.capacity } := by
  have upTo : ∀ slots ≤ scene.map.capacity, ∃ map : CoverageMap,
      map.capacity = scene.map.capacity ∧ (∀ slot < slots, map.get slot = 0) ∧
      Runs crew deadline scene []
        { scene with
          maps := Function.update scene.maps scene.generation map
          phase := .zeroing input slots } := by
    intro slots within
    induction slots with
    | zero =>
        refine ⟨scene.map, rfl, by simp, ?_⟩
        have same : Function.update scene.maps scene.generation scene.map = scene.maps :=
          Function.update_eq_self _ _
        rw [same]
        exact Runs.start.next (.call input idle)
    | succ slot inductionHypothesis =>
        obtain ⟨map, sized, zeroed, reached⟩ := inductionHypothesis (Nat.le_of_succ_le within)
        have inside : slot < map.capacity := sized ▸ within
        refine ⟨map.store slot 0, by simpa using sized, fun other below => ?_, ?_⟩
        · rw [CoverageMap.get_store map 0 (by omega) inside]
          split
          · rfl
          · exact zeroed other (by omega)
        · let halfway : Scene :=
            { scene with
              maps := Function.update scene.maps scene.generation map
              phase := .zeroing input slot }
          have current : halfway.map = map := Function.update_self _ _ _
          have next : Step crew deadline halfway none _ := .zero rfl (current.symm ▸ inside)
          rw [current] at next
          simpa [halfway, Scene.setMap] using reached.next next
  obtain ⟨map, sized, zeroed, reached⟩ := upTo _ le_rfl
  have reset : map = scene.map.reset := by
    refine CoverageMap.ext_count (by simpa using sized) fun slot inside => ?_
    rw [CoverageMap.count_reset]
    have none := congrArg UInt8.toNat (zeroed slot (sized ▸ inside))
    rw [map.get_of_lt inside] at none
    exact none
  exact reset ▸ reached

/-- A runner that is idle can hand an input to a blank worker. -/
theorem Isolated.exists_asked (isolated : Isolated crew deadline capacity events scene)
    (idle : scene.phase = .idle) (input : List UInt8) :
    ∃ number spawned, scene.workers number = {} ∧ Runs crew deadline scene []
      ({ scene with
          maps := Function.update scene.maps scene.generation scene.map.reset
          phase := .waiting input, handle := some number, spawned }.setWorker number
        { jobs := [scene.job input] }) := by
  let zeroed : Scene :=
    { scene with
      maps := Function.update scene.maps scene.generation scene.map.reset
      phase := .zeroing input scene.map.capacity }
  have first : Runs crew deadline scene [] zeroed := .zeroed idle input
  have full : zeroed.phase = .zeroing input zeroed.map.capacity := by
    simp [zeroed, Scene.map]
  have asked : ∃ number spawned, scene.workers number = {} ∧
      Runs crew deadline scene [] { zeroed with handle := some number, spawned } := by
    obtain ⟨_, _, clear⟩ := isolated.stage.of_idle idle
    cases ready : scene.handle with
    | none =>
        refine ⟨scene.spawned, scene.spawned + 1, isolated.unspawned _ le_rfl, ?_⟩
        exact first.next (.spawn full ready)
    | some number =>
        have same : { zeroed with handle := some number, spawned := scene.spawned } =
            zeroed := by rw [← ready]
        exact ⟨number, scene.spawned, clear number ready, same ▸ first⟩
  obtain ⟨number, spawned, blank, second⟩ := asked
  exact ⟨number, spawned, blank, second.next (.send full rfl blank)⟩

/-- A map can be read from the first counter to the last, while nothing is reported. -/
theorem Runs.read {input : List UInt8} {outcome : Outcome}
    (returned : scene.phase = .returned input outcome #[]) :
    Runs crew deadline scene ((List.range scene.map.capacity).map (.read scene.calls))
      { scene with phase := .returned input outcome scene.map.counters } := by
  have upTo : ∀ slots ≤ scene.map.capacity,
      Runs crew deadline scene ((List.range slots).map (.read scene.calls))
        { scene with
          phase := .returned input outcome (scene.map.counters.extract 0 slots) } := by
    intro slots within
    induction slots with
    | zero =>
        have same : { scene with
            phase := .returned input outcome (scene.map.counters.extract 0 0) } = scene := by
          rw [Array.extract_zero, ← returned]
        rw [same]
        exact .start
    | succ slot inductionHypothesis =>
        have inside : slot < scene.map.counters.size := within
        have size : (scene.map.counters.extract 0 slot).size = slot := by
          simp
          omega
        let halfway : Scene :=
          { scene with
            phase := .returned input outcome (scene.map.counters.extract 0 slot) }
        have next : Step crew deadline halfway _ _ := .read rfl (by rwa [size])
        have found : halfway.map.get slot = scene.map.counters[slot] := by
          have current : halfway.map = scene.map := rfl
          simp [current, scene.map.get_of_lt within, Array.getD_eq_getD_getElem?, inside]
        rw [size, found, Array.push_extract_getElem inside, Nat.min_eq_left (Nat.zero_le _)] at next
        have reached := (inductionHypothesis (Nat.le_of_succ_le within)).next next
        rw [List.range_succ, List.map_append]
        exact reached
  have all := upTo _ le_rfl
  have whole : scene.map.counters.extract 0 scene.map.capacity = scene.map.counters :=
    Array.extract_size
  rwa [whole] at all

/-- Any thread of a worker can take its step. -/
theorem Runs.touch {origin : Scene} (runs : Runs crew deadline origin events scene)
    {number : Nat} {job : Job} (left right : List Strand) {strand next : Strand}
    {access : Access} {map : CoverageMap}
    (found : scene.workers number = { task := some ⟨job, left ++ strand :: right⟩ })
    (stepped : Strand.Step (scene.maps job.generation) strand access next map) :
    Runs crew deadline origin (events ++ [.accessed job.call access])
      ((scene.setMap job.generation map).setWorker number
        { task := some ⟨job, left ++ next :: right⟩ }) :=
  runs.next (.work found (.touch stepped))

/-- The only thread of a worker can make a report without a break. -/
theorem Runs.report {number : Nat} {job : Job} {made rest : List UInt32} {guard : UInt32}
    (active : guard ≠ 0)
    (found : scene.workers number = { task := some ⟨job, [⟨made, none, guard :: rest⟩]⟩ }) :
    Runs crew deadline scene
      [.accessed job.call (.load guard), .accessed job.call (.store guard)]
      ((scene.setMap job.generation ((scene.maps job.generation).hit guard)).setWorker number
        { task := some ⟨job, [⟨made ++ [guard], none, rest⟩]⟩ }) := by
  have loaded : Runs crew deadline scene _ _ := Runs.start.touch [] [] found (.load active)
  have stored := loaded.touch [] [] (Scene.workers_setWorker _ _ _) (.store active)
  have same := CoverageMap.complete_get (scene.maps job.generation) active
  simpa [Scene.setMap, Scene.setWorker, same] using stored

end Silent

/-- A schedule leads from one scene to another one, in which nothing is recorded. -/
def Leads (crew : Crew) (deadline : Nat) (scene after : Scene) : Prop :=
  ∃ events, Runs crew deadline scene events after ∧ events.filterMap Event.told? = []

namespace Leads

variable {crew : Crew} {deadline : Nat} {scene middle after : Scene}

theorem ofRuns (runs : Runs crew deadline scene [] after) : Leads crew deadline scene after :=
  ⟨[], runs, rfl⟩

theorem trans (first : Leads crew deadline scene middle)
    (second : Leads crew deadline middle after) :
    Leads crew deadline scene after := by
  obtain ⟨earlier, reached, silent⟩ := first
  obtain ⟨later, onwards, quiet⟩ := second
  exact ⟨earlier ++ later, reached.trans onwards, by simp [silent, quiet]⟩

theorem ofStep (step : Step crew deadline scene none after) : Leads crew deadline scene after :=
  ⟨[], Runs.start.next step, rfl⟩

/-- The map is read while nothing is reported. -/
theorem ofRead {input : List UInt8} {outcome : Outcome}
    (returned : scene.phase = .returned input outcome #[]) :
    Leads crew deadline scene
      { scene with phase := .returned input outcome scene.map.counters } :=
  ⟨_, .read returned, by simp [List.filterMap_map, Function.comp_def, Event.told?]⟩

theorem ofEvent {event : Event} (step : Step crew deadline scene (some event) after)
    (silent : event.told? = none) : Leads crew deadline scene after :=
  ⟨[event], Runs.start.next step, by simp [silent]⟩

/-- A step of any worker. -/
theorem work {number : Nat} {worker next : Worker} {touch : Option Touch}
    (found : scene.workers number = worker)
    (worked : Worker.Step crew scene.maps worker touch next) :
    Leads crew deadline scene ((scene.touch touch).setWorker number next) := by
  cases touch with
  | none => exact ofStep (.work found worked)
  | some made => exact ofEvent (.work found worked) rfl

/-- The only thread of a worker can make a report without a break. -/
theorem report {number : Nat} {job : Job} {made rest : List UInt32} {guard : UInt32}
    (found : scene.workers number = { task := some ⟨job, [⟨made, none, guard :: rest⟩]⟩ }) :
    Leads crew deadline scene
      ((scene.setMap job.generation ((scene.maps job.generation).hit guard)).setWorker number
        { task := some ⟨job, [⟨made ++ [guard], none, rest⟩]⟩ }) := by
  by_cases active : guard = 0
  · subst active
    exact ⟨_, Runs.start.touch [] [] found .skip, rfl⟩
  · exact ⟨_, .report active found, rfl⟩

/-- It can make the first of its reports like that. -/
theorem reports {number : Nat} {job : Job} {made : List UInt32} (guards rest : List UInt32)
    (found : scene.workers number = { task := some ⟨job, [⟨made, none, guards ++ rest⟩]⟩ }) :
    Leads crew deadline scene
      ((scene.setMap job.generation ((scene.maps job.generation).hitAll guards)).setWorker number
        { task := some ⟨job, [⟨made ++ guards, none, rest⟩]⟩ }) := by
  induction guards generalizing scene made with
  | nil =>
      have same : (scene.setMap job.generation ((scene.maps job.generation).hitAll [])).setWorker
          number { task := some ⟨job, [⟨made ++ [], none, rest⟩]⟩ } = scene := by
        simp only [List.nil_append] at found
        simp [Scene.setMap, Scene.setWorker, CoverageMap.hitAll, ← found]
      rw [same]
      exact .ofRuns .start
  | cons guard guards inductionHypothesis =>
      have first : Leads crew deadline scene _ := report found
      have onwards := first.trans (inductionHypothesis (Scene.workers_setWorker _ _ _))
      simpa [Scene.setMap, Scene.setWorker, CoverageMap.hitAll] using onwards

/-- A worker with one thread that has been handed a job can take it and make the first
reports. -/
theorem underway {number : Nat} {job : Job} {early late : List UInt32}
    (found : scene.workers number = { jobs := [job] })
    (alone : (job.work crew).strands = [early ++ late]) :
    Leads crew deadline scene
      ((scene.setMap job.generation ((scene.maps job.generation).hitAll early)).setWorker number
        { task := some ⟨job, [⟨early, none, late⟩]⟩ }) := by
  have taken : Leads crew deadline scene _ := .work found .take
  have fresh : (job.work crew).strands.map Strand.ofGuards = [⟨[], none, early ++ late⟩] := by
    rw [alone]
    rfl
  rw [fresh] at taken
  have done := taken.trans (.reports early late (Scene.workers_setWorker _ _ _))
  simpa [Scene.setWorker, Scene.touch, Scene.setMap] using done

/-- It can make all of them and deliver the result, so that the runner receives it and reads
the map. -/
theorem answered {number : Nat} {input : List UInt8} {guards : List UInt32}
    (waiting : scene.phase = .waiting input) (ready : scene.handle = some number)
    (found : scene.workers number = { jobs := [scene.job input] })
    (alone : (scene.work crew input).strands = [guards]) :
    Leads crew deadline scene
      { scene with
        maps := Function.update scene.maps scene.generation (scene.map.hitAll guards)
        workers := Function.update scene.workers number {}
        phase := .returned input (scene.work crew input).delivery
          (scene.map.hitAll guards).counters } := by
  have done : Leads crew deadline scene _ :=
    underway found (alone.trans (by rw [List.append_nil]))
  have delivered := done.trans (.work (Scene.workers_setWorker _ _ _) (.deliver (by simp)))
  have received := delivered.trans
    (.ofEvent (.receive waiting ready (Scene.workers_setWorker _ _ _)) rfl)
  have read := received.trans (.ofRead rfl)
  simpa [Scene.setWorker, Scene.setMap, Scene.touch, Scene.map, Scene.job, Scene.work] using read

end Leads

section Ahead

variable {crew : Crew} {deadline capacity : Nat} {scene : Scene} {events : List Event}
variable {input : List UInt8}

/-- A harness with one thread can be in time. -/
theorem Isolated.exists_answered (isolated : Isolated crew deadline capacity events scene)
    (idle : scene.phase = .idle) {guards : List UInt32}
    (alone : (scene.work crew input).strands = [guards]) :
    ∃ number spawned workers, Leads crew deadline scene
      { scene with
        maps := Function.update scene.maps scene.generation (scene.map.reset.hitAll guards)
        phase := .returned input (scene.work crew input).delivery
          (scene.map.reset.hitAll guards).counters
        handle := some number, spawned, workers } := by
  obtain ⟨number, spawned, _, asked⟩ := isolated.exists_asked idle input
  have answered := (Leads.ofRuns asked).trans
    (.answered rfl rfl (Scene.workers_setWorker _ _ _) alone)
  refine ⟨number, spawned, Function.update scene.workers number {}, ?_⟩
  simpa [Scene.setWorker, Scene.map, Scene.work, Scene.job] using answered

/-- Reports in the order of their times come apart at any time. -/
theorem exists_split (time : Nat) {hits : List (Nat × UInt32)}
    (ordered : hits.Pairwise fun one other => one.1 ≤ other.1) :
    ∃ early late, hits = early ++ late ∧ (∀ hit ∈ early, hit.1 < time) ∧
      ∀ hit ∈ late, time ≤ hit.1 := by
  induction hits with
  | nil => exact ⟨[], [], rfl, by simp, by simp⟩
  | cons hit rest inductionHypothesis =>
      obtain ⟨least, ordered⟩ := List.pairwise_cons.mp ordered
      by_cases soon : hit.1 < time
      · obtain ⟨early, late, rfl, before, after⟩ := inductionHypothesis ordered
        refine ⟨hit :: early, late, rfl, ?_, after⟩
        simpa [soon] using before
      · refine ⟨[], hit :: rest, rfl, by simp, fun other member => ?_⟩
        rcases List.mem_cons.mp member with rfl | later
        · exact Nat.le_of_not_lt soon
        · exact (Nat.le_of_not_lt soon).trans (least other later)

/-- What counters show that are read one after another, beginning with some slot, while
reports come at their times. -/
def ShownFrom (map : CoverageMap) (hits : List (Nat × UInt32)) (first : Nat)
    (counts : Array UInt8) : Prop :=
  ∀ slot < map.capacity, first ≤ slot → counts.getD slot 0 =
    (map.hitAll ((hits.filter fun hit => hit.1 < slot).map Prod.snd)).get slot

/-- What the first counter shows, and what the others show when the reports have been made that
come before the second one is read. -/
theorem ShownFrom.of_next {map : CoverageMap} {soon late : List (Nat × UInt32)} {first : Nat}
    {counts : Array UInt8} (before : ∀ hit ∈ soon, hit.1 < first + 1)
    (behind : ∀ hit ∈ soon ++ late, first ≤ hit.1) (shown : counts.getD first 0 = map.get first)
    (others : ShownFrom (map.hitAll (soon.map Prod.snd)) late (first + 1) counts) :
    ShownFrom map (soon ++ late) first counts := by
  intro slot inside from_
  rcases Nat.eq_or_lt_of_le from_ with rfl | further
  · have none : (soon ++ late).filter (fun hit => hit.1 < first) = [] :=
      List.filter_eq_nil_iff.mpr fun hit member => by simpa using behind hit member
    rw [none]
    exact shown
  · have all : soon.filter (fun hit => hit.1 < slot) = soon :=
      List.filter_eq_self.mpr fun hit member => by
        have := before hit member
        simp
        omega
    rw [others slot (by simpa using inside) further, List.filter_append, all, List.map_append,
      CoverageMap.hitAll_append]

/-- A map can be read while the reports of a late thread come at their times, one counter
being read at each. -/
theorem Leads.exists_read {number : Nat} {job : Job} {outcome : Outcome} {counts : Array UInt8}
    {hits : List (Nat × UInt32)} {made : List UInt32}
    (returned : scene.phase = .returned input outcome counts)
    (within : counts.size ≤ scene.map.capacity)
    (ordered : hits.Pairwise fun one other => one.1 ≤ other.1)
    (late : ∀ hit ∈ hits, counts.size ≤ hit.1) (current : job.generation = scene.generation)
    (going : scene.workers number =
      { task := some ⟨job, [⟨made, none, hits.map Prod.snd⟩]⟩ }) :
    ∃ final maps workers, Leads crew deadline scene
        { scene with maps, workers, phase := .returned input outcome final } ∧
      (maps scene.generation).capacity = scene.map.capacity ∧
      final.size = scene.map.capacity ∧
      (∀ slot < counts.size, final.getD slot 0 = counts.getD slot 0) ∧
      ShownFrom scene.map hits counts.size final := by
  induction remaining : scene.map.capacity - counts.size
    generalizing scene counts hits made with
  | zero =>
      have same : { scene with
          maps := scene.maps, workers := scene.workers
          phase := .returned input outcome counts } = scene := by rw [← returned]
      refine ⟨counts, scene.maps, scene.workers, ?_, rfl, by omega, by simp, ?_⟩
      · rw [same]
        exact .ofRuns .start
      · intro slot inside behind
        omega
  | succ remaining inductionHypothesis =>
      have inside : counts.size < scene.map.capacity := by omega
      let longer := counts.push (scene.map.get counts.size)
      have grown : longer.size = counts.size + 1 := Array.size_push _
      obtain ⟨soon, later, rfl, before, after⟩ := exists_split (counts.size + 1) ordered
      rw [List.map_append] at going
      let halfway : Scene := { scene with phase := .returned input outcome longer }
      have first : Leads crew deadline scene halfway := .ofEvent (.read returned inside) rfl
      have second : Leads crew deadline halfway _ := .reports _ _ going
      let next : Scene :=
        (halfway.setMap job.generation
          ((halfway.maps job.generation).hitAll (soon.map Prod.snd))).setWorker number
            { task := some ⟨job, [⟨made ++ soon.map Prod.snd, none, later.map Prod.snd⟩]⟩ }
      have shown : next.map = scene.map.hitAll (soon.map Prod.snd) := by
        simp [next, halfway, Scene.map, Scene.setMap, Scene.setWorker, current]
      have sized : next.map.capacity = scene.map.capacity := by simp [shown]
      have still : next.phase = .returned input outcome longer := rfl
      obtain ⟨final, maps, workers, third, kept, size, old, others⟩ := inductionHypothesis still
        (by omega) (List.pairwise_append.mp ordered).2.1 (by simpa [grown] using after) current
        (Scene.workers_setWorker _ _ _) (by omega)
      refine ⟨final, maps, workers, (first.trans second).trans third, kept.trans sized,
        size.trans sized, fun slot known => ?_, ?_⟩
      · rw [old slot (by omega), Array.getD_eq_getD_getElem?, Array.getElem?_push_lt known,
          Array.getD_eq_getD_getElem?, Array.getElem?_eq_getElem known]
      · refine .of_next before late ?_ (by rwa [← shown, ← grown])
        rw [old _ (by omega), Array.getD_eq_getD_getElem?, Array.getElem?_push_size]
        rfl

/-- A worker with one thread can make only some of its reports before the wait is over, and
the others while the map is read. -/
theorem Isolated.exists_expired (isolated : Isolated crew deadline capacity events scene)
    (idle : scene.phase = .idle) {early : List UInt32} {hits : List (Nat × UInt32)}
    (alone : (scene.work crew input).strands = [early ++ hits.map Prod.snd])
    (ordered : hits.Pairwise fun one other => one.1 ≤ other.1) :
    ∃ counts maps spawned workers, Leads crew deadline scene
        { scene with
          maps, phase := .returned input (expired deadline) counts, handle := none, spawned,
          workers } ∧
      (maps scene.generation).capacity = scene.map.capacity ∧
      (⟨counts⟩ : CoverageSnapshot) = (scene.map.reset.hitAll early).snapshotBeside hits := by
  obtain ⟨number, spawned, _, asked⟩ := isolated.exists_asked idle input
  have underway := (Leads.ofRuns asked).trans (.underway (Scene.workers_setWorker _ _ _) alone)
  have ended := underway.trans (.ofEvent (.expire rfl) rfl)
  let busy : Worker := { task := some ⟨scene.job input, [⟨early, none, hits.map Prod.snd⟩]⟩ }
  let elapsed : Scene :=
    { scene with
      maps := Function.update scene.maps scene.generation (scene.map.reset.hitAll early)
      workers := Function.update scene.workers number busy
      phase := .returned input (expired deadline) #[], handle := none, spawned }
  have reached : Leads crew deadline scene elapsed := by
    simpa [elapsed, busy, Scene.setWorker, Scene.setMap, Scene.job] using ended
  have returned : elapsed.phase = .returned input (expired deadline) #[] := rfl
  have current : elapsed.map = scene.map.reset.hitAll early := Function.update_self _ _ _
  obtain ⟨counts, maps, workers, read, sized, size, _, shown⟩ :=
    Leads.exists_read returned (Nat.zero_le _) ordered (by simp) rfl (Function.update_self _ _ _)
  rw [current] at sized size shown
  refine ⟨counts, maps, spawned, workers, reached.trans read, sized.trans (by simp), ?_⟩
  exact CoverageMap.eq_snapshotBeside size fun slot inside => shown slot inside (Nat.zero_le _)

end Ahead

end Isolation
end Crosscheck
