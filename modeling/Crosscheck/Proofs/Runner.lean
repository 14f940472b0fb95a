import Mathlib
import Crosscheck.Campaign
import Crosscheck.Proofs.Coverage.Map
import Crosscheck.Target.Inline
import Crosscheck.Target.Session
import Crosscheck.Target.Worker

/-!
# What runners record

Every run of a runner whose target keeps its version leaves a record of that version
and of the runner's capacity, and a runner that does the same for the next input.
`observe` is the record that a campaign gets to see, which differs between the ways to
run versions only where a target unwinds. `Covers` says that the coverage which a
campaign sees depends on the input alone, whatever ran before it.
-/

namespace Crosscheck

/-- Targets that keep their version whatever they execute. -/
class ConstantVersion (τ : Type) [Target τ] : Prop where
  version_execute : ∀ (target : τ) (sink : Sink) (input : List UInt8) (deadline : Nat),
    Target.version (Target.execute target sink input deadline).target = Target.version target
  version_recycle : ∀ target : τ, Target.version (Target.recycle target).2 = Target.version target

instance : ConstantVersion InlineTarget where
  version_execute _ _ _ _ := rfl
  version_recycle _ := rfl

instance : ConstantVersion WorkerTarget where
  version_execute target sink input deadline := by
    simp only [Target.execute, WorkerTarget.execute]
    split <;> rfl
  version_recycle _ := rfl

instance {τ υ : Type} [Target τ] [Target υ] [ConstantVersion τ] [ConstantVersion υ] :
    ConstantVersion (τ ⊕ υ) where
  version_execute
    | .inl target => ConstantVersion.version_execute target
    | .inr target => ConstantVersion.version_execute target
  version_recycle
    | .inl target => ConstantVersion.version_recycle target
    | .inr target => ConstantVersion.version_recycle target

namespace SessionTarget

theorem settings_start (target : SessionTarget) (capacity : Nat) :
    (target.start capacity).2.settings = target.settings := by
  unfold start
  split
  · rfl
  · dsimp only
    split <;> rfl

theorem settings_serve (target : SessionTarget) (session : Session) (sink : Sink)
    (deadline : Nat) : (target.serve session sink deadline).2.2.settings = target.settings := by
  unfold serve
  exact (apply_ite SessionTarget.settings _ _ _).trans (ite_self _)

theorem settings_stage (target : SessionTarget) (session : Session) (sink : Sink)
    (input : List UInt8) (deadline : Nat) :
    (target.stage session sink input deadline).2.2.settings = target.settings := by
  unfold stage
  dsimp only
  split
  · rfl
  · exact settings_serve target _ sink deadline

theorem settings_execute (target : SessionTarget) (sink : Sink) (input : List UInt8)
    (deadline : Nat) : (target.execute sink input deadline).target.settings = target.settings := by
  unfold execute
  cases target.session with
  | some session =>
      dsimp only
      exact settings_stage target session sink input deadline
  | none =>
      have kept := settings_start target sink.map.capacity
      dsimp only
      split
      · exact kept
      · exact (settings_stage _ _ sink input deadline).trans kept

end SessionTarget

instance : ConstantVersion SessionTarget where
  version_execute target sink input deadline :=
    congrArg SessionSettings.version (target.settings_execute sink input deadline)
  version_recycle _ := rfl

namespace Runner

variable {τ : Type} [Target τ]

/-- The version and the capacity of a runner. -/
def shape (runner : Runner τ) : String × Nat := (runner.version, runner.capacity)

/-- A runner after an input. -/
def after (runner : Runner τ) (input : List UInt8) : Runner τ := (runner.run input).2

/-- A runner after several inputs. -/
def afterAll (runner : Runner τ) (inputs : List (List UInt8)) : Runner τ :=
  inputs.foldl after runner

/-- The record that a campaign sees. A runner that unwinds is replaced by a lost record if
it runs beside others, and leaves none if the versions run in turn. -/
def observe (beside : Bool) (runner : Runner τ) (input : List UInt8) : Option Record :=
  match (runner.run input).1 with
  | .ok record => some record
  | .error _ => if beside then some (Campaign.lostRecord runner) else none

/-- The coverage that a campaign sees is a function of the input alone, in whatever state
earlier inputs have left the runner. -/
def Covers (beside : Bool) (runner : Runner τ)
    (cover : List UInt8 → Option CoverageSnapshot) : Prop :=
  ∀ earlier input, ((runner.afterAll earlier).observe beside input).map Record.coverage =
    cover input

theorem afterAll_append (runner : Runner τ) (inputs : List (List UInt8)) (input : List UInt8) :
    runner.afterAll (inputs ++ [input]) = (runner.afterAll inputs).after input := by
  simp [afterAll]

/-- Runners of the same shapes have the same versions. -/
theorem map_version_of_shape {υ : Type} [Target υ] {runners : List (Runner τ)}
    {others : List (Runner υ)} (same : runners.map shape = others.map shape) :
    runners.map version = others.map version := by
  have versions := congrArg (List.map Prod.fst) same
  rwa [List.map_map, List.map_map] at versions

section Version

variable [ConstantVersion τ]

/-- Recycling changes neither the version nor the capacity. -/
theorem shape_settle (runner : Runner τ) (outcome : Outcome) :
    (runner.settle outcome).shape = runner.shape := by
  unfold settle
  split
  · rfl
  · have version := ConstantVersion.version_recycle runner.target
    split <;> simp [shape, Runner.version, capacity, version]

theorem shape_after (runner : Runner τ) (input : List UInt8) :
    (runner.after input).shape = runner.shape := by
  have version := ConstantVersion.version_execute runner.target runner.sink.reset input
    runner.timeout
  have sized := Target.capacity_execute runner.target runner.sink.reset input runner.timeout
  unfold after run
  dsimp only
  split
  · simp [shape, Runner.version, capacity, version, sized]
  · rw [shape_settle]
    simp [shape, Runner.version, capacity, version, sized]

theorem shape_afterAll (runner : Runner τ) (inputs : List (List UInt8)) :
    (runner.afterAll inputs).shape = runner.shape := by
  induction inputs generalizing runner with
  | nil => rfl
  | cons input rest inductionHypothesis =>
      exact (inductionHypothesis (runner.after input)).trans (shape_after runner input)

/-- A record bears the version of its runner and has its capacity. -/
theorem shape_of_run {runner : Runner τ} {input : List UInt8} {record : Record}
    (recorded : (runner.run input).1 = .ok record) :
    (record.version, record.coverage.capacity) = runner.shape := by
  have version := ConstantVersion.version_execute runner.target runner.sink.reset input
    runner.timeout
  have sized := Target.capacity_execute runner.target runner.sink.reset input runner.timeout
  unfold run at recorded
  dsimp only at recorded
  split at recorded
  · cases recorded
  · cases recorded
    have kept : ∀ (settled : Runner τ) (outcome : Outcome),
        (settled.settle outcome).version = settled.version := fun settled outcome =>
      congrArg Prod.fst (shape_settle settled outcome)
    rw [kept]
    simp [shape, Runner.version, capacity, version, sized]

/-- So does the record that a campaign sees, lost or not. -/
theorem shape_of_observe {beside : Bool} {runner : Runner τ} {input : List UInt8}
    {record : Record} (observed : runner.observe beside input = some record) :
    (record.version, record.coverage.capacity) = runner.shape := by
  unfold observe at observed
  split at observed
  next recorded =>
    cases observed
    exact shape_of_run recorded
  next =>
    split at observed
    · cases observed
      simp [shape, Campaign.lostRecord, CoverageSnapshot.blank, CoverageSnapshot.capacity]
    · cases observed

end Version

/-- What a runner covers does not change with the inputs that it has run. -/
theorem Covers.afterAll {beside : Bool} {runner : Runner τ}
    {cover : List UInt8 → Option CoverageSnapshot} (covers : runner.Covers beside cover)
    (inputs : List (List UInt8)) : (runner.afterAll inputs).Covers beside cover := by
  intro earlier input
  have continued :
      (runner.afterAll inputs).afterAll earlier = runner.afterAll (inputs ++ earlier) :=
    List.foldl_append.symm
  rw [continued]
  exact covers (inputs ++ earlier) input

section Inline

/-- What a harness that runs in place covers, if its timeline depends on the input alone. -/
def scriptCoverage (beside : Bool) (script : List UInt8 → Timeline) (map : CoverageMap)
    (input : List UInt8) : Option CoverageSnapshot :=
  match (script input).result with
  | .unwound _ => if beside then some (.blank map.capacity) else none
  | _ => some (map.reset.hitAll ((script input).hits.map Prod.snd)).snapshot

theorem harness_afterAll (runner : Runner InlineTarget) (inputs : List (List UInt8)) :
    (runner.afterAll inputs).target.harness = runner.target.harness := by
  induction inputs generalizing runner with
  | nil => rfl
  | cons input rest inductionHypothesis =>
      refine (inductionHypothesis (runner.after input)).trans ?_
      unfold after run settle
      dsimp only
      split
      · rfl
      · split <;> rfl

/-- A deterministic harness that runs in place covers a function of its input. -/
theorem covers_of_script {runner : Runner InlineTarget} {script : List UInt8 → Timeline}
    (deterministic : ∀ calls, runner.target.harness calls = script) (beside : Bool) :
    runner.Covers beside (scriptCoverage beside script runner.sink.map) := by
  intro earlier input
  have sized : (runner.afterAll earlier).sink.map.capacity = runner.sink.map.capacity :=
    congrArg Prod.snd (runner.shape_afterAll earlier)
  have timeline : (runner.afterAll earlier).target.harness
      (runner.afterAll earlier).target.calls input = script input := by
    rw [harness_afterAll, deterministic]
  generalize runner.afterAll earlier = later at sized timeline ⊢
  unfold observe run scriptCoverage
  simp only [Target.execute, InlineTarget.execute, timeline]
  cases (script input).result with
  | output answer =>
      simp [Sink.foldl_hit, Sink.reset, CoverageMap.reset_of_capacity sized]
  | fault kind =>
      simp [Sink.foldl_hit, Sink.reset, CoverageMap.reset_of_capacity sized]
  | unwound payload =>
      cases beside <;> simp [Campaign.lostRecord, capacity, sized]

/-- What a harness does that reports every octet of its input as a guard. -/
def echoScript (input : List UInt8) : Timeline :=
  ⟨input.map fun octet => .hit octet.toUInt32, .output (.changes 0)⟩

/-- A runner of the smallest capacity whose harness echoes its input. -/
def echo (version : String) : Runner InlineTarget where
  target := { version, harness := fun _ => echoScript, detail := "" }
  sink := ⟨0, ⟨Array.replicate CoverageMap.minCapacity 0, by decide⟩⟩
  timeout := 0

end Inline

end Runner
end Crosscheck
