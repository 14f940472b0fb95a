import Mathlib
import Crosscheck.CommandLine
import Crosscheck.Proofs.Campaign.History
import Crosscheck.Proofs.Except

/-!
# What a configuration has to be

A configuration is accepted exactly if it is sound (`validate_eq_ok_iff`), and what it is
refused for is the first of its complaints (`validate_eq_verdict`). The same rules stand
once more where runners and campaigns are built. They agree: of an accepted configuration
all runners and the campaign over them can be built, and where one of them cannot be built
the configuration has been refused (`builds_iff`).
-/

namespace Crosscheck

namespace Config

/-- What a run asks of a configuration. -/
structure Sound (config : Config) : Prop where
  several : 2 ≤ config.targets.length
  distinct : (config.targets.map TargetConfig.version).Nodup
  named : ∀ target ∈ config.targets,
    ∃ program arguments, target.command = program :: arguments ∧ program ≠ ""
  timed : ∀ target ∈ config.targets, target.timeout ≠ 0
  sized : CoverageMap.minCapacity ≤ config.mapCapacity ∧
    config.mapCapacity ≤ CoverageMap.maxCapacity
  likely : 0.0 ≤ config.run.synthesizeProbability ∧ config.run.synthesizeProbability ≤ 1.0

theorem namesProgram_iff (command : List String) : namesProgram command = true ↔
    ∃ program arguments, command = program :: arguments ∧ program ≠ "" := by
  cases command with
  | nil => simp [namesProgram]
  | cons program arguments => simp [namesProgram]

theorem isProbability_iff (value : Float) :
    isProbability value = true ↔ 0.0 ≤ value ∧ value ≤ 1.0 := by
  simp [isProbability]

theorem isCapacity_iff (capacity : Nat) : CoverageMap.isCapacity capacity = true ↔
    CoverageMap.minCapacity ≤ capacity ∧ capacity ≤ CoverageMap.maxCapacity := by
  simp [CoverageMap.isCapacity]

/-- Targets that come after others are accepted if their versions differ from each other and
from those before them, and each has a program and some time. -/
theorem validateTargets_eq_ok_iff (earlier : List String) (targets : List TargetConfig) :
    validateTargets earlier targets = .ok () ↔
      (targets.map TargetConfig.version).Nodup ∧
        ∀ target ∈ targets, target.version ∉ earlier ∧
          namesProgram target.command = true ∧ target.timeout ≠ 0 := by
  induction targets generalizing earlier with
  | nil => simp [validateTargets]
  | cons target rest inductionHypothesis =>
      unfold validateTargets
      split
      next repeated => simp [repeated]
      next fresh =>
        split
        next nameless => simp_all
        next named =>
          split
          next timeless => simp [timeless]
          next timed =>
            rw [inductionHypothesis]
            simp only [List.map_cons, List.nodup_cons, List.mem_map, List.mem_cons, not_or,
              forall_eq_or_imp, not_exists, not_and]
            constructor
            · rintro ⟨distinct, all⟩
              exact ⟨⟨fun other member => (all other member).1.1, distinct⟩,
                ⟨fresh, by simpa using named, timed⟩,
                fun other member => ⟨(all other member).1.2, (all other member).2⟩⟩
            · rintro ⟨⟨apart, distinct⟩, _, all⟩
              exact ⟨distinct, fun other member =>
                ⟨⟨apart other member, (all other member).1⟩, (all other member).2⟩⟩

/-- A configuration is accepted exactly if it is sound. -/
theorem validate_eq_ok_iff (config : Config) : config.validate = .ok () ↔ config.Sound := by
  have accepted : config.validate = .ok () ↔ ¬config.targets.length < 2 ∧
      validateTargets [] config.targets = .ok () ∧
      CoverageMap.isCapacity config.mapCapacity = true ∧
      isProbability config.run.synthesizeProbability = true := by
    unfold validate
    split
    next few => simp [few]
    next several =>
      split
      next refused => simp [refused]
      next sound => simp [several, sound, ite_eq_iff]
  rw [accepted, validateTargets_eq_ok_iff, isCapacity_iff, isProbability_iff]
  constructor
  · rintro ⟨several, ⟨distinct, each⟩, sized, likely⟩
    exact ⟨Nat.le_of_not_lt several, distinct,
      fun target member => (namesProgram_iff _).mp (each target member).2.1,
      fun target member => (each target member).2.2, sized, likely⟩
  · intro sound
    exact ⟨sound.several.not_gt, ⟨sound.distinct, fun target member =>
      ⟨List.not_mem_nil, (namesProgram_iff _).mpr (sound.named target member),
        sound.timed target member⟩⟩, sound.sized, sound.likely⟩

section Complaints

/-- All that a target is refused for, which comes after others. -/
def targetComplaints (earlier : List TargetConfig) (target : TargetConfig) : List ConfigError :=
  (if target.version ∈ earlier.map TargetConfig.version then
    [.duplicateVersion target.version] else []) ++
  (if namesProgram target.command then [] else [.emptyCommand target.version]) ++
  if target.timeout = 0 then [.zeroTimeout target.version] else []

/-- All that a configuration is refused for, in order. -/
def complaints (config : Config) : List ConfigError :=
  (if config.targets.length < 2 then [.tooFewTargets config.targets.length] else []) ++
  (config.targets.zipIdx.flatMap fun (target, place) =>
    targetComplaints (config.targets.take place) target) ++
  (if CoverageMap.isCapacity config.mapCapacity then []
    else [.mapCapacity config.mapCapacity]) ++
  if isProbability config.run.synthesizeProbability then []
    else [.probability config.run.synthesizeProbability]

/-- The first complaint counts. -/
def verdict : List ConfigError → Except ConfigError Unit
  | [] => .ok ()
  | first :: _ => .error first

theorem verdict_append (first later : List ConfigError) : verdict (first ++ later) =
    match verdict first with
    | .error error => .error error
    | .ok () => verdict later := by
  cases first <;> rfl

/-- Targets that come after others are refused for the first of their complaints. -/
theorem validateTargets_eq_verdict (before rest : List TargetConfig) (earlier : List String)
    (same : ∀ version, version ∈ earlier ↔ version ∈ before.map TargetConfig.version) :
    validateTargets earlier rest =
      verdict ((rest.zipIdx before.length).flatMap fun (target, place) =>
        targetComplaints ((before ++ rest).take place) target) := by
  induction rest generalizing before earlier with
  | nil => rfl
  | cons target rest inductionHypothesis =>
      have further := inductionHypothesis (before ++ [target]) (target.version :: earlier)
        (by intro version; simp [same, or_comm])
      rw [List.length_append, List.length_singleton, List.append_assoc,
        List.singleton_append] at further
      rw [List.zipIdx_cons, List.flatMap_cons, verdict_append, ← further]
      dsimp only
      rw [List.take_left, targetComplaints, validateTargets]
      simp only [same]
      by_cases repeated : target.version ∈ before.map TargetConfig.version
      · simp [repeated, verdict]
      · by_cases named : namesProgram target.command = true <;>
          by_cases timeless : target.timeout = 0 <;> simp [repeated, named, timeless, verdict]

/-- A configuration is refused for the first of its complaints. -/
theorem validate_eq_verdict (config : Config) :
    config.validate = verdict config.complaints := by
  have targets := validateTargets_eq_verdict [] config.targets [] (by simp)
  rw [List.length_nil, List.nil_append] at targets
  unfold validate complaints
  rw [verdict_append, verdict_append, verdict_append, ← targets]
  by_cases few : config.targets.length < 2
  · simp [few, verdict]
  · cases validateTargets [] config.targets with
    | error error => simp [few, verdict]
    | ok _ =>
        by_cases sized : CoverageMap.isCapacity config.mapCapacity = true <;>
          by_cases likely : isProbability config.run.synthesizeProbability = true <;>
          simp [few, sized, likely, verdict]

/-- Of several broken rules the first counts. -/
example : Config.validate
    { mapCapacity := 1
      targets := [⟨"a", ["x"], 1, none, none, false⟩, ⟨"b", [""], 1, none, none, false⟩,
        ⟨"a", [], 0, none, none, false⟩] } = .error (.emptyCommand "b") := rfl

end Complaints

end Config

namespace Runner

/-- What has run an input to warm up is still of the same version. -/
theorem version_warmUp {τ : Type} [Target τ] [ConstantVersion τ] (runner : Runner τ) :
    runner.warmUp.2.version = runner.version := by
  have ran : runner.warmUp.2 = runner.after [] := by
    unfold warmUp after
    split
    next ran => rw [ran]
    next ran => split <;> rw [ran]
  rw [ran]
  exact congrArg Prod.fst (runner.shape_after [])

end Runner

namespace CommandLine

variable {surroundings : Surroundings} {capacity : Nat} {target : TargetConfig}
  {runner : Runner SessionTarget}

/-- A version before its first start. -/
def unstarted (surroundings : Surroundings) (target : TargetConfig) : SessionTarget where
  settings := target.session
  launcher := surroundings.launcher
  nonces := fun number => surroundings.chance + UInt64.ofNat number
  tree := surroundings.tree

/-- The runner of a version before its first start. -/
def newRunner (surroundings : Surroundings) (capacity : Nat) (target : TargetConfig) :
    Except CoverageError (Runner SessionTarget) :=
  Runner.ofTarget (unstarted surroundings target) capacity (Duration.ofMillis target.timeout)

/-- To start a version is to build its runner and to warm it up. -/
theorem startTarget_eq : startTarget surroundings capacity target =
    match newRunner surroundings capacity target with
    | .error error =>
      .error ⟨["Failed to set up target '" ++ target.version ++ "'", error.message]⟩
    | .ok runner =>
      match runner.warmUp with
      | (.error error, _) => .error (.because error.message)
      | (.ok (), runner) => .ok runner := rfl

theorem exists_newRunner (surroundings : Surroundings) (target : TargetConfig)
    (supported : CoverageMap.isCapacity capacity = true) :
    ∃ runner, newRunner surroundings capacity target = .ok runner := by
  unfold newRunner Runner.ofTarget Sink.ofCapacity CoverageMap.ofCapacity
  rw [dif_pos supported]
  exact ⟨_, rfl⟩

theorem of_newRunner (built : newRunner surroundings capacity target = .ok runner) :
    CoverageMap.isCapacity capacity = true ∧ runner.version = target.version := by
  unfold newRunner Runner.ofTarget Sink.ofCapacity CoverageMap.ofCapacity at built
  split at built
  next supported =>
    cases built
    exact ⟨supported, rfl⟩
  · cases built

theorem version_startTarget (started : startTarget surroundings capacity target = .ok runner) :
    runner.version = target.version := by
  rw [startTarget_eq] at started
  split at started
  · cases started
  next fresh built =>
    rw [← (of_newRunner built).2, ← fresh.version_warmUp]
    split at started
    · cases started
    next warmed =>
      cases started
      rw [warmed]

section Campaigns

variable {τ ρ κ ψ : Type}

/-- At least two runners of different versions make a campaign. -/
theorem exists_ofRunners [Target τ] {runners : List (Runner τ)}
    (several : 2 ≤ runners.length) (distinct : (runners.map Runner.version).Nodup)
    (predicate : Predicate) (mutator : Mutator ρ) (scheduler : κ) (reporter : ψ)
    (options : CampaignOptions) (random : ρ) :
    ∃ campaign, Campaign.ofRunners runners predicate mutator scheduler reporter options random =
      .ok campaign := by
  have apart : Campaign.duplicate? [] (runners.map Runner.version) = none :=
    (Campaign.duplicate?_eq_none_iff _ _).mpr ⟨distinct, fun _ _ => List.not_mem_nil⟩
  unfold Campaign.ofRunners
  rw [if_neg several.not_gt, apart]
  exact ⟨_, rfl⟩

/-- Runners and a campaign can be built for targets exactly if there are two at least, of
different versions, and if a map can have the capacity. -/
theorem builds_iff (surroundings : Surroundings) (config : Config) (predicate : Predicate)
    (mutator : Mutator ρ) (scheduler : κ) (reporter : ψ) (options : CampaignOptions)
    (random : ρ) :
    (∃ runners, config.targets.mapM (newRunner surroundings config.mapCapacity) = .ok runners ∧
      ∃ campaign, Campaign.ofRunners runners predicate mutator scheduler reporter options
        random = .ok campaign) ↔
      2 ≤ config.targets.length ∧ (config.targets.map TargetConfig.version).Nodup ∧
        CoverageMap.isCapacity config.mapCapacity = true := by
  have versions : ∀ {runners},
      config.targets.mapM (newRunner surroundings config.mapCapacity) = .ok runners →
      runners.map Runner.version = config.targets.map TargetConfig.version :=
    map_eq_of_mapM fun _ _ built => (of_newRunner built).2
  have lengths : ∀ {runners : List (Runner SessionTarget)},
      runners.map Runner.version = config.targets.map TargetConfig.version →
      runners.length = config.targets.length := fun same => by
    simpa using congrArg List.length same
  constructor
  · rintro ⟨runners, mapped, campaign, built⟩
    obtain ⟨several, distinct, _⟩ := Campaign.of_ofRunners built
    rw [lengths (versions mapped)] at several
    refine ⟨several, versions mapped ▸ distinct, ?_⟩
    obtain ⟨target, rest, given⟩ :=
      List.exists_cons_of_length_pos (Nat.zero_lt_two.trans_le several)
    rw [given] at mapped
    obtain ⟨_, _, first, _⟩ := exists_of_mapM_cons mapped
    exact (of_newRunner first).1
  · rintro ⟨several, distinct, supported⟩
    obtain ⟨runners, mapped⟩ := exists_mapM (f := newRunner surroundings config.mapCapacity)
      fun target (_ : target ∈ config.targets) => exists_newRunner surroundings target supported
    exact ⟨runners, mapped, exists_ofRunners (lengths (versions mapped) ▸ several)
      (versions mapped ▸ distinct) predicate mutator scheduler reporter options random⟩

theorem validate_of_configure {arguments : Arguments} {config : Config}
    (configured : configure surroundings arguments = .ok config) : config.validate = .ok () := by
  unfold configure at configured
  split at configured
  · cases configured
  · dsimp only at configured
    split at configured
    · cases configured
    next accepted =>
      cases configured
      exact accepted

/-- A run that is prepared has an accepted configuration and a runner for each target. -/
theorem of_prepare {arguments : Arguments} {config : Config}
    {runners : List (Runner SessionTarget)} {seeds : List (List UInt8)}
    (prepared : prepare surroundings arguments = .ok (config, runners, seeds)) :
    config.validate = .ok () ∧
      config.targets.mapM (startTarget surroundings config.mapCapacity) = .ok runners := by
  obtain ⟨settled, configured, prepared⟩ := exists_of_bind prepared
  obtain ⟨others, started, prepared⟩ := exists_of_bind prepared
  obtain ⟨inputs, _, same⟩ := exists_of_bind prepared
  cases same
  exact ⟨validate_of_configure configured, started⟩

/-- It comes to a campaign. -/
theorem exists_campaign {arguments : Arguments} {config : Config}
    {runners : List (Runner SessionTarget)} {seeds : List (List UInt8)}
    (prepared : prepare surroundings arguments = .ok (config, runners, seeds)) :
    ∃ made, campaign surroundings arguments config runners seeds = .ok made := by
  obtain ⟨accepted, started⟩ := of_prepare prepared
  have sound := (Config.validate_eq_ok_iff config).mp accepted
  have versions : runners.map Runner.version = config.targets.map TargetConfig.version :=
    map_eq_of_mapM (fun _ _ => version_startTarget) started
  have several : 2 ≤ runners.length := by
    rw [← List.length_map, versions, List.length_map]
    exact sound.several
  obtain ⟨fresh, built⟩ := exists_ofRunners several (versions ▸ sound.distinct)
    config.comparison.predicate (StatementMutator.ofLimit .unwinds config.run.maxStatements).mutate
    (NoveltyScheduler.ofWindow NoveltyScheduler.defaultWindow) (Reporter.all [.log, .lines {}])
    (campaignOptions arguments config.run) (randomSource surroundings config.run)
  unfold campaign
  rw [built]
  exact ⟨_, rfl⟩

/-- A configuration is accepted exactly if it is sound. The same rules where runners and
campaigns are built refuse nothing else and let nothing else pass: a configuration is
accepted exactly if its runners and a campaign over them can be built, every target has a
program and some time, and the probability is one. Nor does a run that is prepared fail to
come to its campaign, although its runners have warmed up. What a configuration is refused
for is the first of its complaints. -/
theorem validate_agrees :
    (∀ config : Config, config.validate = .ok () ↔ config.Sound) ∧
    (∀ (surroundings : Surroundings) (config : Config) (ρ κ ψ : Type) (predicate : Predicate)
      (mutator : Mutator ρ) (scheduler : κ) (reporter : ψ) (options : CampaignOptions)
      (random : ρ), config.validate = .ok () ↔
        (∃ runners, config.targets.mapM (newRunner surroundings config.mapCapacity) =
            .ok runners ∧
          ∃ made, Campaign.ofRunners runners predicate mutator scheduler reporter options
            random = .ok made) ∧
        (∀ target ∈ config.targets, (∃ program arguments,
          target.command = program :: arguments ∧ program ≠ "") ∧ target.timeout ≠ 0) ∧
        0.0 ≤ config.run.synthesizeProbability ∧ config.run.synthesizeProbability ≤ 1.0) ∧
    (∀ (surroundings : Surroundings) (arguments : Arguments),
      (∃ config runners seeds, prepare surroundings arguments = .ok (config, runners, seeds)) ↔
        ∃ config runners seeds made,
          prepare surroundings arguments = .ok (config, runners, seeds) ∧
          campaign surroundings arguments config runners seeds = .ok made) ∧
    ∀ config : Config, config.validate = Config.verdict config.complaints := by
  refine ⟨Config.validate_eq_ok_iff, ?_, ?_, Config.validate_eq_verdict⟩
  · intro surroundings config ρ κ ψ predicate mutator scheduler reporter options random
    rw [Config.validate_eq_ok_iff, builds_iff, Config.isCapacity_iff]
    constructor
    · intro sound
      exact ⟨⟨sound.several, sound.distinct, sound.sized⟩,
        fun target member => ⟨sound.named target member, sound.timed target member⟩,
        sound.likely⟩
    · rintro ⟨⟨several, distinct, sized⟩, each, likely⟩
      exact ⟨several, distinct, fun target member => (each target member).1,
        fun target member => (each target member).2, sized, likely⟩
  · intro surroundings arguments
    constructor
    · rintro ⟨config, runners, seeds, prepared⟩
      obtain ⟨made, built⟩ := exists_campaign prepared
      exact ⟨config, runners, seeds, made, prepared, built⟩
    · rintro ⟨config, runners, seeds, _, prepared, _⟩
      exact ⟨config, runners, seeds, prepared⟩

end Campaigns

end CommandLine

end Crosscheck
