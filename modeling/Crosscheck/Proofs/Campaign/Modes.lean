import Mathlib
import Crosscheck.Proofs.Campaign.Replay
import Crosscheck.Proofs.Random.Source

/-!
# Side by side and in turn

Versions that run side by side lose nothing but the record of one that unwinds, so every
step that has a candidate ends with an outcome. Versions in turn have nobody to catch them:
the first that unwinds takes the step with it. That is the only difference. A step whose input
every version answers is the same in either mode (`step_retimed`), so steps in turn can be
repeated side by side (`Takes.beside`). Without a candidate a step ends in the same way in
either mode; a campaign whose selections never unwind is `Steady`.
-/

namespace Crosscheck

/-- Targets that answer whatever they are given and never unwind. -/
class Answering (τ : Type) [Target τ] : Prop where
  answers : ∀ (target : τ) (sink : Sink) (input : List UInt8) (deadline : Nat),
    ∃ outcome, (Target.execute target sink input deadline).ending = .answered outcome

/-- A worker catches what its harness unwinds with. -/
instance : Answering WorkerTarget where
  answers target sink input deadline := by
    simp only [Target.execute, WorkerTarget.execute]
    split <;> exact ⟨_, rfl⟩

/-- Whatever becomes of an engine behind a shell is an outcome. -/
instance : Answering SessionTarget where
  answers target sink input deadline := by
    simp only [Target.execute, SessionTarget.execute]
    split <;> exact ⟨_, rfl⟩

instance {τ υ : Type} [Target τ] [Target υ] [Answering τ] [Answering υ] :
    Answering (τ ⊕ υ) where
  answers
    | .inl target => Answering.answers target
    | .inr target => Answering.answers target

namespace Runner

variable {τ : Type} [Target τ]

/-- The target answers an input instead of unwinding. -/
def Answers (runner : Runner τ) (input : List UInt8) : Prop :=
  ∃ record, (runner.run input).1 = .ok record

/-- A runner shows a record in turn exactly if its target answers. -/
theorem isSome_observe_iff (runner : Runner τ) (input : List UInt8) :
    (runner.observe false input).isSome = true ↔ runner.Answers input := by
  unfold observe Answers
  cases (runner.run input).1 <;> simp

/-- A target that answers shows the same record in either mode. -/
theorem Answers.observe_eq {runner : Runner τ} {input : List UInt8}
    (answers : runner.Answers input) (beside : Bool) :
    runner.observe beside input = runner.observe false input := by
  obtain ⟨record, ran⟩ := answers
  simp [observe, ran]

end Runner

namespace Campaign

variable {τ ρ κ ψ : Type}

/-- The campaign in another mode, at another time. -/
def retimed (parallel : Bool) (time : Nat) (campaign : Campaign τ ρ κ ψ) : Campaign τ ρ κ ψ :=
  { campaign with
    options := { campaign.options with parallel }
    tally := { campaign.tally with elapsed := time } }

/-- The campaign with its versions side by side or in turn. -/
def inMode (parallel : Bool) (campaign : Campaign τ ρ κ ψ) : Campaign τ ρ κ ψ :=
  campaign.retimed parallel campaign.tally.elapsed

section Execution

variable [Target τ]

/-- Every version answers an input. -/
def Answers (campaign : Campaign τ ρ κ ψ) (input : List UInt8) : Prop :=
  ∀ runner ∈ campaign.runners, runner.Answers input

/-- In turn they leave records only if all of them answer. -/
theorem answers_of_recorded {campaign : Campaign τ ρ κ ψ} {input : List UInt8}
    {records : List Record} (inTurn : campaign.options.parallel = false)
    (recorded : (campaign.execute input).1 = .ok records) : campaign.Answers input := by
  rw [execute_eq_ok_iff, inTurn] at recorded
  intro runner member
  have shown : runner.observe false input ∈ records.map some := by
    rw [← recorded]
    exact List.mem_map_of_mem member
  obtain ⟨record, _, same⟩ := List.mem_map.mp shown
  rw [← runner.isSome_observe_iff, ← same]
  rfl

/-- Versions that all answer leave the same records, in either mode and at any time. -/
theorem execute_retimed {campaign : Campaign τ ρ κ ψ} {input : List UInt8}
    (answers : campaign.Answers input) (parallel : Bool) (time : Nat) :
    ∃ records, (campaign.execute input).1 = .ok records ∧
      (campaign.retimed parallel time).execute input =
        (.ok records, (campaign.execute input).2.retimed parallel time) := by
  have shown : ∀ mode, campaign.runners.map (Runner.observe mode · input) =
      campaign.runners.map (Runner.observe true · input) := by
    intro mode
    refine List.map_congr_left fun runner member => ?_
    rw [(answers runner member).observe_eq mode, (answers runner member).observe_eq true]
  obtain ⟨records, recorded⟩ := exists_recorded_beside
    (rfl : (campaign.retimed true time).options.parallel = true) input
  rw [execute_eq_ok_iff] at recorded
  have here : (campaign.execute input).1 = .ok records := by
    rw [execute_eq_ok_iff, shown]
    exact recorded
  have there : ((campaign.retimed parallel time).execute input).1 = .ok records := by
    rw [execute_eq_ok_iff]
    exact (shown parallel).trans recorded
  refine ⟨records, here, Prod.ext there ?_⟩
  rw [execute_of_ok there, execute_of_ok here]
  rfl

/-- Versions in turn unwind with what the first of them left that did not answer. Those
before it have answered in vain. -/
theorem runInTurn_eq_error_iff {input : List UInt8} {runners : List (Runner τ)}
    {payload : Payload} :
    (runInTurn input runners).1 = .error payload ↔
      ∃ earlier runner later, runners = earlier ++ runner :: later ∧
        (∀ other ∈ earlier, other.Answers input) ∧ (runner.run input).1 = .error payload := by
  induction runners with
  | nil => simp [runInTurn]
  | cons first rest inductionHypothesis =>
      rcases ran : first.run input with ⟨result, next⟩
      cases result with
      | error left =>
          constructor
          · intro unwound
            simp only [runInTurn, ran, Except.error.injEq] at unwound
            exact ⟨[], first, rest, rfl, by simp, by rw [ran, unwound]⟩
          · rintro ⟨_ | ⟨other, earlier⟩, runner, later, same, answers, unwound⟩
            · cases same
              simpa [runInTurn, ran] using unwound
            · cases same
              simp [Runner.Answers, ran] at answers
      | ok record =>
          have passed : (runInTurn input (first :: rest)).1 = .error payload ↔
              (runInTurn input rest).1 = .error payload := by
            simp only [runInTurn, ran]
            cases (runInTurn input rest).1 <;> simp [Except.map]
          rw [passed, inductionHypothesis]
          constructor
          · rintro ⟨earlier, runner, later, rfl, answers, unwound⟩
            refine ⟨first :: earlier, runner, later, rfl, ?_, unwound⟩
            exact List.forall_mem_cons.mpr ⟨⟨record, by rw [ran]⟩, answers⟩
          · rintro ⟨_ | ⟨other, earlier⟩, runner, later, same, answers, unwound⟩
            · cases same
              simp [ran] at unwound
            · cases same
              exact ⟨earlier, runner, later, rfl, (List.forall_mem_cons.mp answers).2, unwound⟩

end Execution

section Selection

variable [RandomSource ρ] [Scheduler κ]

/-- What is selected depends on neither the mode nor the time. -/
theorem select_retimed (campaign : Campaign τ ρ κ ψ) (parallel : Bool) (time : Nat) :
    (campaign.retimed parallel time).select =
      (campaign.select.1, campaign.select.2.retimed parallel time) := by
  unfold select
  dsimp only [retimed]
  split
  · rfl
  · by_cases empty : campaign.corpus.isEmpty = true
    · simp only [empty, ↓reduceIte]
      rfl
    · simp only [empty, Bool.false_eq_true, ↓reduceIte]
      rcases (Random.chance (toUnit campaign.options.synthesizeProbability)).run
        campaign.random with ⟨_ | _ | _, random⟩
      · rfl
      · dsimp only
        split
        split <;> rfl
      · rfl

end Selection

section Settlement

/-- What is evaluated depends on them in nothing but the time that it ends at. -/
theorem evaluate_retimed [Reporting ψ] (campaign : Campaign τ ρ κ ψ) (parallel : Bool)
    (time : Nat) (input : List UInt8) (records : List Record) :
    (campaign.retimed parallel time).evaluate input records =
      let evaluated := campaign.evaluate input records
      (evaluated.1, evaluated.2.1, evaluated.2.2.retimed parallel
        (time + elapsed { campaign.options with parallel } records)) := by
  have counted : ∀ (verdict : Verdict) (stats : Stats),
      count { stats with elapsed := time } verdict =
        { count stats verdict with elapsed := time } := by
    intro verdict stats
    cases verdict <;> rfl
  unfold evaluate
  dsimp only [retimed]
  rw [counted]
  split <;> rfl

theorem retain_retimed [Scheduler κ] (campaign : Campaign τ ρ κ ψ) (parallel : Bool)
    (time : Nat) (candidate : Candidate) (novelty : Novelty) (verdict : Verdict) :
    (campaign.retimed parallel time).retain candidate novelty verdict =
      let retained := campaign.retain candidate novelty verdict
      (retained.1, retained.2.retimed parallel time) := rfl

end Settlement

section Step

variable [Target τ] [RandomSource ρ] [Scheduler κ] [Reporting ψ]

/-- A step whose input every version answers ends in the same outcome in either mode. -/
theorem step_retimed {campaign : Campaign τ ρ κ ψ} {candidate : Candidate}
    (selected : campaign.select.1 = .ok candidate) (answers : campaign.Answers candidate.input)
    (parallel : Bool) (time : Nat) :
    ∃ outcome later, campaign.step.1 = .ok outcome ∧
      (campaign.retimed parallel time).step =
        (.ok outcome, campaign.step.2.retimed parallel later) := by
  have still : campaign.select.2.Answers candidate.input := by
    rw [Answers, (selection campaign).runners]
    exact answers
  obtain ⟨records, here, there⟩ := execute_retimed still parallel time
  have again : (campaign.retimed parallel time).select.1 = .ok candidate := by
    rw [select_retimed, selected]
  have recorded : ((campaign.retimed parallel time).select.2.execute candidate.input).1 =
      .ok records := by
    rw [select_retimed, there]
  rw [step_of_recorded selected here, step_of_recorded again recorded, select_retimed]
  dsimp only
  rw [there]
  dsimp only
  rw [evaluate_retimed]
  dsimp only
  rw [retain_retimed]
  exact ⟨_, _, rfl, rfl⟩

/-- A completed step whose input every version answers can be repeated in either mode. -/
theorem Completes.retimed {before after : Campaign τ ρ κ ψ} {turn : Turn}
    (completes : Completes before turn after) (answers : before.Answers turn.candidate.input)
    (parallel : Bool) (time : Nat) :
    ∃ later, Completes (before.retimed parallel time) turn (after.retimed parallel later) := by
  have selected : before.select.2.Answers turn.candidate.input := by
    rw [Answers, (selection before).runners]
    exact answers
  obtain ⟨records, here, there⟩ := execute_retimed selected parallel time
  obtain ⟨outcome, later, ended, repeated⟩ :=
    step_retimed completes.candidate answers parallel time
  rw [completes.stepped] at ended repeated
  cases ended
  refine ⟨later, repeated, ?_, completes.iteration, ?_, completes.novelty⟩
  · rw [select_retimed]
    exact completes.candidate
  · rw [select_retimed]
    dsimp only
    rw [there, ← here]
    exact completes.recorded

/-- A step in turn that completes had its input answered by all versions. -/
theorem Completes.answers {before after : Campaign τ ρ κ ψ} {turn : Turn}
    (completes : Completes before turn after) (inTurn : before.options.parallel = false) :
    before.Answers turn.candidate.input := by
  have selected := answers_of_recorded
    ((congrArg CampaignOptions.parallel (selection before).options).trans inTurn)
    completes.recorded
  rwa [Answers, (selection before).runners] at selected

/-- No step changes the mode. -/
theorem Takes.options {origin campaign : Campaign τ ρ κ ψ} {turns : List Turn}
    (taken : Takes origin turns campaign) : campaign.options = origin.options := by
  induction taken with
  | none => rfl
  | next _ completes inductionHypothesis => exact completes.options.trans inductionHypothesis

/-- Whatever steps are taken in turn are taken side by side as well, at other times. -/
theorem Takes.beside {origin campaign : Campaign τ ρ κ ψ} {turns : List Turn}
    (taken : Takes origin turns campaign) (inTurn : origin.options.parallel = false) :
    ∃ time, Takes (origin.inMode true) turns (campaign.retimed true time) := by
  induction taken with
  | none => exact ⟨_, .none⟩
  | next prior completes inductionHypothesis =>
      obtain ⟨time, repeated⟩ := inductionHypothesis
      have answers := completes.answers (prior.options ▸ inTurn)
      obtain ⟨later, repeats⟩ := completes.retimed answers true time
      exact ⟨later, repeated.next repeats⟩

/-- A campaign whose selections never unwind: its mutator does not, and a number from 0 to 1
has been set for its probability. -/
structure Steady (campaign : Campaign τ ρ κ ψ) : Prop where
  mutator : ∀ base corpus random payload,
    ((campaign.mutator base corpus).run random).1 ≠ .unwound payload
  probability :
    Random.isProbability (toUnit campaign.options.synthesizeProbability) = true

namespace Steady

variable {before after campaign : Campaign τ ρ κ ψ} {turn : Turn}

omit [Target τ] [RandomSource ρ] [Scheduler κ] [Reporting ψ] in
theorem exists_synthesized (steady : campaign.Steady) (scheduler : κ) (random : ρ) :
    ∃ candidate, { campaign with scheduler, random }.synthesize.1 = .ok candidate := by
  unfold synthesize
  rcases ran : (campaign.mutator none (some campaign.corpus)).run random with
    ⟨_ | _ | payload, after⟩
  · exact ⟨_, rfl⟩
  · exact ⟨_, rfl⟩
  · exact absurd (congrArg Prod.fst ran) (steady.mutator none _ random payload)

omit [Target τ] [RandomSource ρ] [Scheduler κ] [Reporting ψ] in
theorem exists_derived (steady : campaign.Steady) (scheduler : κ) (random : ρ)
    (parent : Entry) :
    ∃ candidate, ({ campaign with scheduler, random }.derive parent).1 = .ok candidate := by
  unfold derive
  dsimp only
  rcases ran : (campaign.mutator (some parent.input)
    (some (campaign.corpus.select parent.id))).run random with ⟨_ | _ | payload, after⟩
  · exact ⟨_, rfl⟩
  · exact ⟨_, rfl⟩
  · exact absurd (congrArg Prod.fst ran) (steady.mutator _ _ random payload)

omit [Target τ] [Reporting ψ] in
/-- Such a campaign always has a candidate. -/
theorem exists_selected (steady : campaign.Steady) :
    ∃ candidate, campaign.select.1 = .ok candidate := by
  unfold select
  split
  next => exact ⟨_, rfl⟩
  next =>
    split
    · exact steady.exists_synthesized campaign.scheduler campaign.random
    · obtain ⟨tossed, answered⟩ := (Random.exists_chance_iff _ campaign.random).mpr
        steady.probability
      rcases ran : (Random.chance (toUnit campaign.options.synthesizeProbability)).run
        campaign.random with ⟨_ | _ | _, random⟩
      · rw [ran] at answered
        cases answered
      · dsimp only
        split
        split
        · exact steady.exists_derived _ _ _
        · exact steady.exists_synthesized _ _
      · exact steady.exists_synthesized campaign.scheduler random

/-- It stays so from step to step. -/
theorem of_completes (steady : before.Steady) (completes : Completes before turn after) :
    after.Steady := by
  obtain ⟨_, _, _, _, _, _, selection, _, rfl⟩ := completes.stages
  refine ⟨?_, ?_⟩
  · dsimp only
    rw [selection.mutator]
    exact steady.mutator
  · dsimp only
    rw [selection.options]
    exact steady.probability

end Steady

/-- So no number of its steps side by side is cut short by an input. -/
theorem runFrom_beside {campaign : Campaign τ ρ κ ψ} (steady : campaign.Steady)
    (beside : campaign.options.parallel = true) (lastReport iterations : Nat) :
    (runFrom lastReport campaign iterations).1 = .ok () := by
  induction iterations generalizing campaign lastReport with
  | zero => rfl
  | succ iterations inductionHypothesis =>
      obtain ⟨candidate, selected⟩ := steady.exists_selected
      obtain ⟨turn, after, completes, _⟩ := exists_completes_beside beside selected
      have still : after.options.parallel = true := completes.options ▸ beside
      have steadily := steady.of_completes completes
      have published : after.publish.Steady := ⟨steadily.mutator, steadily.probability⟩
      simp only [runFrom, completes.stepped]
      split
      · rfl
      · split
        · exact inductionHypothesis published still _
        · exact inductionHypothesis steadily still _

/-- Side by side every run of it ends with statistics. -/
theorem exists_stats_beside {campaign : Campaign τ ρ κ ψ} (steady : campaign.Steady)
    (beside : campaign.options.parallel = true) (iterations : Nat) :
    ∃ stats, (campaign.run iterations).1 = .ok stats := by
  have completed := runFrom_beside steady beside campaign.tally.elapsed iterations
  rcases ran : runFrom campaign.tally.elapsed campaign iterations with ⟨result, after⟩
  have ended : result = .ok () := by rw [← completed, ran]
  exact ⟨after.publish.stats, by simp [run, ran, ended]⟩

/-- What one input does to the versions ends nothing side by side, and the modes differ in
nothing else. Side by side every input leaves records and every candidate an outcome. In turn
records and outcome are the same exactly if all versions answer the input; if not, the
first version that does not takes the step with it. A selection that unwinds ends the step in
either mode, which a steady campaign does not know: side by side its runs all end with
statistics. All that is ever completed in turn is completed side by side too. -/
theorem alike_iff_answers (campaign : Campaign τ ρ κ ψ) :
    (∀ input, ∃ records, ((campaign.inMode true).execute input).1 = .ok records ∧
      (((campaign.inMode false).execute input).1 = .ok records ↔ campaign.Answers input)) ∧
    (∀ input payload, ((campaign.inMode false).execute input).1 = .error payload ↔
      ∃ earlier runner later, campaign.runners = earlier ++ runner :: later ∧
        (∀ other ∈ earlier, other.Answers input) ∧ (runner.run input).1 = .error payload) ∧
    (∀ candidate, campaign.select.1 = .ok candidate →
      ∃ outcome, (campaign.inMode true).step.1 = .ok outcome ∧
        ((campaign.inMode false).step.1 = .ok outcome ↔ campaign.Answers candidate.input)) ∧
    (∀ payload, campaign.select.1 = .error payload →
      ∀ parallel, (campaign.inMode parallel).step.1 = .error payload) ∧
    (campaign.Steady → (∃ candidate, campaign.select.1 = .ok candidate) ∧
      ∀ iterations, ∃ stats, ((campaign.inMode true).run iterations).1 = .ok stats) ∧
    ∀ turns after, Takes (campaign.inMode false) turns after →
      ∃ time, Takes (campaign.inMode true) turns (after.retimed true time) := by
  have beside : (campaign.inMode true).options.parallel = true := rfl
  have inTurn : (campaign.inMode false).options.parallel = false := rfl
  have chosen : ∀ parallel, (campaign.inMode parallel).select.1 = campaign.select.1 :=
    fun parallel => by rw [inMode, select_retimed]
  refine ⟨fun input => ?_, fun input payload => runInTurn_eq_error_iff,
    fun candidate selected => ?_, fun payload selected parallel => ?_,
    fun steady => ⟨steady.exists_selected,
      exists_stats_beside ⟨steady.mutator, steady.probability⟩ beside⟩,
    fun turns after taken => taken.beside inTurn⟩
  · obtain ⟨records, recorded⟩ := exists_recorded_beside beside input
    refine ⟨records, recorded, answers_of_recorded inTurn, fun answers => ?_⟩
    have answersInTurn : (campaign.inMode false).Answers input := answers
    obtain ⟨others, here, there⟩ := execute_retimed answersInTurn true campaign.tally.elapsed
    rw [here, ← recorded, show (campaign.inMode true).execute input = _ from there]
  · obtain ⟨turn, after, completes, _⟩ :=
      exists_completes_beside beside ((chosen true).trans selected)
    refine ⟨turn.outcome, congrArg Prod.fst completes.stepped, fun stepped => ?_, fun answers => ?_⟩
    · obtain ⟨again, _, repeats⟩ := exists_completes (Prod.ext stepped rfl)
      have same := repeats.candidate.symm.trans ((chosen false).trans selected)
      rw [← Except.ok.inj same]
      exact repeats.answers inTurn
    · have answersInTurn : (campaign.inMode false).Answers candidate.input := answers
      obtain ⟨outcome, later, here, there⟩ := step_retimed ((chosen false).trans selected)
        answersInTurn true campaign.tally.elapsed
      have stepped := completes.stepped.symm.trans there
      rw [here, (Prod.mk.inj stepped).1]
  · rw [step_of_unselected ((chosen parallel).trans selected)]

end Step

/-- Two versions in turn of which the second unwinds when it is asked anything. -/
def asserting : Campaign InlineTarget Random.Cycle PinnedScheduler Reporter :=
  { echoing with
    runners := [.echo "a",
      { (Runner.echo "b") with
        target := ⟨"b", fun _ _ => ⟨[], .unwound (.text "engine assertion")⟩, "", 0⟩ }]
    options := { parallel := false } }

/-- Side by side the lost version has crashed and the input is kept as a finding. In turn the
step ends without an outcome, and the record of the other version is gone. -/
theorem not_alike_asserting :
    let seeded := asserting.withSeeds [[1]]
    ofRunners asserting.runners .exact Mutation.octetShift PinnedScheduler.never Reporter.log
        { parallel := false } (Random.Cycle.ofList []) = .ok asserting ∧
    ((((seeded.inMode true).execute [1]).1.map fun records => records.map Record.outcome) =
        .ok [.completed (.changes 0), .faulted ⟨.crash, "driver thread panicked"⟩] ∧
      ((seeded.inMode false).execute [1]).1 = .error (.text "engine assertion")) ∧
    ((seeded.inMode true).step.1 = .ok ⟨.seed, .fault ["b"], 1, some 0, some 0⟩ ∧
      (seeded.inMode false).step.1 = .error (.text "engine assertion")) ∧
    ¬ ∀ input, ((seeded.inMode false).execute input).1 =
      ((seeded.inMode true).execute input).1 := by
  intro seeded
  have inTurn : ((seeded.inMode false).execute [1]).1 = .error (.text "engine assertion") := by
    decide +kernel
  refine ⟨rfl, ⟨by decide +kernel, inTurn⟩, ⟨by decide +kernel, by decide +kernel⟩,
    fun alike => ?_⟩
  have same := alike [1]
  rw [inTurn] at same
  cases same

end Campaign
end Crosscheck
