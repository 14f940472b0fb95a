import Mathlib
import Crosscheck.Proofs.Campaign.Determinism

/-!
# Replaying a corpus

A corpus is worth the whole run that it came from. `Restores` says that a campaign cannot be
told from another by its corpus or by what it would find novel; a turn that retained its
input can be repeated in such a campaign (`exists_repeat`) and one that did not can be left
out (`discard`), which restores a campaign entry by entry (`History.restores`). In another
order the inputs restore what feedback has seen (`exists_reordered`).
-/

namespace Crosscheck

/-- An entry without how and when it was found and how often it was selected. -/
def Entry.content (entry : Entry) : Entry :=
  { entry with
    metadata := { entry.metadata with source := .seed, foundAt := 0, selections := 0 } }

@[simp] theorem Entry.content_kept (entry : Entry) : entry.kept.content = entry.content := rfl

namespace Corpus

/-- The contents of the entries in their order. -/
def contents (corpus : Corpus) : List Entry := corpus.entries.toList.map Entry.content

theorem contents_eq (corpus : Corpus) : corpus.contents = corpus.kept.map Entry.content := by
  simp [contents, kept, Function.comp_def]

theorem size_of_contents {corpus other : Corpus} (same : corpus.contents = other.contents) :
    corpus.size = other.size := by
  simpa [contents, size] using congrArg List.length same

end Corpus

namespace Campaign

section Takes

variable {τ ρ κ ψ : Type} [Target τ] [RandomSource ρ] [Scheduler κ] [Reporting ψ]

/-- The steps that a campaign takes one right after another, all of them completed. -/
inductive Takes (origin : Campaign τ ρ κ ψ) : List Turn → Campaign τ ρ κ ψ → Prop where
  | none : Takes origin [] origin
  | next {turns before turn after} (prior : Takes origin turns before)
      (completes : Completes before turn after) : Takes origin (turns ++ [turn]) after

variable {origin campaign after : Campaign τ ρ κ ψ} {turns more : List Turn}

theorem Takes.of_step {outcome : StepOutcome} (taken : Takes origin turns campaign)
    (stepped : campaign.step = (.ok outcome, after)) :
    ∃ turn, turn.outcome = outcome ∧ Takes origin (turns ++ [turn]) after := by
  obtain ⟨turn, same, completes⟩ := exists_completes stepped
  exact ⟨turn, same, taken.next completes⟩

/-- A history goes on with the steps that are taken. -/
theorem History.takes (history : History origin turns campaign)
    (taken : Takes campaign more after) : History origin (turns ++ more) after := by
  induction taken with
  | none => simpa using history
  | next _ completes inductionHypothesis =>
      rw [← List.append_assoc]
      exact inductionHypothesis.turn completes

/-- Seeds that all versions leave records of are run in their order, one in each step. -/
theorem exists_takes_of_seeds [ConstantVersion τ] {replay : Campaign τ ρ κ ψ}
    {cover : CoverageFunction} (covers : replay.Covers cover) (idle : replay.pending = [])
    {inputs : List (List UInt8)} (rest : List (List UInt8))
    (recordable : ∀ input ∈ inputs, ∀ entry ∈ cover.shown replay.versions input,
      entry.2.isSome = true) :
    ∃ again restored, Takes (replay.withSeeds (inputs ++ rest)) again restored ∧
      again.map (fun turn => turn.candidate.input) = inputs ∧ restored.pending = rest := by
  induction inputs using List.reverseRecOn generalizing rest with
  | nil => exact ⟨[], _, .none, rfl, by simp [withSeeds, idle]⟩
  | append_singleton inputs input inductionHypothesis =>
      obtain ⟨again, middle, taken, inOrder, waiting⟩ :=
        inductionHypothesis (input :: rest) fun other member =>
          recordable other (List.mem_append_left [input] member)
      have history := (History.start.aside (.seed (inputs ++ input :: rest))).takes taken
      obtain ⟨turn, after, completes, candidate, left⟩ :=
        exists_completes_of_pending (covers.of_history history) waiting (by
          rw [history.versions]
          exact recordable input (by simp))
      refine ⟨again ++ [turn], after, ?_, ?_, left⟩
      · rw [List.append_assoc]
        exact taken.next completes
      · simp [inOrder, candidate]

end Takes

section Restores

variable {τ ρ κ ψ υ σ μ χ : Type}
variable [Target τ] [RandomSource ρ] [Scheduler κ] [Reporting ψ]

/-- A campaign that cannot be told from another by its corpus, and to which every input
would be as novel. -/
structure Restores (campaign : Campaign τ ρ κ ψ) (restored : Campaign υ σ μ χ) : Prop where
  contents : restored.corpus.contents = campaign.corpus.contents
  feedback : campaign.feedback.Alike restored.feedback

variable {before after : Campaign τ ρ κ ψ} {restored next : Campaign υ σ μ χ}
variable {turn again : Turn}

/-- A turn that retains nothing leaves nothing to restore. -/
theorem Restores.discard [ConstantVersion τ] (restores : Restores before restored)
    (completes : Completes before turn after) (fitted : before.Fitted)
    (discarded : turn.outcome.retained = none) : Restores after restored := by
  obtain ⟨_, revealed⟩ := completes.reveals fitted
  have nothing : turn.revealed.novelEdges = 0 := by
    simpa [discarded] using completes.isSome_retained_iff
  rw [nothing] at revealed
  refine ⟨?_, revealed.alike.symm.trans restores.feedback⟩
  rw [restores.contents, Corpus.contents_eq, Corpus.contents_eq, completes.kept, Turn.entry?,
    discarded]
  simp

theorem Restores.aside (restores : Restores before restored) (aside : Aside before after) :
    Restores after restored := by
  refine ⟨?_, aside.feedback.symm ▸ restores.feedback⟩
  rw [restores.contents, Corpus.contents_eq, Corpus.contents_eq, aside.kept]

variable [Target υ] [RandomSource σ] [Scheduler μ] [Reporting χ]

/-- Two turns that expose the same coverage end alike and leave campaigns alike. -/
theorem Restores.step (restores : Restores before restored)
    (completes : Completes before turn after) (repeats : Completes restored again next)
    (same : again.candidate.input = turn.candidate.input)
    (exposed : turn.records.map Record.exposure = again.records.map Record.exposure) :
    Restores after next ∧ again.outcome.retained = turn.outcome.retained := by
  obtain ⟨answers, alike⟩ := restores.feedback.evaluate exposed
  have revealed : again.revealed = turn.revealed := by
    rw [completes.novelty, repeats.novelty] at answers
    rw [Turn.revealed, Turn.revealed, answers]
  have retained : again.outcome.retained = turn.outcome.retained := by
    rw [repeats.retained, completes.retained, revealed,
      Corpus.size_of_contents restores.contents]
  refine ⟨⟨?_, ?_⟩, retained⟩
  · have contents := restores.contents
    rw [Corpus.contents_eq, Corpus.contents_eq] at contents ⊢
    rw [repeats.kept, completes.kept, List.map_append, List.map_append, contents, Turn.entry?,
      Turn.entry?, retained, revealed, same]
    cases turn.outcome.retained <;> rfl
  · rw [completes.feedback, repeats.feedback]
    exact alike

variable [ConstantVersion τ] [ConstantVersion υ]

/-- A campaign that waits for the input of a turn can repeat the turn. -/
theorem Restores.exists_repeat {cover : CoverageFunction} {rest : List (List UInt8)}
    (restores : Restores before restored) (completes : Completes before turn after)
    (covers : before.Covers cover) (coversAgain : restored.Covers cover)
    (versions : before.versions = restored.versions)
    (waiting : restored.pending = turn.candidate.input :: rest) :
    ∃ again next, Completes restored again next ∧ next.pending = rest ∧
      again.outcome.retained = turn.outcome.retained ∧ Restores after next := by
  have shown := completes.shown covers
  rw [versions] at shown
  obtain ⟨again, next, repeats, candidate, left⟩ :=
    exists_completes_of_pending coversAgain waiting (shown ▸ turn.isSome_of_mem_shown)
  have input : again.candidate.input = turn.candidate.input := by rw [candidate]
  have shownAgain := repeats.shown coversAgain
  rw [input, ← shown] at shownAgain
  obtain ⟨restoresNext, retained⟩ :=
    restores.step completes repeats input (Turn.exposure_of_shown shownAgain.symm)
  exact ⟨again, next, repeats, left, retained, restoresNext⟩

/-- Replaying what a campaign has retained, in its own order and with more to come, restores
the campaign: nothing that it did not retain is missed. -/
theorem History.restores {origin campaign : Campaign τ ρ κ ψ} {turns : List Turn}
    {replay : Campaign υ σ μ χ} {cover : CoverageFunction}
    (history : History origin turns campaign) (fresh : origin.Fresh) (covers : origin.Covers cover)
    (again : replay.Fresh) (coversAgain : replay.Covers cover) (idle : replay.pending = [])
    (same : replay.runners.map Runner.shape = origin.runners.map Runner.shape)
    (rest : List (List UInt8)) :
    ∃ repeated restored,
      Takes (replay.withSeeds (campaign.corpus.inputs ++ rest)) repeated restored ∧
      restored.pending = rest ∧
      repeated.map (fun turn => turn.outcome.retained) =
        (List.range campaign.corpus.size).map some ∧
      Restores campaign restored := by
  -- The seeds of a longer history end with the last input that it retained, so the history
  -- before it has to be replayed with that input still to come.
  induction history generalizing rest with
  | start =>
      refine ⟨[], _, .none, ?_, ?_, ?_, ?_⟩
      · simp [withSeeds, idle, Corpus.inputs, fresh.empty, Corpus.empty]
      · simp [fresh.empty, Corpus.empty, Corpus.size]
      · rw [fresh.empty]
        exact congrArg Corpus.contents again.empty
      · rw [fresh.unseen, ← same, ← again.unseen]
        exact .refl _
  | @turn _ before turn after prior completes inductionHypothesis =>
      have grown := completes.inputs
      have sized := congrArg List.length grown
      rw [List.length_append, Corpus.length_inputs, Corpus.length_inputs] at sized
      cases retained : turn.outcome.retained with
      | none =>
          obtain ⟨repeated, restored, taken, waiting, numbers, restores⟩ :=
            inductionHypothesis rest
          simp only [retained, Option.map_none, Option.toList_none, List.append_nil,
            List.length_nil, Nat.add_zero] at grown sized
          rw [grown, sized]
          exact ⟨repeated, restored, taken, waiting, numbers,
            restores.discard completes (prior.reveals fresh.fitted).2 retained⟩
      | some id =>
          obtain ⟨repeated, restored, taken, waiting, numbers, restores⟩ :=
            inductionHypothesis (turn.candidate.input :: rest)
          have replayed := (History.start.aside (.seed _)).takes taken
          have versions : before.versions = restored.versions :=
            prior.versions.trans
              ((Runner.map_version_of_shape same).symm.trans replayed.versions.symm)
          obtain ⟨next, after', repeats, left, numbered, restoresNext⟩ :=
            restores.exists_repeat completes (covers.of_history prior)
              (coversAgain.of_history replayed) versions waiting
          have number : id = before.corpus.size := by
            have kept := completes.retained
            rw [retained] at kept
            split at kept <;> simp_all
          simp only [retained, Option.map_some, Option.toList_some, List.length_cons,
            List.length_nil] at grown sized
          refine ⟨repeated ++ [next], after', ?_, left, ?_, restoresNext⟩
          · rw [grown, List.append_assoc]
            exact taken.next repeats
          · rw [sized, List.range_succ, List.map_append, List.map_append, numbers]
            simp [numbered, retained, number]
  | aside _ aside inductionHypothesis =>
      obtain ⟨repeated, restored, taken, waiting, numbers, restores⟩ := inductionHypothesis rest
      have sized := congrArg List.length aside.kept
      rw [Corpus.length_kept, Corpus.length_kept] at sized
      rw [Corpus.inputs_eq, aside.kept, ← Corpus.inputs_eq, sized]
      exact ⟨repeated, restored, taken, waiting, numbers, restores.aside aside⟩

end Restores

section Claim

variable {τ ρ κ ψ υ σ μ χ : Type}
variable [Target τ] [RandomSource ρ] [Scheduler κ] [Reporting ψ] [ConstantVersion τ]
variable [Target υ] [RandomSource σ] [Scheduler μ] [Reporting χ] [ConstantVersion υ]
variable {origin campaign : Campaign τ ρ κ ψ} {turns : List Turn}
variable {replay : Campaign υ σ μ χ} {cover : CoverageFunction}

/-- The inputs of a corpus, in whatever order, restore what feedback has seen. -/
theorem History.exists_reordered (history : History origin turns campaign)
    (fresh : origin.Fresh) (covers : origin.Covers cover) (again : replay.Fresh)
    (coversAgain : replay.Covers cover) (idle : replay.pending = [])
    (versions : replay.versions = origin.versions) {seeds : List (List UInt8)}
    (reordered : seeds.Perm campaign.corpus.inputs) :
    ∃ repeated restored, Takes (replay.withSeeds seeds) repeated restored ∧
      repeated.length = campaign.corpus.size ∧
      restored.corpus.size ≤ campaign.corpus.size ∧
      ∀ version slot,
        restored.feedback.hasSeen version slot = campaign.feedback.hasSeen version slot := by
  have recordable : ∀ input ∈ seeds, ∀ entry ∈ cover.shown replay.versions input,
      entry.2.isSome = true := by
    intro input member
    obtain ⟨turn, turnMember, rfl⟩ :=
      history.exists_turn_of_mem fresh (reordered.mem_iff.mp member)
    rw [versions, ← history.shown covers turnMember]
    exact turn.isSome_of_mem_shown
  obtain ⟨repeated, restored, taken, inOrder, _⟩ :=
    exists_takes_of_seeds coversAgain idle [] recordable
  rw [List.append_nil] at taken
  have replayed := (History.start.aside (.seed seeds)).takes taken
  rw [List.nil_append] at replayed
  have length : repeated.length = campaign.corpus.size := by
    rw [← Corpus.length_inputs, ← reordered.length_eq, ← inOrder, List.length_map]
  refine ⟨repeated, restored, taken, length, ?_, ?_⟩
  · rw [← length, ← Corpus.length_kept, replayed.kept_of_fresh again]
    exact List.length_filterMap_le _ _
  · intro version slot
    rw [Bool.eq_iff_iff, replayed.hasSeen_iff_lights again coversAgain, inOrder, versions,
      history.hasSeen_iff_inputs fresh covers]
    exact exists_congr fun input => and_congr_left fun _ => reordered.mem_iff

/-- Restart by replay, for versions whose coverage is a function of the input. A campaign
over the same versions that is given the inputs of a corpus as seeds retains each of them
under its old number and with all that it revealed, and has then seen what the first
campaign had seen. Given them in another order it may retain fewer, but has still seen
the same. -/
theorem replay_restores {runners : List (Runner τ)} {predicate : Predicate}
    {mutator : Mutator ρ} {scheduler : κ} {reporter : ψ} {options : CampaignOptions} {random : ρ}
    {runnersAgain : List (Runner υ)} {predicateAgain : Predicate} {mutatorAgain : Mutator σ}
    {schedulerAgain : μ} {reporterAgain : χ} {optionsAgain : CampaignOptions} {randomAgain : σ}
    (built : ofRunners runners predicate mutator scheduler reporter options random = .ok origin)
    (rebuilt : ofRunners runnersAgain predicateAgain mutatorAgain schedulerAgain reporterAgain
      optionsAgain randomAgain = .ok replay)
    (same : runnersAgain.map Runner.shape = runners.map Runner.shape)
    (covers : ∀ runner ∈ runners, runner.Covers options.parallel (cover runner.version))
    (coversAgain : ∀ runner ∈ runnersAgain,
      runner.Covers optionsAgain.parallel (cover runner.version))
    (history : History origin turns campaign) :
    (∃ repeated restored, Takes (replay.withSeeds campaign.corpus.inputs) repeated restored ∧
      repeated.map (fun turn => turn.outcome.retained) =
        (List.range campaign.corpus.size).map some ∧
      restored.corpus.contents = campaign.corpus.contents ∧
      ∀ version slot,
        restored.feedback.hasSeen version slot = campaign.feedback.hasSeen version slot) ∧
    ∀ seeds : List (List UInt8), seeds.Perm campaign.corpus.inputs →
      ∃ repeated restored, Takes (replay.withSeeds seeds) repeated restored ∧
        repeated.length = campaign.corpus.size ∧
        restored.corpus.size ≤ campaign.corpus.size ∧
        ∀ version slot,
          restored.feedback.hasSeen version slot = campaign.feedback.hasSeen version slot := by
  have fresh := fresh_of_ofRunners built
  have again := fresh_of_ofRunners rebuilt
  obtain ⟨_, _, rfl⟩ := of_ofRunners built
  obtain ⟨_, _, rfl⟩ := of_ofRunners rebuilt
  constructor
  · obtain ⟨repeated, restored, taken, _, numbers, restores⟩ :=
      history.restores fresh covers again coversAgain rfl same []
    rw [List.append_nil] at taken
    exact ⟨repeated, restored, taken, numbers, restores.contents, fun version slot =>
      (restores.feedback.seen version slot).symm⟩
  · intro seeds reordered
    exact history.exists_reordered fresh covers again coversAgain rfl
      (Runner.map_version_of_shape same) reordered

end Claim

/-- The harness of this campaign is deterministic. -/
theorem exists_covers_echoing : ∃ cover, echoing.Covers cover := by
  refine ⟨fun _ => Runner.scriptCoverage true Runner.echoScript (Runner.echo "a").sink.map, ?_⟩
  intro runner member
  rcases List.mem_pair.mp member with rfl | rfl <;>
    exact Runner.covers_of_script (fun _ => rfl) true

/-- The order of seeds matters for what is retained: the longer of these two first leaves
nothing new to the other. -/
theorem replay_restores_echoing : ∃ turns campaign,
    History echoing turns campaign ∧ campaign.corpus.inputs = [[1], [1, 2]] ∧
      (∃ repeated restored, Takes (echoing.withSeeds [[1], [1, 2]]) repeated restored ∧
        repeated.map (fun turn => turn.outcome.retained) = [some 0, some 1] ∧
        restored.corpus.contents = campaign.corpus.contents ∧
        ∀ version slot,
          restored.feedback.hasSeen version slot = campaign.feedback.hasSeen version slot) ∧
      ∃ repeated restored, Takes (echoing.withSeeds [[1, 2], [1]]) repeated restored ∧
        repeated.map (fun turn => turn.outcome.retained) = [some 0, none] := by
  obtain ⟨cover, covers⟩ := exists_covers_echoing
  let inOrder := echoing.withSeeds [[1], [1, 2]]
  have first : inOrder.step = (.ok ⟨.seed, .agree, 2, some 0, none⟩, inOrder.step.2) :=
    Prod.ext (by decide +kernel) rfl
  have second : inOrder.step.2.step =
      (.ok ⟨.seed, .agree, 2, some 1, none⟩, inOrder.step.2.step.2) :=
    Prod.ext (by decide +kernel) rfl
  let reversed := echoing.withSeeds [[1, 2], [1]]
  have longer : reversed.step = (.ok ⟨.seed, .agree, 4, some 0, none⟩, reversed.step.2) :=
    Prod.ext (by decide +kernel) rfl
  have shorter : reversed.step.2.step =
      (.ok ⟨.seed, .agree, 0, none, none⟩, reversed.step.2.step.2) :=
    Prod.ext (by decide +kernel) rfl
  have inputs : inOrder.step.2.step.2.corpus.inputs = [[1], [1, 2]] := by decide +kernel
  obtain ⟨_, _, takenFirst⟩ := Takes.none.of_step first
  obtain ⟨_, _, taken⟩ := takenFirst.of_step second
  obtain ⟨_, kept, takenLonger⟩ := Takes.none.of_step longer
  obtain ⟨_, dropped, takenShorter⟩ := takenLonger.of_step shorter
  have history := (History.start.aside (Aside.seed [[1], [1, 2]])).takes taken
  generalize inOrder.step.2.step.2 = campaign at history inputs
  obtain ⟨⟨repeated, restored, again, numbers, contents, seen⟩, _⟩ :=
    replay_restores ofRunners_echoing ofRunners_echoing rfl covers covers history
  rw [← Corpus.length_inputs, inputs] at numbers
  rw [inputs] at again
  exact ⟨_, campaign, history, inputs, ⟨repeated, restored, again, numbers, contents, seen⟩,
    _, _, takenShorter, by simp [kept, dropped]⟩

end Campaign
end Crosscheck
