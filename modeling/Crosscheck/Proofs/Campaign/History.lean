import Mathlib
import Crosscheck.Random.Cycle
import Crosscheck.Proofs.Campaign.Step
import Crosscheck.Proofs.Coverage.Feedback

/-!
# What campaigns become

A history is how a campaign came to be from another: by completed steps, by steps that
unwound, by seeds, by new ways to mutate and schedule, and by published statistics. It
lists the completed steps alone, since only these reach feedback and the corpus. `reveals`
sums up what all of them have done to feedback and `kept` what they have done to the
corpus; a turn is taken out of the middle of a history by `exists_completes_of_append`.
-/

namespace Crosscheck

namespace Campaign

variable {τ ρ κ ψ : Type} [Target τ]

section Origin

/-- The names of the versions, in the order of their runners. -/
def versions (campaign : Campaign τ ρ κ ψ) : List String := campaign.runners.map Runner.version

/-- No version is found twice exactly if the versions differ from each other and from those
found earlier. -/
theorem duplicate?_eq_none_iff (earlier versions : List String) :
    duplicate? earlier versions = none ↔
      versions.Nodup ∧ ∀ version ∈ versions, version ∉ earlier := by
  induction versions generalizing earlier with
  | nil => simp [duplicate?]
  | cons version rest inductionHypothesis =>
      unfold duplicate?
      split
      next repeated => simp [repeated]
      next fresh =>
        rw [inductionHypothesis]
        simp only [List.nodup_cons, List.mem_cons, not_or, forall_eq_or_imp]
        constructor
        · rintro ⟨distinct, apart⟩
          exact ⟨⟨fun again => (apart version again).1 rfl, distinct⟩, fresh,
            fun other member => (apart other member).2⟩
        · rintro ⟨⟨absent, distinct⟩, _, apart⟩
          exact ⟨distinct, fun other member =>
            ⟨fun same => absent (same ▸ member), apart other member⟩⟩

/-- What a campaign is built from: at least two runners of different versions, nothing seen
and nothing kept. -/
theorem of_ofRunners {runners : List (Runner τ)} {predicate : Predicate} {mutator : Mutator ρ}
    {scheduler : κ} {reporter : ψ} {options : CampaignOptions} {random : ρ}
    {origin : Campaign τ ρ κ ψ}
    (built : ofRunners runners predicate mutator scheduler reporter options random = .ok origin) :
    2 ≤ runners.length ∧ (runners.map Runner.version).Nodup ∧
      origin =
        { runners, predicate, mutator, scheduler, reporter, options, random,
          feedback := .ofVersions (runners.map Runner.shape) } := by
  unfold ofRunners at built
  split at built
  · cases built
  next several =>
    split at built
    next => cases built
    next distinct =>
      cases built
      exact ⟨Nat.le_of_not_lt several, ((duplicate?_eq_none_iff _ _).mp distinct).1, rfl⟩

/-- A campaign of different versions that has seen and kept nothing yet. -/
structure Fresh (origin : Campaign τ ρ κ ψ) : Prop where
  distinct : origin.versions.Nodup
  unseen : origin.feedback = .ofVersions (origin.runners.map Runner.shape)
  empty : origin.corpus = .empty

theorem fresh_of_ofRunners {runners : List (Runner τ)} {predicate : Predicate}
    {mutator : Mutator ρ} {scheduler : κ} {reporter : ψ} {options : CampaignOptions} {random : ρ}
    {origin : Campaign τ ρ κ ψ}
    (built : ofRunners runners predicate mutator scheduler reporter options random = .ok origin) :
    origin.Fresh := by
  obtain ⟨_, distinct, rfl⟩ := of_ofRunners built
  exact ⟨distinct, rfl, rfl⟩

/-- Two versions of one harness that echoes its input. -/
def echoing : Campaign InlineTarget Random.Cycle PinnedScheduler Reporter where
  runners := [.echo "a", .echo "b"]
  predicate := .exact
  mutator := Mutation.octetShift
  scheduler := .never
  reporter := .log
  options := {}
  random := .ofList []
  feedback := .ofVersions ([.echo "a", .echo "b"].map Runner.shape)

theorem ofRunners_echoing :
    ofRunners [.echo "a", .echo "b"] .exact Mutation.octetShift PinnedScheduler.never Reporter.log
      {} (Random.Cycle.ofList []) = .ok echoing := rfl

end Origin

section History

variable [RandomSource ρ] [Scheduler κ] [Reporting ψ]

/-- What happens to a campaign besides completed steps. -/
inductive Aside (before : Campaign τ ρ κ ψ) : Campaign τ ρ κ ψ → Prop where
  | unwind {payload after} (unwound : before.step = (.error payload, after)) : Aside before after
  | seed (seeds : List (List UInt8)) : Aside before (before.withSeeds seeds)
  | configure (mutator : Mutator ρ) (scheduler : κ) :
      Aside before { before with mutator, scheduler }
  | publish : Aside before before.publish

/-- The ways of a campaign from its origin, with the turns that it has completed. -/
inductive History (origin : Campaign τ ρ κ ψ) : List Turn → Campaign τ ρ κ ψ → Prop where
  | start : History origin [] origin
  | turn {turns before turn after} (prior : History origin turns before)
      (completes : Completes before turn after) : History origin (turns ++ [turn]) after
  | aside {turns before after} (prior : History origin turns before)
      (aside : Aside before after) : History origin turns after

/-- Side by side every step completes that has a candidate. -/
theorem exists_completes_beside {campaign : Campaign τ ρ κ ψ} {candidate : Candidate}
    (beside : campaign.options.parallel = true) (selected : campaign.select.1 = .ok candidate) :
    ∃ turn after, Completes campaign turn after ∧ turn.candidate = candidate := by
  obtain ⟨records, recorded⟩ := exists_recorded_beside
    ((congrArg CampaignOptions.parallel (selection campaign).options).trans beside)
    candidate.input
  obtain ⟨turn, after, completes, same, _⟩ := exists_completes_of_recorded selected recorded
  exact ⟨turn, after, completes, same⟩

theorem follows_refl (runners : List (Runner τ)) : List.Forall₂ Follows runners runners :=
  List.forall₂_same.mpr fun runner _ => .refl runner

/-- A step that unwinds has gone through its selection and moved some of the runners, no more. -/
theorem exists_runners_of_unwound {before after : Campaign τ ρ κ ψ} {payload : Payload}
    (unwound : before.step = (.error payload, after)) :
    ∃ runners, after = { before.select.2 with runners } ∧
      List.Forall₂ Follows before.runners runners := by
  have unmoved := (selection before).runners
  cases selected : before.select.1 with
  | error reason =>
      rw [step_of_unselected selected] at unwound
      cases unwound
      exact ⟨before.select.2.runners, rfl, unmoved ▸ follows_refl _⟩
  | ok candidate =>
      obtain ⟨runners, moved, follows⟩ := execute_follows before.select.2 candidate.input
      rw [unmoved] at follows
      cases recorded : (before.select.2.execute candidate.input).1 with
      | error reason =>
          rw [step_of_unrecorded selected recorded] at unwound
          cases unwound
          exact ⟨runners, moved, follows⟩
      | ok records =>
          obtain ⟨turn, next, completes, _⟩ := exists_completes_of_recorded selected recorded
          cases unwound.symm.trans completes.stepped

theorem step_of_unwound {before after : Campaign τ ρ κ ψ} {payload : Payload}
    (unwound : before.step = (.error payload, after)) :
    ∃ result selected runners, Selection before result selected ∧
      after = { selected with runners } ∧ List.Forall₂ Follows before.runners runners := by
  obtain ⟨runners, moved, follows⟩ := exists_runners_of_unwound unwound
  exact ⟨_, _, runners, selection before, moved, follows⟩

theorem follows_trans {first second third : List (Runner τ)}
    (early : List.Forall₂ Follows first second) (late : List.Forall₂ Follows second third) :
    List.Forall₂ Follows first third := by
  induction early generalizing third with
  | nil => exact late
  | cons head _ inductionHypothesis =>
      cases late with
      | cons step rest => exact .cons (head.trans step) (inductionHypothesis rest)

/-- The runners of a completed step follow from those before it. -/
theorem Completes.follows {before after : Campaign τ ρ κ ψ} {turn : Turn}
    (completes : Completes before turn after) :
    List.Forall₂ Follows before.runners after.runners := by
  rw [completes.runners]
  exact List.forall₂_map_right_iff.mpr
    (List.forall₂_same.mpr fun runner _ => (Follows.refl runner).after _)

namespace Aside

variable {before after : Campaign τ ρ κ ψ}

theorem follows (aside : Aside before after) :
    List.Forall₂ Follows before.runners after.runners := by
  cases aside with
  | unwind unwound =>
      obtain ⟨_, _, _, _, rfl, follows⟩ := step_of_unwound unwound
      exact follows
  | seed => exact follows_refl _
  | configure => exact follows_refl _
  | publish => exact follows_refl _

theorem options (aside : Aside before after) : after.options = before.options := by
  cases aside with
  | unwind unwound =>
      obtain ⟨_, _, _, selection, rfl, _⟩ := step_of_unwound unwound
      exact selection.options
  | seed => rfl
  | configure => rfl
  | publish => rfl

theorem feedback (aside : Aside before after) : after.feedback = before.feedback := by
  cases aside with
  | unwind unwound =>
      obtain ⟨_, _, _, selection, rfl, _⟩ := step_of_unwound unwound
      exact selection.feedback
  | seed => rfl
  | configure => rfl
  | publish => rfl

theorem findings (aside : Aside before after) : after.findings = before.findings := by
  cases aside with
  | unwind unwound =>
      obtain ⟨_, _, _, selection, rfl, _⟩ := step_of_unwound unwound
      exact selection.findings
  | seed => rfl
  | configure => rfl
  | publish => rfl

/-- The entry that an unwound step has selected is all that a corpus shows of it. -/
theorem kept (aside : Aside before after) : after.corpus.kept = before.corpus.kept := by
  cases aside with
  | unwind unwound =>
      obtain ⟨_, _, _, selection, rfl, _⟩ := step_of_unwound unwound
      exact selection.kept
  | seed => rfl
  | configure => rfl
  | publish => rfl

end Aside

namespace History

variable {origin campaign : Campaign τ ρ κ ψ} {turns : List Turn}

/-- Every runner goes on from where it was at the origin. -/
theorem follows (history : History origin turns campaign) :
    List.Forall₂ Follows origin.runners campaign.runners := by
  induction history with
  | start => exact follows_refl _
  | turn _ completes inductionHypothesis =>
      exact follows_trans inductionHypothesis completes.follows
  | aside _ aside inductionHypothesis => exact follows_trans inductionHypothesis aside.follows

theorem options (history : History origin turns campaign) : campaign.options = origin.options := by
  induction history with
  | start => rfl
  | turn _ completes inductionHypothesis => exact completes.options.trans inductionHypothesis
  | aside _ aside inductionHypothesis => exact aside.options.trans inductionHypothesis

/-- The corpus holds the entries of the turns in their order, and nothing is ever removed. -/
theorem kept (history : History origin turns campaign) :
    campaign.corpus.kept = origin.corpus.kept ++ turns.filterMap Turn.entry? := by
  induction history with
  | start => simp
  | @turn _ _ turn _ _ completes inductionHypothesis =>
      rw [completes.kept, inductionHypothesis, List.filterMap_append, List.append_assoc]
      cases entry : turn.entry? <;> simp [entry]
  | aside _ aside inductionHypothesis => exact aside.kept.trans inductionHypothesis

theorem kept_of_fresh (history : History origin turns campaign) (fresh : origin.Fresh) :
    campaign.corpus.kept = turns.filterMap Turn.entry? := by
  simp [history.kept, fresh.empty]

/-- A turn in the middle of a history was completed from where the turns before it lead. -/
theorem exists_completes_of_append {earlier later : List Turn} {turn : Turn}
    (history : History origin (earlier ++ turn :: later) campaign) :
    ∃ before after, History origin earlier before ∧ Completes before turn after := by
  generalize whole : earlier ++ turn :: later = turns at history
  -- Histories grow at their end, so the turns after the one looked for are taken off first.
  induction history generalizing later with
  | start => simp at whole
  | turn prior completes inductionHypothesis =>
      rcases later.eq_nil_or_concat with rfl | ⟨front, last, rfl⟩
      · obtain ⟨rfl, same⟩ := List.append_inj' whole rfl
        cases same
        exact ⟨_, _, prior, completes⟩
      · rw [List.concat_eq_append, ← List.cons_append, ← List.append_assoc] at whole
        obtain ⟨same, _⟩ := List.append_inj' whole rfl
        exact inductionHypothesis same
  | aside _ _ inductionHypothesis => exact inductionHypothesis whole

/-- The entries add up to all that the turns have revealed. -/
theorem sum_novelEdges (history : History origin turns campaign) (fresh : origin.Fresh) :
    (campaign.corpus.entries.toList.map fun entry => entry.metadata.novelEdges).sum =
      (turns.map fun turn => turn.revealed.novelEdges).sum := by
  have counted : ((turns.filterMap Turn.entry?).map fun entry => entry.metadata.novelEdges).sum =
      (turns.map fun turn => turn.revealed.novelEdges).sum := by
    clear fresh
    induction history with
    | start => rfl
    | @turn _ _ turn _ _ completes inductionHypothesis =>
        have added := completes.sum_entry
        cases entry : turn.entry? <;> simp_all
    | aside _ _ inductionHypothesis => exact inductionHypothesis
  rw [← Corpus.map_novelEdges_kept, history.kept_of_fresh fresh, counted]

/-- The entry of a turn is found in the corpus from then on. -/
theorem exists_entry {earlier later : List Turn} {turn : Turn} {id : Nat}
    (history : History origin (earlier ++ turn :: later) campaign) (fresh : origin.Fresh)
    (retained : turn.outcome.retained = some id) :
    ∃ entry, campaign.corpus.get? id = some entry ∧ entry.input = turn.candidate.input := by
  obtain ⟨before, after, prior, completes⟩ := history.exists_completes_of_append
  have place : before.corpus.size = id := by
    have numbered := completes.retained
    rw [retained] at numbered
    split at numbered <;> simp_all
  have number : (earlier.filterMap Turn.entry?).length = id := by
    rw [← place, ← Corpus.length_kept, prior.kept_of_fresh fresh]
  have found : campaign.corpus.kept[id]? = turn.entry? := by
    rw [history.kept_of_fresh fresh, ← number]
    simp [Turn.entry?, retained]
  rw [Corpus.getElem?_kept, Turn.entry?, retained, Option.map_some] at found
  obtain ⟨entry, held, same⟩ := Option.map_eq_some_iff.mp found
  exact ⟨entry, held, congrArg Entry.input same⟩

/-- Wherever a run ends, it has gone on with the history of its campaign. -/
theorem of_runFrom (history : History origin turns campaign) (lastReport iterations : Nat) :
    ∃ more, History origin (turns ++ more) (campaign.runFrom lastReport iterations).2 := by
  induction iterations generalizing campaign turns lastReport with
  | zero => exact ⟨[], by simpa [runFrom] using history⟩
  | succ iterations inductionHypothesis =>
      unfold runFrom
      split
      · exact ⟨[], by simpa using history⟩
      · split
        next payload after unwound => exact ⟨[], by simpa using history.aside (.unwind unwound)⟩
        next outcome after stepped =>
          obtain ⟨turn, _, completes⟩ := exists_completes stepped
          have taken := history.turn completes
          split
          · obtain ⟨more, rest⟩ := inductionHypothesis (taken.aside .publish) after.tally.elapsed
            exact ⟨turn :: more, by simpa using rest⟩
          · obtain ⟨more, rest⟩ := inductionHypothesis taken lastReport
            exact ⟨turn :: more, by simpa using rest⟩

/-- So does a whole run, whose last act is to publish. -/
theorem of_run (history : History origin turns campaign) (iterations : Nat) :
    ∃ more, History origin (turns ++ more) (campaign.run iterations).2 := by
  obtain ⟨more, rest⟩ := history.of_runFrom campaign.tally.elapsed iterations
  refine ⟨more, ?_⟩
  unfold run
  split
  next ran =>
    rw [ran] at rest
    exact rest
  next ran =>
    rw [ran] at rest
    exact rest.aside .publish

end History
end History

section Fitted

/-- Feedback has a union for every runner, of the runner's capacity. -/
def Fitted (campaign : Campaign τ ρ κ ψ) : Prop :=
  ∀ shape ∈ campaign.runners.map Runner.shape,
    campaign.feedback.capacity? shape.1 = some shape.2

theorem Fresh.fitted {origin : Campaign τ ρ κ ψ} (fresh : origin.Fresh) : origin.Fitted := by
  have versions : ((origin.runners.map Runner.shape).map Prod.fst).Nodup := by
    rw [List.map_map]
    exact fresh.distinct
  intro shape member
  simp [fresh.unseen, CoverageFeedback.capacity?,
    CoverageFeedback.union?_ofVersions versions member]

variable [ConstantVersion τ]

/-- Runners keep their versions and capacities. -/
theorem map_shape_of_follows {runners next : List (Runner τ)}
    (follows : List.Forall₂ Follows runners next) :
    next.map Runner.shape = runners.map Runner.shape := by
  rw [← List.forall₂_eq_eq_eq, List.forall₂_map_left_iff, List.forall₂_map_right_iff]
  refine follows.flip.imp ?_
  rintro _ runner ⟨inputs, rfl⟩
  exact runner.shape_afterAll inputs

/-- So feedback that keeps its capacities still fits. -/
theorem Fitted.of_follows {before after : Campaign τ ρ κ ψ} (fitted : before.Fitted)
    (follows : List.Forall₂ Follows before.runners after.runners)
    (same : ∀ version, after.feedback.capacity? version = before.feedback.capacity? version) :
    after.Fitted := by
  intro shape member
  rw [map_shape_of_follows follows] at member
  rw [same]
  exact fitted shape member

variable [RandomSource ρ] [Scheduler κ] [Reporting ψ]

/-- A step gets one record of each runner, with the runner's version and capacity. -/
theorem Completes.map_shape {before after : Campaign τ ρ κ ψ} {turn : Turn}
    (completes : Completes before turn after) :
    turn.records.map (fun record => (record.version, record.coverage.capacity)) =
      before.runners.map Runner.shape := by
  rw [← List.forall₂_eq_eq_eq, List.forall₂_map_left_iff, List.forall₂_map_right_iff]
  exact completes.observed.flip.imp fun _ _ observed => Runner.shape_of_observe observed

/-- So feedback that fits knows every record of the step. -/
theorem Completes.known {before after : Campaign τ ρ κ ψ} {turn : Turn}
    (completes : Completes before turn after) (fitted : before.Fitted) :
    ∀ record ∈ turn.records,
      before.feedback.capacity? record.version = some record.coverage.capacity := by
  intro record member
  refine fitted (record.version, record.coverage.capacity) ?_
  rw [← completes.map_shape]
  exact List.mem_map_of_mem member

/-- Feedback accepts the records of a step and takes in all that they cover. -/
theorem Completes.reveals {before after : Campaign τ ρ κ ψ} {turn : Turn}
    (completes : Completes before turn after) (fitted : before.Fitted) :
    turn.novelty = .ok turn.revealed ∧
      before.feedback.Reveals turn.records turn.revealed.novelEdges after.feedback := by
  obtain ⟨novelty, accepted, reveals⟩ :=
    CoverageFeedback.evaluate_of_known (completes.known fitted)
  rw [completes.novelty] at accepted
  rw [← completes.feedback] at reveals
  have same : turn.revealed = novelty := by
    rw [Turn.revealed, accepted]
    rfl
  exact ⟨same ▸ accepted, same ▸ reveals⟩

namespace History

variable {origin campaign : Campaign τ ρ κ ψ} {turns : List Turn}

/-- All that the turns of a history have done to feedback. -/
theorem reveals (history : History origin turns campaign) (fitted : origin.Fitted) :
    origin.feedback.Reveals (turns.flatMap Turn.records)
      (turns.map fun turn => turn.revealed.novelEdges).sum campaign.feedback ∧
      campaign.Fitted := by
  induction history with
  | start => exact ⟨.nil _, fitted⟩
  | turn _ completes inductionHypothesis =>
      obtain ⟨revealed, stillFitted⟩ := inductionHypothesis
      obtain ⟨_, step⟩ := completes.reveals stillFitted
      refine ⟨?_, stillFitted.of_follows completes.follows step.capacity⟩
      simpa using revealed.append step
  | aside _ aside inductionHypothesis =>
      obtain ⟨revealed, stillFitted⟩ := inductionHypothesis
      refine ⟨aside.feedback ▸ revealed, stillFitted.of_follows aside.follows fun version => ?_⟩
      rw [aside.feedback]

theorem versions (history : History origin turns campaign) :
    campaign.versions = origin.versions :=
  Runner.map_version_of_shape (map_shape_of_follows history.follows)

/-- Every turn has one record of each version. -/
theorem map_version (history : History origin turns campaign) (turn : Turn)
    (member : turn ∈ turns) :
    turn.records.map Record.version = campaign.versions := by
  obtain ⟨earlier, later, rfl⟩ := List.append_of_mem member
  obtain ⟨before, after, prior, completes⟩ := history.exists_completes_of_append
  have shown := congrArg (List.map Prod.fst) completes.map_shape
  rw [List.map_map, List.map_map] at shown
  exact shown.trans (prior.versions.trans history.versions.symm)

end History
end Fitted
end Campaign
end Crosscheck
