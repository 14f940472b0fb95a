import Mathlib
import Crosscheck.Scheduling.Novelty
import Crosscheck.Proofs.Scheduling.Novelty

/-!
# What a scheduler knows of the children

The scheduler by novelty keeps a table of its own, which hears of a child once, while the
corpus and the findings keep the child itself. `productivityOf_learn` says what the table
makes of one report and `Completes.childEdges` and `Completes.children` what a completed
step adds to the corpora, each as what was there before and something more. Both sides add
the same, so the table never drifts from the corpora as long as it is not replaced.
-/

namespace Crosscheck

namespace NoveltyScheduler

@[simp] theorem productivityOf_ofWindow (window id : Nat) :
    (ofWindow window).productivityOf id = {} :=
  Std.HashMap.getD_empty

/-- A report adds to what is known of its own entry, and one of nothing adds nothing. -/
theorem productivityOf_learn (scheduler : NoveltyScheduler) (id novelEdges : Nat)
    (isFinding : Bool) (other : Nat) :
    (scheduler.learn id novelEdges isFinding).productivityOf other =
      ⟨(scheduler.productivityOf other).childEdges + if id = other then novelEdges else 0,
        (scheduler.productivityOf other).findings +
          if id = other ∧ isFinding = true then 1 else 0⟩ := by
  unfold learn
  split
  next nothing =>
    obtain ⟨rfl, unremarkable⟩ := nothing
    simp_all
  next =>
    simp only [productivityOf, Std.HashMap.getD_insert, beq_iff_eq]
    by_cases same : id = other
    · subst same
      cases isFinding <;> simp
    · simp [same]

/-- Picking an entry leaves the scheduler as it is. -/
theorem run_next {σ : Type} [RandomSource σ] (scheduler : NoveltyScheduler) (corpus : Corpus)
    (iteration : Nat) (random : σ) :
    (Scheduler.next scheduler corpus iteration).run random =
      let drawn := (scheduler.draw corpus iteration).run random
      ((drawn.1, scheduler), drawn.2) := rfl

end NoveltyScheduler

namespace Corpus

/-- The first hits of all children of an entry. -/
def childEdges (corpus : Corpus) (parent : Nat) : Nat :=
  ((corpus.entries.toList.filter fun entry => entry.metadata.source = .mutated parent).map
    fun entry => entry.metadata.novelEdges).sum

/-- The number of children of an entry. -/
def children (corpus : Corpus) (parent : Nat) : Nat :=
  corpus.entries.toList.countP fun entry => entry.metadata.source = .mutated parent

/-- Selections are not among what the children of an entry have achieved. -/
theorem childEdges_eq (corpus : Corpus) (parent : Nat) :
    corpus.childEdges parent =
      ((corpus.kept.filter fun entry => entry.metadata.source = .mutated parent).map
        fun entry => entry.metadata.novelEdges).sum := by
  rw [childEdges, kept, List.filter_map, List.map_map]
  rfl

end Corpus

namespace Campaign

section Steps

variable {τ ρ κ ψ : Type} [Target τ] [RandomSource ρ] [Scheduler κ] [Reporting ψ]
variable {before after : Campaign τ ρ κ ψ} {turn : Turn}

/-- A step adds what it has revealed to the children of its own parent. -/
theorem Completes.childEdges (completes : Completes before turn after) (parent : Nat) :
    after.corpus.childEdges parent = before.corpus.childEdges parent +
      if turn.candidate.source = .mutated parent then turn.revealed.novelEdges else 0 := by
  have revealed := completes.sum_entry
  rw [Corpus.childEdges_eq, Corpus.childEdges_eq, completes.kept, List.filter_append,
    List.map_append, List.sum_append, Nat.add_left_cancel_iff]
  cases added : turn.entry? with
  | none => simp_all
  | some entry =>
      have source : entry.metadata.source = turn.candidate.source := by
        rw [completes.entry_eq added]
        rfl
      by_cases child : turn.candidate.source = .mutated parent <;> simp_all

/-- A finding counts among the children of its own parent. -/
theorem Completes.children (completes : Completes before turn after) (parent : Nat) :
    after.findings.children parent = before.findings.children parent +
      if turn.candidate.source = .mutated parent ∧ turn.outcome.verdict.isFinding = true
        then 1 else 0 := by
  unfold Corpus.children
  rw [completes.findings, List.countP_append, Turn.finding?]
  by_cases found : turn.outcome.verdict.isFinding <;> simp [found, metadata]

end Steps

section Credit

variable {τ ρ ψ : Type} [Target τ] [RandomSource ρ] [Reporting ψ]
variable {origin before after campaign : Campaign τ ρ NoveltyScheduler ψ} {event : Event}
variable {events : List Event}

omit [Target τ] [Reporting ψ] in
/-- Picking an entry teaches the scheduler nothing. -/
theorem scheduler_select (campaign : Campaign τ ρ NoveltyScheduler ψ) :
    campaign.select.2.scheduler = campaign.scheduler := by
  unfold select
  split
  · rfl
  · split
    · rfl
    · rcases (Random.chance (toUnit campaign.options.synthesizeProbability)).run
        campaign.random with ⟨_ | _ | _, random⟩
      · rfl
      · dsimp only
        rw [NoveltyScheduler.run_next]
        dsimp only
        split <;> rfl
      · rfl

/-- The scheduler credits every entry with what its children have achieved. -/
def Credited (campaign : Campaign τ ρ NoveltyScheduler ψ) : Prop :=
  ∀ parent, campaign.scheduler.productivityOf parent =
    ⟨campaign.corpus.childEdges parent, campaign.findings.children parent⟩

/-- A completed step adds the same to the table as to the corpora. -/
theorem Credited.of_completes (credited : before.Credited) {turn : Turn}
    (completes : Completes before turn after) : after.Credited := by
  intro parent
  rw [completes.childEdges, completes.children, completes.settles.scheduler, scheduler_select]
  have known := credited parent
  cases source : turn.candidate.source with
  | mutated origin =>
      refine (NoveltyScheduler.productivityOf_learn ..).trans ?_
      rw [known]
      simp
  | seed => simpa [learn] using known
  | synthesized => simpa [learn] using known

/-- What else happens adds to neither, unless another scheduler is put in place. -/
theorem Credited.of_happens (credited : before.Credited) (happens : Happens before event after)
    (stays : event ≠ .rescheduled) : after.Credited := by
  cases happens with
  | completed completes => exact credited.of_completes completes
  | unwound unwound =>
      obtain ⟨runners, rfl, _⟩ := exists_runners_of_unwound unwound
      have selection := selection before
      intro parent
      dsimp only
      rw [scheduler_select, selection.findings, Corpus.childEdges_eq, selection.kept,
        ← Corpus.childEdges_eq]
      exact credited parent
  | seeded => exact credited
  | equipped => exact credited
  | rescheduled => exact absurd rfl stays
  | published => exact credited

/-- As long as a campaign keeps the scheduler that it was built with, the scheduler knows of
each entry the first hits of its children in the corpus and the number of its children among
the findings, and nothing of entries without either. -/
theorem credited_of_chronicle {runners : List (Runner τ)} {predicate : Predicate}
    {mutator : Mutator ρ} {window : Nat} {reporter : ψ} {options : CampaignOptions} {random : ρ}
    (built : ofRunners runners predicate mutator (NoveltyScheduler.ofWindow window) reporter
      options random = .ok origin)
    (chronicle : Chronicle origin events campaign) (stays : .rescheduled ∉ events) (id : Nat) :
    campaign.scheduler.productivityOf id =
      ⟨campaign.corpus.childEdges id, campaign.findings.children id⟩ := by
  have credited : campaign.Credited := by
    induction chronicle with
    | start =>
        obtain ⟨_, _, rfl⟩ := of_ofRunners built
        intro parent
        exact NoveltyScheduler.productivityOf_ofWindow window parent
    | next _ happens inductionHypothesis =>
        simp only [List.mem_append, List.mem_singleton, not_or] at stays
        exact (inductionHypothesis stays.1).of_happens happens (Ne.symm stays.2)
  exact credited id

end Credit

section Prospecting

variable {τ ρ ψ : Type} [Target τ] [RandomSource ρ] [Reporting ψ]

omit [Target τ] [Reporting ψ] in
/-- While there is only one entry, what is not made anew is derived from it. The table of the
scheduler has no say in this, so that it need not be evaluated. -/
theorem select_of_sole {campaign : Campaign τ ρ NoveltyScheduler ψ} {entry : Entry}
    (idle : campaign.pending = []) (sole : campaign.corpus.entries = #[entry])
    (numbered : entry.id = 0)
    (never : ((Random.chance (toUnit campaign.options.synthesizeProbability)).run
      campaign.random).1 = .ok false) :
    campaign.select =
      { campaign with
        random := (RandomSource.next64 ((Random.chance
          (toUnit campaign.options.synthesizeProbability)).run campaign.random).2).2 }.derive
        entry := by
  have only : ∀ place other, campaign.corpus.get? place = some other →
      place = 0 ∧ other = entry := by
    intro place other held
    rw [Corpus.get?, sole] at held
    cases place with
    | zero => exact ⟨rfl, (Option.some.inj held).symm⟩
    | succ place => simp at held
  have places : campaign.corpus.Numbered := by
    intro place other held
    obtain ⟨rfl, rfl⟩ := only place other held
    exact numbered
  obtain ⟨parent, held, selected⟩ := exists_select_eq_derive places idle
    (by simp [Corpus.isEmpty, Corpus.size, sole]) never
  rw [selected, (only _ _ held).2]

/-- Two versions that echo their input under a predicate that no outputs meet, and never a new
input once there is one. -/
def prospecting : Campaign InlineTarget Random.Cycle NoveltyScheduler Reporter :=
  { echoing with
    predicate := fun _ _ => .ok false
    scheduler := .ofWindow 1000
    options := { synthesizeProbability := 0.0 } }

theorem ofRunners_prospecting :
    ofRunners [.echo "a", .echo "b"] prospecting.predicate Mutation.octetShift
      (NoveltyScheduler.ofWindow 1000) Reporter.log { synthesizeProbability := 0.0 }
      (Random.Cycle.ofList []) = .ok prospecting := rfl

/-- The first child of a seed covers one counter more in each version and is a finding. -/
theorem credited_of_chronicle_prospecting : ∃ events campaign,
    Chronicle prospecting events campaign ∧ .rescheduled ∉ events ∧
      campaign.corpus.childEdges 0 = 2 ∧ campaign.findings.children 0 = 1 ∧
      campaign.scheduler.productivityOf 0 = ⟨2, 1⟩ := by
  let seeded := prospecting.withSeeds [[1]]
  have first : seeded.step = (.ok ⟨.seed, .diverge ["b"], 2, some 0, some 0⟩, seeded.step.2) :=
    Prod.ext (by decide +kernel) rfl
  let entry := (seeded.step.2.corpus.get? 0).getD ⟨0, [], { source := .seed, foundAt := 0 }⟩
  have sole : seeded.step.2.corpus.entries = #[entry] := by
    obtain ⟨only, whole⟩ := Array.size_eq_one_iff.mp
      (show seeded.step.2.corpus.entries.size = 1 by decide +kernel)
    simp [entry, Corpus.get?, whole]
  have selects : seeded.step.2.select = _ :=
    select_of_sole (by decide +kernel) sole (by decide +kernel) (by decide +kernel)
  have outcome : seeded.step.2.step.1 =
      .ok ⟨.mutated 0, .diverge ["b"], 2, some 1, some 1⟩ := by
    rw [step, selects]
    decide +kernel
  have second : seeded.step.2.step =
      (.ok ⟨.mutated 0, .diverge ["b"], 2, some 1, some 1⟩, seeded.step.2.step.2) :=
    Prod.ext outcome rfl
  obtain ⟨seedTurn, grown, seed⟩ := exists_completes first
  obtain ⟨childTurn, kept, child⟩ := exists_completes second
  have chronicle := ((Chronicle.start.next (.seeded [[1]])).next (.completed seed)).next
    (.completed child)
  have stays : .rescheduled ∉ [] ++ [Event.seeded [[1]]] ++ [.completed seedTurn] ++
      [.completed childTurn] := by simp
  have known := credited_of_chronicle ofRunners_prospecting chronicle stays 0
  have source : childTurn.candidate.source = .mutated 0 := by
    rw [← child.settles.source, kept]
  have edges : seeded.step.2.step.2.corpus.childEdges 0 = 2 := by
    rw [child.childEdges, if_pos source, ← child.settles.novelEdges, kept]
    decide +kernel
  have findings : seeded.step.2.step.2.findings.children 0 = 1 := by
    rw [child.children, source, kept]
    decide +kernel
  exact ⟨_, _, chronicle, stays, edges, findings, by rw [known, edges, findings]⟩

end Prospecting
end Campaign
end Crosscheck
