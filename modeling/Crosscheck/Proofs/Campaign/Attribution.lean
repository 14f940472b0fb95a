import Mathlib
import Crosscheck.Proofs.Campaign.History

/-!
# Where coverage comes from

Feedback, what a step says of its novelty and the corpus are updated one after another.
`Attributed` says that they never drift apart: feedback refuses nothing, a step retains
its input exactly if it was the first to hit some counter, and the corpus adds up to what
feedback has seen. Nothing is asked of targets but that they keep their versions.
-/

namespace Crosscheck.Campaign

namespace Turn

/-- Whether a record of the turn hits a counter of a version. -/
def hits (turn : Turn) (version : String) (slot : Nat) : Bool :=
  turn.records.any fun record => record.version == version && record.coverage.covers slot

theorem hits_eq_true_iff (turn : Turn) (version : String) (slot : Nat) :
    turn.hits version slot = true ↔
      ∃ record ∈ turn.records, record.version = version ∧ record.coverage.covers slot = true := by
  simp [hits]

end Turn

/-- A turn hits a counter of a version that none of the turns before it has hit. -/
structure FirstHit (earlier : List Turn) (turn : Turn) (version : String) (slot : Nat) : Prop where
  hit : turn.hits version slot = true
  fresh : ∀ previous ∈ earlier, previous.hits version slot = false

namespace FirstHit

/-- Every counter that is hit at all is hit for the first time in some turn. -/
theorem exists_of_hits {turns : List Turn} {version : String} {slot : Nat}
    (found : ∃ turn ∈ turns, turn.hits version slot = true) :
    ∃ earlier turn later, turns = earlier ++ turn :: later ∧
      FirstHit earlier turn version slot := by
  obtain ⟨first, sought⟩ :=
    Option.isSome_iff_exists.mp (List.find?_isSome.mpr found)
  obtain ⟨hit, earlier, later, split, fresh⟩ := List.find?_eq_some_iff_append.mp sought
  exact ⟨earlier, first, later, split, hit, fun previous member => by
    simpa using fresh previous member⟩

/-- No counter is hit for the first time twice. -/
theorem unique {earlier later otherEarlier otherLater : List Turn} {turn other : Turn}
    {version : String} {slot : Nat}
    (same : earlier ++ turn :: later = otherEarlier ++ other :: otherLater)
    (first : FirstHit earlier turn version slot)
    (otherFirst : FirstHit otherEarlier other version slot) :
    earlier = otherEarlier ∧ turn = other := by
  rcases List.append_eq_append_iff.mp same with ⟨gap, front, back⟩ | ⟨gap, front, back⟩
  · cases gap with
    | nil =>
        cases back
        exact ⟨by simpa using front.symm, rfl⟩
    | cons head rest =>
        cases back
        have missed := otherFirst.fresh turn (by simp [front])
        simp [first.hit] at missed
  · cases gap with
    | nil =>
        cases back
        exact ⟨by simpa using front, rfl⟩
    | cons head rest =>
        cases back
        have missed := first.fresh other (by simp [front])
        simp [otherFirst.hit] at missed

end FirstHit

variable {τ ρ κ ψ : Type} [Target τ]

/-- How the coverage of a campaign's turns is accounted for. -/
structure Attributed (turns : List Turn) (campaign : Campaign τ ρ κ ψ) : Prop where
  /-- Every turn has one record of each version. -/
  recorded : ∀ turn ∈ turns,
    turn.records.map Record.version = campaign.versions
  /-- Feedback has refused none of them. -/
  accepted : ∀ turn ∈ turns, ∃ novelty, turn.novelty = .ok novelty
  /-- A turn has retained its input exactly if it was the first to hit some counter. -/
  retained : ∀ earlier turn later, turns = earlier ++ turn :: later →
    (turn.outcome.retained.isSome = true ↔ ∃ version slot, FirstHit earlier turn version slot)
  /-- The corpus adds up to the covered counters of all versions. -/
  counted : ∃ counts : List Nat,
    campaign.versions.map campaign.feedback.coveredEdges? = counts.map some ∧
    (campaign.corpus.entries.toList.map fun entry => entry.metadata.novelEdges).sum = counts.sum
  /-- The covered counters are those that some turn has hit. -/
  seen : ∀ version slot, campaign.feedback.hasSeen version slot = true ↔
    ∃ turn ∈ turns, turn.hits version slot = true
  /-- Each of them is due to exactly one entry, that of the turn which hit it first. -/
  attributed : ∀ version slot, campaign.feedback.hasSeen version slot = true →
    ∃! id, ∃ earlier turn later entry, turns = earlier ++ turn :: later ∧
      FirstHit earlier turn version slot ∧ turn.outcome.retained = some id ∧
      campaign.corpus.get? id = some entry ∧ entry.input = turn.candidate.input

section History

variable [RandomSource ρ] [Scheduler κ] [Reporting ψ] [ConstantVersion τ]
variable {origin campaign : Campaign τ ρ κ ψ} {turns : List Turn}

namespace History

/-- What feedback has seen is what the turns have hit. -/
theorem hasSeen_iff (history : History origin turns campaign) (fresh : origin.Fresh)
    (version : String) (slot : Nat) :
    campaign.feedback.hasSeen version slot = true ↔
      ∃ turn ∈ turns, turn.hits version slot = true := by
  rw [(history.reveals fresh.fitted).1.seen, fresh.unseen]
  simp only [CoverageFeedback.hasSeen_ofVersions, Bool.false_eq_true, false_or,
    List.mem_flatMap, Turn.hits_eq_true_iff]
  constructor
  · rintro ⟨record, ⟨turn, member, recorded⟩, covered⟩
    exact ⟨turn, member, record, recorded, covered⟩
  · rintro ⟨turn, member, record, recorded, covered⟩
    exact ⟨record, ⟨turn, member, recorded⟩, covered⟩

/-- A counter is hit for the first time if feedback has not seen it yet. -/
theorem firstHit_iff (history : History origin turns campaign) (fresh : origin.Fresh)
    (turn : Turn) (version : String) (slot : Nat) :
    FirstHit turns turn version slot ↔
      turn.hits version slot = true ∧ campaign.feedback.hasSeen version slot = false := by
  have unseen : campaign.feedback.hasSeen version slot = false ↔
      ∀ previous ∈ turns, previous.hits version slot = false := by
    rw [← Bool.not_eq_true, history.hasSeen_iff fresh]
    simp
  rw [unseen]
  exact ⟨fun first => ⟨first.hit, first.fresh⟩, fun ⟨hit, fresh⟩ => ⟨hit, fresh⟩⟩

end History

/-- A step keeps its input exactly if it was the first to hit some counter. -/
theorem Completes.isSome_retained_iff_firstHit {earlier : List Turn}
    {before after : Campaign τ ρ κ ψ} {turn : Turn} (completes : Completes before turn after)
    (prior : History origin earlier before) (fresh : origin.Fresh) :
    turn.outcome.retained.isSome = true ↔
      ∃ version slot, FirstHit earlier turn version slot := by
  obtain ⟨_, revealed⟩ := completes.reveals (prior.reveals fresh.fitted).2
  simp only [completes.isSome_retained_iff, prior.firstHit_iff fresh, Turn.hits_eq_true_iff, Ne,
    revealed.none_iff]
  push Not
  constructor
  · rintro ⟨record, member, slot, covered, unseen⟩
    exact ⟨record.version, slot, ⟨record, member, rfl, covered⟩, by simpa using unseen⟩
  · rintro ⟨version, slot, ⟨record, member, rfl, covered⟩, unseen⟩
    exact ⟨record, member, slot, covered, by simp [unseen]⟩

/-- The counts of all versions add up to what the turns have revealed. -/
theorem History.exists_counts (history : History origin turns campaign) (fresh : origin.Fresh) :
    ∃ counts : List Nat,
      campaign.versions.map campaign.feedback.coveredEdges? = counts.map some ∧
      counts.sum = (turns.map fun turn => turn.revealed.novelEdges).sum := by
  obtain ⟨revealed, _⟩ := history.reveals fresh.fitted
  have versions : campaign.feedback.versions = campaign.versions := by
    rw [history.versions, revealed.versions, fresh.unseen,
      CoverageFeedback.versions_ofVersions, List.map_map]
    rfl
  have distinct : campaign.feedback.versions.Nodup := by
    rw [versions, history.versions]
    exact fresh.distinct
  have total := revealed.total
  rw [fresh.unseen, CoverageFeedback.coveredTotal_ofVersions, Nat.zero_add] at total
  refine ⟨campaign.feedback.unions.map fun (entry : String × CoverageUnion) =>
    entry.2.coveredEdges, ?_, total⟩
  rw [← versions]
  exact CoverageFeedback.map_coveredEdges?_versions distinct

/-- However a campaign goes on from its start, its coverage is accounted for: no records are
refused, an input is retained exactly if it was the first to hit some counter of some
version, and every covered counter of every version is due to exactly one entry. -/
theorem attributed_of_history {runners : List (Runner τ)} {predicate : Predicate}
    {mutator : Mutator ρ} {scheduler : κ} {reporter : ψ} {options : CampaignOptions} {random : ρ}
    (built : ofRunners runners predicate mutator scheduler reporter options random = .ok origin)
    (history : History origin turns campaign) : Attributed turns campaign := by
  have fresh := fresh_of_ofRunners built
  have kept : ∀ earlier turn later, turns = earlier ++ turn :: later →
      (turn.outcome.retained.isSome = true ↔
        ∃ version slot, FirstHit earlier turn version slot) := by
    rintro earlier turn later rfl
    obtain ⟨before, after, prior, completes⟩ := history.exists_completes_of_append
    exact completes.isSome_retained_iff_firstHit prior fresh
  exact
    { recorded := history.map_version
      accepted := by
        intro turn member
        obtain ⟨earlier, later, rfl⟩ := List.append_of_mem member
        obtain ⟨before, after, prior, completes⟩ := history.exists_completes_of_append
        exact ⟨_, (completes.reveals (prior.reveals fresh.fitted).2).1⟩
      retained := kept
      counted := by
        obtain ⟨counts, listed, total⟩ := history.exists_counts fresh
        exact ⟨counts, listed, (history.sum_novelEdges fresh).trans total.symm⟩
      seen := history.hasSeen_iff fresh
      attributed := by
        intro version slot seen
        obtain ⟨earlier, turn, later, rfl, first⟩ :=
          FirstHit.exists_of_hits ((history.hasSeen_iff fresh version slot).mp seen)
        obtain ⟨id, retained⟩ :=
          Option.isSome_iff_exists.mp ((kept earlier turn later rfl).mpr ⟨version, slot, first⟩)
        obtain ⟨entry, held, input⟩ := history.exists_entry fresh retained
        refine ⟨id, ⟨earlier, turn, later, entry, rfl, first, retained, held, input⟩, ?_⟩
        rintro other ⟨otherEarlier, otherTurn, otherLater, _, split, otherFirst, numbered, _⟩
        obtain ⟨_, rfl⟩ := FirstHit.unique split first otherFirst
        rw [retained] at numbered
        exact (Option.some.inj numbered).symm }

end History

/-- A second seed that hits one counter more is retained for that one. -/
theorem attributed_of_history_echoing : ∃ turns campaign,
    History echoing turns campaign ∧
      turns.map (fun turn => turn.outcome.retained) = [some 0, some 1] ∧
      Attributed turns campaign := by
  let seeded := echoing.withSeeds [[1], [1, 2]]
  have first : seeded.step = (.ok ⟨.seed, .agree, 2, some 0, none⟩, seeded.step.2) :=
    Prod.ext (by decide +kernel) rfl
  have second : seeded.step.2.step =
      (.ok ⟨.seed, .agree, 2, some 1, none⟩, seeded.step.2.step.2) :=
    Prod.ext (by decide +kernel) rfl
  obtain ⟨_, retained, early⟩ := exists_completes first
  obtain ⟨_, retainedToo, late⟩ := exists_completes second
  have history := ((History.start.aside (Aside.seed [[1], [1, 2]])).turn early).turn late
  exact ⟨_, _, history, by simp [retained, retainedToo],
    attributed_of_history ofRunners_echoing history⟩

end Crosscheck.Campaign
