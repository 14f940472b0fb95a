import Mathlib
import Crosscheck.Proofs.Campaign.Attribution

/-!
# Versions that cover a function of the input

If what the versions cover depends on the input alone, so does what a turn shows, in
whichever campaign it is taken (`Completes.shown`), and whether it completes at all
(`exists_completes_of_pending`). Feedback has then seen what the inputs in the corpus
cover (`hasSeen_iff_inputs`): those that were not kept have added nothing.
-/

namespace Crosscheck

/-- What an input covers in a version, if the version leaves a record of it. -/
abbrev CoverageFunction := String → List UInt8 → Option CoverageSnapshot

/-- What versions of the given names show for an input. -/
def CoverageFunction.shown (cover : CoverageFunction) (versions : List String)
    (input : List UInt8) : List (String × Option CoverageSnapshot) :=
  versions.map fun version => (version, cover version input)

/-- Whether an input hits a counter of one of the versions. -/
def CoverageFunction.lights (cover : CoverageFunction) (versions : List String)
    (input : List UInt8) (version : String) (slot : Nat) : Prop :=
  ∃ snapshot, (version, some snapshot) ∈ cover.shown versions input ∧
    snapshot.covers slot = true

namespace Campaign

namespace Turn

/-- What the records of a turn show. -/
def shown (turn : Turn) : List (String × Option CoverageSnapshot) :=
  turn.records.map fun record => (record.version, some record.coverage)

theorem isSome_of_mem_shown (turn : Turn) :
    ∀ entry ∈ turn.shown, entry.2.isSome = true := by
  intro entry member
  obtain ⟨record, _, rfl⟩ := List.mem_map.mp member
  rfl

/-- Turns that show the same expose the same. -/
theorem exposure_of_shown {turn other : Turn} (same : turn.shown = other.shown) :
    turn.records.map Record.exposure = other.records.map Record.exposure := by
  have injective : Function.Injective
      (Prod.map id some : String × CoverageSnapshot → String × Option CoverageSnapshot) :=
    Function.injective_id.prodMap (Option.some_injective _)
  apply List.map_injective_iff.mpr injective
  rw [List.map_map, List.map_map]
  exact same

theorem hits_iff (turn : Turn) (version : String) (slot : Nat) :
    turn.hits version slot = true ↔
      ∃ snapshot, (version, some snapshot) ∈ turn.shown ∧ snapshot.covers slot = true := by
  rw [hits_eq_true_iff]
  constructor
  · rintro ⟨record, member, rfl, covered⟩
    exact ⟨record.coverage, List.mem_map_of_mem member, covered⟩
  · rintro ⟨snapshot, member, covered⟩
    obtain ⟨record, recordMember, same⟩ := List.mem_map.mp member
    cases same
    exact ⟨record, recordMember, rfl, covered⟩

end Turn

private theorem exists_map_some {α β : Type} {show? : α → Option β} {items : List α}
    (shown : ∀ item ∈ items, (show? item).isSome = true) :
    ∃ results : List β, items.map show? = results.map some := by
  induction items with
  | nil => exact ⟨[], rfl⟩
  | cons item rest inductionHypothesis =>
      obtain ⟨first, others⟩ := List.forall_mem_cons.mp shown
      obtain ⟨result, found⟩ := Option.isSome_iff_exists.mp first
      obtain ⟨results, later⟩ := inductionHypothesis others
      exact ⟨result :: results, by simp [found, later]⟩

section Covers

variable {τ ρ κ ψ : Type} [Target τ]

/-- What the versions of a campaign cover is a function of the input. -/
def Covers (campaign : Campaign τ ρ κ ψ) (cover : CoverageFunction) : Prop :=
  ∀ runner ∈ campaign.runners,
    runner.Covers campaign.options.parallel (cover runner.version)

variable [RandomSource ρ] [Scheduler κ] [Reporting ψ]

/-- Versions that leave a record of a pending input let the step complete. -/
theorem exists_completes_of_pending {campaign : Campaign τ ρ κ ψ} {cover : CoverageFunction}
    (covers : campaign.Covers cover) {input : List UInt8} {rest : List (List UInt8)}
    (waiting : campaign.pending = input :: rest)
    (recordable : ∀ entry ∈ cover.shown campaign.versions input, entry.2.isSome = true) :
    ∃ turn after, Completes campaign turn after ∧ turn.candidate = ⟨input, .seed⟩ ∧
      after.pending = rest := by
  have selection := selection campaign
  obtain ⟨selected, _⟩ := selection.pending waiting
  have observed : ∀ runner ∈ campaign.runners,
      (runner.observe campaign.options.parallel input).isSome = true := by
    intro runner member
    have shown := recordable (runner.version, cover runner.version input)
      (List.mem_map_of_mem (List.mem_map_of_mem member))
    rw [← covers runner member [] input] at shown
    simpa [Runner.afterAll] using shown
  obtain ⟨records, all⟩ := exists_map_some observed
  have recorded : (campaign.select.2.execute input).1 = .ok records := by
    rw [execute_eq_ok_iff, selection.runners, selection.options]
    exact all
  obtain ⟨turn, after, completes, _⟩ := exists_completes_of_recorded selected recorded
  exact ⟨turn, after, completes, completes.pending waiting⟩

variable [ConstantVersion τ]

theorem covers_of_follows {beside : Bool} {cover : CoverageFunction}
    {runners next : List (Runner τ)} (follows : List.Forall₂ Follows runners next)
    (covers : ∀ runner ∈ runners, runner.Covers beside (cover runner.version)) :
    ∀ runner ∈ next, runner.Covers beside (cover runner.version) := by
  induction follows with
  | nil => exact covers
  | @cons runner _ _ _ head _ inductionHypothesis =>
      obtain ⟨first, others⟩ := List.forall_mem_cons.mp covers
      refine List.forall_mem_cons.mpr ⟨?_, inductionHypothesis others⟩
      obtain ⟨inputs, rfl⟩ := head
      have version : (runner.afterAll inputs).version = runner.version :=
        congrArg Prod.fst (runner.shape_afterAll inputs)
      rw [version]
      exact first.afterAll inputs

theorem Covers.of_history {origin campaign : Campaign τ ρ κ ψ} {turns : List Turn}
    {cover : CoverageFunction} (covers : origin.Covers cover)
    (history : History origin turns campaign) : campaign.Covers cover := by
  unfold Covers
  rw [history.options]
  exact covers_of_follows history.follows covers

/-- The records of a turn show what the versions cover. -/
theorem Completes.shown {before after : Campaign τ ρ κ ψ} {turn : Turn}
    {cover : CoverageFunction} (completes : Completes before turn after)
    (covers : before.Covers cover) :
    turn.shown = cover.shown before.versions turn.candidate.input := by
  unfold Turn.shown CoverageFunction.shown Campaign.versions
  rw [List.map_map, ← List.forall₂_eq_eq_eq, List.forall₂_map_left_iff,
    List.forall₂_map_right_iff]
  refine (List.forall₂_and_left _ _ |>.mpr ⟨covers, completes.observed⟩).flip.imp ?_
  rintro record runner ⟨covered, observed⟩
  have version : record.version = runner.version :=
    congrArg Prod.fst (Runner.shape_of_observe observed)
  have alone := covered [] turn.candidate.input
  rw [Runner.afterAll, List.foldl_nil, observed, Option.map_some] at alone
  rw [version, alone]
  rfl

end Covers

section Order

variable {τ ρ κ ψ : Type} [Target τ] [RandomSource ρ] [Scheduler κ] [Reporting ψ]
variable {origin campaign : Campaign τ ρ κ ψ} {turns : List Turn} {cover : CoverageFunction}

/-- What is in the corpus has been run. -/
theorem History.exists_turn_of_mem (history : History origin turns campaign)
    (fresh : origin.Fresh) {input : List UInt8} (member : input ∈ campaign.corpus.inputs) :
    ∃ turn ∈ turns, turn.candidate.input = input := by
  rw [Corpus.inputs_eq, history.kept_of_fresh fresh] at member
  obtain ⟨entry, entryMember, rfl⟩ := List.mem_map.mp member
  obtain ⟨turn, turnMember, held⟩ := List.mem_filterMap.mp entryMember
  obtain ⟨id, _, rfl⟩ := Option.map_eq_some_iff.mp held
  exact ⟨turn, turnMember, rfl⟩

variable [ConstantVersion τ]

theorem History.shown (history : History origin turns campaign) (covers : origin.Covers cover)
    {turn : Turn} (member : turn ∈ turns) :
    turn.shown = cover.shown origin.versions turn.candidate.input := by
  obtain ⟨earlier, later, rfl⟩ := List.append_of_mem member
  obtain ⟨before, after, prior, completes⟩ := history.exists_completes_of_append
  rw [← prior.versions]
  exact completes.shown (covers.of_history prior)

/-- Feedback has seen what the inputs that were run cover. -/
theorem History.hasSeen_iff_lights (history : History origin turns campaign)
    (fresh : origin.Fresh) (covers : origin.Covers cover) (version : String) (slot : Nat) :
    campaign.feedback.hasSeen version slot = true ↔
      ∃ input ∈ turns.map (fun turn => turn.candidate.input),
        cover.lights origin.versions input version slot := by
  rw [history.hasSeen_iff fresh]
  simp only [List.mem_map, exists_exists_and_eq_and]
  refine exists_congr fun turn => and_congr_right fun member => ?_
  rw [CoverageFunction.lights, ← history.shown covers member, turn.hits_iff]

/-- What feedback has seen is what the inputs in the corpus cover. -/
theorem History.hasSeen_iff_inputs (history : History origin turns campaign)
    (fresh : origin.Fresh) (covers : origin.Covers cover) (version : String) (slot : Nat) :
    campaign.feedback.hasSeen version slot = true ↔
      ∃ input ∈ campaign.corpus.inputs, cover.lights origin.versions input version slot := by
  constructor
  · intro seen
    obtain ⟨earlier, turn, later, rfl, first⟩ :=
      FirstHit.exists_of_hits ((history.hasSeen_iff fresh version slot).mp seen)
    obtain ⟨before, after, prior, completes⟩ := history.exists_completes_of_append
    obtain ⟨id, retained⟩ := Option.isSome_iff_exists.mp
      ((completes.isSome_retained_iff_firstHit prior fresh).mpr ⟨version, slot, first⟩)
    obtain ⟨entry, held, input⟩ := history.exists_entry fresh retained
    refine ⟨turn.candidate.input, ?_, ?_⟩
    · rw [← input]
      exact List.mem_map_of_mem (Array.mem_toList_iff.mpr (Array.mem_of_getElem? held))
    · rw [CoverageFunction.lights, ← history.shown covers (by simp), ← turn.hits_iff]
      exact first.hit
  · rintro ⟨input, member, lit⟩
    obtain ⟨turn, turnMember, rfl⟩ := history.exists_turn_of_mem fresh member
    exact (history.hasSeen_iff_lights fresh covers version slot).mpr
      ⟨_, List.mem_map_of_mem turnMember, lit⟩

end Order

end Campaign
end Crosscheck
