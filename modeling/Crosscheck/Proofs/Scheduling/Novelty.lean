import Mathlib
import Crosscheck.Scheduling.Novelty
import Crosscheck.Proofs.Campaign.Lineage
import Crosscheck.Proofs.Corpus.RoundTrip

/-!
# What the scheduler by novelty picks

Rounding decides which entry is drawn, but not that one is. So the draw is told once more over
numbers of any kind (`Arithmetic`), of which nothing is known: neither that they are ordered
nor that their sum is finite. `draw_eq` says that the scheduler draws over one such kind, and
`run_drawIn` that every draw from a corpus with entries takes one word and finds one of them. A
campaign that asks this scheduler hence never misses an entry.
-/

namespace Crosscheck

/-- Numbers that weights can be computed with. Their operations may answer anything. -/
structure Arithmetic (φ : Type) where
  zero : φ
  one : φ
  four : φ
  /-- A count as a number. -/
  ofCount : Nat → φ
  /-- What a random word stands for in the unit interval. -/
  ofWord : UInt64 → φ
  add : φ → φ → φ
  sub : φ → φ → φ
  mul : φ → φ → φ
  div : φ → φ → φ
  less : φ → φ → Bool
  atMost : φ → φ → Bool
  isFinite : φ → Bool

/-- Numbers of double precision. -/
def Arithmetic.binary64 : Arithmetic Float where
  zero := 0.0
  one := 1.0
  four := 4.0
  ofCount := Decimal.ofCount
  ofWord word := (word >>> 11).toFloat * Float.scaleB 1.0 (-53)
  add := (· + ·)
  sub := (· - ·)
  mul := (· * ·)
  div := (· / ·)
  less left right := left < right
  atMost left right := left ≤ right
  isFinite := Float.isFinite

namespace Corpus

/-- Corpora that are built up by adding entries and counting selections, from nothing or from
given entries. -/
inductive Reachable : Corpus → Prop where
  | empty : Reachable .empty
  | ofEntries (entries : List Entry) : Reachable (.ofEntries entries)
  | add {corpus} (prior : Reachable corpus) (input : List UInt8) (metadata : Metadata) :
      Reachable (corpus.add input metadata)
  | select {corpus} (prior : Reachable corpus) (id : Nat) : Reachable (corpus.select id)

variable {corpus : Corpus}

theorem Reachable.numbered (reachable : corpus.Reachable) : corpus.Numbered := by
  induction reachable with
  | empty => exact .empty
  | ofEntries entries => exact .ofEntries entries
  | add _ input metadata inductionHypothesis => exact inductionHypothesis.add input metadata
  | select _ id inductionHypothesis => exact inductionHypothesis.select id

/-- A random entry takes one word, and there is one unless there is none at all. -/
theorem run_random {σ : Type} [RandomSource σ] (inhabited : corpus.isEmpty = false)
    (random : σ) : ∃ place entry, corpus.get? place = some entry ∧
      corpus.random.run random = (some entry, (RandomSource.next64 random).2) := by
  have positive : 0 < corpus.size := by
    simpa [isEmpty, Nat.pos_iff_ne_zero] using inhabited
  have inside : ((RandomSource.next64 random).1).toNat % corpus.size < corpus.size :=
    Nat.mod_lt _ positive
  refine ⟨_, _, Array.getElem?_eq_getElem inside, ?_⟩
  unfold Corpus.random
  rw [inhabited]
  exact Prod.ext (Array.getElem?_eq_getElem inside) rfl

end Corpus

namespace NoveltyScheduler

section Draw

variable {φ : Type} (arithmetic : Arithmetic φ) (scheduler : NoveltyScheduler)

/-- The weight of an entry, computed with numbers of some kind. -/
def weightIn (id : Nat) (metadata : Metadata) (iteration : Nat) : φ :=
  let productivity := scheduler.productivityOf id
  let merit := arithmetic.add (arithmetic.add
    (arithmetic.add arithmetic.one (arithmetic.ofCount metadata.novelEdges))
    (arithmetic.ofCount productivity.childEdges))
    (arithmetic.mul arithmetic.four (arithmetic.ofCount productivity.findings))
  let age := arithmetic.ofCount (iteration - metadata.foundAt)
  let window := arithmetic.ofCount scheduler.window
  let recency := arithmetic.div window (arithmetic.add window age)
  arithmetic.div (arithmetic.mul merit recency)
    (arithmetic.add arithmetic.one (arithmetic.ofCount metadata.selections))

/-- The weights of all entries, in order. -/
def weightsIn (corpus : Corpus) (iteration : Nat) : List (Nat × φ) :=
  corpus.entries.toList.map fun entry =>
    (entry.id, scheduler.weightIn arithmetic entry.id entry.metadata iteration)

/-- The first entry whose weight reaches past the target, or else the last one. -/
def pickIn (last : Option Nat) (target : φ) : List (Nat × φ) → Option Nat
  | [] => last
  | (id, weight) :: rest =>
    if arithmetic.less target weight then some id
    else pickIn (some id) (arithmetic.sub target weight) rest

/-- Draw an entry in proportion to the weights, or any entry if their sum is of no use. -/
def drawIn {σ : Type} [RandomSource σ] (corpus : Corpus) (iteration : Nat) :
    StateM σ (Except SchedulingError Nat) := do
  if corpus.isEmpty then return .error .corpusEmpty
  let weights := scheduler.weightsIn arithmetic corpus iteration
  let total := weights.foldl (fun sum weighed => arithmetic.add sum weighed.2) arithmetic.zero
  let picked ←
    if !arithmetic.isFinite total || arithmetic.atMost total arithmetic.zero then
      (·.map Entry.id) <$> corpus.random
    else do
      let target := arithmetic.mul (arithmetic.ofWord (← Random.word64)) total
      pure (pickIn arithmetic none target weights)
  match picked with
  | some id => return .ok id
  | none => return .error .corpusEmpty

theorem pick_eq (last : Option Nat) (target : Float) (weights : List (Nat × Float)) :
    pick last target weights = pickIn .binary64 last target weights := by
  induction weights generalizing last target with
  | nil => rfl
  | cons weighed rest inductionHypothesis =>
      rw [pick, pickIn, inductionHypothesis]
      simp [Arithmetic.binary64]

/-- The scheduler draws over numbers of double precision. -/
theorem draw_eq {σ : Type} [RandomSource σ] (corpus : Corpus) (iteration : Nat) :
    (scheduler.draw corpus iteration : StateM σ (Except SchedulingError Nat)) =
      scheduler.drawIn .binary64 corpus iteration := by
  have weights : scheduler.weights corpus iteration =
    scheduler.weightsIn .binary64 corpus iteration := rfl
  unfold draw drawIn
  simp only [weights, pick_eq, Random.unit, bind_assoc, pure_bind]
  rfl

/-- Whatever the comparisons answer, what is picked is the last entry passed or one of those that
follow. -/
theorem exists_pickIn_eq (last : Nat) (target : φ) (weights : List (Nat × φ)) :
    ∃ id ∈ last :: weights.map Prod.fst,
      pickIn arithmetic (some last) target weights = some id := by
  induction weights generalizing last target with
  | nil => exact ⟨last, List.mem_cons_self, rfl⟩
  | cons weighed rest inductionHypothesis =>
      rw [pickIn]
      split
      · exact ⟨weighed.1, by simp, rfl⟩
      · obtain ⟨id, member, picked⟩ :=
          inductionHypothesis weighed.1 (arithmetic.sub target weighed.2)
        exact ⟨id, List.mem_cons_of_mem _ member, picked⟩

/-- If there is an entry, one is picked. -/
theorem exists_pickIn_none_eq (target : φ) {weights : List (Nat × φ)} (nonempty : weights ≠ []) :
    ∃ id ∈ weights.map Prod.fst, pickIn arithmetic none target weights = some id := by
  cases weights with
  | nil => exact absurd rfl nonempty
  | cons weighed rest =>
      rw [pickIn]
      split
      · exact ⟨weighed.1, by simp, rfl⟩
      · exact exists_pickIn_eq arithmetic weighed.1 _ rest

theorem map_fst_weightsIn (corpus : Corpus) (iteration : Nat) :
    (scheduler.weightsIn arithmetic corpus iteration).map Prod.fst =
      corpus.entries.toList.map Entry.id := by
  simp [weightsIn, Function.comp_def]

variable {σ : Type} [RandomSource σ] {corpus : Corpus}

/-- Nothing is drawn from an empty corpus, and no word is taken for it. -/
theorem run_drawIn_of_isEmpty (vacant : corpus.isEmpty = true) (iteration : Nat) (random : σ) :
    (scheduler.drawIn arithmetic corpus iteration).run random = (.error .corpusEmpty, random) := by
  rw [drawIn, if_pos vacant]
  rfl

/-- A draw from a corpus with entries takes one word and answers with the number of one. -/
theorem run_drawIn (numbered : corpus.Numbered) (inhabited : corpus.isEmpty = false)
    (iteration : Nat) (random : σ) :
    ∃ id entry, corpus.get? id = some entry ∧
      (scheduler.drawIn arithmetic corpus iteration).run random =
        (.ok id, (RandomSource.next64 random).2) := by
  unfold drawIn
  rw [if_neg (by simp [inhabited])]
  dsimp only
  split
  · obtain ⟨place, entry, held, drawn⟩ := Corpus.run_random inhabited random
    refine ⟨place, entry, held, ?_⟩
    simp only [StateT.run_bind, StateT.run_map, drawn]
    rw [← numbered place entry held]
    rfl
  · have nonempty : scheduler.weightsIn arithmetic corpus iteration ≠ [] := by
      simpa [weightsIn, Corpus.isEmpty, Corpus.size] using inhabited
    obtain ⟨id, member, picked⟩ := exists_pickIn_none_eq arithmetic
      (arithmetic.mul (arithmetic.ofWord (RandomSource.next64 random).1)
        ((scheduler.weightsIn arithmetic corpus iteration).foldl
          (fun sum weighed => arithmetic.add sum weighed.2) arithmetic.zero)) nonempty
    rw [map_fst_weightsIn] at member
    obtain ⟨entry, among, rfl⟩ := List.mem_map.mp member
    obtain ⟨place, held⟩ := List.mem_iff_getElem?.mp among
    rw [Array.getElem?_toList] at held
    refine ⟨entry.id, entry, by rwa [numbered place entry held], ?_⟩
    have drawn : (Random.word64 : StateM σ UInt64).run random =
        pure (RandomSource.next64 random) := rfl
    simp only [StateT.run_bind, drawn, pure_bind, StateT.run_pure, picked]
    rfl

/-- Draw an entry, and stay as it is. -/
def nextIn (corpus : Corpus) (iteration : Nat) :
    StateM σ (Except SchedulingError Nat × NoveltyScheduler) := do
  return (← scheduler.drawIn arithmetic corpus iteration, scheduler)

/-- The scheduler is the one over numbers of double precision. -/
theorem next_eq (corpus : Corpus) (iteration : Nat) :
    (Scheduler.next scheduler corpus iteration :
      StateM σ (Except SchedulingError Nat × NoveltyScheduler)) =
        scheduler.nextIn .binary64 corpus iteration := by
  rw [nextIn, ← draw_eq]
  rfl

theorem run_nextIn (corpus : Corpus) (iteration : Nat) (random : σ) :
    (scheduler.nextIn arithmetic corpus iteration).run random =
      let drawn := (scheduler.drawIn arithmetic corpus iteration).run random
      ((drawn.1, scheduler), drawn.2) := rfl

end Draw
end NoveltyScheduler

namespace Campaign

variable {τ ρ ψ : Type} [RandomSource ρ] {campaign : Campaign τ ρ NoveltyScheduler ψ}

/-- What chance does not make anew is derived from an entry, if there is one. -/
theorem exists_select_eq_derive (numbered : campaign.corpus.Numbered)
    (idle : campaign.pending = []) (inhabited : campaign.corpus.isEmpty = false)
    (never : ((Random.chance (toUnit campaign.options.synthesizeProbability)).run
      campaign.random).1 = .ok false) :
    ∃ parent, campaign.corpus.get? parent.id = some parent ∧
      campaign.select =
        { campaign with
          random := (RandomSource.next64 ((Random.chance
            (toUnit campaign.options.synthesizeProbability)).run campaign.random).2).2 }.derive
          parent := by
  rcases tossed : (Random.chance (toUnit campaign.options.synthesizeProbability)).run
    campaign.random with ⟨fresh, random⟩
  rw [tossed] at never
  obtain rfl : fresh = .ok false := never
  obtain ⟨id, parent, held, drawn⟩ := campaign.scheduler.run_drawIn .binary64 numbered inhabited
    campaign.tally.iterations random
  refine ⟨parent, by rwa [numbered id parent held], ?_⟩
  unfold select
  rw [idle, inhabited, tossed]
  simp only [Bool.false_eq_true, ↓reduceIte, NoveltyScheduler.next_eq, NoveltyScheduler.run_nextIn,
    drawn, Except.toOption, Option.bind_some, held]

end Campaign

/-- Over numbers of any kind, the scheduler by novelty picks nothing from an empty corpus only;
else it takes one word and picks an entry, and it never changes. So what a campaign with this
scheduler does not make anew is derived from an entry, as soon as there is one. -/
theorem NoveltyScheduler.picks_entry :
    (∀ (φ σ : Type) [RandomSource σ] (arithmetic : Arithmetic φ) (scheduler : NoveltyScheduler)
      (corpus : Corpus) (iteration : Nat) (random : σ), corpus.Reachable →
      let next := (scheduler.nextIn arithmetic corpus iteration).run random
      (next.1.1 = .error .corpusEmpty ↔ corpus.isEmpty = true) ∧ next.1.2 = scheduler ∧
      (corpus.isEmpty = false → ∃ id entry, corpus.get? id = some entry ∧
        next.1.1 = .ok id ∧ next.2 = (RandomSource.next64 random).2)) ∧
    (∀ (σ : Type) [RandomSource σ] (scheduler : NoveltyScheduler) (corpus : Corpus)
      (iteration : Nat),
      (Scheduler.next scheduler corpus iteration :
        StateM σ (Except SchedulingError Nat × NoveltyScheduler)) =
          scheduler.nextIn .binary64 corpus iteration) ∧
    (∀ (τ ρ ψ : Type) [Target τ] [RandomSource ρ] [Reporting ψ] (runners : List (Runner τ))
      (predicate : Predicate) (mutator : Mutator ρ) (scheduler : NoveltyScheduler) (reporter : ψ)
      (options : CampaignOptions) (random : ρ) (origin campaign : Campaign τ ρ NoveltyScheduler ψ)
      (events : List Campaign.Event),
      Campaign.ofRunners runners predicate mutator scheduler reporter options random = .ok origin →
      Campaign.Chronicle origin events campaign →
      campaign.pending = [] → campaign.corpus.isEmpty = false →
      let tossed := (Random.chance (Campaign.toUnit
        campaign.options.synthesizeProbability)).run campaign.random
      tossed.1 = .ok false → ∃ parent, campaign.corpus.get? parent.id = some parent ∧
        campaign.select =
          { campaign with random := (RandomSource.next64 tossed.2).2 }.derive parent) := by
  refine ⟨?_, fun σ _ scheduler corpus iteration => scheduler.next_eq corpus iteration, ?_⟩
  · intro φ σ _ arithmetic scheduler corpus iteration random reachable
    dsimp only
    rw [run_nextIn]
    cases vacant : corpus.isEmpty with
    | true => simp [run_drawIn_of_isEmpty arithmetic scheduler vacant]
    | false =>
        obtain ⟨id, entry, held, drawn⟩ :=
          run_drawIn arithmetic scheduler reachable.numbered vacant iteration random
        exact ⟨by simp [drawn], rfl, fun _ => ⟨id, entry, held, by rw [drawn], by rw [drawn]⟩⟩
  · intro τ ρ ψ _ _ _ runners predicate mutator scheduler reporter options random origin campaign
      events built chronicle idle inhabited tossed never
    have lineage := Campaign.Lineage.of_chronicle chronicle (.of_ofRunners built)
    have numbered : campaign.corpus.Numbered := fun place entry held =>
      (lineage.corpus.id_of_getElem? ((Array.getElem?_toList ..).trans held)).1
    exact Campaign.exists_select_eq_derive numbered idle inhabited never

section Unmeasured

/-- An arithmetic that cannot tell numbers apart. -/
def Arithmetic.unmeasured : Arithmetic Unit where
  zero := ()
  one := ()
  four := ()
  ofCount _ := ()
  ofWord _ := ()
  add _ _ := ()
  sub _ _ := ()
  mul _ _ := ()
  div _ _ := ()
  less _ _ := false
  atMost _ _ := false
  isFinite _ := true

/-- Two entries that were given with the same number. -/
def Corpus.twins : Corpus :=
  .ofEntries
    [⟨7, [1], { source := .seed, foundAt := 0 }⟩, ⟨7, [2], { source := .seed, foundAt := 0 }⟩]

/-- Two versions that echo their input, a scheduler by novelty, and never a new input once there
is one. -/
def Campaign.scheduled : Campaign InlineTarget Random.Cycle NoveltyScheduler Reporter :=
  { echoing with
    scheduler := .ofWindow 1000, options := { synthesizeProbability := 0.0 } }

/-- A draw in which no weight reaches past the target, and a campaign that has kept a seed. -/
theorem NoveltyScheduler.picks_entry_unmeasured :
    (∃ id entry, Corpus.twins.get? id = some entry ∧
      (((ofWindow 1).nextIn .unmeasured .twins 3).run (Random.Cycle.ofList [4])).1.1 = .ok id) ∧
    ∃ events campaign parent, Campaign.Chronicle .scheduled events campaign ∧
      campaign.corpus.get? parent.id = some parent ∧
      campaign.select.1.map Candidate.source = .ok (.mutated parent.id) := by
  obtain ⟨draws, -, selects⟩ := NoveltyScheduler.picks_entry
  constructor
  · obtain ⟨id, entry, held, picked, -⟩ := (draws Unit Random.Cycle .unmeasured (.ofWindow 1)
      .twins 3 (.ofList [4]) (.ofEntries _)).2.2 rfl
    exact ⟨id, entry, held, picked⟩
  · let seeded := Campaign.scheduled.withSeeds [[1]]
    have first : seeded.step = (.ok ⟨.seed, .agree, 2, some 0, none⟩, seeded.step.2) :=
      Prod.ext (by decide +kernel) rfl
    obtain ⟨turn, -, completes⟩ := Campaign.exists_completes first
    have chronicle := (Campaign.Chronicle.start.next (.seeded [[1]])).next (.completed completes)
    obtain ⟨parent, held, selected⟩ := selects InlineTarget Random.Cycle Reporter
      [.echo "a", .echo "b"] .exact Mutation.octetShift (.ofWindow 1000) .log
      { synthesizeProbability := 0.0 } (.ofList []) .scheduled seeded.step.2 _ rfl chronicle
      (by decide +kernel) (by decide +kernel) (by decide +kernel)
    exact ⟨_, _, parent, chronicle, held, by rw [selected]; rfl⟩

end Unmeasured
end Crosscheck
