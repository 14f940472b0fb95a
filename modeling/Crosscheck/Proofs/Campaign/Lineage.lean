import Mathlib
import Crosscheck.Proofs.Campaign.Chronicle

/-!
# Where entries come from

Entries are numbered and dated when they are added, and a child is added after its parent
was selected. `Ordered` is about one list of entries, which grows at its end. What a
chronicle keeps of both corpora rests on it, and so does the count of selections, since
only an entry that is numbered by its place has its own selections counted.
-/

namespace Crosscheck

/-- Whether an entry was derived from another. -/
def Source.isMutated : Source → Bool
  | .mutated _ => true
  | .seed | .synthesized => false

/-- Entries of which the same is kept differ in their selections only. -/
theorem Entry.eq_of_kept {current entry : Entry} (same : current.kept = entry.kept) :
    current = { entry with metadata :=
      { entry.metadata with selections := current.metadata.selections } } := by
  obtain ⟨number, input, metadata⟩ := current
  obtain ⟨source, foundAt, novelEdges, novelVersions, coveredEdges, signature, _⟩ := metadata
  simp only [kept, Entry.mk.injEq, Metadata.mk.injEq] at same
  simp [same]

/-- Entries that are numbered by their places and were found one after another, all of them
before an iteration. -/
structure Ordered (entries : List Entry) (now : Nat) : Prop where
  numbered : entries.map Entry.id = List.range entries.length
  ascending : (entries.map fun entry => entry.metadata.foundAt).Pairwise (· < ·)
  past : ∀ entry ∈ entries, entry.metadata.foundAt < now

namespace Ordered

variable {entries : List Entry} {now : Nat}

theorem nil : Ordered [] now := ⟨rfl, .nil, by simp⟩

/-- An entry that is found now takes the next number. -/
theorem snoc (ordered : Ordered entries now) {entry : Entry} (id : entry.id = entries.length)
    (foundAt : entry.metadata.foundAt = now) : Ordered (entries ++ [entry]) (now + 1) where
  numbered := by
    rw [List.map_append, ordered.numbered, List.length_append, List.length_singleton,
      List.range_succ, List.map_singleton, id]
  ascending := by
    rw [List.map_append, List.map_singleton, List.pairwise_append]
    refine ⟨ordered.ascending, List.pairwise_singleton _ _, ?_⟩
    intro earlier member later last
    obtain ⟨other, held, rfl⟩ := List.mem_map.mp member
    rw [List.mem_singleton.mp last, foundAt]
    exact ordered.past other held
  past := by
    intro other member
    rcases List.mem_append.mp member with held | last
    · exact Nat.lt_succ_of_lt (ordered.past other held)
    · rw [List.mem_singleton.mp last, foundAt]
      exact Nat.lt_succ_self now

theorem later (ordered : Ordered entries now) : Ordered entries (now + 1) :=
  ⟨ordered.numbered, ordered.ascending, fun entry member =>
    Nat.lt_succ_of_lt (ordered.past entry member)⟩

theorem id_of_getElem? (ordered : Ordered entries now) {place : Nat} {entry : Entry}
    (held : entries[place]? = some entry) : entry.id = place ∧ place < entries.length := by
  have inside := (List.getElem?_eq_some_iff.mp held).1
  have number := congrArg (·[place]?) ordered.numbered
  simp only [List.getElem?_map, held, Option.map_some, List.getElem?_range inside] at number
  exact ⟨Option.some.inj number, inside⟩

end Ordered

/-- Every entry that was derived from another comes after it. -/
def Descends (entries : List Entry) : Prop :=
  ∀ entry ∈ entries, ∀ parent, entry.metadata.source = .mutated parent → parent < entry.id

namespace Corpus

theorem ordered_kept_iff (corpus : Corpus) (now : Nat) :
    Ordered corpus.kept now ↔ Ordered corpus.entries.toList now := by
  constructor <;> rintro ⟨numbered, ascending, past⟩ <;>
    refine ⟨?_, ?_, ?_⟩ <;> simp_all [kept, Entry.kept, Function.comp_def]

theorem descends_kept_iff (corpus : Corpus) :
    Descends corpus.kept ↔ Descends corpus.entries.toList := by
  simp [Descends, kept, Entry.kept]

/-- The selections of all entries. -/
def selections (corpus : Corpus) : Nat :=
  (corpus.entries.toList.map fun entry => entry.metadata.selections).sum

theorem selections_add (corpus : Corpus) (input : List UInt8) (metadata : Metadata) :
    (corpus.add input metadata).selections = corpus.selections + metadata.selections := by
  simp [selections, add]

/-- Selecting an entry that is there counts one selection. -/
theorem selections_select {corpus : Corpus} {id : Nat} (inside : id < corpus.size) :
    (corpus.select id).selections = corpus.selections + 1 := by
  have bound : id < corpus.entries.toList.length := by simpa [size] using inside
  obtain ⟨front, entry, back, whole, _, modified⟩ := List.exists_of_modify
    (fun entry : Entry =>
      { entry with metadata := { entry.metadata with
          selections := entry.metadata.selections + 1 } }) bound
  rw [selections, select, Array.toList_modify, modified, selections, whole]
  simp only [List.map_append, List.map_cons, List.sum_append, List.sum_cons]
  omega

end Corpus

namespace Campaign

section Steps

variable {τ ρ κ ψ : Type} {campaign selected : Campaign τ ρ κ ψ} {candidate : Candidate}

/-- An entry that is selected lies in the corpus under its own number. -/
theorem id_lt_of_get? {now id : Nat} {parent : Entry}
    (ordered : Ordered campaign.corpus.entries.toList now)
    (held : campaign.corpus.get? id = some parent) : parent.id < campaign.corpus.size := by
  obtain ⟨number, inside⟩ := ordered.id_of_getElem? ((Array.getElem?_toList ..).trans held)
  rw [number]
  simpa [Corpus.size] using inside

/-- A candidate that was derived from an entry has its parent in the corpus. -/
theorem Selection.parent_lt (selection : Selection campaign (.ok candidate) selected) {now : Nat}
    (ordered : Ordered campaign.corpus.entries.toList now) {parent : Nat}
    (derived : candidate.source = .mutated parent) : parent < campaign.corpus.size := by
  cases selection with
  | seed => cases derived
  | fresh => cases derived
  | child _ held =>
      cases derived
      exact id_lt_of_get? ordered held

/-- A selection is counted exactly if the candidate is derived from an entry. -/
theorem Selection.selections (selection : Selection campaign (.ok candidate) selected) {now : Nat}
    (ordered : Ordered campaign.corpus.entries.toList now) :
    selected.corpus.selections =
      campaign.corpus.selections + if candidate.source.isMutated then 1 else 0 := by
  cases selection with
  | seed => rfl
  | fresh => rfl
  | child _ held => exact Corpus.selections_select (id_lt_of_get? ordered held)

/-- However a selection goes, it counts no more than one. -/
theorem Selection.selections_le {result : Except Payload Candidate}
    (selection : Selection campaign result selected) {now : Nat}
    (ordered : Ordered campaign.corpus.entries.toList now) :
    campaign.corpus.selections ≤ selected.corpus.selections ∧
      selected.corpus.selections ≤ campaign.corpus.selections + 1 := by
  cases selection with
  | seed => exact ⟨le_rfl, Nat.le_succ _⟩
  | fresh => exact ⟨le_rfl, Nat.le_succ _⟩
  | barren => exact ⟨le_rfl, Nat.le_succ _⟩
  | child _ held =>
      have counted := Corpus.selections_select (id_lt_of_get? ordered held)
      exact ⟨counted ▸ Nat.le_succ _, counted.le⟩
  | stillborn _ held =>
      have counted := Corpus.selections_select (id_lt_of_get? ordered held)
      exact ⟨counted ▸ Nat.le_succ _, counted.le⟩

end Steps

section Chronicle

variable {τ ρ κ ψ : Type} [Target τ] [RandomSource ρ] [Scheduler κ] [Reporting ψ]
variable {origin before after campaign : Campaign τ ρ κ ψ} {event : Event} {events : List Event}

/-- How many steps have completed with an input that was derived from an entry. -/
def bred (events : List Event) : Nat :=
  (events.filterMap Event.turn?).countP fun turn => turn.outcome.source.isMutated

theorem bred_append (events more : List Event) :
    bred (events ++ more) = bred events + bred more := by
  rw [bred, List.filterMap_append, List.countP_append]
  rfl

theorem bred_of_quiet (turn : event.turn? = none) : bred [event] = 0 := by
  rw [bred, List.filterMap_cons_none turn]
  rfl

/-- How the entries of a campaign are numbered, dated and descended after some events. -/
structure Lineage (events : List Event) (campaign : Campaign τ ρ κ ψ) : Prop where
  corpus : Ordered campaign.corpus.entries.toList campaign.stats.iterations
  findings : Ordered campaign.findings.entries.toList campaign.stats.iterations
  /-- A child comes after its parent. -/
  children : Descends campaign.corpus.entries.toList
  /-- What a finding was derived from is in the corpus. -/
  causes : ∀ finding ∈ campaign.findings.entries.toList, ∀ parent,
    finding.metadata.source = .mutated parent → parent < campaign.corpus.size
  /-- A selection was counted in every completed step that has mutated an entry, and in no
  other step but some of those that have unwound. -/
  selections :
    bred events ≤ campaign.corpus.selections ∧
      campaign.corpus.selections ≤ bred events + events.countP Event.isUnwound

namespace Lineage

omit [Target τ] [RandomSource ρ] [Scheduler κ] [Reporting ψ] in
/-- Where both corpora and the number of iterations stay, so does the lineage. -/
theorem of_quiet (lineage : Lineage events before) (turn : event.turn? = none)
    (wound : event.isUnwound = false) (corpus : after.corpus = before.corpus)
    (findings : after.findings = before.findings) (tally : after.tally = before.tally) :
    Lineage (events ++ [event]) after where
  corpus := by
    have kept := lineage.corpus
    simpa [stats, corpus, tally] using kept
  findings := by
    have kept := lineage.findings
    simpa [stats, findings, tally] using kept
  children := corpus ▸ lineage.children
  causes := by
    rw [findings, corpus]
    exact lineage.causes
  selections := by
    rw [corpus, bred_append, bred_of_quiet turn]
    simpa [wound] using lineage.selections

/-- A step that unwinds leaves no more than a selection that it has counted. -/
theorem of_unwound (lineage : Lineage events before) {payload : Payload}
    (unwound : before.step = (.error payload, after)) :
    Lineage (events ++ [.unwound]) after := by
  obtain ⟨runners, rfl, _⟩ := exists_runners_of_unwound unwound
  have selection := selection before
  have iterations : before.select.2.tally.iterations = before.tally.iterations :=
    congrArg Stats.iterations selection.tally
  have size : before.select.2.corpus.size = before.corpus.size := by
    rw [← Corpus.length_kept, selection.kept, Corpus.length_kept]
  exact
    { corpus := by
        rw [← Corpus.ordered_kept_iff]
        dsimp only [stats]
        rw [selection.kept, iterations, Corpus.ordered_kept_iff]
        exact lineage.corpus
      findings := by
        dsimp only [stats]
        rw [selection.findings, iterations]
        exact lineage.findings
      children := by
        rw [← Corpus.descends_kept_iff]
        dsimp only
        rw [selection.kept, Corpus.descends_kept_iff]
        exact lineage.children
      causes := by
        dsimp only
        rw [selection.findings, size]
        exact lineage.causes
      selections := by
        have counted := selection.selections_le lineage.corpus
        have so := lineage.selections
        have once : (events ++ [Event.unwound]).countP Event.isUnwound =
            events.countP Event.isUnwound + 1 := by simp [Event.isUnwound]
        rw [bred_append, bred_of_quiet rfl, once]
        dsimp only
        omega }

/-- A completed step dates what it adds by its own iteration, and a child that it adds comes
after the parent that was selected for it. -/
theorem of_completes (lineage : Lineage events before) {turn : Turn}
    (completes : Completes before turn after) :
    Lineage (events ++ [.completed turn]) after := by
  have settles := completes.settles
  have selection := selection before
  rw [completes.candidate] at selection
  have iterations : after.stats.iterations = before.stats.iterations + 1 := by
    rw [stats, settles.iterations, ← completes.iteration]
    rfl
  have grown : before.corpus.size ≤ after.corpus.size := by
    rw [← Corpus.length_kept, ← Corpus.length_kept, completes.kept]
    simp
  have parents : ∀ parent, turn.candidate.source = .mutated parent →
      parent < before.corpus.size := fun parent => selection.parent_lt lineage.corpus
  exact
    { corpus := by
        have ordered := (Corpus.ordered_kept_iff _ _).mpr lineage.corpus
        rw [← Corpus.ordered_kept_iff, completes.kept, iterations]
        cases added : turn.entry? with
        | none => simpa using ordered.later
        | some entry =>
            rw [completes.entry_eq added]
            exact ordered.snoc (Corpus.length_kept _).symm completes.iteration.symm
      findings := by
        rw [completes.findings, iterations]
        cases added : turn.finding? before.findings.size with
        | none => simpa using lineage.findings.later
        | some finding =>
            rw [Turn.finding_eq added]
            exact lineage.findings.snoc (Array.length_toList ..).symm completes.iteration.symm
      children := by
        rw [← Corpus.descends_kept_iff, completes.kept]
        intro entry member parent derived
        rcases List.mem_append.mp member with old | new
        · exact (Corpus.descends_kept_iff _).mpr lineage.children entry old parent derived
        · rw [completes.entry_eq (Option.mem_toList.mp new)] at derived ⊢
          exact parents parent derived
      causes := by
        intro finding member parent derived
        rw [completes.findings] at member
        rcases List.mem_append.mp member with old | new
        · exact (lineage.causes finding old parent derived).trans_le grown
        · rw [Turn.finding_eq (Option.mem_toList.mp new)] at derived
          exact (parents parent derived).trans_le grown
      selections := by
        have counted : after.corpus.selections = before.select.2.corpus.selections := by
          rw [settles.corpus]
          split
          · exact Corpus.selections_add ..
          · rfl
        have so := lineage.selections
        have other : (events ++ [Event.completed turn]).countP Event.isUnwound =
            events.countP Event.isUnwound := by simp [Event.isUnwound]
        have own : bred [.completed turn] = if turn.outcome.source.isMutated then 1 else 0 :=
          List.countP_singleton
        rw [counted, selection.selections lineage.corpus, ← settles.source, bred_append, own,
          other]
        omega }

theorem of_happens (lineage : Lineage events before) (happens : Happens before event after) :
    Lineage (events ++ [event]) after := by
  cases happens with
  | completed completes => exact lineage.of_completes completes
  | unwound unwound => exact lineage.of_unwound unwound
  | seeded => exact lineage.of_quiet rfl rfl rfl rfl rfl
  | equipped => exact lineage.of_quiet rfl rfl rfl rfl rfl
  | rescheduled => exact lineage.of_quiet rfl rfl rfl rfl rfl
  | published => exact lineage.of_quiet rfl rfl rfl rfl rfl

omit [RandomSource ρ] [Scheduler κ] [Reporting ψ] in
/-- A campaign that has just been made has no entries. -/
theorem of_ofRunners {runners : List (Runner τ)} {predicate : Predicate} {mutator : Mutator ρ}
    {scheduler : κ} {reporter : ψ} {options : CampaignOptions} {random : ρ}
    (built : ofRunners runners predicate mutator scheduler reporter options random = .ok origin) :
    Lineage [] origin := by
  obtain ⟨_, _, rfl⟩ := Campaign.of_ofRunners built
  exact ⟨.nil, .nil, by simp [Descends, Corpus.empty], by simp [Corpus.empty], le_rfl, le_rfl⟩

theorem of_chronicle (chronicle : Chronicle origin events campaign)
    (start : Lineage [] origin) : Lineage events campaign := by
  induction chronicle with
  | start => exact start
  | next _ happens inductionHypothesis => exact inductionHypothesis.of_happens happens

end Lineage

/-- An entry stays under its number and with all that it was added with but its count of
selections. -/
theorem History.get?_of_get? {turns : List Turn} {later : Campaign τ ρ κ ψ}
    (history : History campaign turns later) {id : Nat} {entry : Entry}
    (held : campaign.corpus.get? id = some entry) :
    ∃ selections, later.corpus.get? id =
      some { entry with metadata := { entry.metadata with selections } } := by
  have place : campaign.corpus.kept[id]? = some entry.kept := by
    rw [Corpus.getElem?_kept, held, Option.map_some]
  have kept : later.corpus.kept[id]? = some entry.kept := by
    rw [history.kept, List.getElem?_append_left (List.getElem?_eq_some_iff.mp place).1, place]
  rw [Corpus.getElem?_kept] at kept
  obtain ⟨current, found, same⟩ := Option.map_eq_some_iff.mp kept
  exact ⟨current.metadata.selections, by rw [found, ← Entry.eq_of_kept same]⟩

/-- However a campaign goes on from its start, its entries are in order: those of either
corpus are numbered by their places and dated in ascending order before the present
iteration, children come after their parents, and entries stay as they were added but for
their selections. These add up to the completed steps that have mutated an entry, as long as
nothing has unwound out of a step. -/
theorem lineage_of_chronicle {runners : List (Runner τ)} {predicate : Predicate}
    {mutator : Mutator ρ} {scheduler : κ} {reporter : ψ} {options : CampaignOptions} {random : ρ}
    (built : ofRunners runners predicate mutator scheduler reporter options random = .ok origin)
    (chronicle : Chronicle origin events campaign) :
    Lineage events campaign ∧
      (.unwound ∉ events → campaign.corpus.selections = bred events) ∧
      ∀ more later, Chronicle campaign more later →
        (∀ id entry, campaign.corpus.get? id = some entry → ∃ selections,
          later.corpus.get? id =
            some { entry with metadata := { entry.metadata with selections } }) ∧
        campaign.findings.entries.toList <+: later.findings.entries.toList := by
  have lineage := Lineage.of_chronicle chronicle (.of_ofRunners built)
  refine ⟨lineage, fun steady => ?_, fun more later onwards =>
    ⟨fun id entry held => onwards.history.get?_of_get? held, onwards.history.prefix_findings⟩⟩
  have none : events.countP Event.isUnwound = 0 := by
    refine List.countP_eq_zero.mpr fun event member unwound => ?_
    cases event <;> first | exact steady member | cases unwound
  have selections := lineage.selections
  omega

end Chronicle

section Breeding

/-- Two versions that echo their input, a scheduler that always picks the first entry, and
never a new input once there is one. -/
def breeding : Campaign InlineTarget Random.Cycle PinnedScheduler Reporter :=
  { echoing with scheduler := .always 0, options := { synthesizeProbability := 0.0 } }

theorem ofRunners_breeding :
    ofRunners [.echo "a", .echo "b"] .exact Mutation.octetShift (PinnedScheduler.always 0)
      Reporter.log { synthesizeProbability := 0.0 } (Random.Cycle.ofList []) = .ok breeding := rfl

/-- A seed is kept, and so is its first child, which differs in one octet. The second child is
the same as the first and adds no more than a selection. -/
theorem lineage_of_chronicle_breeding : ∃ events campaign,
    Chronicle breeding events campaign ∧ .unwound ∉ events ∧
      campaign.corpus.entries.toList.map (fun entry =>
        (entry.metadata.source, entry.metadata.foundAt, entry.metadata.selections)) =
          [(.seed, 0, 2), (.mutated 0, 1, 0)] ∧
      Lineage events campaign ∧ campaign.corpus.selections = 2 := by
  let seeded := breeding.withSeeds [[1]]
  have first : seeded.step = (.ok ⟨.seed, .agree, 2, some 0, none⟩, seeded.step.2) :=
    Prod.ext (by decide +kernel) rfl
  have second : seeded.step.2.step =
      (.ok ⟨.mutated 0, .agree, 2, some 1, none⟩, seeded.step.2.step.2) :=
    Prod.ext (by decide +kernel) rfl
  have third : seeded.step.2.step.2.step =
      (.ok ⟨.mutated 0, .agree, 0, none, none⟩, seeded.step.2.step.2.step.2) :=
    Prod.ext (by decide +kernel) rfl
  obtain ⟨seedTurn, grown, seed⟩ := exists_completes first
  obtain ⟨childTurn, kept, child⟩ := exists_completes second
  obtain ⟨twinTurn, dropped, twin⟩ := exists_completes third
  have chronicle := (((Chronicle.start.next (.seeded [[1]])).next (.completed seed)).next
    (.completed child)).next (.completed twin)
  obtain ⟨lineage, selections, _⟩ := lineage_of_chronicle ofRunners_breeding chronicle
  refine ⟨_, _, chronicle, by simp, by decide +kernel, lineage, (selections (by simp)).trans ?_⟩
  change [seedTurn, childTurn, twinTurn].countP (fun turn => turn.outcome.source.isMutated) = 2
  simp [grown, kept, dropped, Source.isMutated]

end Breeding
end Campaign
end Crosscheck
