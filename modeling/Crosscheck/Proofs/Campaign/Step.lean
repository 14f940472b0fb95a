import Mathlib
import Crosscheck.Proofs.Runner

/-!
# What one step does

A step selects, executes, evaluates and retains. `Selection` lists the ways in which a
candidate comes about or does not, `execute_eq_ok_iff` says when every version leaves a record, and
`Completes` ties a completed step to the candidate that it ran and the records that it
got. All that later proofs need of a step is read off `Completes`, so that none of them
opens the step again.
-/

namespace Crosscheck

/-- An entry without the count of its selections, which is all that ever changes of it. -/
def Entry.kept (entry : Entry) : Entry :=
  { entry with metadata := { entry.metadata with selections := 0 } }

namespace Corpus

/-- What a corpus keeps for good. -/
def kept (corpus : Corpus) : List Entry := corpus.entries.toList.map Entry.kept

@[simp] theorem length_kept (corpus : Corpus) : corpus.kept.length = corpus.size := by
  simp [kept, size]

@[simp] theorem kept_select (corpus : Corpus) (id : Nat) :
    (corpus.select id).kept = corpus.kept := by
  apply List.ext_getElem?
  intro index
  simp only [kept, select, List.getElem?_map, Array.getElem?_toList, Array.getElem?_modify]
  split
  · rw [Option.map_map]
    rfl
  · rfl

@[simp] theorem kept_add (corpus : Corpus) (input : List UInt8) (metadata : Metadata) :
    (corpus.add input metadata).kept =
      corpus.kept ++ [Entry.kept ⟨corpus.size, input, metadata⟩] := by
  simp [kept, add]

@[simp] theorem kept_empty : empty.kept = [] := rfl

theorem getElem?_kept (corpus : Corpus) (id : Nat) :
    corpus.kept[id]? = (corpus.get? id).map Entry.kept := by
  simp [kept, get?]

/-- The inputs of the entries in their order. -/
def inputs (corpus : Corpus) : List (List UInt8) := corpus.entries.toList.map Entry.input

theorem inputs_eq (corpus : Corpus) : corpus.inputs = corpus.kept.map Entry.input := by
  simp [inputs, kept, Entry.kept, Function.comp_def]

@[simp] theorem length_inputs (corpus : Corpus) : corpus.inputs.length = corpus.size := by
  simp [inputs, size]

/-- What is kept tells how much the entries have revealed. -/
theorem map_novelEdges_kept (corpus : Corpus) :
    (corpus.kept.map fun entry => entry.metadata.novelEdges) =
      corpus.entries.toList.map fun entry => entry.metadata.novelEdges := by
  simp [kept, Entry.kept, Function.comp_def]

end Corpus

namespace Campaign

variable {τ ρ κ ψ : Type}

/-- The ways in which a step comes by its candidate or by none, with the campaign that goes on. -/
inductive Selection (campaign : Campaign τ ρ κ ψ) :
    Except Payload Candidate → Campaign τ ρ κ ψ → Prop where
  | seed {input rest} (pending : campaign.pending = input :: rest) :
      Selection campaign (.ok ⟨input, .seed⟩) { campaign with pending := rest }
  | fresh {input scheduler random} (none : campaign.pending = []) :
      Selection campaign (.ok ⟨input, .synthesized⟩) { campaign with scheduler, random }
  | child {input scheduler random id parent} (none : campaign.pending = [])
      (held : campaign.corpus.get? id = some parent) :
      Selection campaign (.ok ⟨input, .mutated parent.id⟩)
        { campaign with corpus := campaign.corpus.select parent.id, scheduler, random }
  /-- Chance or the mutator has unwound. -/
  | barren {payload scheduler random} (none : campaign.pending = []) :
      Selection campaign (.error payload) { campaign with scheduler, random }
  /-- The mutator has unwound on an entry, whose selection has been counted. -/
  | stillborn {payload scheduler random id parent} (none : campaign.pending = [])
      (held : campaign.corpus.get? id = some parent) :
      Selection campaign (.error payload)
        { campaign with corpus := campaign.corpus.select parent.id, scheduler, random }

namespace Selection

variable {campaign selected : Campaign τ ρ κ ψ} {result : Except Payload Candidate}

theorem runners (selection : Selection campaign result selected) :
    selected.runners = campaign.runners := by
  cases selection <;> rfl

theorem options (selection : Selection campaign result selected) :
    selected.options = campaign.options := by
  cases selection <;> rfl

theorem mutator (selection : Selection campaign result selected) :
    selected.mutator = campaign.mutator := by
  cases selection <;> rfl

theorem predicate (selection : Selection campaign result selected) :
    selected.predicate = campaign.predicate := by
  cases selection <;> rfl

theorem feedback (selection : Selection campaign result selected) :
    selected.feedback = campaign.feedback := by
  cases selection <;> rfl

theorem tally (selection : Selection campaign result selected) :
    selected.tally = campaign.tally := by
  cases selection <;> rfl

theorem findings (selection : Selection campaign result selected) :
    selected.findings = campaign.findings := by
  cases selection <;> rfl

/-- While inputs are pending the first of them is the candidate. -/
theorem pending (selection : Selection campaign result selected) {input : List UInt8}
    {rest : List (List UInt8)} (waiting : campaign.pending = input :: rest) :
    result = .ok ⟨input, .seed⟩ ∧ selected.pending = rest := by
  cases selection with
  | seed pending =>
      rw [pending] at waiting
      cases waiting
      exact ⟨rfl, rfl⟩
  | fresh none => simp [none] at waiting
  | child none => simp [none] at waiting
  | barren none => simp [none] at waiting
  | stillborn none => simp [none] at waiting

/-- Selecting an entry changes no more than its count of selections. -/
theorem kept (selection : Selection campaign result selected) :
    selected.corpus.kept = campaign.corpus.kept := by
  cases selection with
  | seed => rfl
  | fresh => rfl
  | child => exact Corpus.kept_select _ _
  | barren => rfl
  | stillborn => exact Corpus.kept_select _ _

end Selection

section Select

theorem selection_synthesize (campaign : Campaign τ ρ κ ψ) (none : campaign.pending = [])
    (scheduler : κ) (random : ρ) :
    let synthesized := { campaign with scheduler, random }.synthesize
    Selection campaign synthesized.1 synthesized.2 := by
  unfold synthesize
  dsimp only
  rcases (campaign.mutator Option.none (some campaign.corpus)).run random with
    ⟨_ | _ | _, after⟩
  · exact .fresh none
  · exact .fresh none
  · exact .barren none

theorem selection_derive (campaign : Campaign τ ρ κ ψ) (none : campaign.pending = [])
    (scheduler : κ) (random : ρ) {id : Nat} {parent : Entry}
    (held : campaign.corpus.get? id = some parent) :
    let derived := { campaign with scheduler, random }.derive parent
    Selection campaign derived.1 derived.2 := by
  unfold derive
  dsimp only
  rcases (campaign.mutator (some parent.input)
    (some (campaign.corpus.select parent.id))).run random with ⟨_ | _ | _, after⟩
  · exact .child none held
  · exact .child none held
  · exact .stillborn none held

variable [RandomSource ρ] [Scheduler κ]

/-- Every selection goes one of these ways. -/
theorem selection (campaign : Campaign τ ρ κ ψ) :
    Selection campaign campaign.select.1 campaign.select.2 := by
  unfold select
  split
  next pending => exact .seed pending
  next none =>
    split
    · exact selection_synthesize campaign none campaign.scheduler campaign.random
    · rcases (Random.chance (toUnit campaign.options.synthesizeProbability)).run
        campaign.random with ⟨_ | _ | _, random⟩
      · exact .barren none
      · dsimp only
        split
        split
        next found =>
          obtain ⟨id, _, held⟩ := Option.bind_eq_some_iff.mp found
          exact selection_derive campaign none _ _ held
        next => exact selection_synthesize campaign none _ _
      · exact selection_synthesize campaign none campaign.scheduler random

end Select

section Execution

variable [Target τ]

/-- One runner goes on from another by running inputs. -/
def Follows (runner next : Runner τ) : Prop := ∃ inputs, next = runner.afterAll inputs

theorem Follows.refl (runner : Runner τ) : Follows runner runner := ⟨[], rfl⟩

theorem Follows.after {origin runner : Runner τ} (follows : Follows origin runner)
    (input : List UInt8) : Follows origin (runner.after input) := by
  obtain ⟨inputs, rfl⟩ := follows
  exact ⟨inputs ++ [input], (Runner.afterAll_append origin inputs input).symm⟩

theorem Follows.trans {first second third : Runner τ} (early : Follows first second)
    (late : Follows second third) : Follows first third := by
  obtain ⟨earlier, rfl⟩ := early
  obtain ⟨later, rfl⟩ := late
  exact ⟨earlier ++ later, by simp [Runner.afterAll]⟩

theorem map_fst_runBeside (input : List UInt8) (runners : List (Runner τ)) :
    ((runBeside input runners).map Prod.fst).map some =
      runners.map (Runner.observe true · input) := by
  simp only [runBeside, List.map_map]
  apply List.map_congr_left
  intro runner _
  simp only [Function.comp_apply, Runner.observe]
  split <;> simp_all

theorem map_snd_runBeside (input : List UInt8) (runners : List (Runner τ)) :
    (runBeside input runners).map Prod.snd = runners.map (Runner.after · input) := by
  simp only [runBeside, List.map_map]
  apply List.map_congr_left
  intro runner _
  simp only [Function.comp_apply, Runner.after]
  split <;> simp_all

/-- Versions in turn leave records exactly if each of them leaves one. -/
theorem runInTurn_eq_ok_iff {input : List UInt8} {runners : List (Runner τ)}
    {records : List Record} :
    (runInTurn input runners).1 = .ok records ↔
      runners.map (Runner.observe false · input) = records.map some := by
  induction runners generalizing records with
  | nil => cases records <;> simp [runInTurn]
  | cons runner rest inductionHypothesis =>
      rcases ran : runner.run input with ⟨result, next⟩
      cases result with
      | error payload => cases records <;> simp [runInTurn, Runner.observe, ran]
      | ok record =>
          cases later : (runInTurn input rest).1 with
          | error payload =>
              have none : ∀ others : List Record, rest.map (Runner.observe false · input) ≠
                  others.map some := by
                intro others same
                simpa [later] using inductionHypothesis.mpr same
              cases records with
              | nil => simp [runInTurn, ran, later, Except.map]
              | cons head others => simp [runInTurn, ran, later, Except.map, none others]
          | ok others =>
              cases records with
              | nil => simp [runInTurn, ran, later, Except.map]
              | cons head tail =>
                  have same : others = tail ↔ rest.map (Runner.observe false · input) =
                      tail.map some := by
                    rw [← inductionHypothesis, later, Except.ok.injEq]
                  simp [runInTurn, Runner.observe, ran, later, Except.map, same]

/-- Once every version in turn has left a record, every runner has run. -/
theorem map_snd_runInTurn {input : List UInt8} {runners : List (Runner τ)}
    {records : List Record} (recorded : (runInTurn input runners).1 = .ok records) :
    (runInTurn input runners).2 = runners.map (Runner.after · input) := by
  induction runners generalizing records with
  | nil => rfl
  | cons runner rest inductionHypothesis =>
      rcases ran : runner.run input with ⟨result, next⟩
      cases result with
      | error payload => simp [runInTurn, ran] at recorded
      | ok record =>
          cases later : (runInTurn input rest).1 with
          | error payload => simp [runInTurn, ran, later, Except.map] at recorded
          | ok others =>
              simp [runInTurn, ran, Runner.after, inductionHypothesis later]

/-- A version that unwinds ends its turn; those after it have not run. -/
theorem follows_runInTurn (input : List UInt8) (runners : List (Runner τ)) :
    List.Forall₂ Follows runners (runInTurn input runners).2 := by
  induction runners with
  | nil => exact .nil
  | cons runner rest inductionHypothesis =>
      have ran := (Follows.refl runner).after input
      unfold Runner.after at ran
      simp only [runInTurn]
      split
      next unwound =>
        rw [unwound] at ran
        exact .cons ran (List.forall₂_same.mpr fun other _ => .refl other)
      next recorded =>
        rw [recorded] at ran
        exact .cons ran inductionHypothesis

/-- Executing an input leaves records exactly if each version shows one. -/
theorem execute_eq_ok_iff {campaign : Campaign τ ρ κ ψ} {input : List UInt8}
    {records : List Record} :
    (campaign.execute input).1 = .ok records ↔
      campaign.runners.map (Runner.observe campaign.options.parallel · input) =
        records.map some := by
  unfold execute
  cases campaign.options.parallel with
  | false => exact runInTurn_eq_ok_iff
  | true =>
      simp only [↓reduceIte]
      rw [Except.ok.injEq, ← map_fst_runBeside]
      exact (List.map_injective_iff.mpr (Option.some_injective Record)).eq_iff.symm

/-- Side by side the versions always leave their records. -/
theorem exists_recorded_beside {campaign : Campaign τ ρ κ ψ}
    (beside : campaign.options.parallel = true) (input : List UInt8) :
    ∃ records, (campaign.execute input).1 = .ok records := by
  unfold execute
  rw [beside]
  exact ⟨_, rfl⟩

/-- Executing an input changes nothing but the runners, each of which has run it if the
versions have left their records. -/
theorem execute_of_ok {campaign : Campaign τ ρ κ ψ} {input : List UInt8} {records : List Record}
    (recorded : (campaign.execute input).1 = .ok records) :
    (campaign.execute input).2 =
      { campaign with runners := campaign.runners.map (Runner.after · input) } := by
  unfold execute at recorded ⊢
  cases parallel : campaign.options.parallel with
  | false =>
      simp only [parallel, Bool.false_eq_true, ↓reduceIte] at recorded ⊢
      rw [map_snd_runInTurn recorded]
  | true =>
      simp only [↓reduceIte]
      rw [map_snd_runBeside]

/-- However an execution ends, every runner goes on from where it was. -/
theorem execute_follows (campaign : Campaign τ ρ κ ψ) (input : List UInt8) :
    ∃ runners, (campaign.execute input).2 = { campaign with runners } ∧
      List.Forall₂ Follows campaign.runners runners := by
  unfold execute
  cases campaign.options.parallel with
  | false => exact ⟨_, rfl, follows_runInTurn input campaign.runners⟩
  | true =>
      refine ⟨_, rfl, ?_⟩
      rw [map_snd_runBeside]
      exact List.forall₂_map_right_iff.mpr
        (List.forall₂_same.mpr fun runner _ => (Follows.refl runner).after input)

end Execution

/-- One completed step: what it ran, when, what the versions recorded, what feedback made
of the records and how the step ended. -/
structure Turn where
  candidate : Candidate
  iteration : Nat
  records : List Record
  novelty : Except FeedbackError Novelty
  outcome : StepOutcome

namespace Turn

/-- What the step has revealed; records that feedback refuses reveal nothing. -/
def revealed (turn : Turn) : Novelty := turn.novelty.toOption.getD {}

/-- The entry that the step has added to the corpus. -/
def entry? (turn : Turn) : Option Entry :=
  turn.outcome.retained.map fun id =>
    ⟨id, turn.candidate.input, metadata turn.candidate.source turn.iteration turn.revealed⟩

end Turn

section Step

variable [Target τ] [RandomSource ρ] [Scheduler κ] [Reporting ψ]

/-- A campaign takes a step that ends with an outcome. -/
structure Completes (before : Campaign τ ρ κ ψ) (turn : Turn) (after : Campaign τ ρ κ ψ) :
    Prop where
  stepped : before.step = (.ok turn.outcome, after)
  candidate : before.select.1 = .ok turn.candidate
  iteration : before.tally.iterations = turn.iteration
  recorded : (before.select.2.execute turn.candidate.input).1 = .ok turn.records
  novelty : (before.feedback.evaluate turn.records).1 = turn.novelty

variable {campaign : Campaign τ ρ κ ψ} {candidate : Candidate} {records : List Record}

/-- A step that gets its records goes on to evaluate and to retain. -/
theorem step_of_recorded (selected : campaign.select.1 = .ok candidate)
    (recorded : (campaign.select.2.execute candidate.input).1 = .ok records) :
    campaign.step =
      let evaluated :=
        (campaign.select.2.execute candidate.input).2.evaluate candidate.input records
      let retained := evaluated.2.2.retain candidate evaluated.1 evaluated.2.1
      (.ok retained.1, retained.2) := by
  rcases chose : campaign.select with ⟨result, middle⟩
  rw [chose] at selected recorded
  obtain rfl : result = .ok candidate := selected
  rcases ran : middle.execute candidate.input with ⟨result, executed⟩
  obtain rfl : result = .ok records := by rwa [ran] at recorded
  unfold step
  simp only [chose, ran]

/-- Without a candidate a step ends where its selection did. -/
theorem step_of_unselected {payload : Payload} (selected : campaign.select.1 = .error payload) :
    campaign.step = (.error payload, campaign.select.2) := by
  rcases chose : campaign.select with ⟨result, middle⟩
  obtain rfl : result = .error payload := by rwa [chose] at selected
  unfold step
  simp only [chose]

/-- Without records a step ends where its execution did. -/
theorem step_of_unrecorded {payload : Payload} (selected : campaign.select.1 = .ok candidate)
    (unwound : (campaign.select.2.execute candidate.input).1 = .error payload) :
    campaign.step = (.error payload, (campaign.select.2.execute candidate.input).2) := by
  rcases chose : campaign.select with ⟨result, middle⟩
  rw [chose] at selected unwound
  obtain rfl : result = .ok candidate := selected
  rcases ran : middle.execute candidate.input with ⟨result, executed⟩
  obtain rfl : result = .error payload := by rwa [ran] at unwound
  unfold step
  simp only [chose, ran]

/-- A step that gets its records from every version ends with an outcome. -/
theorem exists_completes_of_recorded (selected : campaign.select.1 = .ok candidate)
    (recorded : (campaign.select.2.execute candidate.input).1 = .ok records) :
    ∃ turn after, Completes campaign turn after ∧ turn.candidate = candidate ∧
      turn.records = records :=
  ⟨⟨candidate, campaign.tally.iterations, records, (campaign.feedback.evaluate records).1, _⟩, _,
    ⟨step_of_recorded selected recorded, selected, rfl, recorded, rfl⟩, rfl, rfl⟩

/-- Every step that ends with an outcome is a turn. -/
theorem exists_completes {before after : Campaign τ ρ κ ψ} {outcome : StepOutcome}
    (stepped : before.step = (.ok outcome, after)) :
    ∃ turn, turn.outcome = outcome ∧ Completes before turn after := by
  cases selected : before.select.1 with
  | error payload =>
      rw [step_of_unselected selected] at stepped
      cases stepped
  | ok candidate =>
      cases recorded : (before.select.2.execute candidate.input).1 with
      | error payload =>
          rw [step_of_unrecorded selected recorded] at stepped
          cases stepped
      | ok records =>
          obtain ⟨turn, next, completes, _⟩ := exists_completes_of_recorded selected recorded
          have same := completes.stepped.symm.trans stepped
          simp only [Prod.mk.injEq, Except.ok.injEq] at same
          obtain ⟨outcomes, rfl⟩ := same
          exact ⟨turn, outcomes, completes⟩

end Step

section Settle

variable [Reporting ψ]

/-- Evaluating records touches feedback, the tally and what is reported, and nothing else. -/
theorem evaluate_eq (campaign : Campaign τ ρ κ ψ) (input : List UInt8) (records : List Record) :
    ∃ tally reporter log, (campaign.evaluate input records).2.2 =
      { campaign with
        feedback := (campaign.feedback.evaluate records).2, tally, reporter, log } ∧
      tally.iterations = campaign.tally.iterations := by
  have counted : ∀ (stats : Stats) (verdict : Verdict),
      (count stats verdict).iterations = stats.iterations := by
    intro stats verdict
    cases verdict <;> rfl
  unfold evaluate
  dsimp only
  split
  · exact ⟨_, _, _, rfl, counted _ _⟩
  · exact ⟨_, campaign.reporter, campaign.log, rfl, counted _ _⟩

/-- What a step makes of its records: feedback takes them in, and the input is added to the
corpus exactly if they have revealed something. -/
theorem retain_evaluate [Scheduler κ] (campaign : Campaign τ ρ κ ψ) (candidate : Candidate)
    (records : List Record) :
    let evaluated := campaign.evaluate candidate.input records
    let retained := evaluated.2.2.retain candidate evaluated.1 evaluated.2.1
    retained.1.retained = (if evaluated.1.isNovel then some campaign.corpus.size else none) ∧
      ∃ findings scheduler tally reporter log, retained.2 =
        { campaign with
          feedback := (campaign.feedback.evaluate records).2
          corpus :=
            if evaluated.1.isNovel then
              campaign.corpus.add candidate.input
                (metadata candidate.source campaign.tally.iterations evaluated.1)
            else campaign.corpus
          findings, scheduler, tally, reporter, log } := by
  obtain ⟨tally, reporter, log, evaluated, counted⟩ :=
    evaluate_eq campaign candidate.input records
  dsimp only
  rw [evaluated]
  unfold retain
  dsimp only
  rw [counted]
  exact ⟨rfl, _, _, _, _, _, rfl⟩

end Settle

namespace Completes

variable [Target τ] [RandomSource ρ] [Scheduler κ] [Reporting ψ]
variable {before after : Campaign τ ρ κ ψ} {turn : Turn}

/-- A completed step, stage by stage: a candidate is selected, the runners run it, feedback
takes in their records, and what was novel is added to the corpus. -/
theorem stages (completes : Completes before turn after) :
    ∃ selected findings scheduler tally reporter log,
      Selection before (.ok turn.candidate) selected ∧
      turn.outcome.retained =
        (if turn.revealed.isNovel then some before.corpus.size else none) ∧
      after =
        { selected with
          runners := before.runners.map (Runner.after · turn.candidate.input)
          feedback := (before.feedback.evaluate turn.records).2
          corpus :=
            if turn.revealed.isNovel then
              selected.corpus.add turn.candidate.input
                (metadata turn.candidate.source turn.iteration turn.revealed)
            else selected.corpus
          findings, scheduler, tally, reporter, log } := by
  have recorded := completes.recorded
  have selection := selection before
  have stepped := completes.stepped
  have iteration := completes.iteration
  rw [completes.candidate] at selection
  have executed := execute_of_ok recorded
  rw [step_of_recorded completes.candidate recorded] at stepped
  obtain ⟨retained, findings, scheduler, tally, reporter, log, final⟩ := retain_evaluate
    (before.select.2.execute turn.candidate.input).2 turn.candidate turn.records
  have revealed : ((before.select.2.execute turn.candidate.input).2.evaluate
      turn.candidate.input turn.records).1 = turn.revealed := by
    have fed : (before.select.2.execute turn.candidate.input).2.feedback = before.feedback := by
      rw [executed, selection.feedback]
    rw [Turn.revealed, ← completes.novelty, ← fed]
    rfl
  have sized : before.select.2.corpus.size = before.corpus.size := by
    rw [← Corpus.length_kept, ← Corpus.length_kept, selection.kept]
  simp only [Prod.mk.injEq, Except.ok.injEq] at stepped
  rw [revealed, executed] at retained final
  obtain ⟨outcome, finished⟩ := stepped
  rw [revealed, executed] at outcome finished
  refine ⟨before.select.2, findings, scheduler, tally, reporter, log, selection, ?_, ?_⟩
  · rw [← outcome, retained, ← sized]
  · rw [← finished, final]
    simp only [selection.runners, selection.feedback, selection.tally, iteration]

/-- A step retains its input under the next free number if the records revealed something,
and not at all otherwise. -/
theorem retained (completes : Completes before turn after) :
    turn.outcome.retained =
      if turn.revealed.isNovel then some before.corpus.size else none := by
  obtain ⟨_, _, _, _, _, _, _, retained, _⟩ := completes.stages
  exact retained

theorem feedback (completes : Completes before turn after) :
    after.feedback = (before.feedback.evaluate turn.records).2 := by
  obtain ⟨_, _, _, _, _, _, _, _, rfl⟩ := completes.stages
  rfl

theorem runners (completes : Completes before turn after) :
    after.runners = before.runners.map (Runner.after · turn.candidate.input) := by
  obtain ⟨_, _, _, _, _, _, _, _, rfl⟩ := completes.stages
  rfl

theorem options (completes : Completes before turn after) : after.options = before.options := by
  obtain ⟨_, _, _, _, _, _, selection, _, rfl⟩ := completes.stages
  exact selection.options

/-- The corpus grows by the entry of the step, if it has one. -/
theorem kept (completes : Completes before turn after) :
    after.corpus.kept = before.corpus.kept ++ turn.entry?.toList := by
  obtain ⟨selected, _, _, _, _, _, selection, retained, rfl⟩ := completes.stages
  have sized : selected.corpus.size = before.corpus.size := by
    rw [← Corpus.length_kept, ← Corpus.length_kept, selection.kept]
  dsimp only
  rw [Turn.entry?, retained]
  split
  · rw [Corpus.kept_add, selection.kept, sized]
    rfl
  · simp [selection.kept]

/-- The corpus takes in the input of a turn that has retained it. -/
theorem inputs (completes : Completes before turn after) :
    after.corpus.inputs = before.corpus.inputs ++
      (turn.outcome.retained.map fun _ => turn.candidate.input).toList := by
  rw [Corpus.inputs_eq, Corpus.inputs_eq, completes.kept, List.map_append, Turn.entry?]
  cases turn.outcome.retained <;> rfl

/-- A step retains its input exactly if it has revealed anything. -/
theorem isSome_retained_iff (completes : Completes before turn after) :
    turn.outcome.retained.isSome = true ↔ turn.revealed.novelEdges ≠ 0 := by
  rw [completes.retained]
  by_cases novel : turn.revealed.novelEdges = 0 <;> simp [Novelty.isNovel, novel]
  omega

/-- The entry of a step, if it has one, counts all that the step has revealed. -/
theorem sum_entry (completes : Completes before turn after) :
    (turn.entry?.toList.map fun entry => entry.metadata.novelEdges).sum =
      turn.revealed.novelEdges := by
  have kept := completes.isSome_retained_iff
  cases retained : turn.outcome.retained with
  | none =>
      have nothing : turn.revealed.novelEdges = 0 := by simpa [retained] using kept
      simp [Turn.entry?, retained, nothing]
  | some id => simp [Turn.entry?, retained, metadata]

/-- The records are those that the runners show for the candidate. -/
theorem observed (completes : Completes before turn after) :
    List.Forall₂ (fun runner record =>
      runner.observe before.options.parallel turn.candidate.input = some record)
      before.runners turn.records := by
  have selection := selection before
  have recorded := execute_eq_ok_iff.mp completes.recorded
  rw [selection.runners, selection.options] at recorded
  rwa [← List.forall₂_eq_eq_eq, List.forall₂_map_left_iff, List.forall₂_map_right_iff] at recorded

/-- A pending input is taken from the front of what is pending. -/
theorem pending (completes : Completes before turn after) {input : List UInt8}
    {rest : List (List UInt8)} (waiting : before.pending = input :: rest) :
    turn.candidate = ⟨input, .seed⟩ ∧ after.pending = rest := by
  obtain ⟨selected, _, _, _, _, _, selection, _, rfl⟩ := completes.stages
  obtain ⟨same, rest⟩ := selection.pending waiting
  exact ⟨Except.ok.inj same, rest⟩

end Completes
end Campaign
end Crosscheck
