import Mathlib
import Crosscheck.Proofs.Campaign.History

/-!
# Everything that happens to a campaign

A history lists completed steps alone. A chronicle lists every event, so it can also tell
how many steps have unwound, and whether a scheduler was put in place of another. `settles`
complements `stages`: it says what a completed step leaves in both corpora, in the scheduler
and in the number of iterations.
-/

namespace Crosscheck.Campaign

variable {τ ρ κ ψ : Type}

section Settlement

/-- What a turn leaves behind, in terms of the campaign that has selected its candidate. -/
structure Settles [Scheduler κ] (selected : Campaign τ ρ κ ψ) (turn : Turn)
    (after : Campaign τ ρ κ ψ) : Prop where
  source : turn.outcome.source = turn.candidate.source
  novelEdges : turn.outcome.novelEdges = turn.revealed.novelEdges
  iteration : turn.iteration = selected.tally.iterations
  iterations : after.tally.iterations = turn.iteration + 1
  scheduler : after.scheduler =
    learn selected.scheduler turn.revealed turn.outcome.verdict turn.candidate.source
  corpus : after.corpus =
    if turn.revealed.isNovel then
      selected.corpus.add turn.candidate.input
        (metadata turn.candidate.source turn.iteration turn.revealed)
    else selected.corpus
  findings : after.findings =
    if turn.outcome.verdict.isFinding then
      selected.findings.add turn.candidate.input
        (metadata turn.candidate.source turn.iteration turn.revealed)
    else selected.findings

/-- Evaluating records and retaining their input settles the turn that consists of them. -/
theorem settles_retain [Reporting ψ] [Scheduler κ] (campaign : Campaign τ ρ κ ψ) (turn : Turn)
    (iteration : turn.iteration = campaign.tally.iterations)
    (novelty : turn.novelty = (campaign.feedback.evaluate turn.records).1)
    (outcome : turn.outcome =
      let evaluated := campaign.evaluate turn.candidate.input turn.records
      (evaluated.2.2.retain turn.candidate evaluated.1 evaluated.2.1).1) :
    let evaluated := campaign.evaluate turn.candidate.input turn.records
    Settles campaign turn (evaluated.2.2.retain turn.candidate evaluated.1 evaluated.2.1).2 := by
  obtain ⟨tally, reporter, log, evaluated, counted⟩ :=
    evaluate_eq campaign turn.candidate.input turn.records
  have revealed : (campaign.evaluate turn.candidate.input turn.records).1 = turn.revealed := by
    rw [Turn.revealed, novelty]
    rfl
  dsimp only at outcome ⊢
  rw [evaluated, revealed] at outcome ⊢
  have now : tally.iterations = turn.iteration := counted.trans iteration.symm
  exact
    { source := by rw [outcome]; rfl
      novelEdges := by rw [outcome]; rfl
      iteration := iteration
      iterations := congrArg (· + 1) now
      scheduler := by rw [outcome]; rfl
      corpus := by rw [← now]; rfl
      findings := by rw [outcome, ← now]; rfl }

variable [Target τ] [RandomSource ρ] [Scheduler κ] [Reporting ψ]

/-- A completed step settles its turn. -/
theorem Completes.settles {before after : Campaign τ ρ κ ψ} {turn : Turn}
    (completes : Completes before turn after) : Settles before.select.2 turn after := by
  have selection := selection before
  have recorded := completes.recorded
  have stepped := completes.stepped
  rw [step_of_recorded completes.candidate recorded, execute_of_ok recorded] at stepped
  simp only [Prod.mk.injEq, Except.ok.injEq] at stepped
  obtain ⟨outcome, rfl⟩ := stepped
  -- The runners have moved on by now, but what is settled does not depend on them.
  have settles := settles_retain { before.select.2 with
      runners := before.select.2.runners.map (Runner.after · turn.candidate.input) } turn
    (by rw [← completes.iteration, selection.tally])
    (by rw [← completes.novelty, selection.feedback]) outcome.symm
  exact ⟨settles.source, settles.novelEdges, settles.iteration, settles.iterations,
    settles.scheduler, settles.corpus, settles.findings⟩

/-- The entry that a step adds to the corpus is numbered by what the corpus held. -/
theorem Completes.entry_eq {before after : Campaign τ ρ κ ψ} {turn : Turn}
    (completes : Completes before turn after) {entry : Entry} (added : turn.entry? = some entry) :
    entry = ⟨before.corpus.size, turn.candidate.input,
      metadata turn.candidate.source turn.iteration turn.revealed⟩ := by
  rw [Turn.entry?, completes.retained] at added
  split at added
  · exact (Option.some.inj added).symm
  · cases added

/-- The entry of a turn among the findings, where the next free number is the given one. -/
def Turn.finding? (turn : Turn) (id : Nat) : Option Entry :=
  if turn.outcome.verdict.isFinding then
    some ⟨id, turn.candidate.input,
      metadata turn.candidate.source turn.iteration turn.revealed⟩
  else none

theorem Turn.finding_eq {turn : Turn} {id : Nat} {finding : Entry}
    (added : turn.finding? id = some finding) :
    finding = ⟨id, turn.candidate.input,
      metadata turn.candidate.source turn.iteration turn.revealed⟩ := by
  unfold finding? at added
  split at added
  · exact (Option.some.inj added).symm
  · cases added

/-- The findings grow by the entry of the step, if it has one, and nothing else changes in
them. -/
theorem Completes.findings {before after : Campaign τ ρ κ ψ} {turn : Turn}
    (completes : Completes before turn after) :
    after.findings.entries.toList =
      before.findings.entries.toList ++ (turn.finding? before.findings.size).toList := by
  rw [completes.settles.findings, (selection before).findings, Turn.finding?]
  split <;> simp [Corpus.add]

end Settlement

section Events

variable [Target τ] [RandomSource ρ] [Scheduler κ] [Reporting ψ]

/-- One thing that happens to a campaign. -/
inductive Event where
  | completed (turn : Turn)
  /-- A step has unwound. -/
  | unwound
  | seeded (seeds : List (List UInt8))
  /-- Another mutator has been put in place. -/
  | equipped
  /-- Another scheduler has been put in place. -/
  | rescheduled
  | published

/-- The turn of a completed step. -/
def Event.turn? : Event → Option Turn
  | .completed turn => some turn
  | _ => none

/-- Whether a step has unwound. -/
def Event.isUnwound : Event → Bool
  | .unwound => true
  | _ => false

/-- An event takes a campaign to another. -/
inductive Happens (before : Campaign τ ρ κ ψ) : Event → Campaign τ ρ κ ψ → Prop where
  | completed {turn after} (completes : Completes before turn after) :
      Happens before (.completed turn) after
  | unwound {payload after} (unwound : before.step = (.error payload, after)) :
      Happens before .unwound after
  | seeded (seeds : List (List UInt8)) :
      Happens before (.seeded seeds) (before.withSeeds seeds)
  | equipped (mutator : Mutator ρ) : Happens before .equipped { before with mutator }
  | rescheduled (scheduler : κ) : Happens before .rescheduled { before with scheduler }
  | published : Happens before .published before.publish

/-- The ways of a campaign from its origin, with all that has happened on them. -/
inductive Chronicle (origin : Campaign τ ρ κ ψ) : List Event → Campaign τ ρ κ ψ → Prop where
  | start : Chronicle origin [] origin
  | next {events before event after} (prior : Chronicle origin events before)
      (happens : Happens before event after) : Chronicle origin (events ++ [event]) after

variable {origin campaign : Campaign τ ρ κ ψ} {events : List Event} {turns : List Turn}

/-- What happens is a completed step or one of the other things that a history knows. -/
theorem Happens.turn_or_aside {before after : Campaign τ ρ κ ψ} {event : Event}
    (happens : Happens before event after) :
    (∃ turn, event = .completed turn ∧ Completes before turn after) ∨
      event.turn? = none ∧ Aside before after := by
  cases happens with
  | completed completes => exact .inl ⟨_, rfl, completes⟩
  | unwound unwound => exact .inr ⟨rfl, .unwind unwound⟩
  | seeded seeds => exact .inr ⟨rfl, .seed seeds⟩
  | equipped mutator => exact .inr ⟨rfl, .configure mutator before.scheduler⟩
  | rescheduled scheduler => exact .inr ⟨rfl, .configure before.mutator scheduler⟩
  | published => exact .inr ⟨rfl, .publish⟩

/-- A chronicle is a history of its completed steps. -/
theorem Chronicle.history (chronicle : Chronicle origin events campaign) :
    History origin (events.filterMap Event.turn?) campaign := by
  induction chronicle with
  | start => exact .start
  | next _ happens inductionHypothesis =>
      rw [List.filterMap_append]
      rcases happens.turn_or_aside with ⟨turn, rfl, completes⟩ | ⟨quiet, aside⟩
      · exact inductionHypothesis.turn completes
      · rw [List.filterMap_cons_none quiet, List.filterMap_nil, List.append_nil]
        exact inductionHypothesis.aside aside

/-- Nothing is ever removed from the findings or changed in them. -/
theorem History.prefix_findings (history : History origin turns campaign) :
    origin.findings.entries.toList <+: campaign.findings.entries.toList := by
  induction history with
  | start => exact List.prefix_rfl
  | turn _ completes inductionHypothesis =>
      rw [completes.findings]
      exact inductionHypothesis.trans (List.prefix_append _ _)
  | aside _ aside inductionHypothesis => rwa [aside.findings]

end Events
end Crosscheck.Campaign
