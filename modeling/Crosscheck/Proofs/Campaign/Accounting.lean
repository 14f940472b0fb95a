import Mathlib
import Crosscheck.Reporter.Recorder
import Crosscheck.Proofs.Campaign.History

/-!
# What campaigns count, keep and report

A step counts its verdict and reports its finding before it retains anything, and what came
of the report has no bearing on what it retains. `Accrues` says by how much the counters, the
findings and what the reporter was told have grown over some turns. It holds of a completed
step, of whatever else happens to a campaign, and of two stretches together if it holds of
each, so it holds of every history.
-/

namespace Crosscheck

namespace Stats

/-- How many verdicts have been counted. -/
def verdicts (stats : Stats) : Nat :=
  stats.agreements + stats.divergences + stats.faults + stats.sharedFaults + stats.unresolved

/-- How many of them were findings. -/
def escalated (stats : Stats) : Nat := stats.divergences + stats.faults + stats.sharedFaults

/-- The counter of all verdicts that go by the name of this one. -/
def counter (stats : Stats) : Verdict → Nat
  | .agree => stats.agreements
  | .diverge _ => stats.divergences
  | .fault _ => stats.faults
  | .sharedFault _ => stats.sharedFaults
  | .unresolved _ => stats.unresolved

end Stats

theorem Corpus.inputs_add (corpus : Corpus) (input : List UInt8) (metadata : Metadata) :
    (corpus.add input metadata).inputs = corpus.inputs ++ [input] := by
  simp [inputs, add]

namespace Campaign

section Counting

theorem iterations_count (stats : Stats) (verdict : Verdict) :
    (count stats verdict).iterations = stats.iterations := by
  cases verdict <;> rfl

theorem verdicts_count (stats : Stats) (verdict : Verdict) :
    (count stats verdict).verdicts = stats.verdicts + 1 := by
  cases verdict <;> simp only [count, Stats.verdicts] <;> omega

theorem escalated_count (stats : Stats) (verdict : Verdict) :
    (count stats verdict).escalated =
      stats.escalated + if verdict.isFinding then 1 else 0 := by
  cases verdict <;> simp only [count, Stats.escalated, Verdict.isFinding] <;> grind

theorem counter_count (stats : Stats) (verdict other : Verdict) :
    (count stats verdict).counter other =
      stats.counter other + if verdict.name == other.name then 1 else 0 := by
  cases verdict <;> cases other <;> rfl

end Counting

section Calls

/-- One call to a reporter. -/
inductive Call where
  | finding (report : Finding)
  | stats (counts : Stats)

/-- The finding that a call is about, if it is about one. -/
def Call.finding? : Call → Option Finding
  | .finding report => some report
  | .stats _ => none

/-- A reporter and the log after a call, whether or not the reporter has refused it. -/
def Call.receive {ψ : Type} [Reporting ψ] (heard : ψ × Array LogEvent) (call : Call) :
    ψ × Array LogEvent :=
  let reported :=
    match call with
    | .finding report => Reporting.finding heard.1 report
    | .stats counts => Reporting.stats heard.1 counts
  (reported.reporter, heard.2 ++ reported.events.toArray)

end Calls

namespace Turn

/-- What the comparison of the records comes to. -/
def report (predicate : Predicate) (turn : Turn) : Finding :=
  .ofRecords predicate turn.candidate.input turn.records

/-- What there is to report of a turn. -/
def reports (predicate : Predicate) (turn : Turn) : List Finding :=
  if (turn.report predicate).verdict.isFinding then [turn.report predicate] else []

theorem length_reports (predicate : Predicate) (turn : Turn) :
    (turn.reports predicate).length =
      if (turn.report predicate).verdict.isFinding then 1 else 0 := by
  unfold reports
  split <;> rfl

end Turn

namespace Selection

variable {τ ρ κ ψ : Type} {campaign selected : Campaign τ ρ κ ψ}
  {result : Except Payload Candidate}

theorem reported (selection : Selection campaign result selected) :
    (selected.reporter, selected.log) = (campaign.reporter, campaign.log) := by
  cases selection <;> rfl

end Selection

section Accrual

variable {τ ρ κ ψ : Type} [Reporting ψ]

/-- By how much a campaign has grown over some turns. -/
structure Accrues (before : Campaign τ ρ κ ψ) (turns : List Turn) (after : Campaign τ ρ κ ψ) :
    Prop where
  predicate : after.predicate = before.predicate
  runners : after.runners.length = before.runners.length
  compared : ∀ turn ∈ turns, turn.outcome.verdict = (turn.report before.predicate).verdict
  iterations : after.tally.iterations = before.tally.iterations + turns.length
  executions : after.tally.executions =
    before.tally.executions + turns.length * before.runners.length
  verdicts : after.tally.verdicts = before.tally.verdicts + turns.length
  /-- Each verdict has been counted by its own counter. -/
  counter : ∀ verdict, after.tally.counter verdict =
    before.tally.counter verdict +
      turns.countP fun turn => turn.outcome.verdict.name == verdict.name
  escalated : after.tally.escalated =
    before.tally.escalated + (turns.flatMap (Turn.reports before.predicate)).length
  /-- The inputs of what there was to report have been kept. -/
  findings : after.findings.inputs =
    before.findings.inputs ++ (turns.flatMap (Turn.reports before.predicate)).map Finding.input
  /-- The reporter has been called for each of these, and otherwise for statistics only. -/
  reported : ∃ calls : List Call,
    (after.reporter, after.log) = calls.foldl Call.receive (before.reporter, before.log) ∧
      calls.filterMap Call.finding? = turns.flatMap (Turn.reports before.predicate)

variable {before middle after : Campaign τ ρ κ ψ}

/-- Nothing accrues where the tally and the findings stay and at most statistics are told. -/
theorem Accrues.of_idle (predicate : after.predicate = before.predicate)
    (runners : after.runners.length = before.runners.length)
    (tally : after.tally = before.tally) (findings : after.findings = before.findings)
    (published : List Stats) (reported : (after.reporter, after.log) =
      (published.map Call.stats).foldl Call.receive (before.reporter, before.log)) :
    Accrues before [] after where
  predicate := predicate
  runners := runners
  compared := by simp
  iterations := by simp [tally]
  executions := by simp [tally]
  verdicts := by simp [tally]
  counter verdict := by simp [tally]
  escalated := by simp [tally]
  findings := by simp [findings]
  reported := ⟨published.map Call.stats, reported, by simp [List.filterMap_map, Call.finding?]⟩

/-- Two stretches of turns together. -/
theorem Accrues.append {first second : List Turn} (head : Accrues before first middle)
    (tail : Accrues middle second after) : Accrues before (first ++ second) after where
  predicate := tail.predicate.trans head.predicate
  runners := tail.runners.trans head.runners
  compared turn member := by
    rcases List.mem_append.mp member with early | late
    · exact head.compared turn early
    · exact head.predicate ▸ tail.compared turn late
  iterations := by rw [tail.iterations, head.iterations, List.length_append, Nat.add_assoc]
  executions := by
    rw [tail.executions, head.executions, head.runners, List.length_append, Nat.add_mul,
      Nat.add_assoc]
  verdicts := by rw [tail.verdicts, head.verdicts, List.length_append, Nat.add_assoc]
  counter verdict := by rw [tail.counter, head.counter, List.countP_append, Nat.add_assoc]
  escalated := by
    rw [tail.escalated, head.escalated, head.predicate, List.flatMap_append, List.length_append,
      Nat.add_assoc]
  findings := by
    rw [tail.findings, head.findings, head.predicate, List.flatMap_append, List.map_append,
      List.append_assoc]
  reported := by
    obtain ⟨earlier, told, found⟩ := head.reported
    obtain ⟨later, toldLater, foundLater⟩ := tail.reported
    refine ⟨earlier ++ later, ?_, ?_⟩
    · rw [toldLater, told, List.foldl_append]
    · rw [List.filterMap_append, found, foundLater, head.predicate, List.flatMap_append]

/-- Until a candidate has been run everywhere nothing accrues. -/
theorem Selection.accrues {campaign selected : Campaign τ ρ κ ψ}
    {result : Except Payload Candidate} {runners : List (Runner τ)}
    (selection : Selection campaign result selected)
    (kept : runners.length = campaign.runners.length) :
    Accrues campaign [] { selected with runners } :=
  .of_idle selection.predicate kept selection.tally selection.findings [] selection.reported

/-- Evaluating the records of a turn counts them and their verdict, and reports what there is
to report. -/
theorem evaluate_turn (campaign : Campaign τ ρ κ ψ) (turn : Turn) :
    ∃ feedback elapsed,
      let heard := ((turn.reports campaign.predicate).map Call.finding).foldl Call.receive
        (campaign.reporter, campaign.log)
      (campaign.evaluate turn.candidate.input turn.records).2.2 =
        { campaign with
          feedback
          tally :=
            { count campaign.tally (turn.report campaign.predicate).verdict with
              executions := campaign.tally.executions + turn.records.length
              elapsed }
          reporter := heard.1
          log := heard.2 } := by
  refine ⟨(campaign.feedback.evaluate turn.records).2,
    campaign.tally.elapsed + elapsed campaign.options turn.records, ?_⟩
  unfold evaluate Turn.reports Turn.report
  dsimp only
  split <;> rfl

/-- Evaluating and retaining the records of a turn accrues that turn. -/
theorem accrues_retain [Scheduler κ] (campaign : Campaign τ ρ κ ψ) (turn : Turn)
    (recorded : turn.records.length = campaign.runners.length)
    (verdict : turn.outcome.verdict = (turn.report campaign.predicate).verdict) :
    let evaluated := campaign.evaluate turn.candidate.input turn.records
    Accrues campaign [turn] (evaluated.2.2.retain turn.candidate evaluated.1 evaluated.2.1).2 := by
  have judged : (campaign.evaluate turn.candidate.input turn.records).2.1 =
      (turn.report campaign.predicate).verdict := rfl
  obtain ⟨feedback, elapsed, evaluated⟩ := evaluate_turn campaign turn
  dsimp only at evaluated ⊢
  rw [evaluated, judged]
  exact
    { predicate := rfl
      runners := rfl
      compared := by simpa using verdict
      iterations := congrArg (· + 1) (iterations_count _ _)
      executions := by simp [retain, recorded]
      verdicts := verdicts_count _ _
      counter := by
        intro other
        rw [List.countP_singleton, verdict]
        exact counter_count _ _ other
      escalated := by
        rw [List.flatMap_singleton, Turn.length_reports]
        exact escalated_count _ _
      findings := by
        rw [List.flatMap_singleton, Turn.reports]
        dsimp only [retain]
        split
        · exact Corpus.inputs_add _ _ _
        · simp
      reported := by
        refine ⟨(turn.reports campaign.predicate).map Call.finding, rfl, ?_⟩
        rw [List.flatMap_singleton, List.filterMap_map]
        exact List.filterMap_some }

end Accrual

section History

variable {τ ρ κ ψ : Type} [Target τ] [RandomSource ρ] [Scheduler κ] [Reporting ψ]
variable {origin before after campaign : Campaign τ ρ κ ψ} {turn : Turn} {turns : List Turn}

/-- A completed step accrues its turn. -/
theorem Completes.accrues (completes : Completes before turn after) :
    Accrues before [turn] after := by
  have selection := selection before
  have recorded := completes.recorded
  have stepped := completes.stepped
  rw [step_of_recorded completes.candidate recorded, execute_of_ok recorded] at stepped
  simp only [Prod.mk.injEq, Except.ok.injEq] at stepped
  obtain ⟨outcome, rfl⟩ := stepped
  have length : (before.select.2.runners.map (Runner.after · turn.candidate.input)).length =
      before.runners.length := by
    rw [List.length_map, selection.runners]
  -- Up to the execution the campaign is idle, and what follows sees its runners only.
  refine (selection.accrues length).append (accrues_retain _ turn ?_ ?_)
  · exact completes.observed.length_eq.symm.trans length.symm
  · exact (congrArg StepOutcome.verdict outcome).symm

/-- Nothing else that happens to a campaign accrues anything. -/
theorem Aside.accrues (aside : Aside before after) : Accrues before [] after := by
  cases aside with
  | unwind unwound =>
      obtain ⟨_, _, _, selection, rfl, follows⟩ := step_of_unwound unwound
      exact selection.accrues follows.length_eq.symm
  | seed => exact .of_idle rfl rfl rfl rfl [] rfl
  | configure => exact .of_idle rfl rfl rfl rfl [] rfl
  | publish => exact .of_idle rfl rfl rfl rfl [before.stats] rfl

/-- A history accrues the turns that it lists. -/
theorem History.accrues (history : History origin turns campaign) :
    Accrues origin turns campaign := by
  induction history with
  | start => exact .of_idle rfl rfl rfl rfl [] rfl
  | turn _ completes inductionHypothesis => exact inductionHypothesis.append completes.accrues
  | aside _ aside inductionHypothesis => simpa using inductionHypothesis.append aside.accrues

/-- How the statistics of a campaign, its findings and what its reporter was told go together. -/
structure Accounted (predicate : Predicate) (reporter : ψ) (turns : List Turn)
    (campaign : Campaign τ ρ κ ψ) : Prop where
  /-- The outcome of each step has the verdict of its comparison. -/
  compared : ∀ turn ∈ turns, turn.outcome.verdict = (turn.report predicate).verdict
  /-- Every completed step is an iteration, and nothing else is. -/
  completed : campaign.stats.iterations = turns.length
  /-- Every iteration has come to one verdict. -/
  judged : campaign.stats.iterations =
    campaign.stats.agreements + campaign.stats.divergences + campaign.stats.faults +
      campaign.stats.sharedFaults + campaign.stats.unresolved
  /-- Each verdict has been counted by its own counter. -/
  counted : ∀ verdict, campaign.stats.counter verdict =
    turns.countP fun turn => turn.outcome.verdict.name == verdict.name
  /-- Every version has run the input of every iteration. -/
  executed : campaign.stats.executions = campaign.stats.iterations * campaign.runners.length
  /-- What was a finding has been kept. -/
  kept : campaign.findings.size =
    campaign.stats.divergences + campaign.stats.faults + campaign.stats.sharedFaults
  /-- Each finding has been reported once, in the order of the kept inputs. -/
  reported : ∃ calls : List Call,
    (campaign.reporter, campaign.log) = calls.foldl Call.receive (reporter, #[]) ∧
      calls.filterMap Call.finding? = turns.flatMap (Turn.reports predicate) ∧
      (calls.filterMap Call.finding?).map Finding.input = campaign.findings.inputs

/-- However a campaign goes on from its start, its books are in order: every iteration has run
on all versions and come to one verdict, and there are as many kept findings, each reported
once with its own input and in order, as verdicts to report. This holds for every reporter,
so no refusal of a report changes it. -/
theorem accounted_of_history {runners : List (Runner τ)} {predicate : Predicate}
    {mutator : Mutator ρ} {scheduler : κ} {reporter : ψ} {options : CampaignOptions} {random : ρ}
    (built : ofRunners runners predicate mutator scheduler reporter options random = .ok origin)
    (history : History origin turns campaign) :
    campaign.runners.length = runners.length ∧
      Accounted predicate reporter turns campaign := by
  obtain ⟨_, _, rfl⟩ := of_ofRunners built
  have accrues := history.accrues
  -- Every count starts from zero and every list from nothing.
  have iterations : campaign.tally.iterations = turns.length :=
    accrues.iterations.trans (Nat.zero_add _)
  have verdicts : campaign.tally.verdicts = turns.length :=
    accrues.verdicts.trans (Nat.zero_add _)
  have executions : campaign.tally.executions = turns.length * runners.length :=
    accrues.executions.trans (Nat.zero_add _)
  have escalated : campaign.tally.escalated = (turns.flatMap (Turn.reports predicate)).length :=
    accrues.escalated.trans (Nat.zero_add _)
  have findings : campaign.findings.inputs =
      (turns.flatMap (Turn.reports predicate)).map Finding.input := accrues.findings
  exact ⟨accrues.runners,
    { compared := accrues.compared
      completed := iterations
      judged := iterations.trans verdicts.symm
      counted := by
        intro verdict
        have counted := accrues.counter verdict
        cases verdict <;> exact counted.trans (Nat.zero_add _)
      executed := by
        calc campaign.tally.executions
          _ = turns.length * runners.length := executions
          _ = campaign.tally.iterations * campaign.runners.length := by
              rw [iterations, accrues.runners]
      kept := by
        calc campaign.findings.size
          _ = (turns.flatMap (Turn.reports predicate)).length := by
              rw [← Corpus.length_inputs, findings, List.length_map]
          _ = campaign.tally.escalated := escalated.symm
      reported := by
        obtain ⟨calls, heard, found⟩ := accrues.reported
        exact ⟨calls, heard, found, by rw [found, findings]⟩ }⟩

end History

section Recorded

/-- A recorder keeps every finding that it is called for, even if it refuses the calls. -/
theorem findings_foldl_receive (calls : List Call) (heard : Recorder × Array LogEvent) :
    (calls.foldl Call.receive heard).1.findings.toList =
      heard.1.findings.toList ++ calls.filterMap Call.finding? := by
  induction calls generalizing heard with
  | nil => simp
  | cons call rest inductionHypothesis =>
      rw [List.foldl_cons, inductionHypothesis]
      cases call <;>
        simp [Call.receive, Call.finding?, Reporting.finding, Reporting.stats, List.filterMap_cons]

/-- So a recorder that starts out empty has the very inputs that the campaign has kept. -/
theorem Accounted.recorded {τ ρ κ : Type} {predicate : Predicate} {refusal : Option Failure}
    {turns : List Turn} {campaign : Campaign τ ρ κ Recorder}
    (accounted : Accounted predicate { refusal } turns campaign) :
    campaign.reporter.findings.toList.map Finding.input = campaign.findings.inputs := by
  obtain ⟨calls, heard, _, kept⟩ := accounted.reported
  have told := findings_foldl_receive calls ({ refusal }, #[])
  rw [← heard] at told
  rw [← kept, told]
  rfl

/-- Two versions that echo their input under a predicate that no outputs meet, with a recorder
that refuses every call. -/
def disputed : Campaign InlineTarget Random.Cycle PinnedScheduler Recorder :=
  { echoing with
    predicate := fun _ _ => .ok false
    reporter := { refusal := some (.because "refused") } }

theorem ofRunners_disputed :
    ofRunners [.echo "a", .echo "b"] disputed.predicate Mutation.octetShift PinnedScheduler.never
      disputed.reporter {} (Random.Cycle.ofList []) = .ok disputed := rfl

/-- Two findings are kept and reported to a recorder that has refused the first of them. -/
theorem accounted_of_history_refused : ∃ turns campaign,
    History disputed turns campaign ∧
      campaign.findings.inputs = [[1], [2]] ∧
      campaign.reporter.findings.toList.map Finding.input = [[1], [2]] ∧
      Accounted disputed.predicate disputed.reporter turns campaign := by
  let seeded := disputed.withSeeds [[1], [2]]
  have first : seeded.step = (.ok ⟨.seed, .diverge ["b"], 2, some 0, some 0⟩, seeded.step.2) :=
    Prod.ext (by decide +kernel) rfl
  have second : seeded.step.2.publish.step =
      (.ok ⟨.seed, .diverge ["b"], 2, some 1, some 1⟩, seeded.step.2.publish.step.2) :=
    Prod.ext (by decide +kernel) rfl
  obtain ⟨_, _, early⟩ := exists_completes first
  obtain ⟨_, _, late⟩ := exists_completes second
  have history :=
    (((History.start.aside (Aside.seed [[1], [2]])).turn early).aside .publish).turn late
  exact ⟨_, _, history, by decide +kernel, by decide +kernel,
    (accounted_of_history ofRunners_disputed history).2⟩

end Recorded
end Campaign
end Crosscheck
