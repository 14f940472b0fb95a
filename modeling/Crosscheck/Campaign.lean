import Crosscheck.Coverage.Novelty
import Crosscheck.Duration
import Crosscheck.Mutation
import Crosscheck.Reporter
import Crosscheck.Runner
import Crosscheck.Scheduling

/-!
# Campaigns

A campaign runs inputs against several versions. In each step it selects an input,
executes it everywhere, evaluates what that covered and how the versions compare, and
keeps the input if it was novel or a finding. Trouble with one input is recorded and
ends nothing; only what stands before the first step can be refused. What unwinds is
another matter: a mutator, a probability that is none, or a target while the versions run
in turn takes the step with it.
-/

namespace Crosscheck

/-- What a campaign refuses to start with. -/
inductive CampaignError where
  | tooFewVersions (count : Nat)
  | duplicateVersion (version : String)
  deriving DecidableEq, Repr

/-- The wording of a refusal. -/
def CampaignError.message : CampaignError → String
  | .tooFewVersions count => s!"differential fuzzing needs at least two drivers, got {count}"
  | .duplicateVersion version => s!"driver version '{version}' appears more than once"

/-- How a campaign goes about its steps. -/
structure CampaignOptions where
  /-- Whether the versions run an input side by side. -/
  parallel : Bool := true
  /-- The probability of a synthesized input once there are entries to mutate. -/
  synthesizeProbability : Float := 0.05
  /-- Nanoseconds between two reports of statistics. -/
  statsInterval : Nat := Duration.ofSeconds 10
  /-- Nanoseconds after which no further step is taken. -/
  timeLimit : Option Nat := none

/-- What became of one input. -/
structure StepOutcome where
  source : Source
  verdict : Verdict
  novelEdges : Nat
  /-- The number of the new corpus entry. -/
  retained : Option Nat
  /-- The number of the new finding. -/
  finding : Option Nat
  deriving DecidableEq, Repr

/-- An input and how it came to be. -/
structure Candidate where
  input : List UInt8
  source : Source
  deriving DecidableEq, Repr

/-- The state of a campaign over targets `τ`, with random source `ρ`, scheduler `κ` and
reporter `ψ`. -/
structure Campaign (τ ρ κ ψ : Type) where
  runners : List (Runner τ)
  predicate : Predicate
  mutator : Mutator ρ
  scheduler : κ
  reporter : ψ
  options : CampaignOptions
  random : ρ
  feedback : CoverageFeedback
  corpus : Corpus := .empty
  /-- The inputs that were findings, for reproduction. -/
  findings : Corpus := .empty
  /-- Inputs to run as they are before any other. -/
  pending : List (List UInt8) := []
  /-- The counts that grow step by step. -/
  tally : Stats := {}
  /-- What reporters have logged. -/
  log : Array LogEvent := #[]

namespace Campaign

variable {τ ρ κ ψ : Type} [Target τ] [RandomSource ρ] [Scheduler κ] [Reporting ψ]

/-- The first version that an earlier runner has as well. -/
def duplicate? : List String → List String → Option String
  | _, [] => none
  | earlier, version :: rest =>
    if version ∈ earlier then some version else duplicate? (version :: earlier) rest

/-- A campaign before its first step. -/
def ofRunners (runners : List (Runner τ)) (predicate : Predicate) (mutator : Mutator ρ)
    (scheduler : κ) (reporter : ψ) (options : CampaignOptions) (random : ρ) :
    Except CampaignError (Campaign τ ρ κ ψ) :=
  if runners.length < 2 then .error (.tooFewVersions runners.length)
  else
    match duplicate? [] (runners.map Runner.version) with
    | some version => .error (.duplicateVersion version)
    | none =>
      .ok { runners, predicate, mutator, scheduler, reporter, options, random,
            feedback := .ofVersions (runners.map fun runner => (runner.version, runner.capacity)) }

/-- Queue inputs to be run as they are. -/
def withSeeds (campaign : Campaign τ ρ κ ψ) (seeds : List (List UInt8)) : Campaign τ ρ κ ψ :=
  { campaign with pending := campaign.pending ++ seeds }

/-- The statistics at this point. -/
def stats (campaign : Campaign τ ρ κ ψ) : Stats :=
  { campaign.tally with corpusSize := campaign.corpus.size, findings := campaign.findings.size }

/-- A number moved to the nearest one from 0 to 1. -/
def toUnit (value : Float) : Float :=
  if value < 0.0 then 0.0 else if value > 1.0 then 1.0 else value

/-- Generate an input from scratch, an empty one if that fails. -/
def synthesize (campaign : Campaign τ ρ κ ψ) : Except Payload Candidate × Campaign τ ρ κ ψ :=
  let (result, random) := (campaign.mutator none (some campaign.corpus)).run campaign.random
  ((result.orElse []).map (⟨·, .synthesized⟩), { campaign with random })

/-- Count the selection of an entry and mutate it. If that fails the entry is run again. -/
def derive (campaign : Campaign τ ρ κ ψ) (parent : Entry) :
    Except Payload Candidate × Campaign τ ρ κ ψ :=
  let corpus := campaign.corpus.select parent.id
  let (result, random) := (campaign.mutator (some parent.input) (some corpus)).run campaign.random
  ((result.orElse parent.input).map (⟨·, .mutated parent.id⟩), { campaign with corpus, random })

/-- Select the next input: what is pending, or a child of a scheduled entry, or a new
input if there is no entry or chance has it so. -/
def select (campaign : Campaign τ ρ κ ψ) : Except Payload Candidate × Campaign τ ρ κ ψ :=
  match campaign.pending with
  | input :: rest => (.ok ⟨input, .seed⟩, { campaign with pending := rest })
  | [] =>
    if campaign.corpus.isEmpty then campaign.synthesize
    else
      let (tossed, random) :=
        (Random.chance (toUnit campaign.options.synthesizeProbability)).run campaign.random
      let campaign := { campaign with random }
      match tossed with
      | .error payload => (.error payload, campaign)
      | .ok true => campaign.synthesize
      | .ok false =>
        let ((picked, scheduler), random) :=
          (Scheduler.next campaign.scheduler campaign.corpus campaign.tally.iterations).run
            campaign.random
        let campaign := { campaign with scheduler, random }
        match picked.toOption.bind campaign.corpus.get? with
        | some parent => campaign.derive parent
        | none => campaign.synthesize

/-- The record of a runner that was lost while it ran beside others. -/
def lostRecord (runner : Runner τ) : Record where
  version := runner.version
  coverage := .blank runner.capacity
  outcome := .faulted ⟨.crash, "driver thread panicked"⟩
  elapsed := 0

/-- Run an input on each runner, whatever becomes of the others. -/
def runBeside (input : List UInt8) (runners : List (Runner τ)) : List (Record × Runner τ) :=
  runners.map fun runner =>
    match runner.run input with
    | (.ok record, after) => (record, after)
    | (.error _, after) => (lostRecord runner, after)

/-- Run an input on one runner after another, up to the first that unwinds. -/
def runInTurn (input : List UInt8) :
    List (Runner τ) → Except Payload (List Record) × List (Runner τ)
  | [] => (.ok [], [])
  | runner :: rest =>
    match runner.run input with
    | (.error payload, after) => (.error payload, after :: rest)
    | (.ok record, after) =>
      let (records, rest) := runInTurn input rest
      (records.map (record :: ·), after :: rest)

/-- Run an input against every version. -/
def execute (campaign : Campaign τ ρ κ ψ) (input : List UInt8) :
    Except Payload (List Record) × Campaign τ ρ κ ψ :=
  if campaign.options.parallel then
    let results := runBeside input campaign.runners
    (.ok (results.map Prod.fst), { campaign with runners := results.map Prod.snd })
  else
    let (records, runners) := runInTurn input campaign.runners
    (records, { campaign with runners })

/-- The time that executions took: the longest of them side by side, or all in turn. -/
def elapsed (options : CampaignOptions) (records : List Record) : Nat :=
  let times := records.map Record.elapsed
  if options.parallel then times.foldl max 0 else times.foldl (· + ·) 0

/-- Count one verdict. -/
def count (stats : Stats) : Verdict → Stats
  | .agree => { stats with agreements := stats.agreements + 1 }
  | .diverge _ => { stats with divergences := stats.divergences + 1 }
  | .fault _ => { stats with faults := stats.faults + 1 }
  | .sharedFault _ => { stats with sharedFaults := stats.sharedFaults + 1 }
  | .unresolved _ => { stats with unresolved := stats.unresolved + 1 }

/-- Pass a finding on. What the reporter makes of it changes nothing else. -/
def report (campaign : Campaign τ ρ κ ψ) (finding : Finding) : Campaign τ ρ κ ψ :=
  let reported := Reporting.finding campaign.reporter finding
  { campaign with
    reporter := reported.reporter, log := campaign.log ++ reported.events.toArray }

/-- Tell what the records of an input reveal, and report a finding at once. Records that
feedback refuses reveal nothing. -/
def evaluate (campaign : Campaign τ ρ κ ψ) (input : List UInt8) (records : List Record) :
    Novelty × Verdict × Campaign τ ρ κ ψ :=
  let (result, feedback) := campaign.feedback.evaluate records
  let finding := Finding.ofRecords campaign.predicate input records
  let tally :=
    { count campaign.tally finding.verdict with
      executions := campaign.tally.executions + records.length
      elapsed := campaign.tally.elapsed + elapsed campaign.options records }
  let evaluated := { campaign with feedback, tally }
  (result.toOption.getD {}, finding.verdict,
    if finding.verdict.isFinding then evaluated.report finding else evaluated)

/-- What is kept with an input. -/
def metadata (source : Source) (iteration : Nat) (novelty : Novelty) : Metadata where
  source := source
  foundAt := iteration
  novelEdges := novelty.novelEdges
  novelVersions := novelty.novelVersions
  coveredEdges := novelty.coveredEdges
  signature := novelty.signature.getD ""

/-- Teach the scheduler what a child of an entry was worth. -/
def learn (scheduler : κ) (novelty : Novelty) (verdict : Verdict) : Source → κ
  | .mutated parent =>
    Scheduler.feedback scheduler parent novelty.novelEdges verdict.isFinding
  | .seed | .synthesized => scheduler

/-- Keep an input that was novel or a finding, and end the step. -/
def retain (campaign : Campaign τ ρ κ ψ) (candidate : Candidate) (novelty : Novelty)
    (verdict : Verdict) : StepOutcome × Campaign τ ρ κ ψ :=
  let iteration := campaign.tally.iterations
  let kept := metadata candidate.source iteration novelty
  let corpus :=
    if novelty.isNovel then campaign.corpus.add candidate.input kept else campaign.corpus
  let findings :=
    if verdict.isFinding then campaign.findings.add candidate.input kept else campaign.findings
  ({ source := candidate.source
     verdict
     novelEdges := novelty.novelEdges
     retained := if novelty.isNovel then some campaign.corpus.size else none
     finding := if verdict.isFinding then some campaign.findings.size else none },
   { campaign with
     corpus, findings
     scheduler := learn campaign.scheduler novelty verdict candidate.source
     tally := { campaign.tally with iterations := iteration + 1 } })

/-- Take one step. It ends without an outcome only when the selection unwinds, or a target
does while the versions run in turn. -/
def step (campaign : Campaign τ ρ κ ψ) : Except Payload StepOutcome × Campaign τ ρ κ ψ :=
  match campaign.select with
  | (.error payload, selected) => (.error payload, selected)
  | (.ok candidate, selected) =>
    match selected.execute candidate.input with
    | (.error payload, executed) => (.error payload, executed)
    | (.ok records, executed) =>
      let (novelty, verdict, evaluated) := executed.evaluate candidate.input records
      let (outcome, retained) := evaluated.retain candidate novelty verdict
      (.ok outcome, retained)

/-- Report the statistics at this point. -/
def publish (campaign : Campaign τ ρ κ ψ) : Campaign τ ρ κ ψ :=
  let reported := Reporting.stats campaign.reporter campaign.stats
  { campaign with
    reporter := reported.reporter, log := campaign.log ++ reported.events.toArray }

/-- Whether the time for steps is over. -/
def isOver (campaign : Campaign τ ρ κ ψ) : Bool :=
  campaign.options.timeLimit.any (· ≤ campaign.tally.elapsed)

/-- Take steps, reporting statistics whenever the interval has passed since the time
of the last report. -/
def runFrom (lastReport : Nat) (campaign : Campaign τ ρ κ ψ) :
    Nat → Except Payload Unit × Campaign τ ρ κ ψ
  | 0 => (.ok (), campaign)
  | iterations + 1 =>
    if campaign.isOver then (.ok (), campaign)
    else
      match campaign.step with
      | (.error payload, after) => (.error payload, after)
      | (.ok _, after) =>
        if after.tally.elapsed - lastReport ≥ campaign.options.statsInterval then
          runFrom after.tally.elapsed after.publish iterations
        else runFrom lastReport after iterations

/-- Take a number of steps and report statistics at intervals and at the end. -/
def run (campaign : Campaign τ ρ κ ψ) (iterations : Nat) :
    Except Payload Stats × Campaign τ ρ κ ψ :=
  match runFrom campaign.tally.elapsed campaign iterations with
  | (.error payload, after) => (.error payload, after)
  | (.ok (), after) => (.ok after.publish.stats, after.publish)

end Campaign
end Crosscheck
