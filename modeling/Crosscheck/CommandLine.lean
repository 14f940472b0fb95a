import Crosscheck.Campaign
import Crosscheck.CommandLine.Arguments
import Crosscheck.Config.Load
import Crosscheck.Corpus.Directory
import Crosscheck.Random.ChaCha
import Crosscheck.Scheduling.Novelty
import Crosscheck.Target.Session

/-!
# Runs from the command line

A run loads its configuration, starts every version and gathers its first inputs before
it touches the directory of its results. Findings go into a file with one line for each,
and the corpus into a directory from which a later run may start. Sums are checked.
-/

namespace Crosscheck

/-- A campaign against the shells of several versions. -/
abbrev SessionCampaign := Campaign SessionTarget Random.ChaCha NoveltyScheduler Reporter

/-- What surrounds a run. -/
structure Surroundings where
  launcher : Launcher
  tree : FileTree
  /-- The directory that the run is started in. -/
  here : Place
  /-- A number that nobody can foresee. -/
  chance : UInt64

/-- How a run ends. -/
inductive Finished.Ending where
  | done
  | failed (failure : Failure)
  /-- What unwinds out of a campaign takes the program with it. -/
  | unwound (payload : Payload)
  deriving DecidableEq, Repr

/-- What a run leaves. -/
structure Finished where
  tree : FileTree
  log : List LogEvent := []
  ending : Finished.Ending := .done

/-- The status that a program ends with after a run. -/
def Finished.status (finished : Finished) : Nat :=
  match finished.ending with
  | .done => 0
  | .failed _ => 1
  | .unwound _ => 101

namespace CommandLine

/-- A path as it is shown. -/
abbrev shown (path : String) : String := Text.quoted path

/-- The configuration with what a user asks for in its place. -/
def override (arguments : Arguments) (config : Config) : Config :=
  { config with
    run := { config.run with
      maxIterations := arguments.iterations.getD config.run.maxIterations
      seed := arguments.seed.getD config.run.seed
      parallel := config.run.parallel && !arguments.sequential } }

/-- The configuration of a run. -/
def configure (surroundings : Surroundings) (arguments : Arguments) : Except Failure Config :=
  match Config.load surroundings.tree surroundings.here arguments.config with
  | .error error => .error ⟨error.message :: error.cause?.toList⟩
  | .ok config =>
    let config := override arguments config
    match config.validate with
    | .error error =>
      .error ⟨["Invalid configuration in " ++ shown arguments.config, error.message]⟩
    | .ok () => .ok config

/-- Start a version. -/
def startTarget (surroundings : Surroundings) (capacity : Nat) (target : TargetConfig) :
    Except Failure (Runner SessionTarget) :=
  let session : SessionTarget := {
    settings := target.session
    launcher := surroundings.launcher
    nonces := fun number => surroundings.chance + UInt64.ofNat number
    tree := surroundings.tree }
  match Runner.ofTarget session capacity (Duration.ofMillis target.timeout) with
  | .error error => .error ⟨["Failed to set up target '" ++ target.version ++ "'", error.message]⟩
  | .ok runner =>
    match runner.warmUp with
    | (.error error, _) => .error (.because error.message)
    | (.ok (), runner) => .ok runner

/-- Gather the first inputs. -/
def gatherSeeds (surroundings : Surroundings) (arguments : Arguments) (config : Config) :
    Except Failure (List (List UInt8)) :=
  (CorpusDirectory.readAll surroundings.tree surroundings.here
    (config.seedPaths ++ arguments.seedPaths)).mapError fun error => .because error.message

/-- The path of the findings. -/
def findingsPath (arguments : Arguments) : String := Path.join arguments.output "findings.jsonl"

/-- The path of the corpus. -/
def corpusPath (arguments : Arguments) : String := Path.join arguments.output "corpus"

/-- Create the directory of results and the file of findings, as far as they are missing. -/
def prepareOutput (surroundings : Surroundings) (arguments : Arguments) :
    Except Failure FileTree :=
  let { tree, here, .. } := surroundings
  match tree.createDirectories here arguments.output with
  | .error cause =>
    .error ⟨["Failed to create output directory " ++ shown arguments.output, cause.message]⟩
  | .ok tree =>
    match tree.append here (findingsPath arguments) [] with
    | .error cause => .error ⟨["Failed to open " ++ shown (findingsPath arguments), cause.message]⟩
    | .ok tree => .ok tree

/-- The options of the campaign. -/
def campaignOptions (arguments : Arguments) (settings : RunSettings) : CampaignOptions where
  parallel := settings.parallel
  synthesizeProbability := settings.synthesizeProbability
  statsInterval := Duration.ofSeconds (max settings.statsInterval 1)
  timeLimit := arguments.seconds.map Duration.ofSeconds

/-- The source of random decisions. A seed of zero is replaced by chance. -/
def randomSource (surroundings : Surroundings) (settings : RunSettings) : Random.ChaCha :=
  .ofSeed (if settings.seed = 0 then max surroundings.chance 1 else UInt64.ofNat settings.seed)

/-- A campaign as it is configured. -/
def campaign (surroundings : Surroundings) (arguments : Arguments) (config : Config)
    (runners : List (Runner SessionTarget)) (seeds : List (List UInt8)) :
    Except Failure SessionCampaign :=
  match (Campaign.ofRunners runners config.comparison.predicate
      (StatementMutator.ofLimit .unwinds config.run.maxStatements).mutate
      (NoveltyScheduler.ofWindow NoveltyScheduler.defaultWindow) (.all [.log, .lines {}])
      (campaignOptions arguments config.run) (randomSource surroundings config.run) :
      Except CampaignError SessionCampaign) with
  | .error error => .error (.because error.message)
  | .ok campaign => .ok (campaign.withSeeds seeds)

/-- The lines that a reporter has written. -/
def writtenLines (reporter : Reporter) : List UInt8 :=
  Text.Utf8.octets (String.ofList (reporter.writers.map Writer.held).flatten)

/-- The files after a campaign: those of the engines beside the findings. -/
def settleFiles (surroundings : Surroundings) (arguments : Arguments) (tree : FileTree)
    (campaign : SessionCampaign) : FileTree :=
  let written := writtenLines campaign.reporter
  let tree :=
    match tree.append surroundings.here (findingsPath arguments) written with
    | .ok tree => tree
    | .error _ => tree
  campaign.runners.foldl (fun tree runner => tree.merge runner.target.leftovers) tree

/-- Run a campaign and write what it leaves. Where it unwinds, that is the findings alone. -/
def conclude (surroundings : Surroundings) (arguments : Arguments) (config : Config)
    (tree : FileTree) (campaign : SessionCampaign) : Finished :=
  let (stats, campaign) := campaign.run config.run.maxIterations
  let tree := settleFiles surroundings arguments tree campaign
  let log := campaign.log.toList
  let inputs := campaign.corpus.entries.toList.map Entry.input
  match stats with
  | .error payload => { tree, log, ending := .unwound payload }
  | .ok _ =>
    match CorpusDirectory.writeAll tree surroundings.here (corpusPath arguments) inputs with
    | .ok tree => { tree, log }
    | .error failure => { tree, log, ending := .failed failure }

/-- What has to be there before results are written. -/
def prepare (surroundings : Surroundings) (arguments : Arguments) :
    Except Failure (Config × List (Runner SessionTarget) × List (List UInt8)) := do
  let config ← configure surroundings arguments
  let runners ← config.targets.mapM (startTarget surroundings config.mapCapacity)
  return (config, runners, ← gatherSeeds surroundings arguments config)

/-- Carry out a run. -/
def run (surroundings : Surroundings) (arguments : Arguments) : Finished :=
  let failed (failure : Failure) : Finished :=
    { tree := surroundings.tree, ending := .failed failure }
  match prepare surroundings arguments with
  | .error failure => failed failure
  | .ok (config, runners, seeds) =>
    match prepareOutput surroundings arguments with
    | .error failure => failed failure
    | .ok tree =>
      match campaign surroundings arguments config runners seeds with
      | .error failure => { failed failure with tree }
      | .ok campaign => conclude surroundings arguments config tree campaign

/-! ## Reports of failures -/

/-- Set every line of a text in, the first one behind a mark. -/
def setIn (mark blanks text : String) : List String :=
  match text.splitOn "\n" with
  | [] => []
  | first :: rest => (mark ++ first) :: rest.map (blanks ++ ·)

/-- A mark with the number of a cause. -/
def numberMark (number : Nat) : String :=
  let digits := toString number
  String.ofList (List.replicate (5 - digits.length) ' ') ++ digits ++ ": "

/-- The lines that tell of a failure. Several causes are numbered. -/
def report (failure : Failure) : List String :=
  match failure.causes with
  | [] => ["Error: "]
  | top :: causes =>
    let below :=
      match causes with
      | [] => []
      | [cause] => ["", "Caused by:"] ++ setIn "    " "    " cause
      | causes =>
        ["", "Caused by:"] ++
          causes.zipIdx.flatMap fun (cause, number) => setIn (numberMark number) "       " cause
    setIn "Error: " "" top ++ below

end CommandLine
end Crosscheck
