import Crosscheck.Coverage.Map
import Crosscheck.Decimal.Shortest
import Crosscheck.Duration
import Crosscheck.Equivalence
import Crosscheck.Mutation.Statements
import Crosscheck.Session.Settings

/-!
# Configurations

What a run is told: how to go about it, what to compare and which versions of the
engine there are. A configuration under which a run would be meaningless is refused
before any input executes.
-/

namespace Crosscheck

/-- How a run goes about its inputs. -/
structure RunSettings where
  maxIterations : Nat := 1000000
  parallel : Bool := true
  synthesizeProbability : Float := 0.05
  /-- Seconds between two reports of statistics. -/
  statsInterval : Nat := 10
  /-- The seed of all random decisions; zero leaves it to chance. -/
  seed : Nat := 0
  maxStatements : Nat := StatementMutator.defaultLimit

/-- One version of the engine. -/
structure TargetConfig where
  version : String
  /-- A program and its arguments. -/
  command : List String
  /-- Milliseconds for one input. -/
  timeout : Nat := 2000
  workingDirectory : Option String := none
  /-- The database that each input finds empty. -/
  database : Option String := none
  /-- Whether the engine reports coverage through a file. -/
  coverageFile : Bool := false
  deriving DecidableEq, Repr

/-- How to speak to the shell of a version. -/
def TargetConfig.session (target : TargetConfig) : SessionSettings :=
  { SessionSettings.listMode target.version target.command with
    workingDirectory := target.workingDirectory
    coverageFile := target.coverageFile
    database := target.database.getD SessionSettings.memoryDatabase }

/-- What a run is told. -/
structure Config where
  run : RunSettings := {}
  mapCapacity : Nat := CoverageMap.defaultCapacity
  comparison : Normalization := {}
  /-- Files and directories with first inputs. -/
  seedPaths : List String := []
  targets : List TargetConfig := []

/-- Why a configuration is refused. -/
inductive ConfigError where
  | tooFewTargets (count : Nat)
  | duplicateVersion (version : String)
  | emptyCommand (version : String)
  | zeroTimeout (version : String)
  | mapCapacity (capacity : Nat)
  | probability (value : Float)
  deriving Repr

/-- The wording of a refusal. -/
def ConfigError.message : ConfigError → String
  | .tooFewTargets count => s!"at least two targets are required, found {count}"
  | .duplicateVersion version => s!"target version '{version}' is configured more than once"
  | .emptyCommand version => s!"target '{version}' has an empty command"
  | .zeroTimeout version => s!"target '{version}' has a zero timeout"
  | .mapCapacity capacity =>
    s!"map capacity {capacity} is outside {CoverageMap.minCapacity}..={CoverageMap.maxCapacity}"
  | .probability value =>
    s!"synthesize probability {Decimal.shortest value} is outside 0.0..=1.0"

namespace Config

/-- Whether a command names a program. -/
def namesProgram (command : List String) : Bool :=
  match command with
  | program :: _ => !program.isEmpty
  | [] => false

/-- Check the targets in order, given the versions of those before them. -/
def validateTargets (earlier : List String) : List TargetConfig → Except ConfigError Unit
  | [] => .ok ()
  | target :: rest =>
    if target.version ∈ earlier then .error (.duplicateVersion target.version)
    else if !namesProgram target.command then .error (.emptyCommand target.version)
    else if target.timeout = 0 then .error (.zeroTimeout target.version)
    else validateTargets (target.version :: earlier) rest

/-- Whether a number is a probability. -/
def isProbability (value : Float) : Bool := 0.0 ≤ value && value ≤ 1.0

/-- Check a configuration: the number of targets, each target, the capacity and the
probability. -/
def validate (config : Config) : Except ConfigError Unit :=
  if config.targets.length < 2 then .error (.tooFewTargets config.targets.length)
  else
    match validateTargets [] config.targets with
    | .error error => .error error
    | .ok () =>
      if !CoverageMap.isCapacity config.mapCapacity then .error (.mapCapacity config.mapCapacity)
      else if !isProbability config.run.synthesizeProbability then
        .error (.probability config.run.synthesizeProbability)
      else .ok ()

end Config
end Crosscheck
