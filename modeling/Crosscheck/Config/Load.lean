import Crosscheck.Config
import Crosscheck.Failure
import Crosscheck.Files.Tree
import Crosscheck.Text.Utf8
import Crosscheck.Toml.Decode
import Crosscheck.Toml.Document

/-!
# Reading configurations

A configuration stands in a file of the settings language. Everything but the targets
may be left out, and nothing may be added.
-/

namespace Crosscheck

open Toml (Decoded RecordShape Value)

namespace RunSettings

/-- The fields of the table `fuzzer`. -/
def shape : RecordShape where
  name := "FuzzerSettings"
  fields := ["max-iterations", "parallel", "synthesize-probability", "stats-interval-secs",
    "rng-seed", "max-statements"]

/-- Take one field. -/
def step (found : RunSettings) (name : String) (value : Value) : Decoded RunSettings := do
  match name with
  | "max-iterations" => return { found with maxIterations := ← value.natural? "u64" }
  | "parallel" => return { found with parallel := ← value.boolean? }
  | "synthesize-probability" => return { found with synthesizeProbability := ← value.fraction? }
  | "stats-interval-secs" => return { found with statsInterval := ← value.natural? "u64" }
  | "rng-seed" => return { found with seed := ← value.natural? "u64" }
  | "max-statements" => return { found with maxStatements := ← value.natural? "usize" }
  | _ => return found

end RunSettings

namespace TargetConfig

/-- The fields of a target. The database is the last one that an array cannot leave out. -/
def shape : RecordShape where
  name := "TargetConfig"
  fields := ["version", "command", "timeout-ms", "working-dir", "database", "coverage-file"]
  needed := 5

/-- A target before its version and its command are known. -/
structure Partial where
  version : Option String := none
  command : Option (List String) := none
  rest : TargetConfig := { version := "", command := [] }

/-- Take one field. -/
def Partial.step (found : Partial) (name : String) (value : Value) : Decoded Partial := do
  let { rest, .. } := found
  match name with
  | "version" => return { found with version := some (← value.text? "a string") }
  | "command" => return { found with command := some (← value.list? (Value.text? "a string")) }
  | "timeout-ms" => return { found with rest := { rest with timeout := ← value.natural? "u64" } }
  | "working-dir" =>
    return { found with rest := { rest with workingDirectory := some (← value.text? "path string") } }
  | "database" =>
    return { found with rest := { rest with database := some (← value.text? "a string") } }
  | "coverage-file" => return { found with rest := { rest with coverageFile := ← value.boolean? } }
  | _ => return found

/-- Decode a target. -/
def decode (value : Value) : Decoded TargetConfig := do
  let found ← shape.decode {} Partial.step value
  return { found.rest with
    version := ← Toml.require "version" found.version
    command := ← Toml.require "command" found.command }

end TargetConfig

/-- Why there is no configuration. -/
inductive LoadError where
  | unread (path : String) (cause : FileError)
  /-- The text breaks a rule of the settings language. -/
  | malformed (path : String)
  | undecoded (path : String) (cause : Toml.DecodeError)
  deriving Repr

namespace LoadError

/-- The wording of why there is no configuration. -/
def message : LoadError → String
  | .unread path _ => s!"Failed to read config file at {Text.quoted path}"
  | .malformed path => s!"Failed to parse TOML from config file {Text.quoted path}"
  | .undecoded path _ => s!"Failed to parse TOML from config file {Text.quoted path}"

/-- What lies behind it, as far as that has a fixed wording. -/
def cause? : LoadError → Option String
  | .unread _ cause => some cause.message
  | .malformed _ => none
  | .undecoded _ cause => cause.message?

end LoadError

namespace Config

/-- The fields of the table `coverage`. -/
def coverageShape : RecordShape where
  name := "CoverageSettings"
  fields := ["map-capacity"]

/-- The fields of the table `comparison`. -/
def comparisonShape : RecordShape where
  name := "ComparisonSettings"
  fields := ["unordered-rows", "normalize-whitespace", "match-errors-by-presence"]

/-- The fields of the table `corpus`. -/
def corpusShape : RecordShape where
  name := "CorpusConfig"
  fields := ["initial-seed-paths"]

/-- The tables of a configuration. -/
def shape : RecordShape where
  name := "DivergentConfig"
  fields := ["fuzzer", "coverage", "comparison", "corpus", "targets"]

/-- Take one field of the comparison. -/
def comparisonStep (found : Normalization) (name : String) (value : Value) :
    Decoded Normalization := do
  match name with
  | "unordered-rows" => return { found with unorderedRows := ← value.boolean? }
  | "normalize-whitespace" => return { found with collapseBlanks := ← value.boolean? }
  | "match-errors-by-presence" => return { found with anyErrors := ← value.boolean? }
  | _ => return found

/-- Take one table. -/
def step (found : Config) (name : String) (value : Value) : Decoded Config := do
  match name with
  | "fuzzer" => return { found with run := ← RunSettings.shape.decode {} RunSettings.step value }
  | "coverage" =>
    let mapCapacity ← coverageShape.decode found.mapCapacity
      (fun _ _ value => value.natural? "usize") value
    return { found with mapCapacity }
  | "comparison" =>
    return { found with comparison := ← comparisonShape.decode {} comparisonStep value }
  | "corpus" =>
    let seedPaths ← corpusShape.decode found.seedPaths
      (fun _ _ value => value.list? (Value.text? "path string")) value
    return { found with seedPaths }
  | "targets" => return { found with targets := ← value.list? TargetConfig.decode }
  | _ => return found

/-- Decode a configuration. -/
def decode (members : List (String × Value)) : Decoded Config :=
  shape.decode {} step (.table members)

/-- Read a configuration from a file. -/
def load (tree : FileTree) (here : Place) (path : String) : Except LoadError Config :=
  match tree.read here path with
  | .error cause => .error (.unread path cause)
  | .ok octets =>
    match Text.Utf8.decode? octets with
    | none => .error (.unread path .malformedText)
    | some text =>
      match Toml.read? (String.ofList text) with
      | none => .error (.malformed path)
      | some members =>
        match decode members with
        | .error cause => .error (.undecoded path cause)
        | .ok config => .ok config

end Config
end Crosscheck
