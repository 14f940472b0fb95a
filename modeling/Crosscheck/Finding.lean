import Crosscheck.Json.Value
import Crosscheck.Outcome.Json
import Crosscheck.Text.Utf8
import Crosscheck.Verdict

/-!
# Findings

What is reported about one input: the input, its digest, how each version ended and
the verdict. As JSON the input is shown as text and the verdict's members follow the
others.
-/

namespace Crosscheck

/-- How one version ended. -/
structure VersionOutcome where
  version : String
  outcome : Outcome
  coveredEdges : Nat
  /-- Whole milliseconds. -/
  millis : Nat
  deriving DecidableEq, Repr

namespace VersionOutcome

/-- What is reported of a record. -/
def ofRecord (record : Record) : VersionOutcome :=
  ⟨record.version, record.outcome, record.coverage.coveredEdges, record.elapsed / 1000000⟩

/-- The JSON value of one version's part. -/
def toJson (part : VersionOutcome) : Json :=
  .object [("version", .string part.version), ("outcome", part.outcome.toJson),
    ("covered_edges", .number part.coveredEdges), ("duration_ms", .number part.millis)]

end VersionOutcome

/-- The members of a verdict, its name first. -/
def Verdict.members (verdict : Verdict) : List (String × Json) :=
  ("verdict", .string verdict.name) ::
    match verdict with
    | .agree => []
    | .diverge outliers => [("outliers", Json.texts outliers)]
    | .fault faulted => [("faulted", Json.texts faulted)]
    | .sharedFault kind => [("kind", .string kind.name)]
    | .unresolved reason => [("reason", .string reason)]

/-- The report on one input. -/
structure Finding where
  input : List UInt8
  inputHash : String
  outcomes : List VersionOutcome
  verdict : Verdict
  deriving DecidableEq, Repr

namespace Finding

/-- Compare the records of an input. -/
def ofRecords (predicate : Predicate) (input : List UInt8) (records : List Record) : Finding where
  input := input
  inputHash := Digest.hexMd5 input
  outcomes := records.map VersionOutcome.ofRecord
  verdict := Comparison.classify predicate records

/-- The JSON value of a report. -/
def toJson (finding : Finding) : Json :=
  .object ([("input", .string (Text.Utf8.lossyString finding.input)),
      ("input_hash", .string finding.inputHash),
      ("outcomes", .array (finding.outcomes.map VersionOutcome.toJson))]
    ++ finding.verdict.members)

end Finding
end Crosscheck
