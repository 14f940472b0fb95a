import Crosscheck.Decimal.Fixed
import Crosscheck.Finding
import Crosscheck.Stats
import Crosscheck.Text.Quoted

/-!
# Log events

What the log shows of findings and statistics. A fault in some versions is shown
once for each faulted version and once as a whole.
-/

namespace Crosscheck

/-- The weight of an event. -/
inductive LogLevel where
  | info
  | warn
  deriving DecidableEq, Repr

/-- The value of a field. -/
inductive LogValue where
  | number (value : Nat)
  | text (value : String)
  deriving DecidableEq, Repr

/-- One event with its fields in order. -/
structure LogEvent where
  level : LogLevel
  message : String
  fields : List (String × LogValue)
  deriving DecidableEq, Repr

/-- The name of a weight. -/
def LogLevel.name : LogLevel → String
  | .info => "INFO"
  | .warn => "WARN"

/-- The text of a field. -/
def LogValue.shown : LogValue → String
  | .number value => toString value
  | .text value => value

namespace LogEvent

/-- An event in one line. -/
def line (event : LogEvent) : String :=
  " ".intercalate (event.level.name :: event.message ::
    event.fields.map fun (name, value) => name ++ "=" ++ value.shown)

/-- The event of one faulted version. -/
def versionFaulted (finding : Finding) (part : VersionOutcome) (fault : Fault) : LogEvent :=
  ⟨.warn, "version faulted",
    [("input_hash", .text finding.inputHash), ("version", .text part.version),
      ("kind", .text fault.kind.name), ("detail", .text fault.detail)]⟩

/-- The events of a finding. -/
def ofFinding (finding : Finding) : List LogEvent :=
  let input := LogValue.text (Text.Utf8.lossyString finding.input)
  match finding.verdict with
  | .agree | .unresolved _ => []
  | .diverge outliers =>
    [⟨.warn, "versions diverge",
      [("input_hash", .text finding.inputHash), ("outliers", .text (Text.quotedList outliers)),
        ("input", input)]⟩]
  | .fault faulted =>
    (finding.outcomes.filterMap fun part =>
      part.outcome.fault?.map (versionFaulted finding part)) ++
    [⟨.warn, "fault in a subset of versions",
      [("input_hash", .text finding.inputHash), ("faulted", .text (Text.quotedList faulted)),
        ("input", input)]⟩]
  | .sharedFault kind =>
    [⟨.info, "all versions faulted alike",
      [("input_hash", .text finding.inputHash), ("kind", .text kind.name)]⟩]

/-- The event of statistics, with one place for the rate. -/
def ofStats (stats : Stats) : LogEvent :=
  ⟨.info, "stats",
    [("iterations", .number stats.iterations), ("executions", .number stats.executions),
      ("execs_per_sec", .text (Decimal.fixed 1 stats.executionsPerSecond)),
      ("corpus", .number stats.corpusSize), ("findings", .number stats.findings),
      ("divergences", .number stats.divergences), ("faults", .number stats.faults),
      ("shared_faults", .number stats.sharedFaults), ("unresolved", .number stats.unresolved)]⟩

end LogEvent
end Crosscheck
