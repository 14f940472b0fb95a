import Crosscheck.Decimal.Binary64
import Crosscheck.Json.Value

/-!
# Run statistics

Counts over a run and the time it has taken, which is not part of their JSON form.
-/

namespace Crosscheck

/-- Counts over a run. -/
structure Stats where
  iterations : Nat := 0
  /-- Executions, summed over the versions. -/
  executions : Nat := 0
  corpusSize : Nat := 0
  findings : Nat := 0
  agreements : Nat := 0
  divergences : Nat := 0
  faults : Nat := 0
  sharedFaults : Nat := 0
  unresolved : Nat := 0
  /-- Nanoseconds since the start. -/
  elapsed : Nat := 0
  deriving DecidableEq, Repr

namespace Stats

/-- A time in nanoseconds as seconds: the whole seconds and the fraction are
converted on their own and added. -/
def seconds (nanos : Nat) : Float :=
  Decimal.ofCount (nanos / 1000000000) + Decimal.ofCount (nanos % 1000000000) / 1000000000.0

/-- Executions per second, zero before any time has passed. -/
def executionsPerSecond (stats : Stats) : Float :=
  if seconds stats.elapsed > 0.0 then Decimal.ofCount stats.executions / seconds stats.elapsed else 0.0

/-- The JSON value of the counts. -/
def toJson (stats : Stats) : Json :=
  .object [("iterations", .number stats.iterations), ("executions", .number stats.executions),
    ("corpus-size", .number stats.corpusSize), ("findings", .number stats.findings),
    ("agreements", .number stats.agreements), ("divergences", .number stats.divergences),
    ("faults", .number stats.faults), ("shared-faults", .number stats.sharedFaults),
    ("unresolved", .number stats.unresolved)]

end Stats
end Crosscheck
