import Crosscheck.Coverage.Snapshot
import Crosscheck.Outcome

/-!
# Execution records

Everything that one execution of one input by one version produced.
-/

namespace Crosscheck

/-- One execution: who ran, what it covered, how it ended and how long it took, in
nanoseconds. -/
structure Record where
  version : String
  coverage : CoverageSnapshot
  outcome : Outcome
  elapsed : Nat
  deriving DecidableEq, Repr

namespace Record

/-- Whether the execution faulted. -/
def isFault (record : Record) : Bool := record.outcome.fault?.isSome

end Record
end Crosscheck
