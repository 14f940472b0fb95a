import Crosscheck.Coverage.Union
import Crosscheck.Record

/-!
# Novelty

Versions are different binaries, so the counters of one say nothing about those of
another: every version has a union of its own, and an input is novel when it hits a
counter for the first time in at least one version.
-/

namespace Crosscheck

/-- What novelty feedback refuses. -/
inductive FeedbackError where
  | unknownVersion (version : String)
  | capacityMismatch (version : String) (expected actual : Nat)
  deriving DecidableEq, Repr

/-- The wording of a refusal. -/
def FeedbackError.message : FeedbackError → String
  | .unknownVersion version => s!"No coverage union for version '{version}'"
  | .capacityMismatch version expected actual =>
    s!"Version '{version}' reported {actual} counters, union holds {expected}"

/-- What the records of one input revealed. -/
structure Novelty where
  /-- Each version with the number of its first hits, in record order. -/
  perVersion : List (String × Nat) := []
  /-- The largest number of covered counters among the records. -/
  coveredEdges : Nat := 0
  /-- The coverage signature of the first record with a first hit. -/
  signature : Option String := none
  deriving DecidableEq, Repr

namespace Novelty

/-- The number of first hits over all versions. -/
def novelEdges (novelty : Novelty) : Nat :=
  (novelty.perVersion.map Prod.snd).foldr (· + ·) 0

/-- Whether there was any first hit. -/
def isNovel (novelty : Novelty) : Bool := novelty.novelEdges > 0

/-- The versions with a first hit, in record order. -/
def novelVersions (novelty : Novelty) : List String :=
  (novelty.perVersion.filter fun (_, count) => count > 0).map Prod.fst

/-- Add one record that had `count` first hits. -/
def extend (novelty : Novelty) (record : Record) (count : Nat) : Novelty where
  perVersion := novelty.perVersion ++ [(record.version, count)]
  coveredEdges := max novelty.coveredEdges record.coverage.coveredEdges
  signature :=
    if count > 0 ∧ novelty.signature.isNone then some record.coverage.hexSignature
    else novelty.signature

end Novelty

/-- The union of each version. -/
structure CoverageFeedback where
  unions : List (String × CoverageUnion)
  deriving DecidableEq, Repr

namespace CoverageFeedback

/-- Nothing has been seen in any of the versions, each given with its capacity. -/
def ofVersions (versions : List (String × Nat)) : CoverageFeedback :=
  ⟨versions.map fun (version, capacity) => (version, .ofCapacity capacity)⟩

/-- The union of a version; the first of that name counts. -/
def union? (feedback : CoverageFeedback) (version : String) : Option CoverageUnion :=
  feedback.unions.lookup version

/-- The number of counters that a version has ever hit. -/
def coveredEdges? (feedback : CoverageFeedback) (version : String) : Option Nat :=
  (feedback.union? version).map CoverageUnion.coveredEdges

/-- Whether some record hits a counter its version has never hit. -/
def isInteresting (feedback : CoverageFeedback) : List Record → Except FeedbackError Bool
  | [] => .ok false
  | record :: rest =>
    match feedback.union? record.version with
    | none => .error (.unknownVersion record.version)
    | some union => if union.hasNovel record.coverage then .ok true else feedback.isInteresting rest

/-- Replace the union of a version, the first of that name. -/
def update (version : String) (union : CoverageUnion) :
    List (String × CoverageUnion) → List (String × CoverageUnion)
  | [] => []
  | (name, current) :: rest =>
    if name = version then (name, union) :: rest else (name, current) :: update version union rest

/-- Fold one record into the union of its version; the number is that of its first hits. -/
def foldRecord (feedback : CoverageFeedback) (record : Record) :
    Except FeedbackError (Nat × CoverageFeedback) :=
  match feedback.union? record.version with
  | none => .error (.unknownVersion record.version)
  | some union =>
    if union.capacity ≠ record.coverage.capacity then
      .error (.capacityMismatch record.version union.capacity record.coverage.capacity)
    else
      .ok (union.novelCount record.coverage,
        ⟨update record.version (union.fold record.coverage) feedback.unions⟩)

/-- Fold the records in order onto what is already known of their input. The records
before a refused one stay folded. -/
def foldRecords (feedback : CoverageFeedback) (novelty : Novelty) :
    List Record → Except FeedbackError Novelty × CoverageFeedback
  | [] => (.ok novelty, feedback)
  | record :: rest =>
    match feedback.foldRecord record with
    | .error error => (.error error, feedback)
    | .ok (count, feedback) => feedback.foldRecords (novelty.extend record count) rest

/-- Fold the records of one input and tell what was new. -/
def evaluate (feedback : CoverageFeedback) (records : List Record) :
    Except FeedbackError Novelty × CoverageFeedback :=
  feedback.foldRecords {} records

end CoverageFeedback
end Crosscheck
