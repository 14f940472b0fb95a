import Crosscheck.Digest

/-!
# Coverage snapshots

The counters of a map right after one execution. Only whether a counter is zero
tells what was covered: the signature digests one bit per counter, so two inputs
with the same signature went through the same counters however often.
-/

namespace Crosscheck

/-- An immutable copy of the counters of a map. -/
structure CoverageSnapshot where
  counts : Array UInt8
  deriving DecidableEq, Repr

namespace CoverageSnapshot

/-- The number of counters. -/
def capacity (snapshot : CoverageSnapshot) : Nat := snapshot.counts.size

/-- The snapshot of an execution that covered nothing. -/
def blank (capacity : Nat) : CoverageSnapshot := ⟨Array.replicate capacity 0⟩

/-- Whether the counter at an index was hit. -/
def covers (snapshot : CoverageSnapshot) (index : Nat) : Bool :=
  snapshot.counts.getD index 0 != 0

/-- The indices of the counters that were hit, ascending. -/
def coveredIndices (snapshot : CoverageSnapshot) : List Nat :=
  (List.range snapshot.capacity).filter snapshot.covers

/-- The number of counters that were hit. -/
def coveredEdges (snapshot : CoverageSnapshot) : Nat :=
  snapshot.counts.countP (· != 0)

/-- Set the bit of one index in a set that has eight to the octet, lowest first. -/
def markBit (bits : Array UInt8) (index : Nat) : Array UInt8 :=
  bits.modify (index / 8) (· ||| (1 <<< UInt8.ofNat (index % 8)))

/-- The covered set as bits, in as many octets as the capacity needs. -/
def footprint (snapshot : CoverageSnapshot) : Array UInt8 :=
  snapshot.coveredIndices.foldl markBit (Array.replicate ((snapshot.capacity + 7) / 8) 0)

/-- The digest of the covered set. -/
def signature (snapshot : CoverageSnapshot) : List UInt8 :=
  Digest.md5 snapshot.footprint.toList

/-- The signature in hexadecimal digits. -/
def hexSignature (snapshot : CoverageSnapshot) : String :=
  Digest.hex snapshot.signature

/-- Lines of at most `width + 1` marks, each line ended. -/
def gridLines (width : Nat) (marks : List Char) : List Char :=
  match marks with
  | [] => []
  | mark :: rest =>
    mark :: rest.take width ++ '\n' :: gridLines width (rest.drop width)
termination_by marks.length
decreasing_by simp only [List.length_drop, List.length_cons]; omega

/-- Rows of the given width, at least one, with a plus for a hit counter and a
minus for any other. -/
def grid (snapshot : CoverageSnapshot) (width : Nat) : String :=
  String.ofList
    (gridLines (width - 1) (snapshot.counts.toList.map fun count => if count = 0 then '-' else '+'))

end CoverageSnapshot
end Crosscheck
