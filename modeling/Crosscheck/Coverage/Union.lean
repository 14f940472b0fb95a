import Crosscheck.Coverage.Snapshot

/-!
# Ever-seen coverage

The union of the snapshots of one engine version. Novelty is the question whether a
snapshot hits a counter that no earlier one hit. `admits` answers it counter by
counter; `admitsByWords`, for snapshots of the union's own length, looks at eight
counters at a time.
-/

namespace Crosscheck

/-- The counters that some execution has hit. -/
structure CoverageUnion where
  seen : Array UInt8
  deriving DecidableEq, Repr

namespace CoverageUnion

/-- Nothing has been seen. -/
def ofCapacity (capacity : Nat) : CoverageUnion := ⟨Array.replicate capacity 0⟩

/-- The number of counters. -/
def capacity (union : CoverageUnion) : Nat := union.seen.size

/-- The number of counters ever hit. -/
def coveredEdges (union : CoverageUnion) : Nat := union.seen.countP (· != 0)

/-- Whether the counter at an index, which both have, is hit for the first time. -/
def isNovelAt (union : CoverageUnion) (snapshot : CoverageSnapshot) (index : Nat) : Bool :=
  snapshot.counts.getD index 0 != 0 && union.seen.getD index 0 == 0

/-- The indices both have. -/
def sharedIndices (union : CoverageUnion) (snapshot : CoverageSnapshot) : List Nat :=
  List.range (min union.capacity snapshot.capacity)

/-- Whether any shared counter is hit for the first time. -/
def admits (union : CoverageUnion) (snapshot : CoverageSnapshot) : Bool :=
  (union.sharedIndices snapshot).any (union.isNovelAt snapshot)

/-- Eight counters as one word, the first lowest. -/
def packWord (counters : Array UInt8) (start : Nat) : UInt64 :=
  (List.range 8).foldl (fun word lane =>
    word ||| ((counters.getD (start + lane) 0).toUInt64 <<< UInt64.ofNat (8 * lane))) 0

/-- All bits of each lane but the highest. -/
def lowBits : UInt64 := 0x7f7f7f7f7f7f7f7f

/-- The highest bit of each lane that is not zero. Adding the low bits carries into
the highest bit exactly if some low bit is set, and never out of the lane. -/
def nonzeroLanes (word : UInt64) : UInt64 :=
  (((word &&& lowBits) + lowBits) ||| word) &&& ~~~lowBits

/-- Whether some lane is nonzero in `new` and zero in `seen`. -/
def hasNewLane (new seen : UInt64) : Bool :=
  (nonzeroLanes new &&& ~~~(nonzeroLanes seen)) != 0

/-- Whether any counter is hit for the first time, for a snapshot of the union's own
length: whole words first, then the counters past the last whole word. -/
def admitsByWords (union : CoverageUnion) (snapshot : CoverageSnapshot) : Bool :=
  let words := union.capacity / 8
  (List.range words).any (fun index =>
      let new := packWord snapshot.counts (8 * index)
      new != 0 && hasNewLane new (packWord union.seen (8 * index)))
    || (List.range' (8 * words) (union.capacity % 8)).any (union.isNovelAt snapshot)

/-- Whether a snapshot hits a counter never hit before. -/
def hasNovel (union : CoverageUnion) (snapshot : CoverageSnapshot) : Bool :=
  if snapshot.capacity = union.capacity then union.admitsByWords snapshot
  else union.admits snapshot

/-- The number of shared counters that a snapshot hits for the first time. -/
def novelCount (union : CoverageUnion) (snapshot : CoverageSnapshot) : Nat :=
  (union.sharedIndices snapshot).countP (union.isNovelAt snapshot)

/-- The union with the snapshot's first hits; a counter keeps the count of its first hit. -/
def fold (union : CoverageUnion) (snapshot : CoverageSnapshot) : CoverageUnion :=
  ⟨union.seen.mapIdx fun index seen => if seen = 0 then snapshot.counts.getD index 0 else seen⟩

end CoverageUnion
end Crosscheck
