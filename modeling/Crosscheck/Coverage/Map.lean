import Crosscheck.Coverage.Snapshot

/-!
# Coverage maps

A map is a fixed number of one-octet hit counters. An edge counts at its number
modulo the capacity, so distinct edges may share a counter; the map tells new
behaviour from old and is no exact trace. Counters stop at 255.
-/

namespace Crosscheck

/-- What a coverage map refuses. -/
inductive CoverageError where
  | invalidCapacity (capacity : Nat)
  | lengthMismatch (expected actual : Nat)
  deriving DecidableEq, Repr

namespace CoverageMap

/-- The capacity of a map that nothing else determines. -/
def defaultCapacity : Nat := 65536

/-- The smallest capacity: with fewer counters almost every edge shares one. -/
def minCapacity : Nat := 64

/-- The largest capacity. -/
def maxCapacity : Nat := 16777216

/-- Whether a map may have the capacity. -/
def isCapacity (capacity : Nat) : Bool :=
  minCapacity ≤ capacity && capacity ≤ maxCapacity

end CoverageMap

/-- The wording of a refusal. -/
def CoverageError.message : CoverageError → String
  | .invalidCapacity capacity =>
    s!"coverage map capacity {capacity} is outside the supported range " ++
      s!"{CoverageMap.minCapacity}..={CoverageMap.maxCapacity}"
  | .lengthMismatch expected actual =>
    s!"coverage data of {actual} bytes does not match map capacity {expected}"

/-- A fixed number of hit counters within the supported range. -/
structure CoverageMap where
  counters : Array UInt8
  supported : CoverageMap.isCapacity counters.size = true

namespace CoverageMap

/-- A map of zero counters, if the capacity is supported. -/
def ofCapacity (capacity : Nat) : Except CoverageError CoverageMap :=
  if supported : isCapacity capacity then
    .ok ⟨Array.replicate capacity 0, by simpa using supported⟩
  else .error (.invalidCapacity capacity)

/-- The number of counters. -/
def capacity (map : CoverageMap) : Nat := map.counters.size

/-- The counter of an edge. -/
def get (map : CoverageMap) (edge : Nat) : UInt8 :=
  map.counters.getD (edge % map.capacity) 0

/-- The sum of two counts, at most 255. -/
def saturatingAdd (left right : UInt8) : UInt8 :=
  if left.toNat + right.toNat < 256 then left + right else 255

/-- Count one execution of an edge. -/
def increment (map : CoverageMap) (edge : Nat) : CoverageMap :=
  ⟨map.counters.modify (edge % map.capacity) (saturatingAdd · 1), by
    simpa using map.supported⟩

/-- Add counts collected elsewhere, one for each counter. -/
def absorb (map : CoverageMap) (counts : Array UInt8) : Except CoverageError CoverageMap :=
  if same : counts.size = map.counters.size then
    .ok ⟨map.counters.zipWith saturatingAdd counts, by
      simpa [Array.size_zipWith, same] using map.supported⟩
  else .error (.lengthMismatch map.capacity counts.size)

/-- The map with every counter at zero. -/
def reset (map : CoverageMap) : CoverageMap :=
  ⟨Array.replicate map.capacity 0, by simpa [capacity] using map.supported⟩

/-- The counters as they are now. -/
def snapshot (map : CoverageMap) : CoverageSnapshot := ⟨map.counters⟩

/-- Report the execution of an edge with the given guard. Guard zero marks an
inactive edge and counts nothing. -/
def hit (map : CoverageMap) (guard : UInt32) : CoverageMap :=
  if guard = 0 then map else map.increment guard.toNat

/-- Report several guards in order. -/
def hitAll (map : CoverageMap) (guards : List UInt32) : CoverageMap :=
  guards.foldl hit map

/-- The counters as they are read one after another, one a nanosecond, while guards are still
reported at the times given. A report that comes before its counter is read is seen. -/
def snapshotBeside (map : CoverageMap) (trailing : List (Nat × UInt32)) : CoverageSnapshot :=
  let seen := trailing.filter fun (time, guard) => time < guard.toNat % map.capacity
  (map.hitAll (seen.map Prod.snd)).snapshot

@[simp] theorem snapshotBeside_nil (map : CoverageMap) : map.snapshotBeside [] = map.snapshot := rfl

@[simp] theorem capacity_increment (map : CoverageMap) (edge : Nat) :
    (map.increment edge).capacity = map.capacity := by
  simp [increment, capacity]

@[simp] theorem capacity_reset (map : CoverageMap) : map.reset.capacity = map.capacity := by
  simp [reset, capacity]

@[simp] theorem capacity_hit (map : CoverageMap) (guard : UInt32) :
    (map.hit guard).capacity = map.capacity := by
  unfold hit
  split
  · rfl
  · exact capacity_increment map guard.toNat

@[simp] theorem capacity_snapshot (map : CoverageMap) : map.snapshot.capacity = map.capacity := rfl

/-- Counts are only added to a map of their own length, which keeps that length. -/
theorem capacity_of_absorb {map after : CoverageMap} {counts : Array UInt8}
    (absorbed : map.absorb counts = .ok after) : after.capacity = map.capacity := by
  unfold absorb at absorbed
  split at absorbed
  next same =>
    cases absorbed
    simp [capacity, Array.size_zipWith, same]
  next => cases absorbed

end CoverageMap
end Crosscheck
