import Mathlib
import Crosscheck.Target

/-!
# What counters count

A counter shows how often its edges were reported since the map was at zero, as far as an
octet can tell. `count_hitAll` says so for any number of reports in any order.
-/

namespace Crosscheck

namespace CoverageMap

/-- The count of a counter. -/
def count (map : CoverageMap) (slot : Nat) : Nat := (map.counters.getD slot 0).toNat

theorem capacity_pos (map : CoverageMap) : 0 < map.capacity := by
  have supported := map.supported
  simp only [isCapacity, minCapacity, Bool.and_eq_true, decide_eq_true_eq] at supported
  exact (Nat.succ_pos 63).trans_le (of_decide_eq_true supported.1)

/-- Whether a guard is active and counts at a counter. -/
def reaches (capacity slot : Nat) (guard : UInt32) : Bool :=
  guard != 0 && guard.toNat % capacity == slot

/-- An edge is counted at its number modulo the capacity. -/
theorem toNat_get (map : CoverageMap) (edge : Nat) :
    (map.get edge).toNat = map.count (edge % map.capacity) := rfl

theorem count_le (map : CoverageMap) (slot : Nat) : map.count slot ≤ 255 := by
  have bounded := (map.counters.getD slot 0).toNat_lt
  unfold count
  omega

/-- A map is told by its capacity and its counts. -/
theorem ext_count {left right : CoverageMap} (sized : left.capacity = right.capacity)
    (counts : ∀ slot, slot < left.capacity → left.count slot = right.count slot) :
    left = right := by
  obtain ⟨counters, supported⟩ := left
  obtain ⟨others, othersSupported⟩ := right
  congr 1
  refine Array.ext sized fun slot inside otherInside => ?_
  have same := counts slot inside
  simp only [count, Array.getD_eq_getD_getElem?, Array.getElem?_eq_getElem inside,
    Array.getElem?_eq_getElem otherInside, Option.getD_some] at same
  exact UInt8.toNat_inj.mp same

/-- Nothing has been counted since the map was reset. -/
@[simp] theorem count_reset (map : CoverageMap) (slot : Nat) : map.reset.count slot = 0 := by
  unfold count reset
  simp only [Array.getD_eq_getD_getElem?, Array.getElem?_replicate]
  split <;> rfl

/-- Maps of the same capacity are the same once they are reset. -/
theorem reset_of_capacity {left right : CoverageMap} (same : left.capacity = right.capacity) :
    left.reset = right.reset := by
  simp [reset, same]

@[simp] theorem reset_reset (map : CoverageMap) : map.reset.reset = map.reset :=
  reset_of_capacity map.capacity_reset

@[simp] theorem reset_hit (map : CoverageMap) (guard : UInt32) :
    (map.hit guard).reset = map.reset :=
  reset_of_capacity (map.capacity_hit guard)

@[simp] theorem capacity_hitAll (map : CoverageMap) (guards : List UInt32) :
    (map.hitAll guards).capacity = map.capacity := by
  induction guards generalizing map with
  | nil => rfl
  | cons guard rest inductionHypothesis =>
      exact (inductionHypothesis (map.hit guard)).trans (map.capacity_hit guard)

@[simp] theorem capacity_snapshotBeside (map : CoverageMap) (trailing : List (Nat × UInt32)) :
    (map.snapshotBeside trailing).capacity = map.capacity := by
  unfold snapshotBeside
  exact map.capacity_hitAll _

theorem hitAll_append (map : CoverageMap) (earlier later : List UInt32) :
    map.hitAll (earlier ++ later) = (map.hitAll earlier).hitAll later := by
  simp [hitAll]

/-- Octets are added as numbers up to 255. -/
theorem toNat_saturatingAdd (left right : UInt8) :
    (saturatingAdd left right).toNat = min 255 (left.toNat + right.toNat) := by
  unfold saturatingAdd
  split
  next fits =>
    rw [UInt8.toNat_add]
    omega
  next =>
    change 255 = _
    omega

theorem count_increment (map : CoverageMap) (edge : Nat) {slot : Nat}
    (inside : slot < map.capacity) :
    (map.increment edge).count slot =
      min 255 (map.count slot + if edge % map.capacity = slot then 1 else 0) := by
  have bounded := map.count_le slot
  have held : map.counters[slot]? = some (map.counters.getD slot 0) := by
    simp only [capacity] at inside
    simp [inside]
  unfold count increment at *
  simp only [Array.getD_eq_getD_getElem?, Array.getElem?_modify]
  split
  next here =>
    rw [held, Option.map_some, Option.getD_some, toNat_saturatingAdd]
    rfl
  next elsewhere =>
    rw [← Array.getD_eq_getD_getElem?]
    omega

theorem count_hit (map : CoverageMap) (guard : UInt32) {slot : Nat}
    (inside : slot < map.capacity) :
    (map.hit guard).count slot =
      min 255 (map.count slot + if reaches map.capacity slot guard then 1 else 0) := by
  have bounded := map.count_le slot
  unfold hit
  split
  next inactive => simp [reaches, inactive, bounded]
  next active => simp [map.count_increment _ inside, reaches, active]

/-- Each report of an active guard counts one at its counter, up to 255. -/
theorem count_hitAll (map : CoverageMap) (guards : List UInt32) {slot : Nat}
    (inside : slot < map.capacity) :
    (map.hitAll guards).count slot =
      min 255 (map.count slot + guards.countP (reaches map.capacity slot)) := by
  induction guards generalizing map with
  | nil =>
      have bounded := map.count_le slot
      simp [hitAll, bounded]
  | cons guard rest inductionHypothesis =>
      have counted := inductionHypothesis (map.hit guard) (by simpa using inside)
      rw [map.capacity_hit, map.count_hit guard inside] at counted
      rw [List.countP_cons]
      change ((map.hit guard).hitAll rest).count slot = _
      rw [counted]
      omega

end CoverageMap

/-- A sink passes reports on to its map. -/
theorem Sink.foldl_hit (sink : Sink) (guards : List UInt32) :
    guards.foldl Sink.hit sink = ⟨sink.generation, sink.map.hitAll guards⟩ := by
  induction guards generalizing sink with
  | nil => rfl
  | cons guard rest inductionHypothesis => exact inductionHypothesis (sink.hit guard)

end Crosscheck
