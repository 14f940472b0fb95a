import Mathlib
import Crosscheck.Proofs.Coverage.Gathering
import Crosscheck.Proofs.Digest

/-!
# What a signature tells

A footprint is read through the indices that it has as a set of bits: `hasBit_footprint` says
that these are the counters that were hit, so that footprints are equal exactly if the covered
sets and the numbers of octets are (`footprint_eq_iff`). Hit counts are gone there, and every
mark is set in an octet that is there (`footprint?_eq`), also if the capacity fills the last one
in part.
-/

namespace Crosscheck.CoverageSnapshot

/-- The set of the counters that were hit. -/
def covered (snapshot : CoverageSnapshot) : Finset Nat := snapshot.coveredIndices.toFinset

theorem mem_covered {snapshot : CoverageSnapshot} {index : Nat} :
    index ∈ snapshot.covered ↔ snapshot.covers index = true := by
  rw [covered, List.mem_toFinset, mem_coveredIndices]

/-- Whether a set of bits, eight to the octet and the lowest first, has an index. -/
def hasBit (bits : Array UInt8) (index : Nat) : Bool :=
  (bits.getD (index / 8) 0).toNat.testBit (index % 8)

/-- Set a bit with the bounds checked: no answer if its octet is not there. -/
def markBit? (bits : Array UInt8) (index : Nat) : Option (Array UInt8) :=
  if index / 8 < bits.size then some (markBit bits index) else none

/-- The footprint with the bounds checked at every mark. -/
def footprint? (snapshot : CoverageSnapshot) : Option (Array UInt8) :=
  snapshot.coveredIndices.foldlM markBit? (Array.replicate ((snapshot.capacity + 7) / 8) 0)

section Bits

variable {bits others : Array UInt8} {index slot : Nat}

@[simp] theorem size_markBit (bits : Array UInt8) (index : Nat) :
    (markBit bits index).size = bits.size := by
  simp [markBit]

theorem size_foldl_markBit (indices : List Nat) (bits : Array UInt8) :
    (indices.foldl markBit bits).size = bits.size := by
  induction indices generalizing bits with
  | nil => rfl
  | cons index rest inductionHypothesis =>
      rw [List.foldl_cons, inductionHypothesis, size_markBit]

/-- One bit of an octet is set and the others are as they were. -/
theorem testBit_or_shiftLeft (octet : UInt8) {place bit : Nat} (inside : place < 8)
    (within : bit < 8) :
    (octet ||| (1 <<< UInt8.ofNat place)).toNat.testBit bit =
      (octet.toNat.testBit bit || decide (bit = place)) := by
  have amount : (UInt8.ofNat place).toNat % 8 = place := by
    rw [UInt8.toNat_ofNat_of_lt' (by simp only [UInt8.size]; omega), Nat.mod_eq_of_lt inside]
  rw [UInt8.toNat_or, UInt8.toNat_shiftLeft, amount, Nat.testBit_or, Nat.testBit_mod_two_pow,
    UInt8.toNat_one, Nat.one_shiftLeft, Nat.testBit_two_pow]
  simp [within, eq_comm]

/-- Only the octet of the index is another one. -/
theorem getD_markBit (inside : index / 8 < bits.size) (octet : Nat) :
    (markBit bits index).getD octet 0 =
      if octet = index / 8 then bits.getD octet 0 ||| (1 <<< UInt8.ofNat (index % 8))
      else bits.getD octet 0 := by
  simp only [markBit, Array.getD_eq_getD_getElem?, Array.getElem?_modify]
  by_cases same : octet = index / 8
  · subst same
    simp [inside]
  · simp [same, Ne.symm same]

theorem hasBit_markBit (inside : index / 8 < bits.size) :
    hasBit (markBit bits index) slot = (hasBit bits slot || decide (slot = index)) := by
  unfold hasBit
  rw [getD_markBit inside]
  split
  next same =>
    rw [testBit_or_shiftLeft _ (Nat.mod_lt _ (by decide)) (Nat.mod_lt _ (by decide))]
    congr 2
    rw [eq_iff_iff]
    omega
  next other =>
    have differs : slot ≠ index := fun same => other (same ▸ rfl)
    simp [differs]

theorem hasBit_foldl_markBit {indices : List Nat}
    (inside : ∀ index ∈ indices, index / 8 < bits.size) :
    hasBit (indices.foldl markBit bits) slot = (hasBit bits slot || decide (slot ∈ indices)) := by
  induction indices generalizing bits with
  | nil => simp
  | cons index rest inductionHypothesis =>
      rw [List.forall_mem_cons] at inside
      rw [List.foldl_cons, inductionHypothesis (by simpa using inside.2), hasBit_markBit inside.1]
      simp [Bool.or_assoc]

/-- Sets of bits in as many octets are equal if they have the same indices. -/
theorem eq_of_hasBit (aligned : bits.size = others.size)
    (same : ∀ slot, hasBit bits slot = hasBit others slot) : bits = others := by
  refine Array.ext aligned fun place inBits inOthers => ?_
  rw [← UInt8.toNat_inj]
  apply Nat.eq_of_testBit_eq
  intro bit
  by_cases within : bit < 8
  · -- Below eight it is the bit of one index.
    have here := same (8 * place + bit)
    have octet : (8 * place + bit) / 8 = place := by omega
    have lane : (8 * place + bit) % 8 = bit := by omega
    rw [hasBit, hasBit, octet, lane] at here
    simpa [Array.getD, inBits, inOthers] using here
  · have above : 2 ^ 8 ≤ 2 ^ bit := Nat.pow_le_pow_right (by decide) (by omega)
    rw [Nat.testBit_lt_two_pow (bits[place].toNat_lt.trans_le above),
      Nat.testBit_lt_two_pow (others[place].toNat_lt.trans_le above)]

/-- Where every mark finds its octet, checking the bounds makes no difference. -/
theorem foldlM_markBit? {indices : List Nat} (inside : ∀ index ∈ indices, index / 8 < bits.size) :
    indices.foldlM markBit? bits = some (indices.foldl markBit bits) := by
  induction indices generalizing bits with
  | nil => rfl
  | cons index rest inductionHypothesis =>
      rw [List.forall_mem_cons] at inside
      have marked : markBit? bits index = some (markBit bits index) := if_pos inside.1
      rw [List.foldlM_cons, marked, List.foldl_cons]
      exact inductionHypothesis (by simpa using inside.2)

end Bits

section Footprint

variable (snapshot : CoverageSnapshot)

/-- Every covered index has its octet, also in the last one. -/
theorem div_lt_of_mem_coveredIndices {index : Nat} (member : index ∈ snapshot.coveredIndices) :
    index / 8 < (Array.replicate ((snapshot.capacity + 7) / 8) (0 : UInt8)).size := by
  have inside := CoverageUnion.lt_capacity_of_covers (mem_coveredIndices.mp member)
  rw [Array.size_replicate]
  omega

@[simp] theorem size_footprint : snapshot.footprint.size = (snapshot.capacity + 7) / 8 := by
  rw [footprint, size_foldl_markBit, Array.size_replicate]

/-- The bits of a footprint are the counters that were hit. -/
theorem hasBit_footprint (slot : Nat) : hasBit snapshot.footprint slot = snapshot.covers slot := by
  have blank : hasBit (Array.replicate ((snapshot.capacity + 7) / 8) (0 : UInt8)) slot = false := by
    by_cases inside : slot / 8 < (snapshot.capacity + 7) / 8 <;>
      simp [hasBit, Array.getD, inside]
  rw [footprint, hasBit_foldl_markBit fun _ => snapshot.div_lt_of_mem_coveredIndices, blank,
    Bool.false_or, Bool.eq_iff_iff, decide_eq_true_iff, mem_coveredIndices]

/-- No mark of a footprint is set past its end. -/
theorem footprint?_eq : snapshot.footprint? = some snapshot.footprint :=
  foldlM_markBit? fun _ => snapshot.div_lt_of_mem_coveredIndices

end Footprint

variable {left right : CoverageSnapshot}

/-- Footprints are equal exactly if the covered sets are and the capacities round up to the same
number of octets. -/
theorem footprint_eq_iff : left.footprint = right.footprint ↔
    left.covered = right.covered ∧ left.capacity ⌈/⌉ 8 = right.capacity ⌈/⌉ 8 := by
  rw [Nat.ceilDiv_eq_add_pred_div, Nat.ceilDiv_eq_add_pred_div]
  constructor
  · intro same
    refine ⟨?_, by simpa using congrArg Array.size same⟩
    ext slot
    rw [mem_covered, mem_covered, ← hasBit_footprint, ← hasBit_footprint, same]
  · rintro ⟨sets, octets⟩
    refine eq_of_hasBit (by simpa using octets) fun slot => ?_
    rw [hasBit_footprint, hasBit_footprint, Bool.eq_iff_iff, ← mem_covered, ← mem_covered, sets]

/-- Signatures are digests of footprints. These are equal exactly if the same counters were hit
and the capacities round up to the same multiple of eight. So snapshots of one capacity have one
signature if they cover the same counters, however often, and two if they do not and the digests
of their footprints do not collide. No bit of a footprint is set past its end. -/
theorem signature_tells_covered (left right : CoverageSnapshot) :
    (left.footprint = right.footprint ↔
      left.covered = right.covered ∧ 8 * (left.capacity ⌈/⌉ 8) = 8 * (right.capacity ⌈/⌉ 8)) ∧
    (left.capacity = right.capacity → left.covered = right.covered →
      left.signature = right.signature) ∧
    (left.capacity = right.capacity → left.covered ≠ right.covered →
      ¬Digest.Collide left.footprint.toList right.footprint.toList →
        left.signature ≠ right.signature) ∧
    left.footprint? = some left.footprint ∧ right.footprint? = some right.footprint := by
  refine ⟨?_, fun capacities sets => ?_, fun capacities differ free same => ?_,
    left.footprint?_eq, right.footprint?_eq⟩
  · rw [footprint_eq_iff, Nat.mul_right_inj (by decide)]
  · have equal : left.footprint = right.footprint :=
      footprint_eq_iff.mpr ⟨sets, by rw [capacities]⟩
    rw [signature, equal, signature]
  · refine free ⟨fun equal => differ ?_, same⟩
    exact (footprint_eq_iff.mp (Array.toList_inj.mp equal)).1

/-- Sixty-eight counters, whose bits end within an octet, one of them hit so often. -/
def single (index : Nat) (count : UInt8) : CoverageSnapshot :=
  ⟨(Array.replicate 68 0).setIfInBounds index count⟩

theorem capacity_single (index : Nat) (count : UInt8) : (single index count).capacity = 68 := by
  simp [single, capacity]

/-- The last of the counters, hit once or often, is told from the one before it. -/
theorem signature_tells_covered_last :
    (single 67 1).covered = (single 67 17).covered ∧
      (single 67 1).signature = (single 67 17).signature ∧
      (single 67 1).covered ≠ (single 66 1).covered ∧
      ¬Digest.Collide (single 67 1).footprint.toList (single 66 1).footprint.toList ∧
      (single 67 1).signature ≠ (single 66 1).signature := by
  have often : (single 67 1).covered = (single 67 17).covered := by decide +kernel
  have differ : (single 67 1).covered ≠ (single 66 1).covered := by decide +kernel
  have free : ¬Digest.Collide (single 67 1).footprint.toList (single 66 1).footprint.toList := by
    unfold Digest.Collide
    decide +kernel
  obtain ⟨_, same, _⟩ := signature_tells_covered (single 67 1) (single 67 17)
  obtain ⟨_, _, apart, _⟩ := signature_tells_covered (single 67 1) (single 66 1)
  rw [capacity_single, capacity_single] at same apart
  exact ⟨often, same rfl often, differ, free, apart rfl differ free⟩

end Crosscheck.CoverageSnapshot
