import Mathlib
import Crosscheck.Proofs.Coverage.Union

/-!
# Eight counters at a time

A word is read through its lanes: `packed` is the number that has given octets for lanes.
Bitwise operations act on each lane apart (`bitwise_packed`), and so does an addition whose
sums stay below 256 (`packed_add`). The word scan is made of these, so that it comes down to a
question about single octets (`hasNewLane_iff`), and finds what a scan counter by counter
finds: the two lengths may be any, and the last word may be cut short (`hasNovel_agrees`).
-/

namespace Crosscheck.CoverageUnion

section Packed

/-- The number whose octets are the given lanes, the first lowest. -/
def packed (lane : Nat → Nat) (count : Nat) : Nat :=
  ∑ index ∈ Finset.range count, lane index * 256 ^ index

variable {left right : Nat → Nat} {count : Nat}

theorem packed_succ (lane : Nat → Nat) (count : Nat) :
    packed lane (count + 1) = lane count * 2 ^ (8 * count) + packed lane count := by
  rw [packed, Finset.sum_range_succ, Nat.add_comm, pow_mul]
  rfl

theorem packed_lt (octets : ∀ index, left index < 256) : packed left count < 2 ^ (8 * count) := by
  induction count with
  | zero => simp [packed]
  | succ count inductionHypothesis =>
      have top : left count + 1 ≤ 256 := octets count
      calc packed left (count + 1)
        _ = left count * 2 ^ (8 * count) + packed left count := packed_succ left count
        _ < left count * 2 ^ (8 * count) + 2 ^ (8 * count) := by omega
        _ = (left count + 1) * 2 ^ (8 * count) := by ring
        _ ≤ 256 * 2 ^ (8 * count) := Nat.mul_le_mul_right _ top
        _ = 2 ^ (8 * (count + 1)) := by ring

theorem packed_add (left right : Nat → Nat) (count : Nat) :
    packed left count + packed right count =
      packed (fun index => left index + right index) count := by
  simp only [packed, ← Finset.sum_add_distrib, Nat.add_mul]

theorem packed_eq_zero_iff : packed left count = 0 ↔ ∀ index < count, left index = 0 := by
  simp [packed]

/-- Numbers are combined bit by bit below and above any position apart. -/
theorem bitwise_add_mul {op : Bool → Bool → Bool} (quiet : op false false = false)
    {position low otherLow : Nat} (bounded : low < 2 ^ position)
    (otherBounded : otherLow < 2 ^ position) (high otherHigh : Nat) :
    Nat.bitwise op (high * 2 ^ position + low) (otherHigh * 2 ^ position + otherLow) =
      Nat.bitwise op high otherHigh * 2 ^ position + Nat.bitwise op low otherLow := by
  have within := Nat.bitwise_lt_two_pow (f := op) bounded otherBounded
  apply Nat.eq_of_testBit_eq
  intro bit
  simp only [Nat.mul_comm _ (2 ^ position), Nat.testBit_bitwise quiet,
    Nat.testBit_two_pow_mul_add _ bounded, Nat.testBit_two_pow_mul_add _ otherBounded,
    Nat.testBit_two_pow_mul_add _ within]
  split <;> rfl

/-- Words are combined lane by lane. -/
theorem bitwise_packed {op : Bool → Bool → Bool} (quiet : op false false = false)
    (octets : ∀ index, left index < 256) (otherOctets : ∀ index, right index < 256) :
    Nat.bitwise op (packed left count) (packed right count) =
      packed (fun index => Nat.bitwise op (left index) (right index)) count := by
  induction count with
  | zero => simp [packed]
  | succ count inductionHypothesis =>
      rw [packed_succ, packed_succ, packed_succ, ← inductionHypothesis]
      exact bitwise_add_mul quiet (packed_lt octets) (packed_lt otherOctets) _ _

theorem packed_and (octets : ∀ index, left index < 256) (otherOctets : ∀ index, right index < 256) :
    packed left count &&& packed right count =
      packed (fun index => left index &&& right index) count :=
  bitwise_packed rfl octets otherOctets

theorem packed_or (octets : ∀ index, left index < 256) (otherOctets : ∀ index, right index < 256) :
    packed left count ||| packed right count =
      packed (fun index => left index ||| right index) count :=
  bitwise_packed rfl octets otherOctets

/-- The lanes of a number are its digits to the base 256. -/
theorem packed_digits (number count : Nat) :
    packed (fun index => number / 256 ^ index % 256) count = number % 256 ^ count := by
  induction count with
  | zero => simp [packed, Nat.mod_one]
  | succ count inductionHypothesis =>
      rw [packed_succ, inductionHypothesis, pow_succ, Nat.mod_mul, pow_mul]
      ring

end Packed

/-- A lane of a word, the lowest first. -/
def laneOf (word : UInt64) (index : Nat) : Nat := word.toNat / 256 ^ index % 256

/-- Whether a word has the given lanes. -/
structure Lanes (word : UInt64) (lane : Nat → Nat) : Prop where
  octets : ∀ index, lane index < 256
  toNat : word.toNat = packed lane 8

namespace Lanes

variable {word other : UInt64} {lane otherLane : Nat → Nat}

/-- Every word has its lanes. -/
theorem ofWord (word : UInt64) : Lanes word (laneOf word) where
  octets index := Nat.mod_lt _ (by decide)
  toNat := by
    have within : word.toNat < 256 ^ 8 := word.toNat_lt
    exact ((packed_digits word.toNat 8).trans (Nat.mod_eq_of_lt within)).symm

theorem and (lanes : Lanes word lane) (others : Lanes other otherLane) :
    Lanes (word &&& other) fun index => lane index &&& otherLane index where
  octets index := Nat.and_le_left.trans_lt (lanes.octets index)
  toNat := by rw [UInt64.toNat_and, lanes.toNat, others.toNat,
    packed_and lanes.octets others.octets]

theorem or (lanes : Lanes word lane) (others : Lanes other otherLane) :
    Lanes (word ||| other) fun index => lane index ||| otherLane index where
  octets index :=
    show _ < 2 ^ 8 from Nat.or_lt_two_pow (lanes.octets index) (others.octets index)
  toNat := by rw [UInt64.toNat_or, lanes.toNat, others.toNat,
    packed_or lanes.octets others.octets]

/-- Lanes whose sums are octets do not carry into each other. -/
theorem add (lanes : Lanes word lane) (others : Lanes other otherLane)
    (sums : ∀ index, lane index + otherLane index < 256) :
    Lanes (word + other) fun index => lane index + otherLane index where
  octets := sums
  toNat := by
    have within : packed (fun index => lane index + otherLane index) 8 < 2 ^ 64 := packed_lt sums
    rw [UInt64.toNat_add, lanes.toNat, others.toNat, packed_add, Nat.mod_eq_of_lt within]

theorem complement (lanes : Lanes word lane) :
    Lanes (~~~word) fun index => 255 - lane index where
  octets index := by omega
  toNat := by
    have sum : packed (fun index => 255 - lane index) 8 + packed lane 8 = UInt64.size - 1 := by
      rw [packed_add]
      have full : (fun index => 255 - lane index + lane index) = fun _ => 255 := by
        funext index
        have octet := lanes.octets index
        omega
      rw [full]
      rfl
    rw [UInt64.toNat_not, lanes.toNat]
    omega

theorem ne_zero_iff (lanes : Lanes word lane) : word ≠ 0 ↔ ∃ index < 8, lane index ≠ 0 := by
  rw [ne_eq, ← UInt64.toNat_inj, lanes.toNat]
  change ¬packed lane 8 = 0 ↔ _
  rw [packed_eq_zero_iff]
  simp

/-- Adding the low bits carries into the highest bit of each lane that is not zero. -/
theorem nonzeroLanes (lanes : Lanes word lane) :
    Lanes (nonzeroLanes word) fun index => if lane index = 0 then 0 else 128 := by
  have low : Lanes lowBits fun _ => 127 := ⟨by simp, by rfl⟩
  have high : Lanes (~~~lowBits) fun _ => 128 := low.complement
  have masked := lanes.and low
  have carried := masked.add low fun index => by
    have bounded : lane index &&& 127 ≤ 127 := Nat.and_le_right
    omega
  have marked := (carried.or lanes).and high
  have octet : ∀ value < 256,
      ((value &&& 127) + 127 ||| value) &&& 128 = if value = 0 then 0 else 128 := by
    decide +kernel
  have same : (fun index => ((lane index &&& 127) + 127 ||| lane index) &&& 128) =
      fun index => if lane index = 0 then 0 else 128 := by
    funext index
    exact octet _ (lanes.octets index)
  exact same ▸ marked

/-- A lane is new if it is not zero where the other word's is. -/
theorem hasNewLane_iff (lanes : Lanes word lane) (others : Lanes other otherLane) :
    hasNewLane word other = true ↔ ∃ index < 8, lane index ≠ 0 ∧ otherLane index = 0 := by
  unfold hasNewLane
  rw [bne_iff_ne, (lanes.nonzeroLanes.and others.nonzeroLanes.complement).ne_zero_iff]
  refine exists_congr fun index => and_congr_right fun _ => ?_
  split_ifs <;> simp_all

end Lanes

section Scan

variable {union : CoverageUnion} {snapshot : CoverageSnapshot}

/-- Writing an octet above a word puts it on top. -/
private theorem toNat_or_shiftLeft {word : UInt64} {lane : Nat} (octet : UInt8) (below : lane < 8)
    (bounded : word.toNat < 2 ^ (8 * lane)) :
    (word ||| (octet.toUInt64 <<< UInt64.ofNat (8 * lane))).toNat =
      octet.toNat * 2 ^ (8 * lane) + word.toNat := by
  have small : octet.toNat * 2 ^ (8 * lane) < 2 ^ 64 := by
    calc octet.toNat * 2 ^ (8 * lane)
      _ < 2 ^ 8 * 2 ^ (8 * lane) := Nat.mul_lt_mul_of_pos_right octet.toNat_lt (by positivity)
      _ = 2 ^ (8 + 8 * lane) := (pow_add 2 8 (8 * lane)).symm
      _ ≤ 2 ^ 64 := Nat.pow_le_pow_right (by decide) (by omega)
  have shift : (UInt64.ofNat (8 * lane)).toNat = 8 * lane :=
    UInt64.toNat_ofNat_of_lt' (by simp only [UInt64.size]; omega)
  have inside : 8 * lane % 64 = 8 * lane := Nat.mod_eq_of_lt (by omega)
  rw [UInt64.toNat_or, UInt64.toNat_shiftLeft, UInt8.toNat_toUInt64, shift, inside,
    Nat.shiftLeft_eq, Nat.mod_eq_of_lt small, Nat.or_comm, ← Nat.shiftLeft_eq,
    Nat.shiftLeft_add_eq_or_of_lt bounded]

/-- The lanes of a word are eight counters in a row. -/
theorem lanes_packWord (counters : Array UInt8) (start : Nat) :
    Lanes (packWord counters start) fun lane => (counters.getD (start + lane) 0).toNat where
  octets index := UInt8.toNat_lt _
  toNat := by
    have partly : ∀ count ≤ 8, ((List.range count).foldl (fun word lane =>
        word ||| ((counters.getD (start + lane) 0).toUInt64 <<< UInt64.ofNat (8 * lane)))
          0).toNat = packed (fun lane => (counters.getD (start + lane) 0).toNat) count := by
      intro count most
      induction count with
      | zero => rfl
      | succ count inductionHypothesis =>
          have below := inductionHypothesis (by omega)
          have bounded : packed (fun lane => (counters.getD (start + lane) 0).toNat) count <
              2 ^ (8 * count) := packed_lt fun lane => (counters.getD (start + lane) 0).toNat_lt
          rw [List.range_succ, List.foldl_append, List.foldl_cons, List.foldl_nil,
            toNat_or_shiftLeft _ (by omega) (below ▸ bounded), below, packed_succ]
    exact partly 8 le_rfl

/-- A scan in words and a rest finds what a scan counter by counter finds. -/
theorem admitsByWords_iff : union.admitsByWords snapshot = true ↔
    ∃ slot < union.capacity, union.isNovelAt snapshot slot = true := by
  have novel : ∀ slot, union.isNovelAt snapshot slot = true ↔
      (snapshot.counts.getD slot 0).toNat ≠ 0 ∧ (union.seen.getD slot 0).toNat = 0 := by
    intro slot
    simp [isNovelAt, ← UInt8.toNat_inj]
  have word : ∀ index, (packWord snapshot.counts (8 * index) != 0 &&
        hasNewLane (packWord snapshot.counts (8 * index)) (packWord union.seen (8 * index))) =
          true ↔ ∃ lane < 8, union.isNovelAt snapshot (8 * index + lane) = true := by
    intro index
    have counts := lanes_packWord snapshot.counts (8 * index)
    have seen := lanes_packWord union.seen (8 * index)
    rw [Bool.and_eq_true, bne_iff_ne, counts.ne_zero_iff, counts.hasNewLane_iff seen]
    simp only [novel]
    refine and_iff_right_of_imp ?_
    rintro ⟨lane, below, active, _⟩
    exact ⟨lane, below, active⟩
  simp only [admitsByWords, Bool.or_eq_true, List.any_eq_true, List.mem_range, List.mem_range'_1,
    word]
  constructor
  · rintro (⟨index, early, lane, below, found⟩ | ⟨slot, ⟨late, inside⟩, found⟩)
    · exact ⟨8 * index + lane, by omega, found⟩
    · exact ⟨slot, by omega, found⟩
  · rintro ⟨slot, inside, found⟩
    by_cases early : slot < 8 * (union.capacity / 8)
    · refine .inl ⟨slot / 8, by omega, slot % 8, Nat.mod_lt _ (by decide), ?_⟩
      rwa [Nat.div_add_mod]
    · exact .inr ⟨slot, by omega, found⟩

theorem isNovelAt_iff {slot : Nat} : union.isNovelAt snapshot slot = true ↔
    snapshot.covers slot = true ∧ union.hasSeen slot = false := by
  rw [isNovelAt_eq, Bool.and_eq_true, Bool.not_eq_true']

/-- Novel counters lie within the snapshot, so that only the union can be too short for them. -/
theorem mem_sharedIndices_and_isNovelAt_iff {slot : Nat} :
    slot ∈ union.sharedIndices snapshot ∧ union.isNovelAt snapshot slot = true ↔
      slot < union.capacity ∧ snapshot.covers slot = true ∧ union.hasSeen slot = false := by
  rw [sharedIndices, List.mem_range, lt_min_iff, isNovelAt_iff, and_assoc]
  refine and_congr_right fun _ => and_iff_right_of_imp ?_
  rintro ⟨covered, _⟩
  exact lt_capacity_of_covers covered

/-- A snapshot is novel if it covers a counter that the union has room for and has not seen. -/
theorem hasNovel_iff : union.hasNovel snapshot = true ↔ ∃ slot < union.capacity,
    snapshot.covers slot = true ∧ union.hasSeen slot = false := by
  unfold hasNovel
  split
  · simp only [admitsByWords_iff, isNovelAt_iff]
  · simp only [admits, List.any_eq_true, mem_sharedIndices_and_isNovelAt_iff]

/-- A snapshot is novel exactly if folding it has a first hit. -/
theorem hasNovel_eq : union.hasNovel snapshot = decide (0 < union.novelCount snapshot) := by
  rw [Bool.eq_iff_iff, decide_eq_true_iff, Nat.pos_iff_ne_zero, ne_eq,
    novelCount_eq_zero_iff, hasNovel_iff]
  simp only [not_forall, Bool.not_eq_true, exists_prop]

/-- Reading eight counters at a time makes no difference. -/
theorem admitsByWords_eq (union : CoverageUnion) (snapshot : CoverageSnapshot) :
    union.admitsByWords snapshot = union.admits snapshot := by
  rw [Bool.eq_iff_iff, admitsByWords_iff, admits, List.any_eq_true]
  refine exists_congr fun slot => ?_
  rw [mem_sharedIndices_and_isNovelAt_iff, isNovelAt_iff]

/-- A counter that was hit for the first time lies within both lengths. -/
theorem isNovelAt_iff_getElem {slot : Nat} :
    slot < union.capacity ∧ union.isNovelAt snapshot slot = true ↔
      ∃ (inUnion : slot < union.seen.size) (inSnapshot : slot < snapshot.counts.size),
        snapshot.counts[slot] ≠ 0 ∧ union.seen[slot] = 0 := by
  constructor
  · rintro ⟨inUnion, novel⟩
    have inSnapshot : slot < snapshot.counts.size :=
      lt_capacity_of_covers (isNovelAt_iff.mp novel).1
    have inSeen : slot < union.seen.size := inUnion
    refine ⟨inSeen, inSnapshot, ?_⟩
    rw [Array.getElem_eq_getD 0, Array.getElem_eq_getD 0]
    simpa [isNovelAt] using novel
  · rintro ⟨inUnion, inSnapshot, hit, unseen⟩
    rw [Array.getElem_eq_getD 0] at hit unseen
    refine ⟨inUnion, ?_⟩
    simpa [isNovelAt] using And.intro hit unseen

/-- A snapshot of any length is novel exactly if it hits a counter that the union has not seen
at a place that both have, which is when folding it would count a first hit. The scan in words
finds what the scan counter by counter finds, since for any two words its question is asked of
each lane apart. -/
theorem hasNovel_agrees (union : CoverageUnion) (snapshot : CoverageSnapshot) :
    (union.hasNovel snapshot = true ↔
      ∃ (slot : Nat) (inUnion : slot < union.seen.size) (inSnapshot : slot < snapshot.counts.size),
        snapshot.counts[slot] ≠ 0 ∧ union.seen[slot] = 0) ∧
    (union.hasNovel snapshot = true ↔ 0 < union.novelCount snapshot) ∧
    union.admitsByWords snapshot = union.admits snapshot ∧
    ∀ new seen : UInt64, hasNewLane new seen = true ↔
      ∃ lane < 8, laneOf new lane ≠ 0 ∧ laneOf seen lane = 0 := by
  refine ⟨?_, ?_, admitsByWords_eq union snapshot, fun new seen => ?_⟩
  · simp only [hasNovel_iff, ← isNovelAt_iff_getElem, isNovelAt_iff]
  · rw [hasNovel_eq, decide_eq_true_iff]
  · exact (Lanes.ofWord new).hasNewLane_iff (Lanes.ofWord seen)

end Scan

end Crosscheck.CoverageUnion
