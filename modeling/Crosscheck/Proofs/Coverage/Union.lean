import Mathlib
import Crosscheck.Coverage.Union

/-!
# What a union has seen

A union is determined, for all that novelty asks of it, by its capacity and by the set
of counters that it has seen. `hasSeen_fold` says what folding a snapshot adds to that
set and `coveredEdges_fold` that the number of first hits is exactly its growth, so
that nothing is counted twice and nothing is lost.
-/

namespace Crosscheck.CoverageUnion

/-- Whether a counter has ever been hit. -/
def hasSeen (union : CoverageUnion) (slot : Nat) : Bool := union.seen.getD slot 0 != 0

@[simp] theorem capacity_ofCapacity (count : Nat) : (ofCapacity count).capacity = count := by
  simp [ofCapacity, capacity]

@[simp] theorem hasSeen_ofCapacity (count slot : Nat) :
    (ofCapacity count).hasSeen slot = false := by
  by_cases inside : slot < count <;> simp [ofCapacity, hasSeen, Array.getD, inside]

@[simp] theorem capacity_fold (union : CoverageUnion) (snapshot : CoverageSnapshot) :
    (union.fold snapshot).capacity = union.capacity := by
  simp [fold, capacity]

/-- Folding adds exactly the covered counters that the union has room for. -/
theorem hasSeen_fold (union : CoverageUnion) (snapshot : CoverageSnapshot) (slot : Nat) :
    (union.fold snapshot).hasSeen slot =
      (union.hasSeen slot || (decide (slot < union.capacity) && snapshot.covers slot)) := by
  by_cases inside : slot < union.seen.size
  · by_cases unseen : union.seen[slot] = 0 <;>
      simp [hasSeen, fold, capacity, CoverageSnapshot.covers, Array.getD, inside, unseen]
  · simp [hasSeen, fold, capacity, Array.getD, inside]

/-- A counter is novel if it is covered and not yet seen. -/
theorem isNovelAt_eq (union : CoverageUnion) (snapshot : CoverageSnapshot) (slot : Nat) :
    union.isNovelAt snapshot slot = (snapshot.covers slot && !union.hasSeen slot) := by
  simp [isNovelAt, CoverageSnapshot.covers, hasSeen, bne]

/-- Counters past the end of a snapshot are not covered. -/
theorem lt_capacity_of_covers {snapshot : CoverageSnapshot} {slot : Nat}
    (covered : snapshot.covers slot = true) : slot < snapshot.capacity := by
  by_contra beyond
  have missing : ¬slot < snapshot.counts.size := beyond
  simp [CoverageSnapshot.covers, Array.getD, missing] at covered

private theorem countP_range_getD {α : Type} (test : α → Bool) (default : α) (values : List α) :
    (List.range values.length).countP (fun index => test (values.getD index default)) =
      values.countP test := by
  have entries : (List.range values.length).map (values.getD · default) = values := by
    apply List.ext_getElem (by simp)
    intro index _ inside
    simp [List.getD_eq_getElem?_getD, inside]
  conv_rhs => rw [← entries]
  exact List.countP_map.symm

/-- The covered counters, counted by their places. -/
theorem coveredEdges_eq_countP (union : CoverageUnion) :
    union.coveredEdges = (List.range union.capacity).countP union.hasSeen := by
  have places := countP_range_getD (· != 0) (0 : UInt8) union.seen.toList
  simp only [Array.length_toList, Array.countP_toList] at places
  rw [coveredEdges, ← places, capacity]
  congr 1
  funext slot
  simp [hasSeen, Array.getD_eq_getD_getElem?, List.getD_eq_getElem?_getD]

private theorem countP_range_of_bounded (test : Nat → Bool) {small large : Nat}
    (ordered : small ≤ large) (bounded : ∀ index, test index = true → index < small) :
    (List.range large).countP test = (List.range small).countP test := by
  obtain ⟨extra, rfl⟩ := Nat.exists_eq_add_of_le ordered
  have none : ((List.range extra).map (small + ·)).countP test = 0 := by
    rw [List.countP_eq_zero]
    intro index member holds
    obtain ⟨offset, _, rfl⟩ := List.mem_map.mp member
    have inside := bounded _ holds
    omega
  rw [List.range_add, List.countP_append, none, Nat.add_zero]

/-- First hits can be counted over all places of the union, for a snapshot covers nothing
past its own end. -/
theorem novelCount_eq_countP (union : CoverageUnion) (snapshot : CoverageSnapshot) :
    union.novelCount snapshot =
      (List.range union.capacity).countP
        (fun slot => snapshot.covers slot && !union.hasSeen slot) := by
  have within : ∀ slot, slot < union.capacity →
      (snapshot.covers slot && !union.hasSeen slot) = true →
        slot < min union.capacity snapshot.capacity := by
    intro slot inside novel
    have covered : snapshot.covers slot = true := by simp_all
    have bounded := lt_capacity_of_covers covered
    omega
  have same : union.novelCount snapshot =
      (List.range (min union.capacity snapshot.capacity)).countP
        (fun slot => decide (slot < union.capacity) &&
          (snapshot.covers slot && !union.hasSeen slot)) := by
    apply List.countP_congr
    intro slot member
    have inside : slot < union.capacity := by
      have := List.mem_range.mp member
      omega
    simp [isNovelAt_eq, inside]
  rw [same, ← countP_range_of_bounded _ (Nat.min_le_left union.capacity snapshot.capacity)]
  · apply List.countP_congr
    intro slot member
    simp [List.mem_range.mp member]
  · intro slot novel
    simp only [Bool.and_eq_true, decide_eq_true_eq] at novel
    exact within slot novel.1 (by simpa using novel.2)

/-- A snapshot has no first hit exactly if the union has seen all that it covers within
the capacity. -/
theorem novelCount_eq_zero_iff (union : CoverageUnion) (snapshot : CoverageSnapshot) :
    union.novelCount snapshot = 0 ↔
      ∀ slot, slot < union.capacity → snapshot.covers slot = true → union.hasSeen slot = true := by
  rw [novelCount_eq_countP, List.countP_eq_zero]
  constructor
  · intro none slot inside covered
    have old := none slot (List.mem_range.mpr inside)
    simpa [covered] using old
  · intro old slot member
    have inside := List.mem_range.mp member
    cases covered : snapshot.covers slot with
    | false => simp
    | true => simp [old slot inside covered]

private theorem countP_or (left right : Nat → Bool) (places : List Nat) :
    places.countP (fun slot => left slot || right slot) =
      places.countP left + places.countP (fun slot => right slot && !left slot) := by
  induction places with
  | nil => rfl
  | cons place rest inductionHypothesis =>
      simp only [List.countP_cons, inductionHypothesis]
      cases left place <;> cases right place <;> simp <;> omega

/-- The number of first hits is the growth of the covered set. -/
theorem coveredEdges_fold (union : CoverageUnion) (snapshot : CoverageSnapshot) :
    (union.fold snapshot).coveredEdges = union.coveredEdges + union.novelCount snapshot := by
  rw [coveredEdges_eq_countP, coveredEdges_eq_countP, novelCount_eq_countP, capacity_fold,
    ← countP_or]
  apply List.countP_congr
  intro slot member
  simp [hasSeen_fold, List.mem_range.mp member]

@[simp] theorem coveredEdges_ofCapacity (count : Nat) : (ofCapacity count).coveredEdges = 0 := by
  rw [coveredEdges_eq_countP, List.countP_eq_zero]
  simp

/-- Two unions that cannot be told apart by folding snapshots into them. -/
structure Alike (left right : CoverageUnion) : Prop where
  capacity : left.capacity = right.capacity
  seen : ∀ slot, left.hasSeen slot = right.hasSeen slot

/-- Unions that have seen the same counters find the same number of first hits. -/
theorem Alike.novelCount {left right : CoverageUnion} (alike : left.Alike right)
    (snapshot : CoverageSnapshot) : left.novelCount snapshot = right.novelCount snapshot := by
  simp only [novelCount_eq_countP, alike.capacity, alike.seen]

/-- Folding the same snapshot keeps unions alike. -/
theorem Alike.fold {left right : CoverageUnion} (alike : left.Alike right)
    (snapshot : CoverageSnapshot) : (left.fold snapshot).Alike (right.fold snapshot) where
  capacity := by simp [alike.capacity]
  seen slot := by simp only [hasSeen_fold, alike.capacity, alike.seen]

end Crosscheck.CoverageUnion
