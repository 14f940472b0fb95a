import Mathlib
import Crosscheck.Proofs.Coverage.Words

/-!
# Gathering snapshots

A union that folds one snapshot after another, of whatever lengths, keeps the counts of first
hits, which depend on the order. The set of counters that it has seen does not: `hasSeen_foldAll`
tells it from the snapshots alone. Each counter enters that set in exactly one fold, namely in
the first that finds it covered, so that the answers add up to its size.
-/

namespace Crosscheck

/-- The covered indices of a snapshot are those that it covers. -/
theorem CoverageSnapshot.mem_coveredIndices {snapshot : CoverageSnapshot} {slot : Nat} :
    slot ∈ snapshot.coveredIndices ↔ snapshot.covers slot = true := by
  rw [coveredIndices, List.mem_filter, List.mem_range]
  exact and_iff_right_of_imp CoverageUnion.lt_capacity_of_covers

namespace CoverageUnion

/-- The union after folding snapshots in order. -/
def foldAll (union : CoverageUnion) (snapshots : List CoverageSnapshot) : CoverageUnion :=
  snapshots.foldl fold union

/-- The answers to folding snapshots in order, each the number of first hits. -/
def answers (union : CoverageUnion) : List CoverageSnapshot → List Nat
  | [] => []
  | snapshot :: rest => union.novelCount snapshot :: (union.fold snapshot).answers rest

/-- The counters that folding a snapshot counts as novel. -/
def firstHits (union : CoverageUnion) (snapshot : CoverageSnapshot) : List Nat :=
  (union.sharedIndices snapshot).filter (union.isNovelAt snapshot)

/-- Whether a fold, told by its place among the snapshots, counts a counter as novel. -/
def CountsAt (union : CoverageUnion) (snapshots : List CoverageSnapshot) (place slot : Nat) :
    Prop :=
  ∃ snapshot, snapshots[place]? = some snapshot ∧
    slot ∈ (union.foldAll (snapshots.take place)).firstHits snapshot

section FoldAll

variable (union : CoverageUnion) (snapshots : List CoverageSnapshot)

theorem length_firstHits (snapshot : CoverageSnapshot) :
    (union.firstHits snapshot).length = union.novelCount snapshot :=
  List.countP_eq_length_filter.symm

theorem mem_firstHits {snapshot : CoverageSnapshot} {slot : Nat} :
    slot ∈ union.firstHits snapshot ↔
      slot < union.capacity ∧ snapshot.covers slot = true ∧ union.hasSeen slot = false := by
  rw [firstHits, List.mem_filter, mem_sharedIndices_and_isNovelAt_iff]

theorem foldAll_append (others : List CoverageSnapshot) :
    union.foldAll (snapshots ++ others) = (union.foldAll snapshots).foldAll others :=
  List.foldl_append

@[simp] theorem capacity_foldAll : (union.foldAll snapshots).capacity = union.capacity := by
  induction snapshots generalizing union with
  | nil => rfl
  | cons snapshot rest inductionHypothesis =>
      exact (inductionHypothesis _).trans (union.capacity_fold snapshot)

/-- What has been seen after any folds: what was seen before, and all that the snapshots cover
within the capacity. -/
theorem hasSeen_foldAll (slot : Nat) : (union.foldAll snapshots).hasSeen slot = true ↔
    union.hasSeen slot = true ∨
      slot < union.capacity ∧ ∃ snapshot ∈ snapshots, snapshot.covers slot = true := by
  induction snapshots generalizing union with
  | nil => simp [foldAll]
  | cons snapshot rest inductionHypothesis =>
      change ((union.fold snapshot).foldAll rest).hasSeen slot = true ↔ _
      rw [inductionHypothesis, hasSeen_fold, capacity_fold]
      simp only [Bool.or_eq_true, Bool.and_eq_true, decide_eq_true_eq, List.exists_mem_cons_iff,
        and_or_left, or_assoc]

/-- The answers add up to the growth of the covered set. -/
theorem coveredEdges_foldAll : (union.foldAll snapshots).coveredEdges =
    union.coveredEdges + (union.answers snapshots).sum := by
  induction snapshots generalizing union with
  | nil => rfl
  | cons snapshot rest inductionHypothesis =>
      change ((union.fold snapshot).foldAll rest).coveredEdges = _
      rw [inductionHypothesis, coveredEdges_fold, answers, List.sum_cons, Nat.add_assoc]

theorem getElem?_answers (place : Nat) : (union.answers snapshots)[place]? =
    snapshots[place]?.map (union.foldAll (snapshots.take place)).novelCount := by
  induction snapshots generalizing union place with
  | nil => rfl
  | cons snapshot rest inductionHypothesis =>
      cases place with
      | zero => rfl
      | succ place => exact inductionHypothesis (union.fold snapshot) place

variable {union snapshots}

/-- More folds see more. -/
theorem hasSeen_take_mono {early late slot : Nat} (ordered : early ≤ late)
    (seen : (union.foldAll (snapshots.take early)).hasSeen slot = true) :
    (union.foldAll (snapshots.take late)).hasSeen slot = true := by
  rw [hasSeen_foldAll] at seen ⊢
  refine seen.imp_right ?_
  rintro ⟨inside, snapshot, member, covered⟩
  exact ⟨inside, snapshot, (List.take_prefix_take_left ordered).subset member, covered⟩

/-- A fold that counts a counter has not seen it before and has seen it after. -/
theorem countsAt_iff {place slot : Nat} : union.CountsAt snapshots place slot ↔
    (union.foldAll (snapshots.take place)).hasSeen slot = false ∧
      (union.foldAll (snapshots.take (place + 1))).hasSeen slot = true := by
  unfold CountsAt
  simp only [mem_firstHits, capacity_foldAll]
  cases found : snapshots[place]? with
  | none =>
      have past : snapshots.length ≤ place := List.getElem?_eq_none_iff.mp found
      simp [List.take_of_length_le past, List.take_of_length_le (past.trans place.le_succ)]
  | some snapshot =>
      have next : snapshots.take (place + 1) = snapshots.take place ++ [snapshot] := by
        rw [List.take_add_one, found, Option.toList_some]
      have folded : union.foldAll (snapshots.take (place + 1)) =
          (union.foldAll (snapshots.take place)).fold snapshot := by
        rw [next, foldAll_append]
        rfl
      rw [folded, hasSeen_fold, capacity_foldAll]
      cases (union.foldAll (snapshots.take place)).hasSeen slot <;> simp

/-- A counter that was not seen before all folds and is seen after them is counted by exactly
one of them. -/
theorem existsUnique_countsAt {slot : Nat} (unseen : union.hasSeen slot = false)
    (seen : (union.foldAll snapshots).hasSeen slot = true) :
    ∃! place, union.CountsAt snapshots place slot := by
  have reached : ∃ place, (union.foldAll (snapshots.take place)).hasSeen slot = true :=
    ⟨snapshots.length, by rwa [List.take_length]⟩
  -- The fold just before the first moment at which the counter has been seen.
  obtain ⟨place, first⟩ : ∃ place, Nat.find reached = place + 1 := by
    refine Nat.exists_eq_succ_of_ne_zero fun zero => ?_
    have atStart := Nat.find_spec reached
    rw [zero, List.take_zero] at atStart
    exact Bool.false_ne_true (unseen.symm.trans atStart)
  have counted : union.CountsAt snapshots place slot := by
    refine countsAt_iff.mpr ⟨?_, first ▸ Nat.find_spec reached⟩
    exact Bool.eq_false_iff.mpr (Nat.find_min reached (first ▸ place.lt_succ_self))
  refine ⟨place, counted, fun other otherCounted => ?_⟩
  obtain ⟨before, after⟩ := countsAt_iff.mp counted
  obtain ⟨otherBefore, otherAfter⟩ := countsAt_iff.mp otherCounted
  rcases Nat.lt_trichotomy other place with early | same | late
  · exact absurd (hasSeen_take_mono early otherAfter) (Bool.eq_false_iff.mp before)
  · exact same
  · exact absurd (hasSeen_take_mono late after) (Bool.eq_false_iff.mp otherBefore)

end FoldAll

/-- What a union that had seen nothing knows once it has folded snapshots in order. -/
structure Gathered (fresh : CoverageUnion) (snapshots : List CoverageSnapshot) : Prop where
  capacity : (fresh.foldAll snapshots).capacity = fresh.capacity
  /-- It has seen what some snapshot covers below its capacity, and nothing else. -/
  seen : ∀ slot, (fresh.foldAll snapshots).hasSeen slot = true ↔
    slot < fresh.capacity ∧ ∃ snapshot ∈ snapshots, slot ∈ snapshot.coveredIndices
  total : (fresh.answers snapshots).sum = (fresh.foldAll snapshots).coveredEdges
  /-- An answer is the number of counters that its fold counts. -/
  answered : ∀ place snapshot, snapshots[place]? = some snapshot →
    (fresh.answers snapshots)[place]? =
      some ((fresh.foldAll (snapshots.take place)).firstHits snapshot).length
  /-- Every counter that was seen is counted by one fold alone, and no other is counted. -/
  once : ∀ slot, (fresh.foldAll snapshots).hasSeen slot = true →
    ∃! place, fresh.CountsAt snapshots place slot
  only : ∀ slot place, fresh.CountsAt snapshots place slot →
    (fresh.foldAll snapshots).hasSeen slot = true
  /-- The order of the snapshots makes no difference to what has been seen and to how much. -/
  unordered : ∀ others, snapshots.Perm others →
    (∀ slot, (fresh.foldAll others).hasSeen slot = (fresh.foldAll snapshots).hasSeen slot) ∧
      (fresh.answers others).sum = (fresh.answers snapshots).sum
  /-- A snapshot that was folded before is not novel again. -/
  repeated : ∀ snapshot ∈ snapshots, (fresh.foldAll snapshots).novelCount snapshot = 0 ∧
    (fresh.foldAll snapshots).hasNovel snapshot = false

/-- Folding snapshots of any lengths gathers exactly what they cover, each counter once. -/
theorem gathered_foldAll (capacity : Nat) (snapshots : List CoverageSnapshot) :
    Gathered (ofCapacity capacity) snapshots := by
  generalize made : ofCapacity capacity = fresh
  have blank : ∀ slot, fresh.hasSeen slot = false := by
    subst made
    exact hasSeen_ofCapacity capacity
  have seen : ∀ (given : List CoverageSnapshot) (slot : Nat),
      (fresh.foldAll given).hasSeen slot = true ↔
        slot < fresh.capacity ∧ ∃ snapshot ∈ given, slot ∈ snapshot.coveredIndices := by
    intro given slot
    simp [hasSeen_foldAll, blank, CoverageSnapshot.mem_coveredIndices]
  have total : ∀ given, (fresh.answers given).sum = (fresh.foldAll given).coveredEdges := by
    intro given
    have none : fresh.coveredEdges = 0 := made ▸ coveredEdges_ofCapacity capacity
    rw [coveredEdges_foldAll, none, Nat.zero_add]
  have alike : ∀ others, snapshots.Perm others → ∀ slot,
      (fresh.foldAll others).hasSeen slot = (fresh.foldAll snapshots).hasSeen slot := by
    intro others same slot
    rw [Bool.eq_iff_iff, seen, seen]
    simp only [same.mem_iff]
  exact
    { capacity := fresh.capacity_foldAll snapshots
      seen := seen snapshots
      total := total snapshots
      answered := by
        intro place snapshot found
        rw [getElem?_answers, found, Option.map_some, length_firstHits]
      once := fun slot => existsUnique_countsAt (blank slot)
      only := by
        intro slot place counted
        have after := (countsAt_iff.mp counted).2
        rw [seen] at after ⊢
        obtain ⟨inside, snapshot, member, covered⟩ := after
        exact ⟨inside, snapshot, List.mem_of_mem_take member, covered⟩
      unordered := by
        intro others same
        refine ⟨alike others same, ?_⟩
        rw [total, total, coveredEdges_eq_countP, coveredEdges_eq_countP, capacity_foldAll,
          capacity_foldAll, funext (alike others same)]
      repeated := by
        intro snapshot member
        have none : (fresh.foldAll snapshots).novelCount snapshot = 0 := by
          rw [novelCount_eq_zero_iff, capacity_foldAll]
          intro slot inside covered
          exact (seen snapshots slot).mpr
            ⟨inside, snapshot, member, CoverageSnapshot.mem_coveredIndices.mpr covered⟩
        exact ⟨none, by rw [hasNovel_eq, none]; rfl⟩ }

end CoverageUnion
end Crosscheck
