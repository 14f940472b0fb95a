import Mathlib
import Crosscheck.Proofs.Coverage.Map
import Crosscheck.Proofs.Isolation.Schedule

/-!
# Counters that several threads report to

A report that reads a counter before another one has written it undoes what the other one
writes, so that reports get lost. `Counted` is what can come of one counter. It never shows
more reports than were made, it shows one if any was made, and it shows them all if no two
of them overlapped. `Shows` says this of all counters of a map, and every step of a thread
keeps it (`Shows.step`).
-/

namespace Crosscheck

namespace CoverageMap

variable {capacity slot : Nat} {guard : UInt32}

theorem reaches_iff :
    reaches capacity slot guard = true ↔ guard ≠ 0 ∧ guard.toNat % capacity = slot := by
  simp [reaches]

theorem get_mod (map : CoverageMap) (edge : Nat) :
    map.get (edge % map.capacity) = map.get edge := by
  simp [get]

theorem get_of_lt (map : CoverageMap) (inside : slot < map.capacity) :
    map.get slot = map.counters.getD slot 0 := by
  rw [get, Nat.mod_eq_of_lt inside]

theorem get_store (map : CoverageMap) {written : Nat} (count : UInt8)
    (inside : slot < map.capacity) (within : written < map.capacity) :
    (map.store written count).get slot = if written = slot then count else map.get slot := by
  rw [get_of_lt _ (by simpa using inside), get_of_lt _ inside]
  simp only [capacity] at inside within
  simp only [store, Array.getD_eq_getD_getElem?, Array.getElem?_setIfInBounds, within, ↓reduceIte]
  split <;> rfl

/-- The counter of a report is found one further, unless it has stopped. -/
theorem get_complete_self (map : CoverageMap) (guard : UInt32) (seen : UInt8) :
    (map.complete guard seen).get (guard.toNat % map.capacity) =
      if seen = 255 then map.get (guard.toNat % map.capacity) else seen + 1 := by
  have inside := Nat.mod_lt guard.toNat map.capacity_pos
  unfold complete
  split
  · rfl
  · rw [get_store map _ inside inside, if_pos rfl]

theorem get_complete_of_not_reaches (map : CoverageMap) (seen : UInt8) (active : guard ≠ 0)
    (inside : slot < map.capacity) (missed : ¬ reaches map.capacity slot guard) :
    (map.complete guard seen).get slot = map.get slot := by
  have elsewhere : guard.toNat % map.capacity ≠ slot := fun same =>
    missed (reaches_iff.mpr ⟨active, same⟩)
  unfold complete
  split
  · rfl
  · rw [get_store map _ inside (Nat.mod_lt _ map.capacity_pos), if_neg elsewhere]

end CoverageMap

namespace Isolation

/-- The guard of an access that makes a report complete. -/
def Access.made? : Access → Option UInt32
  | .load _ => none
  | .store guard => some guard

/-- The reports that are made by some accesses, in order. -/
def madeOf (accesses : List Access) : List UInt32 := accesses.filterMap Access.made?

/-- The accesses to one counter. -/
def touching (capacity slot : Nat) (accesses : List Access) : List Access :=
  accesses.filter fun access => CoverageMap.reaches capacity slot access.guard

/-- No report reads the counter between the read and the write of another one: of two accesses
that follow one another, one is a write. -/
def Unraced (capacity slot : Nat) (accesses : List Access) : Prop :=
  (touching capacity slot accesses).IsChain fun former latter => former.isStore ∨ latter.isStore

/-- At most one of several threads reports to a counter. -/
def Lone (capacity slot : Nat) (strands : List (List UInt32)) : Prop :=
  strands.Pairwise fun one other =>
    one.countP (CoverageMap.reaches capacity slot) = 0 ∨
      other.countP (CoverageMap.reaches capacity slot) = 0

@[simp] theorem madeOf_append (earlier later : List Access) :
    madeOf (earlier ++ later) = madeOf earlier ++ madeOf later := by
  simp [madeOf]

@[simp] theorem touching_append (capacity slot : Nat) (earlier later : List Access) :
    touching capacity slot (earlier ++ later) =
      touching capacity slot earlier ++ touching capacity slot later := by
  simp [touching]

/-- The writes to a counter are the reports that reach it. -/
theorem countP_touching (capacity slot : Nat) (accesses : List Access) :
    (touching capacity slot accesses).countP Access.isStore =
      (madeOf accesses).countP (CoverageMap.reaches capacity slot) := by
  rw [touching, madeOf, List.countP_filter, List.countP_filterMap]
  refine List.countP_congr fun access _ => ?_
  cases access <;> simp [Access.made?, Access.guard]

/-- What can come of a counter that was at zero: the accesses to it, its count, and what the
reports that have begun have found it at. -/
inductive Counted : List Access → UInt8 → List UInt8 → Prop where
  | zero : Counted [] 0 []
  | load {accesses count before after} (guard : UInt32)
      (prior : Counted accesses count (before ++ after)) :
      Counted (accesses ++ [.load guard]) count (before ++ count :: after)
  | store {accesses count before seen after} (guard : UInt32)
      (prior : Counted accesses count (before ++ seen :: after)) :
      Counted (accesses ++ [.store guard]) (if seen = 255 then count else seen + 1)
        (before ++ after)

namespace Counted

variable {accesses : List Access} {count : UInt8} {pending : List UInt8}

/-- One more than a count that is not the largest. -/
theorem toNat_succ {seen : UInt8} (small : seen ≠ 255) : (seen + 1).toNat = seen.toNat + 1 := by
  have bounded := seen.toNat_lt
  have different : seen.toNat ≠ 255 := fun same => small (UInt8.toNat.inj same)
  rw [UInt8.toNat_add]
  change (seen.toNat + 1) % 256 = _
  omega

/-- No report is counted twice. -/
theorem le_countP (counted : Counted accesses count pending) :
    count.toNat ≤ accesses.countP Access.isStore ∧
      ∀ seen ∈ pending, seen.toNat ≤ accesses.countP Access.isStore := by
  induction counted with
  | zero => simp
  | load guard prior inductionHypothesis =>
      obtain ⟨bounded, others⟩ := inductionHypothesis
      rw [List.countP_append, List.countP_singleton, Access.isStore_load, if_neg Bool.false_ne_true,
        Nat.add_zero]
      refine ⟨bounded, fun seen member => ?_⟩
      rcases List.mem_append.mp member with early | late
      · exact others seen (List.mem_append_left _ early)
      · rcases List.mem_cons.mp late with rfl | late
        · exact bounded
        · exact others seen (List.mem_append_right _ late)
  | @store accesses count before seen after guard prior inductionHypothesis =>
      obtain ⟨bounded, others⟩ := inductionHypothesis
      rw [List.countP_append, List.countP_singleton, Access.isStore_store, if_pos rfl]
      refine ⟨?_, fun other member => ?_⟩
      · split
        next => exact bounded.trans (Nat.le_succ _)
        next small =>
          rw [toNat_succ small]
          exact Nat.succ_le_succ (others seen (by simp))
      · refine (others other ?_).trans (Nat.le_succ _)
        simp only [List.mem_append, List.mem_cons] at member ⊢
        tauto

/-- A counter does not go back to zero. -/
theorem ne_zero (counted : Counted accesses count pending) :
    (0 < accesses.countP Access.isStore → count ≠ 0) ∧ ∀ seen ∈ pending, seen ≠ 0 → count ≠ 0 := by
  induction counted with
  | zero => simp
  | load guard prior inductionHypothesis =>
      obtain ⟨shown, others⟩ := inductionHypothesis
      refine ⟨by simpa using shown, fun seen member => ?_⟩
      rcases List.mem_append.mp member with early | late
      · exact others seen (List.mem_append_left _ early)
      · rcases List.mem_cons.mp late with rfl | late
        · exact id
        · exact others seen (List.mem_append_right _ late)
  | @store accesses count before seen after guard prior inductionHypothesis =>
      obtain ⟨_, others⟩ := inductionHypothesis
      have shown : (if seen = 255 then count else seen + 1) ≠ 0 := by
        split
        next largest => exact others seen (by simp) (by simp [largest])
        next small =>
          intro none
          have zero := congrArg UInt8.toNat none
          rw [toNat_succ small] at zero
          simp at zero
      exact ⟨fun _ => shown, fun _ _ _ => shown⟩

/-- Reports that do not overlap are all counted. Then no more than one is under way, which has
found the counter as it still is. -/
theorem eq_of_isChain (counted : Counted accesses count pending)
    (unraced : accesses.IsChain fun former latter => former.isStore ∨ latter.isStore) :
    count.toNat = min 255 (accesses.countP Access.isStore) ∧
      (pending = [] ∧ (∀ last ∈ accesses.getLast?, last.isStore) ∨
        pending = [count] ∧ ∃ last ∈ accesses.getLast?, ¬ last.isStore) := by
  induction counted with
  | zero => simp
  | @load accesses count before after guard prior inductionHypothesis =>
      obtain ⟨earlier, _, apart⟩ := List.isChain_append.mp unraced
      obtain ⟨exact, quiet | ⟨_, last, final, reading⟩⟩ := inductionHypothesis earlier
      · obtain ⟨rfl, rfl⟩ := List.append_eq_nil_iff.mp quiet.1
        exact ⟨by simpa using exact, .inr ⟨rfl, .load guard, by simp, by simp⟩⟩
      · have written := (apart last final (.load guard) rfl).resolve_right (by simp)
        exact absurd written reading
  | @store accesses count before seen after guard prior inductionHypothesis =>
      obtain ⟨earlier, _, _⟩ := List.isChain_append.mp unraced
      obtain ⟨exact, quiet | ⟨sole, _⟩⟩ := inductionHypothesis earlier
      · simp at quiet
      · obtain ⟨rfl, rfl, rfl⟩ : before = [] ∧ seen = count ∧ after = [] := by
          rcases before with _ | ⟨first, before⟩
          · simpa using sole
          · simp at sole
        refine ⟨?_, .inl ⟨rfl, by simp⟩⟩
        rw [List.countP_append, List.countP_singleton, Access.isStore_store, if_pos rfl]
        split
        next largest =>
          subst largest
          have full : 255 = min 255 (accesses.countP Access.isStore) := exact
          change 255 = _
          omega
        next small =>
          have bounded := seen.toNat_lt
          have different : seen.toNat ≠ 255 := fun same => small (UInt8.toNat.inj same)
          rw [toNat_succ small]
          omega

end Counted

/-- The guards of a thread, reported or not. -/
def Strand.whole (strand : Strand) : List UInt32 := strand.made ++ strand.rest

/-- What the report that a thread has begun has found a counter at. -/
def Strand.pending? (capacity slot : Nat) (strand : Strand) : Option UInt8 :=
  match strand.seen, strand.rest with
  | some seen, guard :: _ => if CoverageMap.reaches capacity slot guard then some seen else none
  | _, _ => none

/-- A map that was at zero shows what can come of some accesses of threads. -/
def Shows (map : CoverageMap) (accesses : List Access) (strands : List Strand) : Prop :=
  ∀ slot < map.capacity, Counted (touching map.capacity slot accesses) (map.get slot)
    (strands.filterMap (Strand.pending? map.capacity slot))

section Strands

variable {map after : CoverageMap} {accesses : List Access} {left right : List Strand}
variable {strand next : Strand} {access : Access} {slot : Nat}

theorem Strand.Step.capacity (stepped : Strand.Step map strand access next after) :
    after.capacity = map.capacity := by
  cases stepped with
  | skip | load => rfl
  | store => exact map.capacity_complete _ _

/-- A thread reports the same guards whenever it takes its steps. -/
theorem Strand.Step.whole (stepped : Strand.Step map strand access next after) :
    next.whole = strand.whole := by
  cases stepped <;> simp [Strand.whole]

theorem Strand.Step.made (stepped : Strand.Step map strand access next after) :
    next.made = strand.made ++ madeOf [access] := by
  cases stepped <;> simp [madeOf, Access.made?]

/-- A thread that never reports to a counter has no report to it under way. -/
theorem Strand.pending?_eq_none {capacity : Nat}
    (apart : strand.whole.countP (CoverageMap.reaches capacity slot) = 0) :
    strand.pending? capacity slot = none := by
  obtain ⟨made, seen, rest⟩ := strand
  rcases seen with _ | seen
  · rfl
  · rcases rest with _ | ⟨guard, rest⟩
    · rfl
    · have other := List.countP_eq_zero.mp apart guard (by simp [Strand.whole])
      simp [Strand.pending?, other]

/-- A step of a thread is a step of each counter. -/
theorem Shows.step (shows : Shows map accesses (left ++ strand :: right))
    (stepped : Strand.Step map strand access next after) :
    Shows after (accesses ++ [access]) (left ++ next :: right) := by
  intro slot inside
  rw [stepped.capacity] at inside ⊢
  have prior := shows slot inside
  simp only [List.filterMap_append, List.filterMap_cons, touching_append] at prior ⊢
  cases stepped with
  | skip => simpa [touching, Access.guard, CoverageMap.reaches, Strand.pending?] using prior
  | @load made guard rest active =>
      by_cases reached : CoverageMap.reaches map.capacity slot guard
      · have found : map.get guard.toNat = map.get slot := by
          obtain ⟨_, rfl⟩ := CoverageMap.reaches_iff.mp reached
          exact (map.get_mod guard.toNat).symm
        have loaded := prior.load guard
        simpa [touching, Access.guard, reached, Strand.pending?, found] using loaded
      · simpa [touching, Access.guard, reached, Strand.pending?] using prior
  | @store made guard seen rest active =>
      by_cases reached : CoverageMap.reaches map.capacity slot guard
      · simp only [Strand.pending?, reached, ↓reduceIte] at prior
        have stored := prior.store guard
        obtain ⟨_, rfl⟩ := CoverageMap.reaches_iff.mp reached
        rw [← map.get_complete_self] at stored
        simpa [touching, Access.guard, reached, Strand.pending?] using stored
      · have kept := map.get_complete_of_not_reaches seen active inside reached
        simpa [touching, Access.guard, reached, Strand.pending?, kept] using prior

/-- Where only one thread reports to a counter no reports overlap. -/
theorem Unraced.step {capacity : Nat} (shows : Shows map accesses (left ++ strand :: right))
    (sized : map.capacity = capacity) (inside : slot < capacity)
    (lone : Lone capacity slot ((left ++ strand :: right).map Strand.whole))
    (unraced : Unraced capacity slot accesses)
    (stepped : Strand.Step map strand access next after) :
    Unraced capacity slot (accesses ++ [access]) := by
  subst sized
  unfold Unraced
  rw [touching_append]
  by_cases reached : CoverageMap.reaches map.capacity slot access.guard
  · have single : touching map.capacity slot [access] = [access] := by
      simp [touching, reached]
    rw [single]
    refine List.isChain_append.mpr ⟨unraced, List.isChain_singleton _, fun last final => ?_⟩
    rintro _ ⟨⟩
    cases stepped with
    | skip | store => exact .inr rfl
    | @load made guard rest active =>
        -- The only thread that reports here is the one that has no report under way.
        have own : (made ++ guard :: rest).countP (CoverageMap.reaches map.capacity slot) ≠ 0 :=
          fun none => List.countP_eq_zero.mp none guard (by simp) reached
        rw [Lone, List.map_append, List.map_cons, List.pairwise_append, List.pairwise_cons] at lone
        obtain ⟨_, ⟨later, _⟩, earlier⟩ := lone
        have none : (left ++ ⟨made, none, guard :: rest⟩ :: right).filterMap
            (Strand.pending? map.capacity slot) = [] := by
          refine List.filterMap_eq_nil_iff.mpr fun other member => ?_
          rcases List.mem_append.mp member with before | same | ⟨_, behind⟩
          · refine Strand.pending?_eq_none ((earlier _ (List.mem_map_of_mem before) _
              List.mem_cons_self).resolve_right own)
          · rfl
          · exact Strand.pending?_eq_none
              ((later _ (List.mem_map_of_mem behind)).resolve_left own)
        have counted := shows slot inside
        rw [none] at counted
        rcases (counted.eq_of_isChain unraced).2 with ⟨_, quiet⟩ | ⟨underway, _⟩
        · exact .inl (quiet last final)
        · simp at underway
  · have none : touching map.capacity slot [access] = [] := by
      simp [touching, reached]
    rw [none, List.append_nil]
    exact unraced

end Strands

end Isolation
end Crosscheck
