import Mathlib
import Crosscheck.Coverage.Guard
import Crosscheck.Proofs.Coverage.Map

/-!
# What a map shows after any operations

Counters stop at 255 at every step, and steps stop in two ways: one at a time, or with many
counts at once. `count_perform` says that a step adds what it is worth and stops there;
`count_performAll` carries this along any operations, so that stopping at every step and once
at the end come to the same. What is added between two resets is a sum, which does not depend
on the order (`performAll_perm`).
-/

namespace Crosscheck.CoverageMap

/-- What can be asked of a map, by its holder or through one of its sinks. All that a sink
holds is the map that it reports to, so it does not matter how many there are and which of
them is used. -/
inductive Operation where
  | increment (edge : Nat)
  | hit (guard : UInt32)
  /-- Report the guard that stands in a slot of an image. -/
  | hitSlot (image : GuardImage) (slot : Nat)
  | absorb (counts : Array UInt8)
  | reset
  deriving DecidableEq, Repr

/-- The answer to an operation and the map that it leaves. Refused counts leave the map as it
was. -/
def perform (map : CoverageMap) : Operation → Except CoverageError Unit × CoverageMap
  | .increment edge => (.ok (), map.increment edge)
  | .hit guard => (.ok (), map.hit guard)
  | .hitSlot image slot => (.ok (), map.hit (image.getD slot 0))
  | .absorb counts =>
    match map.absorb counts with
    | .ok after => (.ok (), after)
    | .error refusal => (.error refusal, map)
  | .reset => (.ok (), map.reset)

/-- The map after any number of operations. -/
def performAll (map : CoverageMap) (operations : List Operation) : CoverageMap :=
  operations.foldl (fun map operation => (map.perform operation).2) map

namespace Operation

/-- Whether an operation takes all counters back to zero. -/
def isReset : Operation → Bool
  | .reset => true
  | _ => false

/-- What an operation adds to a counter. -/
def worth (capacity slot : Nat) : Operation → Nat
  | .increment edge => if edge % capacity = slot then 1 else 0
  | .hit guard => if reaches capacity slot guard then 1 else 0
  | .hitSlot image place => if reaches capacity slot (image.getD place 0) then 1 else 0
  | .absorb counts => if counts.size = capacity then (counts.getD slot 0).toNat else 0
  | .reset => 0

/-- The answer to an operation: only counts of another length than the map's are refused. -/
def answer (capacity : Nat) : Operation → Except CoverageError Unit
  | .absorb counts =>
    if counts.size = capacity then .ok () else .error (.lengthMismatch capacity counts.size)
  | _ => .ok ()

end Operation

/-- The operations after the last reset, or all of them. -/
def sinceReset (operations : List Operation) : List Operation :=
  operations.rtakeWhile fun operation => !operation.isReset

/-- What operations add to a counter altogether. -/
def contribution (capacity slot : Nat) (operations : List Operation) : Nat :=
  (operations.map (Operation.worth capacity slot)).sum

/-- There is a map of zero counters of every supported capacity. -/
theorem exists_ofCapacity {capacity : Nat} (least : minCapacity ≤ capacity)
    (most : capacity ≤ maxCapacity) :
    ∃ fresh, ofCapacity capacity = .ok fresh ∧ fresh.capacity = capacity ∧
      ∀ slot, fresh.count slot = 0 := by
  have supported : isCapacity capacity = true := by simp [isCapacity, least, most]
  refine ⟨_, dif_pos supported, Array.size_replicate, fun slot => ?_⟩
  simp only [count, Array.getD_eq_getD_getElem?, Array.getElem?_replicate]
  split <;> rfl

theorem count_absorb {map after : CoverageMap} {counts : Array UInt8}
    (absorbed : map.absorb counts = .ok after) {slot : Nat} (inside : slot < map.capacity) :
    after.count slot = min 255 (map.count slot + (counts.getD slot 0).toNat) := by
  unfold absorb at absorbed
  split at absorbed
  next same =>
    cases absorbed
    have held : slot < map.counters.size := inside
    have given : slot < counts.size := same ▸ held
    simp [count, Array.getD_eq_getD_getElem?, held, given, toNat_saturatingAdd]
  next => cases absorbed

@[simp] theorem capacity_perform (map : CoverageMap) (operation : Operation) :
    (map.perform operation).2.capacity = map.capacity := by
  cases operation with
  | increment edge => exact map.capacity_increment edge
  | hit guard => exact map.capacity_hit guard
  | hitSlot image slot => exact map.capacity_hit _
  | absorb counts =>
      unfold perform
      cases absorbed : map.absorb counts with
      | ok after => simpa [absorbed] using capacity_of_absorb absorbed
      | error refusal => simp [absorbed]
  | reset => exact map.capacity_reset

theorem absorb_of_size_ne {map : CoverageMap} {counts : Array UInt8}
    (other : counts.size ≠ map.capacity) :
    map.absorb counts = .error (.lengthMismatch map.capacity counts.size) :=
  dif_neg other

theorem exists_absorb_of_size_eq {map : CoverageMap} {counts : Array UInt8}
    (same : counts.size = map.capacity) : ∃ after, map.absorb counts = .ok after :=
  ⟨_, dif_pos same⟩

theorem perform_answer (map : CoverageMap) (operation : Operation) :
    (map.perform operation).1 = operation.answer map.capacity := by
  cases operation with
  | absorb counts =>
      unfold perform Operation.answer
      by_cases same : counts.size = map.capacity
      · obtain ⟨after, absorbed⟩ := exists_absorb_of_size_eq same
        simp [absorbed, same]
      · simp [absorb_of_size_ne same, same]
  | _ => rfl

/-- A refused operation leaves the map as it was. -/
theorem perform_of_refused {map : CoverageMap} {operation : Operation} {refusal : CoverageError}
    (refused : (map.perform operation).1 = .error refusal) : (map.perform operation).2 = map := by
  cases operation with
  | absorb counts =>
      unfold perform at refused ⊢
      cases absorbed : map.absorb counts with
      | ok after => simp [absorbed] at refused
      | error refusal => simp [absorbed]
  | _ => cases refused

/-- Any operation but a reset adds what it is worth, up to 255. -/
theorem count_perform (map : CoverageMap) {operation : Operation}
    (lasting : operation.isReset = false) {slot : Nat} (inside : slot < map.capacity) :
    (map.perform operation).2.count slot =
      min 255 (map.count slot + operation.worth map.capacity slot) := by
  cases operation with
  | increment edge => exact map.count_increment edge inside
  | hit guard => exact map.count_hit guard inside
  | hitSlot image place => exact map.count_hit _ inside
  | absorb counts =>
      unfold perform Operation.worth
      by_cases same : counts.size = map.capacity
      · obtain ⟨after, absorbed⟩ := exists_absorb_of_size_eq same
        simp [absorbed, same, count_absorb absorbed inside]
      · have bounded := map.count_le slot
        simp [absorb_of_size_ne same, same, bounded]
  | reset => cases lasting

theorem performAll_append (map : CoverageMap) (earlier later : List Operation) :
    map.performAll (earlier ++ later) = (map.performAll earlier).performAll later :=
  List.foldl_append

@[simp] theorem capacity_performAll (map : CoverageMap) (operations : List Operation) :
    (map.performAll operations).capacity = map.capacity := by
  induction operations generalizing map with
  | nil => rfl
  | cons operation rest inductionHypothesis =>
      exact (inductionHypothesis _).trans (map.capacity_perform operation)

/-- A counter shows what was added since the last reset, up to 255; what it showed before
counts if there was none. -/
theorem count_performAll (map : CoverageMap) (operations : List Operation) {slot : Nat}
    (inside : slot < map.capacity) :
    (map.performAll operations).count slot =
      min 255 ((if operations.any Operation.isReset then 0 else map.count slot) +
        contribution map.capacity slot (sinceReset operations)) := by
  induction operations using List.reverseRecOn with
  | nil =>
      have bounded := map.count_le slot
      simp [performAll, sinceReset, contribution, bounded]
  | append_singleton operations operation inductionHypothesis =>
      have last : map.performAll (operations ++ [operation]) =
          ((map.performAll operations).perform operation).2 := map.performAll_append _ _
      rw [last]
      cases kind : operation.isReset with
      | true =>
          have reset : operation = .reset := by
            cases operation <;> simp_all [Operation.isReset]
          subst reset
          simp [perform, sinceReset, contribution, Operation.isReset]
      | false =>
          rw [count_perform _ kind (by simpa using inside), inductionHypothesis]
          simp only [capacity_performAll, sinceReset, contribution, kind, Bool.not_false,
            List.rtakeWhile_concat_pos, List.any_append, List.any_cons, List.any_nil,
            Bool.or_false, List.map_append, List.map_cons, List.map_nil, List.sum_append,
            List.sum_cons, List.sum_nil]
          omega

/-- Without a reset, all operations count on top of what a counter shows. -/
theorem count_performAll_of_lasting (map : CoverageMap) {operations : List Operation}
    (lasting : ∀ operation ∈ operations, operation.isReset = false) {slot : Nat}
    (inside : slot < map.capacity) :
    (map.performAll operations).count slot =
      min 255 (map.count slot + contribution map.capacity slot operations) := by
  have none : operations.any Operation.isReset = false := by
    simpa [List.any_eq_false] using lasting
  have all : sinceReset operations = operations := by
    refine List.rtakeWhile_eq_self_iff.mpr fun operation member => ?_
    rw [lasting operation member, Bool.not_false]
  rw [count_performAll map operations inside, none, all]
  rfl

/-- The order of operations does not matter as long as none of them is a reset. -/
theorem performAll_perm (map : CoverageMap) {operations others : List Operation}
    (same : operations.Perm others)
    (lasting : ∀ operation ∈ operations, operation.isReset = false) :
    map.performAll operations = map.performAll others := by
  have othersLasting : ∀ operation ∈ others, operation.isReset = false :=
    fun operation member => lasting operation (same.mem_iff.mpr member)
  refine ext_count (by simp) fun slot inside => ?_
  have held : slot < map.capacity := by simpa using inside
  have added : contribution map.capacity slot operations =
      contribution map.capacity slot others := (same.map _).sum_nat
  rw [count_performAll_of_lasting map lasting held,
    count_performAll_of_lasting map othersLasting held, added]

/-- What is known of a map that started at zero after any operations. -/
structure Tallied (fresh : CoverageMap) (operations : List Operation) : Prop where
  capacity : (fresh.performAll operations).capacity = fresh.capacity
  /-- Each counter shows what was added to it since the last reset, up to 255. -/
  get : ∀ edge, ((fresh.performAll operations).get edge).toNat =
    min 255 (contribution fresh.capacity (edge % fresh.capacity) (sinceReset operations))
  /-- Of all further operations, only counts of another length are refused, and they change
  nothing. -/
  answer : ∀ operation, ((fresh.performAll operations).perform operation).1 =
    operation.answer fresh.capacity
  refused : ∀ operation refusal,
    ((fresh.performAll operations).perform operation).1 = .error refusal →
      ((fresh.performAll operations).perform operation).2 = fresh.performAll operations
  /-- Operations between which there is no reset may follow in any order. -/
  unordered : ∀ between others later, between.Perm others →
    (∀ operation ∈ between, operation.isReset = false) →
    fresh.performAll (operations ++ between ++ later) =
      fresh.performAll (operations ++ others ++ later)

/-- A map of any supported capacity counts what is reported to it, however it is reported,
in any order and past any mistaken report. -/
theorem tallied_of_supported {capacity : Nat} (least : minCapacity ≤ capacity)
    (most : capacity ≤ maxCapacity) :
    ∃ fresh, ofCapacity capacity = .ok fresh ∧ fresh.capacity = capacity ∧
      ∀ operations, fresh.Tallied operations := by
  obtain ⟨fresh, made, sized, blank⟩ := exists_ofCapacity least most
  refine ⟨fresh, made, sized, fun operations => ?_⟩
  exact
    { capacity := fresh.capacity_performAll operations
      get := by
        intro edge
        have inside : edge % fresh.capacity < fresh.capacity := Nat.mod_lt _ fresh.capacity_pos
        rw [toNat_get, capacity_performAll, count_performAll fresh operations inside, blank]
        simp
      answer := by
        intro operation
        rw [perform_answer, capacity_performAll]
      refused := fun _ _ => perform_of_refused
      unordered := by
        intro between others later same lasting
        simp only [performAll_append, (fresh.performAll operations).performAll_perm same lasting] }

/-- Reports of all kinds around a reset, some beyond the capacity, one inactive, one refused. -/
theorem tallied_of_supported_mixed :
    minCapacity ≤ 64 ∧ 64 ≤ maxCapacity ∧ ∃ fresh, ofCapacity 64 = .ok fresh ∧
      ((fresh.performAll [.hit 5, .reset, .increment 69, .hit 0, .hitSlot #[0, 133] 1,
        .absorb #[1], .absorb (Array.replicate 64 200)]).get 5).toNat = 202 ∧
      ((fresh.performAll [.absorb (Array.replicate 64 200),
        .absorb (Array.replicate 64 200)]).get 5).toNat = 255 := by
  obtain ⟨fresh, made, sized, tallied⟩ :=
    @tallied_of_supported 64 (by decide) (by decide)
  refine ⟨by decide, by decide, fresh, made, ?_, ?_⟩ <;> rw [(tallied _).get, sized] <;> rfl

end Crosscheck.CoverageMap
