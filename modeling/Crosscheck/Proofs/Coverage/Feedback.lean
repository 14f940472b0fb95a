import Mathlib
import Crosscheck.Coverage.Novelty
import Crosscheck.Proofs.Coverage.Union

/-!
# What feedback has seen

Feedback is read through two views, the capacity of each version and the counters that
each version has ever hit. `Reveals` says what a batch of records does to both: it is
proved once for a single record, composed, and carried along a whole evaluation. The
records that feedback accepts are exactly those of a known version and capacity
(`evaluate_of_known`), and `Alike.evaluate` says that the two views are all that an
evaluation depends on.
-/

namespace Crosscheck

/-- What feedback reads of a record. -/
def Record.exposure (record : Record) : String × CoverageSnapshot :=
  (record.version, record.coverage)

namespace CoverageFeedback

/-- The capacity of a version's union. -/
def capacity? (feedback : CoverageFeedback) (version : String) : Option Nat :=
  (feedback.union? version).map CoverageUnion.capacity

/-- Whether a version has ever hit a counter. -/
def hasSeen (feedback : CoverageFeedback) (version : String) (slot : Nat) : Bool :=
  (feedback.union? version).any (·.hasSeen slot)

/-- The counters ever hit, summed over the versions. -/
def coveredTotal (feedback : CoverageFeedback) : Nat :=
  (feedback.unions.map fun entry => entry.2.coveredEdges).sum

/-- The versions in the order of their unions. -/
def versions (feedback : CoverageFeedback) : List String := feedback.unions.map Prod.fst

theorem lookup_update (name version : String) (union : CoverageUnion)
    (unions : List (String × CoverageUnion)) :
    (update version union unions).lookup name =
      if name = version then (unions.lookup name).map fun _ => union else unions.lookup name := by
  induction unions with
  | nil => simp [update]
  | cons entry rest inductionHypothesis =>
      obtain ⟨current, held⟩ := entry
      by_cases sought : name = current
      · subst sought
        by_cases updated : name = version <;> simp [update, updated]
      · have differs : (name == current) = false := by simpa using sought
        by_cases updated : current = version
        · subst updated
          simp [update, List.lookup_cons, differs, sought]
        · simp [update, updated, List.lookup_cons, differs, inductionHypothesis]

/-- Replacing a union is seen by look-ups of its version alone. -/
theorem union?_update (feedback : CoverageFeedback) (name version : String)
    (union : CoverageUnion) :
    union? ⟨update version union feedback.unions⟩ name =
      if name = version then (feedback.union? name).map fun _ => union
      else feedback.union? name :=
  lookup_update name version union feedback.unions

theorem map_fst_update (version : String) (union : CoverageUnion)
    (unions : List (String × CoverageUnion)) :
    (update version union unions).map Prod.fst = unions.map Prod.fst := by
  induction unions with
  | nil => rfl
  | cons entry rest inductionHypothesis =>
      by_cases updated : entry.1 = version <;> simp [update, updated, inductionHypothesis]

/-- Replacing a union by one that covers more adds the difference to the total. -/
theorem sum_update {version : String} {union grown : CoverageUnion} {count : Nat}
    {unions : List (String × CoverageUnion)} (found : unions.lookup version = some union)
    (growth : grown.coveredEdges = union.coveredEdges + count) :
    ((update version grown unions).map fun entry => entry.2.coveredEdges).sum =
      (unions.map fun entry => entry.2.coveredEdges).sum + count := by
  induction unions with
  | nil => simp at found
  | cons entry rest inductionHypothesis =>
      obtain ⟨current, held⟩ := entry
      by_cases updated : current = version
      · subst updated
        have same : held = union := by simpa using found
        simp only [update, ↓reduceIte, List.map_cons, List.sum_cons, growth, same]
        omega
      · have later : rest.lookup version = some union := by
          have differs : (version == current) = false := by simpa using Ne.symm updated
          simpa [List.lookup_cons, differs] using found
        simp only [update, updated, ↓reduceIte, List.map_cons, List.sum_cons,
          inductionHypothesis later]
        omega

/-- An entry is found under its name if the names differ. -/
theorem lookup_of_mem {α : Type} {entries : List (String × α)}
    (distinct : (entries.map Prod.fst).Nodup) {entry : String × α} (member : entry ∈ entries) :
    entries.lookup entry.1 = some entry.2 := by
  induction entries with
  | nil => simp at member
  | cons first rest inductionHypothesis =>
      obtain ⟨absent, restDistinct⟩ := List.nodup_cons.mp distinct
      rcases List.mem_cons.mp member with rfl | later
      · exact List.lookup_cons_self
      · have differs : (entry.1 == first.1) = false := by
          refine beq_eq_false_iff_ne.mpr fun same => absent ?_
          exact same ▸ List.mem_map_of_mem later
        obtain ⟨name, value⟩ := first
        rw [List.lookup_cons, differs]
        exact inductionHypothesis restDistinct later

@[simp] theorem versions_ofVersions (shapes : List (String × Nat)) :
    (ofVersions shapes).versions = shapes.map Prod.fst := by
  simp [ofVersions, versions]

/-- The union of a version before anything was seen, if the versions differ. -/
theorem union?_ofVersions {shapes : List (String × Nat)} (distinct : (shapes.map Prod.fst).Nodup)
    {shape : String × Nat} (member : shape ∈ shapes) :
    (ofVersions shapes).union? shape.1 = some (.ofCapacity shape.2) := by
  have names : (ofVersions shapes).versions.Nodup := by
    rwa [versions_ofVersions]
  have listed : (shape.1, CoverageUnion.ofCapacity shape.2) ∈ (ofVersions shapes).unions :=
    List.mem_map.mpr ⟨shape, member, rfl⟩
  exact lookup_of_mem names listed

@[simp] theorem hasSeen_ofVersions (shapes : List (String × Nat)) (version : String)
    (slot : Nat) : (ofVersions shapes).hasSeen version slot = false := by
  induction shapes with
  | nil => rfl
  | cons shape rest inductionHypothesis =>
      simp only [hasSeen, union?, ofVersions, List.map_cons, List.lookup_cons] at *
      split
      · exact CoverageUnion.hasSeen_ofCapacity shape.2 slot
      · exact inductionHypothesis

@[simp] theorem coveredTotal_ofVersions (shapes : List (String × Nat)) :
    (ofVersions shapes).coveredTotal = 0 := by
  simp [coveredTotal, ofVersions, Function.comp_def]

/-- Each version has its own count if the versions differ. -/
theorem map_coveredEdges?_versions {feedback : CoverageFeedback}
    (distinct : feedback.versions.Nodup) :
    feedback.versions.map feedback.coveredEdges? =
      (feedback.unions.map fun entry => entry.2.coveredEdges).map some := by
  simp only [versions, List.map_map]
  apply List.map_congr_left
  intro entry member
  simp [coveredEdges?, union?, lookup_of_mem distinct member]

/-- What accepting records with `count` first hits does to feedback. -/
structure Reveals (before : CoverageFeedback) (records : List Record) (count : Nat)
    (after : CoverageFeedback) : Prop where
  versions : after.versions = before.versions
  capacity : ∀ version, after.capacity? version = before.capacity? version
  /-- Nothing but what the records cover is added, and all of it. -/
  seen : ∀ version slot, after.hasSeen version slot = true ↔
    before.hasSeen version slot = true ∨
      ∃ record ∈ records, record.version = version ∧ record.coverage.covers slot = true
  /-- Every first hit is counted, and only once. -/
  total : after.coveredTotal = before.coveredTotal + count
  none_iff : count = 0 ↔ ∀ record ∈ records, ∀ slot, record.coverage.covers slot = true →
    before.hasSeen record.version slot = true

theorem Reveals.nil (feedback : CoverageFeedback) : Reveals feedback [] 0 feedback where
  versions := rfl
  capacity _ := rfl
  seen _ _ := by simp
  total := rfl
  none_iff := by simp

/-- Batches of records compose. -/
theorem Reveals.append {before middle after : CoverageFeedback} {first second : List Record}
    {firstCount secondCount : Nat} (head : Reveals before first firstCount middle)
    (tail : Reveals middle second secondCount after) :
    Reveals before (first ++ second) (firstCount + secondCount) after where
  versions := tail.versions.trans head.versions
  capacity version := (tail.capacity version).trans (head.capacity version)
  seen version slot := by
    rw [tail.seen, head.seen]
    simp only [List.mem_append, or_and_right, exists_or, or_assoc]
  total := by rw [tail.total, head.total, Nat.add_assoc]
  none_iff := by
    rw [Nat.add_eq_zero_iff, head.none_iff, tail.none_iff]
    constructor
    · rintro ⟨old, laterOld⟩ record member slot covered
      rcases List.mem_append.mp member with early | late
      · exact old record early slot covered
      · rcases (head.seen record.version slot).mp (laterOld record late slot covered) with
          seen | ⟨other, otherEarly, same, otherCovered⟩
        · exact seen
        · exact same ▸ old other otherEarly slot otherCovered
    · intro old
      constructor
      · intro record early
        exact old record (List.mem_append_left second early)
      · intro record late slot covered
        exact (head.seen record.version slot).mpr
          (Or.inl (old record (List.mem_append_right first late) slot covered))

/-- Folding one record that fits its version's union. -/
theorem foldRecord_of_known {feedback : CoverageFeedback} {record : Record}
    (known : feedback.capacity? record.version = some record.coverage.capacity) :
    ∃ count after, feedback.foldRecord record = .ok (count, after) ∧
      Reveals feedback [record] count after := by
  obtain ⟨union, found, fits⟩ := Option.map_eq_some_iff.mp known
  refine ⟨union.novelCount record.coverage,
    ⟨update record.version (union.fold record.coverage) feedback.unions⟩, ?_, ?_⟩
  · simp [foldRecord, found, fits]
  · exact
      { versions := map_fst_update _ _ _
        capacity := by
          intro version
          simp only [capacity?, union?_update]
          split
          next same =>
            subst same
            simp [found]
          next => rfl
        seen := by
          intro version slot
          simp only [hasSeen, union?_update, List.mem_singleton, exists_eq_left]
          split
          next same =>
            subst same
            have inside : record.coverage.covers slot = true → slot < union.capacity := by
              intro covered
              exact fits ▸ CoverageUnion.lt_capacity_of_covers covered
            simp [found, CoverageUnion.hasSeen_fold]
            tauto
          next other => simp [Ne.symm other]
        total := sum_update found (CoverageUnion.coveredEdges_fold union record.coverage)
        none_iff := by
          rw [CoverageUnion.novelCount_eq_zero_iff]
          simp only [List.mem_singleton, forall_eq, hasSeen, found, Option.any_some]
          constructor
          · intro old slot covered
            exact old slot (fits ▸ CoverageUnion.lt_capacity_of_covers covered) covered
          · intro old slot _ covered
            exact old slot covered }

@[simp] theorem novelEdges_extend (novelty : Novelty) (record : Record) (count : Nat) :
    (novelty.extend record count).novelEdges = novelty.novelEdges + count := by
  have appended : ∀ counts : List Nat,
      (counts ++ [count]).foldr (· + ·) 0 = counts.foldr (· + ·) 0 + count := by
    intro counts
    induction counts with
    | nil => simp
    | cons first rest inductionHypothesis =>
        simp only [List.cons_append, List.foldr_cons, inductionHypothesis]
        omega
  simp only [Novelty.novelEdges, Novelty.extend, List.map_append, List.map_cons, List.map_nil]
  exact appended _

/-- Folding records that all fit their versions' unions, on top of what is known of the
input already. -/
theorem foldRecords_of_known {feedback : CoverageFeedback} {records : List Record}
    (novelty : Novelty)
    (known : ∀ record ∈ records,
      feedback.capacity? record.version = some record.coverage.capacity) :
    ∃ result count after, feedback.foldRecords novelty records = (.ok result, after) ∧
      result.novelEdges = novelty.novelEdges + count ∧ Reveals feedback records count after := by
  induction records generalizing feedback novelty with
  | nil => exact ⟨novelty, 0, feedback, rfl, rfl, .nil feedback⟩
  | cons record rest inductionHypothesis =>
      obtain ⟨first, middle, folded, revealed⟩ :=
        foldRecord_of_known (known record List.mem_cons_self)
      obtain ⟨result, others, after, foldedRest, counted, revealedRest⟩ :=
        inductionHypothesis (novelty.extend record first) (fun other member => by
          rw [revealed.capacity]
          exact known other (List.mem_cons_of_mem record member))
      refine ⟨result, first + others, after, ?_, ?_, revealed.append revealedRest⟩
      · simp [foldRecords, folded, foldedRest]
      · rw [counted, novelEdges_extend, Nat.add_assoc]

/-- Records that all fit their versions' unions are accepted, and the novelty counts
exactly the growth. -/
theorem evaluate_of_known {feedback : CoverageFeedback} {records : List Record}
    (known : ∀ record ∈ records,
      feedback.capacity? record.version = some record.coverage.capacity) :
    ∃ novelty, (feedback.evaluate records).1 = .ok novelty ∧
      Reveals feedback records novelty.novelEdges (feedback.evaluate records).2 := by
  obtain ⟨result, count, after, folded, counted, revealed⟩ := foldRecords_of_known {} known
  have same : result.novelEdges = count := by simpa [Novelty.novelEdges] using counted
  refine ⟨result, ?_, ?_⟩ <;> simp only [evaluate, folded]
  exact same ▸ revealed

/-- Feedback that cannot be told apart by evaluating records: the same capacities and the
same counters seen, whatever the counts that first hit them. -/
structure Alike (left right : CoverageFeedback) : Prop where
  capacity : ∀ version, left.capacity? version = right.capacity? version
  seen : ∀ version slot, left.hasSeen version slot = right.hasSeen version slot

theorem Alike.refl (feedback : CoverageFeedback) : feedback.Alike feedback where
  capacity _ := rfl
  seen _ _ := rfl

theorem Alike.symm {left right : CoverageFeedback} (alike : left.Alike right) :
    right.Alike left where
  capacity version := (alike.capacity version).symm
  seen version slot := (alike.seen version slot).symm

theorem Alike.trans {left middle right : CoverageFeedback} (first : left.Alike middle)
    (second : middle.Alike right) : left.Alike right where
  capacity version := (first.capacity version).trans (second.capacity version)
  seen version slot := (first.seen version slot).trans (second.seen version slot)

/-- Records without a first hit leave feedback alike. -/
theorem Reveals.alike {before after : CoverageFeedback} {records : List Record}
    (reveals : Reveals before records 0 after) : before.Alike after where
  capacity version := (reveals.capacity version).symm
  seen version slot := by
    have old := reveals.none_iff.mp rfl
    rw [Bool.eq_iff_iff, reveals.seen]
    constructor
    · exact Or.inl
    · rintro (seen | ⟨record, member, rfl, covered⟩)
      · exact seen
      · exact old record member slot covered

/-- The unions of one version in alike feedback. -/
theorem Alike.union {left right : CoverageFeedback} (alike : left.Alike right)
    {version : String} {union : CoverageUnion} (found : left.union? version = some union) :
    ∃ other, right.union? version = some other ∧ union.Alike other := by
  have sized : right.capacity? version = some union.capacity := by
    rw [← alike.capacity, capacity?, found, Option.map_some]
  obtain ⟨other, otherFound, same⟩ := Option.map_eq_some_iff.mp sized
  refine ⟨other, otherFound, same.symm, fun slot => ?_⟩
  simpa [hasSeen, found, otherFound] using alike.seen version slot

/-- A version that alike feedback does not know. -/
theorem Alike.unknown {left right : CoverageFeedback} (alike : left.Alike right)
    {version : String} (missing : left.union? version = none) : right.union? version = none := by
  have sized := alike.capacity version
  rw [capacity?, missing, Option.map_none] at sized
  exact Option.map_eq_none_iff.mp sized.symm

/-- Replacing the union of a version by alike ones keeps feedback alike. -/
theorem Alike.update {left right : CoverageFeedback} (alike : left.Alike right)
    {version : String} {union other : CoverageUnion} (same : union.Alike other) :
    Alike ⟨update version union left.unions⟩ ⟨update version other right.unions⟩ where
  capacity name := by
    simp only [capacity?, union?_update]
    split
    next =>
      cases found : left.union? name with
      | none => simp [alike.unknown found]
      | some held =>
          obtain ⟨otherHeld, otherFound, _⟩ := alike.union found
          simp [otherFound, same.capacity]
    next => exact alike.capacity name
  seen name slot := by
    simp only [hasSeen, union?_update]
    split
    next =>
      cases found : left.union? name with
      | none => simp [alike.unknown found]
      | some held =>
          obtain ⟨otherHeld, otherFound, _⟩ := alike.union found
          simp [otherFound, same.seen]
    next => exact alike.seen name slot

/-- Alike feedback gives one answer to records that expose the same coverage, and stays
alike. -/
theorem Alike.foldRecords {left right : CoverageFeedback} (alike : left.Alike right)
    (novelty : Novelty) {records others : List Record}
    (same : records.map Record.exposure = others.map Record.exposure) :
    (left.foldRecords novelty records).1 = (right.foldRecords novelty others).1 ∧
      (left.foldRecords novelty records).2.Alike (right.foldRecords novelty others).2 := by
  induction records generalizing left right novelty others with
  | nil =>
      obtain rfl : others = [] := List.map_eq_nil_iff.mp same.symm
      exact ⟨rfl, alike⟩
  | cons record rest inductionHypothesis =>
      obtain ⟨other, otherRest, rfl, head, tail⟩ := List.map_eq_cons_iff.mp same.symm
      obtain ⟨versions, coverages⟩ := Prod.mk.inj head
      have extended : ∀ count, novelty.extend other count = novelty.extend record count := by
        intro count
        simp [Novelty.extend, versions, coverages]
      cases found : left.union? record.version with
      | none =>
          have missing := alike.unknown found
          simp only [CoverageFeedback.foldRecords, foldRecord, versions, found, missing]
          exact ⟨trivial, alike⟩
      | some union =>
          obtain ⟨held, heldFound, unionsAlike⟩ := alike.union found
          by_cases fits : union.capacity = record.coverage.capacity
          · have otherFits : held.capacity = record.coverage.capacity :=
              unionsAlike.capacity.symm.trans fits
            simp only [CoverageFeedback.foldRecords, foldRecord, versions, coverages, found,
              heldFound, fits, otherFits, ne_eq, not_true, ↓reduceIte, extended,
              unionsAlike.novelCount]
            exact inductionHypothesis (alike.update (unionsAlike.fold record.coverage)) _ tail.symm
          · have otherFits : ¬held.capacity = record.coverage.capacity := by
              rwa [← unionsAlike.capacity]
            simp only [CoverageFeedback.foldRecords, foldRecord, versions, coverages, found,
              heldFound, otherFits, ne_eq, not_false_iff, ↓reduceIte, unionsAlike.capacity]
            exact ⟨trivial, alike⟩

/-- An evaluation depends on the capacities and the seen counters alone. -/
theorem Alike.evaluate {left right : CoverageFeedback} (alike : left.Alike right)
    {records others : List Record}
    (same : records.map Record.exposure = others.map Record.exposure) :
    (left.evaluate records).1 = (right.evaluate others).1 ∧
      (left.evaluate records).2.Alike (right.evaluate others).2 :=
  alike.foldRecords {} same

end CoverageFeedback
end Crosscheck
