import Mathlib
import Crosscheck.Proofs.Equivalence.Normalized
import Crosscheck.Proofs.Verdict.Grouping

/-!
# Looking through more differences

A normalization that looks through more differences only adds to the outputs that agree. What
this does to verdicts does not rest on any law of a predicate: the pass over outputs ends with
one class exactly if the first output agrees with all others (`ofOutputs_eq_agree_iff`), so
that agreement carries over to any coarser predicate. Which records faulted is decided before
a predicate is asked (`isFault_classify_iff`).
-/

namespace Crosscheck

/-- Whether a verdict tells of faults. -/
def Verdict.isFault : Verdict → Bool
  | .fault _ | .sharedFault _ => true
  | .agree | .diverge _ | .unresolved _ => false

/-- Outputs that agree under one predicate agree under another as well. -/
def Predicate.Refines (fine coarse : Predicate) : Prop :=
  ∀ left right, fine left right = .ok true → coarse left right = .ok true

namespace Comparison

variable {predicate fine coarse : Predicate} {outputs : List Output} {records : List Record}

/-- The first output agrees with all others. -/
def AgreeWithFirst (predicate : Predicate) : List Output → Prop
  | [] => True
  | first :: rest => ∀ output ∈ rest, predicate first output = .ok true

theorem AgreeWithFirst.mono (refines : fine.Refines coarse)
    (agree : AgreeWithFirst fine outputs) : AgreeWithFirst coarse outputs := by
  cases outputs with
  | nil => exact agree
  | cons first rest => exact fun output member => refines first output (agree output member)

section Pass

/-- Every output founds or joins a class. -/
theorem Grouped.eq_nil (grouped : Grouped predicate outputs []) : outputs = [] := by
  have total := grouped.perm_members.length_eq
  simpa [eq_comm] using total

/-- A pass that ends with one class has compared its representative, which is the first output,
with all others. -/
theorem Grouped.agreeWithFirst {classes : List OutputClass}
    (grouped : Grouped predicate outputs classes) (few : classes.length ≤ 1) :
    AgreeWithFirst predicate outputs ∧
      ∀ group ∈ classes, outputs.head? = some group.representative := by
  induction grouped with
  | none => exact ⟨trivial, by simp⟩
  | @joins outputs output before first after prior apart agrees inductionHypothesis =>
      have alone : before = [] ∧ after = [] := by
        simp only [List.length_append, List.length_cons] at few
        constructor <;> apply List.eq_nil_of_length_eq_zero <;> omega
      obtain ⟨rfl, rfl⟩ := alone
      obtain ⟨agree, leads⟩ := inductionHypothesis few
      have head := leads first List.mem_cons_self
      cases outputs with
      | nil => cases head
      | cons representative rest =>
          obtain rfl : representative = first.representative := Option.some.inj head
          refine ⟨fun other member => ?_, by simp⟩
          rcases List.mem_append.mp member with early | late
          · exact agree other early
          · exact List.mem_singleton.mp late ▸ agrees
  | @founds outputs output classes prior apart _ =>
      have none : classes = [] := by
        rw [List.length_append, List.length_singleton] at few
        exact List.eq_nil_of_length_eq_zero (by omega)
      subst none
      obtain rfl := prior.eq_nil
      exact ⟨by simp [AgreeWithFirst], by simp⟩

/-- Outputs that agree with the first are placed into its class one after another. -/
theorem exists_grouped_of_agreeWithFirst {first : Output} {rest : List Output}
    (agree : AgreeWithFirst predicate (first :: rest)) :
    ∃ members, Grouped predicate (first :: rest) [⟨first, members⟩] := by
  induction rest using List.reverseRecOn with
  | nil => exact ⟨_, .founds .none (by simp [Apart])⟩
  | append_singleton rest output inductionHypothesis =>
      obtain ⟨members, prior⟩ :=
        inductionHypothesis fun other member => agree other (List.mem_append_left _ member)
      have joins : predicate first output = .ok true :=
        agree output (List.mem_append_right _ (List.mem_singleton_self output))
      have none : Apart predicate output [] := fun other member => absurd member List.not_mem_nil
      exact ⟨_, Grouped.joins prior none joins⟩

/-- The verdict on outputs is agreement exactly if the first of them agrees with all others,
whatever the predicate answers to other questions. -/
theorem ofOutputs_eq_agree_iff {versions : List String} :
    ofOutputs predicate versions outputs = .agree ↔ AgreeWithFirst predicate outputs := by
  unfold ofOutputs
  constructor
  · intro agrees
    split at agrees
    next => cases agrees
    next classes placed =>
      split at agrees
      next few => exact ((placeAll_eq_ok_iff.mp placed).agreeWithFirst few).1
      next => cases agrees
  · intro agree
    cases outputs with
    | nil => rfl
    | cons first rest =>
        obtain ⟨members, grouped⟩ := exists_grouped_of_agreeWithFirst agree
        rw [placeAll_of_grouped grouped]
        rfl

theorem isFault_ofOutputs (predicate : Predicate) (versions : List String)
    (outputs : List Output) : (ofOutputs predicate versions outputs).isFault = false := by
  unfold ofOutputs
  split
  · rfl
  · split <;> rfl

end Pass

section Classify

/-- Where a record faulted, no predicate has a say. -/
theorem exists_classify_of_faulted (several : 2 ≤ records.length)
    (faulted : ∃ record ∈ records, record.isFault = true) :
    ∃ verdict : Verdict, verdict.isFault = true ∧
      ∀ predicate, classify predicate records = verdict := by
  by_cases shared : ∃ kind, ∀ record ∈ records, record.outcome.fault?.map Fault.kind = some kind
  · obtain ⟨kind, all⟩ := shared
    exact ⟨.sharedFault kind, rfl, fun predicate => classify_of_shared predicate several all⟩
  · exact ⟨.fault _, rfl, fun predicate => classify_of_faulted predicate several faulted shared⟩

theorem isFault_classify_iff : (classify predicate records).isFault = true ↔
    2 ≤ records.length ∧ ∃ record ∈ records, record.isFault = true := by
  rcases Nat.lt_or_ge records.length 2 with few | several
  · rw [classify_of_few predicate few]
    simp [Verdict.isFault, Nat.not_le.mpr few]
  by_cases faulted : ∃ record ∈ records, record.isFault = true
  · obtain ⟨verdict, tells, same⟩ := exists_classify_of_faulted several faulted
    rw [same predicate, tells]
    simp [several, faulted]
  · have completed : ∀ record ∈ records, record.isFault = false := by simpa using faulted
    rw [classify_of_completed predicate several completed, isFault_ofOutputs]
    simp [faulted]

theorem classify_eq_agree_iff : classify predicate records = .agree ↔
    2 ≤ records.length ∧ (∀ record ∈ records, record.isFault = false) ∧
      AgreeWithFirst predicate (outputsOf records) := by
  rcases Nat.lt_or_ge records.length 2 with few | several
  · rw [classify_of_few predicate few]
    simp [Nat.not_le.mpr few]
  by_cases faulted : ∃ record ∈ records, record.isFault = true
  · have tells : (classify predicate records).isFault = true :=
      isFault_classify_iff.mpr ⟨several, faulted⟩
    constructor
    · intro agrees
      rw [agrees] at tells
      cases tells
    · rintro ⟨_, completed, _⟩
      obtain ⟨record, member, fault⟩ := faulted
      exact absurd fault (by simp [completed record member])
  · have completed : ∀ record ∈ records, record.isFault = false := by simpa using faulted
    rw [classify_of_completed predicate several completed, ofOutputs_eq_agree_iff]
    exact ⟨fun agree => ⟨several, completed, agree⟩, fun found => found.2.2⟩

end Classify

/-- What a coarser predicate makes of outputs and records: no agreement is lost, and faults are
found as before. -/
structure Coarsens (fine coarse : Predicate) : Prop where
  refines : fine.Refines coarse
  agrees : ∀ records, classify fine records = .agree → classify coarse records = .agree
  isFault : ∀ records, (classify fine records).isFault = (classify coarse records).isFault
  /-- A verdict that tells of faults is the same one. -/
  faults : ∀ records, (classify fine records).isFault = true →
    classify fine records = classify coarse records

theorem coarsens_of_refines (refines : fine.Refines coarse) : Coarsens fine coarse where
  refines := refines
  agrees records agree := by
    obtain ⟨several, completed, together⟩ := classify_eq_agree_iff.mp agree
    exact classify_eq_agree_iff.mpr ⟨several, completed, together.mono refines⟩
  isFault records := by rw [Bool.eq_iff_iff, isFault_classify_iff, isFault_classify_iff]
  faults records tells := by
    obtain ⟨several, faulted⟩ := isFault_classify_iff.mp tells
    obtain ⟨verdict, _, same⟩ := exists_classify_of_faulted several faulted
    rw [same, same]

end Comparison

namespace Normalization

variable {fine coarse : Normalization}

/-- What one normalization looks through, another looks through as well. -/
structure Within (fine coarse : Normalization) : Prop where
  unorderedRows : fine.unorderedRows = true → coarse.unorderedRows = true
  collapseBlanks : fine.collapseBlanks = true → coarse.collapseBlanks = true
  anyErrors : fine.anyErrors = true → coarse.anyErrors = true

theorem SameValue.mono (within : fine.Within coarse) {left right : String}
    (same : fine.SameValue left right) : coarse.SameValue left right :=
  same.imp_right (And.imp_left within.collapseBlanks)

theorem MayReorder.mono (within : fine.Within coarse) {rows arranged : List (List String)}
    (reordered : fine.MayReorder rows arranged) : coarse.MayReorder rows arranged :=
  reordered.imp_right (And.imp_left within.unorderedRows)

/-- Rows stay matched as they are: that their values are sorted differently once blanks are
looked through has no part in it. -/
theorem Agrees.mono (within : fine.Within coarse) {left right : Output}
    (agrees : fine.Agrees left right) : coarse.Agrees left right := by
  cases agrees with
  | rows reordered matched =>
      refine .rows (reordered.mono within) ?_
      exact matched.imp fun _ _ row => row.imp fun _ _ same => same.mono within
  | changes count => exact .changes count
  | error same => exact .error (same.imp within.anyErrors (SameValue.mono within))

theorem refines_predicate (within : fine.Within coarse) :
    fine.predicate.Refines coarse.predicate := by
  intro left right agree
  rw [predicate_eq_ok_true_iff, normalized_eq_iff] at agree ⊢
  exact agree.mono within

/-- Equal outputs agree under every normalization. -/
theorem exact_refines_predicate (normalization : Normalization) :
    Predicate.exact.Refines normalization.predicate := by
  intro left right equal
  rw [Predicate.exact, Except.ok.injEq, beq_iff_eq] at equal
  exact equal ▸ normalization.isEquivalence_predicate.refl left

/-- Every normalization is coarser than equality, and it becomes coarser with each difference
more that it looks through. -/
theorem coarsens_of_within (within : fine.Within coarse) :
    Comparison.Coarsens .exact fine.predicate ∧
      Comparison.Coarsens fine.predicate coarse.predicate :=
  ⟨Comparison.coarsens_of_refines (exact_refines_predicate fine),
    Comparison.coarsens_of_refines (refines_predicate within)⟩

/-- Records of two versions that answer the same rows in another order. Their values are sorted
one way as they are and the other way by their fields. -/
def shuffledRecords : List Record :=
  [⟨"a", .blank 0, .completed (.rows [["\tb"], [" a"]]), 0⟩,
    ⟨"b", .blank 0, .completed (.rows [[" a"], ["\tb"]]), 0⟩]

/-- They agree once the order of rows is looked through, and still do when blanks are as well. -/
theorem coarsens_of_within_shuffled :
    Within ⟨true, false, false⟩ ⟨true, true, false⟩ ∧
      Comparison.classify (predicate ⟨true, false, false⟩) shuffledRecords = .agree ∧
      Comparison.classify (predicate ⟨true, true, false⟩) shuffledRecords = .agree := by
  have within : Within ⟨true, false, false⟩ ⟨true, true, false⟩ := ⟨id, fun _ => rfl, id⟩
  have matched : Agrees ⟨true, false, false⟩ (.rows [["\tb"], [" a"]])
      (.rows [[" a"], ["\tb"]]) :=
    .rows (.inr ⟨rfl, .swap _ _ _⟩)
      (.cons (.cons (.inl rfl) .nil) (.cons (.cons (.inl rfl) .nil) .nil))
  have agrees : Comparison.classify (predicate ⟨true, false, false⟩) shuffledRecords = .agree := by
    rw [Comparison.classify_eq_agree_iff]
    refine ⟨by decide, by decide, ?_⟩
    intro output member
    obtain rfl := List.mem_singleton.mp member
    exact predicate_eq_ok_true_iff.mpr (normalized_eq_iff.mpr matched)
  exact ⟨within, agrees, (coarsens_of_within within).2.agrees _ agrees⟩

end Normalization

end Crosscheck
