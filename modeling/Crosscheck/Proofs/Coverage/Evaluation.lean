import Mathlib
import Crosscheck.Proofs.Coverage.Feedback
import Crosscheck.Proofs.Coverage.Words

/-!
# Asking and evaluating

Feedback can be asked whether records would be novel, which compares each of them with what
was seen before all of them, and it can evaluate them, which compares each with what the
records before it have left. The two agree on records that are all accepted, since a first hit
among them is a first hit of some record on its own. An evaluation stops at the first record
that does not fit its version's union: `evaluate_cases` tells the two ways it can end, and
everything else follows from these.
-/

namespace Crosscheck.CoverageFeedback

/-- Whether there is a union for the version of a record, and of the record's capacity. -/
def Fits (feedback : CoverageFeedback) (record : Record) : Prop :=
  feedback.capacity? record.version = some record.coverage.capacity

/-- What is wrong with a record that does not fit. -/
def refusal (feedback : CoverageFeedback) (record : Record) : FeedbackError :=
  match feedback.capacity? record.version with
  | none => .unknownVersion record.version
  | some expected => .capacityMismatch record.version expected record.coverage.capacity

/-- Whether a record is the first after others that hits a counter for the first time. -/
structure FirstToAdd (feedback : CoverageFeedback) (earlier : List Record) (record : Record) :
    Prop where
  none : (feedback.evaluate earlier).2.coveredTotal = feedback.coveredTotal
  some : feedback.coveredTotal < (feedback.evaluate (earlier ++ [record])).2.coveredTotal

/-- Whether there is a signature exactly if there is a first hit, and then that of the first
record with one. -/
def Signed (feedback : CoverageFeedback) (records : List Record) (novelty : Novelty) : Prop :=
  novelty.novelEdges = 0 ∧ novelty.signature = none ∨
    0 < novelty.novelEdges ∧ ∃ earlier record later, records = earlier ++ record :: later ∧
      feedback.FirstToAdd earlier record ∧
      novelty.signature = some record.coverage.hexSignature

section Evaluate

variable {feedback middle after : CoverageFeedback} {novelty : Novelty} {records : List Record}
variable {record : Record}

theorem foldRecord_of_not_fits (unfit : ¬feedback.Fits record) :
    feedback.foldRecord record = .error (feedback.refusal record) := by
  unfold foldRecord refusal
  cases found : feedback.union? record.version with
  | none => simp [capacity?, found]
  | some union =>
      have other : union.capacity ≠ record.coverage.capacity := by
        simpa [Fits, capacity?, found] using unfit
      simp [capacity?, found, other]

/-- Records that were all accepted are followed by the others. -/
theorem foldRecords_append {start : Novelty} {earlier : List Record}
    (accepted : feedback.foldRecords start earlier = (.ok novelty, middle))
    (later : List Record) :
    feedback.foldRecords start (earlier ++ later) = middle.foldRecords novelty later := by
  induction earlier generalizing feedback start with
  | nil =>
      cases accepted
      rfl
  | cons record rest inductionHypothesis =>
      rw [List.cons_append, foldRecords]
      rw [foldRecords] at accepted
      cases folded : feedback.foldRecord record with
      | error error => simp [folded] at accepted
      | ok result =>
          rw [folded] at accepted
          exact inductionHypothesis accepted

/-- One more record that is accepted. -/
theorem evaluate_concat {count : Nat} (accepted : feedback.evaluate records = (.ok novelty, middle))
    (folded : middle.foldRecord record = .ok (count, after)) :
    feedback.evaluate (records ++ [record]) = (.ok (novelty.extend record count), after) := by
  rw [evaluate, foldRecords_append accepted, foldRecords, folded]
  rfl

/-- An evaluation stops at a record that does not fit. -/
theorem evaluate_of_not_fits (accepted : feedback.evaluate records = (.ok novelty, middle))
    (same : middle.capacity? record.version = feedback.capacity? record.version)
    (unfit : ¬feedback.Fits record) (later : List Record) :
    feedback.evaluate (records ++ record :: later) =
      (.error (feedback.refusal record), middle) := by
  have unfitNow : ¬middle.Fits record := by rwa [Fits, same]
  have refused : middle.refusal record = feedback.refusal record := by
    unfold refusal
    rw [same]
  rw [evaluate, foldRecords_append accepted, foldRecords, foldRecord_of_not_fits unfitNow, refused]

/-- One more record leaves the signature as it is, or gives it if there is none. -/
theorem Signed.concat {count : Nat} (signed : feedback.Signed records novelty)
    (accepted : feedback.evaluate records = (.ok novelty, middle))
    (reveals : Reveals feedback records novelty.novelEdges middle)
    (folded : middle.foldRecord record = .ok (count, after))
    (more : Reveals middle [record] count after) :
    feedback.Signed (records ++ [record]) (novelty.extend record count) := by
  have extended : (novelty.extend record count).signature =
      if count > 0 ∧ novelty.signature.isNone then some record.coverage.hexSignature
      else novelty.signature := rfl
  unfold Signed
  rw [novelEdges_extend, extended]
  rcases signed with ⟨none, unsigned⟩ | ⟨some, earlier, first, later, rfl, adds, signature⟩
  · rcases count.eq_zero_or_pos with zero | positive
    · left
      simp [zero, none, unsigned]
    · right
      have start : middle.coveredTotal = feedback.coveredTotal := by rw [reveals.total, none]; rfl
      refine ⟨by omega, records, record, [], rfl, ⟨?_, ?_⟩, by simp [positive, unsigned]⟩
      · rw [accepted, start]
      · rw [evaluate_concat accepted folded, more.total, start]
        exact Nat.lt_add_of_pos_right positive
  · right
    exact ⟨by omega, earlier, first, later ++ [record], by simp, adds, by simp [signature]⟩

/-- Records that all fit are accepted. -/
theorem exists_evaluate (fit : ∀ record ∈ records, feedback.Fits record) :
    ∃ novelty after, feedback.evaluate records = (.ok novelty, after) ∧
      Reveals feedback records novelty.novelEdges after := by
  obtain ⟨novelty, accepted, reveals⟩ := evaluate_of_known fit
  exact ⟨novelty, _, Prod.ext accepted rfl, reveals⟩

/-- Records that were accepted are signed. -/
theorem signed_of_evaluate (fit : ∀ record ∈ records, feedback.Fits record)
    (accepted : feedback.evaluate records = (.ok novelty, after)) :
    feedback.Signed records novelty := by
  induction records using List.reverseRecOn generalizing novelty after with
  | nil =>
      cases accepted
      exact .inl ⟨rfl, rfl⟩
  | append_singleton records record inductionHypothesis =>
      have early : ∀ other ∈ records, feedback.Fits other :=
        fun other member => fit other (List.mem_append_left _ member)
      obtain ⟨first, middle, begun, reveals⟩ := exists_evaluate early
      have known : middle.capacity? record.version = some record.coverage.capacity :=
        (reveals.capacity record.version).trans (fit record (by simp))
      obtain ⟨count, last, folded, more⟩ := foldRecord_of_known known
      obtain ⟨same, rfl⟩ := Prod.mk.inj ((evaluate_concat begun folded).symm.trans accepted)
      obtain rfl := Except.ok.inj same
      exact (inductionHypothesis early begun).concat begun reveals folded more

/-- An evaluation accepts all records, or stops at the first that does not fit. -/
theorem evaluate_cases (feedback : CoverageFeedback) (records : List Record) :
    (∀ record ∈ records, feedback.Fits record) ∨
      ∃ earlier record later novelty middle, records = earlier ++ record :: later ∧
        ¬feedback.Fits record ∧ feedback.evaluate earlier = (.ok novelty, middle) ∧
        feedback.evaluate records = (.error (feedback.refusal record), middle) := by
  classical
  cases found : records.find? fun record => decide ¬feedback.Fits record with
  | none =>
      left
      simpa using List.find?_eq_none.mp found
  | some record =>
      right
      obtain ⟨refused, earlier, later, rfl, early⟩ := List.find?_eq_some_iff_append.mp found
      have unfit : ¬feedback.Fits record := of_decide_eq_true refused
      have fit : ∀ other ∈ earlier, feedback.Fits other := by simpa using early
      obtain ⟨novelty, middle, accepted, reveals⟩ := exists_evaluate fit
      exact ⟨earlier, record, later, novelty, middle, rfl, unfit, accepted,
        evaluate_of_not_fits accepted (reveals.capacity record.version) unfit later⟩

end Evaluate

section Asking

variable {feedback : CoverageFeedback} {records : List Record}

/-- Asking about records that fit asks whether some record covers a counter that its version
has not seen. -/
theorem isInteresting_of_fits (fit : ∀ record ∈ records, feedback.Fits record) :
    ∃ answer, feedback.isInteresting records = .ok answer ∧
      (answer = true ↔ ∃ record ∈ records, ∃ slot, record.coverage.covers slot = true ∧
        feedback.hasSeen record.version slot = false) := by
  induction records with
  | nil => exact ⟨false, rfl, by simp⟩
  | cons record rest inductionHypothesis =>
      obtain ⟨answer, asked, told⟩ :=
        inductionHypothesis fun other member => fit other (List.mem_cons_of_mem _ member)
      obtain ⟨union, found, sized⟩ := Option.map_eq_some_iff.mp (fit record List.mem_cons_self)
      have novel : union.hasNovel record.coverage = true ↔ ∃ slot,
          record.coverage.covers slot = true ∧ feedback.hasSeen record.version slot = false := by
        simp only [CoverageUnion.hasNovel_iff, hasSeen, found, Option.any_some]
        refine exists_congr fun slot => and_iff_right_of_imp ?_
        rintro ⟨covered, _⟩
        exact sized ▸ CoverageUnion.lt_capacity_of_covers covered
      simp only [isInteresting, found, List.exists_mem_cons_iff, ← novel]
      cases interesting : union.hasNovel record.coverage with
      | true => exact ⟨true, rfl, by simp⟩
      | false => exact ⟨answer, by simpa using asked, by simpa using told⟩

end Asking

/-- A call of feedback: a question, or records to be folded. -/
inductive Call where
  | ask (records : List Record)
  | evaluate (records : List Record)

/-- Whether a call is an evaluation. -/
def Call.isEvaluation : Call → Bool
  | .ask _ => false
  | .evaluate _ => true

/-- The answer to a call and the feedback that it leaves. -/
def call (feedback : CoverageFeedback) :
    Call → Except FeedbackError (Bool ⊕ Novelty) × CoverageFeedback
  | .ask records => ((feedback.isInteresting records).map .inl, feedback)
  | .evaluate records =>
    let (answer, after) := feedback.evaluate records
    (answer.map .inr, after)

/-- The feedback after any number of calls. -/
def callAll (feedback : CoverageFeedback) (calls : List Call) : CoverageFeedback :=
  calls.foldl (fun feedback call => (feedback.call call).2) feedback

/-- Only evaluations are seen in the feedback that calls leave. -/
theorem callAll_filter (feedback : CoverageFeedback) (calls : List Call) :
    feedback.callAll (calls.filter Call.isEvaluation) = feedback.callAll calls := by
  induction calls generalizing feedback with
  | nil => rfl
  | cons first rest inductionHypothesis =>
      cases first with
      | ask records => exact inductionHypothesis feedback
      | evaluate records => exact inductionHypothesis (feedback.evaluate records).2

/-- How an evaluation of records goes, against what asking about them would have answered. -/
structure Evaluates (feedback : CoverageFeedback) (records : List Record) : Prop where
  /-- Accepted records are novel if they would have been called so. -/
  asked : ∀ novelty, (feedback.evaluate records).1 = .ok novelty →
    feedback.isInteresting records = .ok novelty.isNovel
  grown : ∀ novelty, (feedback.evaluate records).1 = .ok novelty →
    (feedback.evaluate records).2.coveredTotal = feedback.coveredTotal + novelty.novelEdges
  signed : ∀ novelty, (feedback.evaluate records).1 = .ok novelty →
    (novelty.signature.isSome = true ↔ novelty.isNovel = true) ∧
      ∀ signature, novelty.signature = some signature →
        ∃ earlier record later, records = earlier ++ record :: later ∧
          feedback.FirstToAdd earlier record ∧ signature = record.coverage.hexSignature
  /-- A refused record leaves what the records before it have left. -/
  refused : ∀ error, (feedback.evaluate records).1 = .error error →
    ∃ earlier record later novelty, records = earlier ++ record :: later ∧
      feedback.evaluate earlier = (.ok novelty, (feedback.evaluate records).2) ∧
      (feedback.capacity? record.version = none ∧ error = .unknownVersion record.version ∨
        ∃ expected, feedback.capacity? record.version = some expected ∧
          expected ≠ record.coverage.capacity ∧
          error = .capacityMismatch record.version expected record.coverage.capacity)

theorem isNovel_iff {novelty : Novelty} : novelty.isNovel = true ↔ 0 < novelty.novelEdges :=
  decide_eq_true_iff

/-- Every evaluation goes so. -/
theorem evaluates (feedback : CoverageFeedback) (records : List Record) :
    feedback.Evaluates records := by
  rcases feedback.evaluate_cases records with
    fit | ⟨earlier, record, later, novelty, middle, split, unfit, accepted, stopped⟩
  · obtain ⟨novelty, after, evaluated, reveals⟩ := exists_evaluate fit
    obtain ⟨answer, asked, told⟩ := isInteresting_of_fits fit
    have novel : answer = novelty.isNovel := by
      rw [Bool.eq_iff_iff, told, isNovel_iff, Nat.pos_iff_ne_zero, ne_eq, reveals.none_iff]
      simp only [not_forall, Bool.not_eq_true, exists_prop]
    have only : ∀ other, (feedback.evaluate records).1 = .ok other → other = novelty := by
      intro other found
      rw [evaluated] at found
      exact (Except.ok.inj found).symm
    exact
      { asked := by
          rintro other found
          rw [asked, novel, only other found]
        grown := by
          rintro other found
          rw [evaluated, only other found]
          exact reveals.total
        signed := by
          rintro other found
          rw [only other found, isNovel_iff]
          rcases signed_of_evaluate fit evaluated with
            ⟨none, unsigned⟩ | ⟨some, earlier, record, later, split, adds, made⟩
          · exact ⟨by simp [none, unsigned], by simp [unsigned]⟩
          · refine ⟨by simp [made, some], fun signature given => ?_⟩
            exact ⟨earlier, record, later, split, adds, Option.some.inj (given.symm.trans made)⟩
        refused := by
          rintro error found
          rw [evaluated] at found
          cases found }
  · have failed : (feedback.evaluate records).1 = .error (feedback.refusal record) := by
      rw [stopped]
    have never : ∀ novelty, (feedback.evaluate records).1 ≠ .ok novelty := by
      intro novelty found
      rw [failed] at found
      cases found
    exact
      { asked := fun novelty found => absurd found (never novelty)
        grown := fun novelty found => absurd found (never novelty)
        signed := fun novelty found => absurd found (never novelty)
        refused := by
          rintro error found
          obtain rfl : feedback.refusal record = error := Except.error.inj (failed.symm.trans found)
          refine ⟨earlier, record, later, novelty, split, by rw [accepted, stopped], ?_⟩
          unfold refusal
          cases sized : feedback.capacity? record.version with
          | none => exact .inl ⟨rfl, rfl⟩
          | some expected =>
              refine .inr ⟨expected, rfl, fun same => unfit ?_, rfl⟩
              rw [Fits, sized, same] }

/-- After any calls, in which questions leave no trace, records are evaluated as asking about
them foretells. -/
theorem evaluates_callAll (feedback : CoverageFeedback) (calls : List Call)
    (records : List Record) :
    feedback.callAll calls = feedback.callAll (calls.filter Call.isEvaluation) ∧
      (feedback.callAll calls).Evaluates records :=
  ⟨(feedback.callAll_filter calls).symm, evaluates _ _⟩

end Crosscheck.CoverageFeedback
