import Mathlib
import Crosscheck.Proofs.Verdict.Quotient

/-!
# What verdicts do not depend on

Under an equivalence a verdict is told from the classes of the outputs, so it survives
whatever leaves these alone. Permuting records changes at most which of several largest
classes is the reference (`classify_perm`); replacing outputs by others that agree with
them changes nothing (`classify_congr`). `ByClasses` puts these together with the classes
themselves.
-/

namespace Crosscheck.Comparison

section Replacement

variable {predicate : Predicate} {outputs others : List Output}

/-- Lists of outputs that agree place by place. -/
abbrev Alike (predicate : Predicate) : List Output → List Output → Prop :=
  List.Forall₂ fun left right => predicate.holds left right = true

theorem Alike.exists_of_mem (alike : Alike predicate outputs others) {right : Output}
    (member : right ∈ others) : ∃ left ∈ outputs, predicate.holds left right = true := by
  induction alike with
  | nil => simp at member
  | @cons first _ _ _ head _ inductionHypothesis =>
      rcases List.mem_cons.mp member with rfl | later
      · exact ⟨first, List.mem_cons_self, head⟩
      · obtain ⟨left, leftMember, agrees⟩ := inductionHypothesis later
        exact ⟨left, List.mem_cons_of_mem first leftMember, agrees⟩

theorem Alike.symm (lawful : predicate.IsEquivalence) (alike : Alike predicate outputs others) :
    Alike predicate others outputs :=
  alike.flip.imp fun _ _ agrees => lawful.holds_symm agrees

theorem Alike.allAgree (lawful : predicate.IsEquivalence) (alike : Alike predicate outputs others)
    (agree : AllAgree predicate outputs) : AllAgree predicate others := by
  intro left leftMember right rightMember
  obtain ⟨first, firstMember, firstAgrees⟩ := alike.exists_of_mem leftMember
  obtain ⟨second, secondMember, secondAgrees⟩ := alike.exists_of_mem rightMember
  rw [← lawful.holds_congr firstAgrees secondAgrees]
  exact agree first firstMember second secondMember

theorem Alike.allAgree_iff (lawful : predicate.IsEquivalence)
    (alike : Alike predicate outputs others) :
    AllAgree predicate outputs ↔ AllAgree predicate others :=
  ⟨alike.allAgree lawful, (alike.symm lawful).allAgree lawful⟩

theorem Alike.countP_eq (lawful : predicate.IsEquivalence) (alike : Alike predicate outputs others)
    {left right : Output} (agrees : predicate.holds left right = true) :
    outputs.countP (predicate.holds left) = others.countP (predicate.holds right) := by
  induction alike with
  | nil => rfl
  | cons head _ inductionHypothesis =>
      rw [List.countP_cons, List.countP_cons, inductionHypothesis, lawful.holds_congr agrees head]

theorem Alike.map_eq {sizeLeft sizeRight : Output → Nat}
    (alike : Alike predicate outputs others)
    (same : ∀ {left right}, predicate.holds left right = true → sizeLeft left = sizeRight right) :
    outputs.map sizeLeft = others.map sizeRight := by
  rw [← List.forall₂_eq_eq_eq, List.forall₂_map_left_iff, List.forall₂_map_right_iff]
  exact alike.imp fun _ _ agrees => same agrees

theorem Alike.of_append {left right : Output} {earlier later otherEarlier otherLater : List Output}
    (alike : Alike predicate (earlier ++ left :: later) (otherEarlier ++ right :: otherLater))
    (level : earlier.length = otherEarlier.length) : predicate.holds left right = true := by
  induction earlier generalizing otherEarlier with
  | nil =>
      obtain rfl : otherEarlier = [] := List.length_eq_zero_iff.mp level.symm
      exact (List.forall₂_cons.mp alike).1
  | cons head rest inductionHypothesis =>
      cases otherEarlier with
      | nil => simp at level
      | cons other otherRest =>
          exact inductionHypothesis (List.forall₂_cons.mp alike).2 (by simpa using level)

/-- Lists that agree place by place have leaders that agree. -/
theorem Alike.leader (lawful : predicate.IsEquivalence) (alike : Alike predicate outputs others)
    {left right : Output} (leads : Leader predicate outputs left)
    (leadsToo : Leader predicate others right) : predicate.holds left right = true := by
  have sizes : outputs.map (classSize predicate outputs) =
      others.map (classSize predicate others) :=
    alike.map_eq fun agrees => alike.countP_eq lawful agrees
  obtain ⟨earlier, later, otherEarlier, otherLater, rfl, rfl, level⟩ :=
    leads.level leadsToo sizes
  exact alike.of_append level

end Replacement

section Equivalence

variable {predicate : Predicate} {records others : List Record}

/-- Records of one version whose outputs agree. -/
def Interchangeable (predicate : Predicate) (record other : Record) : Prop :=
  record.version = other.version ∧ ∃ output otherOutput,
    record.outcome = .completed output ∧ other.outcome = .completed otherOutput ∧
      predicate.holds output otherOutput = true

theorem alike_of_interchangeable (same : List.Forall₂ (Interchangeable predicate) records others) :
    Alike predicate (outputsOf records) (outputsOf others) := by
  induction same with
  | nil => exact .nil
  | @cons record other _ _ head _ inductionHypothesis =>
      obtain ⟨_, output, otherOutput, shown, otherShown, agrees⟩ := head
      rw [outputsOf_cons shown, outputsOf_cons otherShown]
      exact .cons agrees inductionHypothesis

theorem completed_of_interchangeable
    (same : List.Forall₂ (Interchangeable predicate) records others) :
    (∀ record ∈ records, record.isFault = false) ∧ ∀ record ∈ others, record.isFault = false := by
  induction same with
  | nil => simp
  | cons head _ inductionHypothesis =>
      obtain ⟨_, output, otherOutput, shown, otherShown, _⟩ := head
      simp_all [Record.isFault, Outcome.fault?]

/-- Leaders that agree leave the same versions outside. -/
theorem map_version_outside (lawful : predicate.IsEquivalence) {leader otherLeader : Output}
    (agrees : predicate.holds leader otherLeader = true)
    (same : List.Forall₂ (Interchangeable predicate) records others) :
    (records.filter (outside predicate leader)).map Record.version =
      (others.filter (outside predicate otherLeader)).map Record.version := by
  induction same with
  | nil => rfl
  | @cons record other _ _ head _ inductionHypothesis =>
      obtain ⟨version, output, otherOutput, shown, otherShown, alike⟩ := head
      have decided : outside predicate leader record = outside predicate otherLeader other := by
        simp [outside, shown, otherShown, Outcome.output?, lawful.holds_congr agrees alike]
      rw [List.filter_cons, List.filter_cons, decided]
      split <;> simp [version, inductionHypothesis]

/-- Replacing outputs by others that agree with them changes no verdict. -/
theorem classify_congr (lawful : predicate.IsEquivalence) (several : 2 ≤ records.length)
    (same : List.Forall₂ (Interchangeable predicate) records others) :
    classify predicate others = classify predicate records := by
  have alike := alike_of_interchangeable same
  obtain ⟨completed, otherCompleted⟩ := completed_of_interchangeable same
  have agreeing := alike.allAgree_iff lawful
  rcases classify_cases lawful several completed with
    ⟨agree, verdict⟩ | ⟨differ, leader, leads, verdict⟩ <;>
  rcases classify_cases lawful (same.length_eq ▸ several) otherCompleted with
    ⟨otherAgree, otherVerdict⟩ | ⟨otherDiffer, otherLeader, otherLeads, otherVerdict⟩
  · rw [verdict, otherVerdict]
  · exact absurd (agreeing.mp agree) otherDiffer
  · exact absurd (agreeing.mpr otherAgree) differ
  · rw [verdict, otherVerdict,
      map_version_outside lawful (alike.leader lawful leads otherLeads) same]

theorem interchangeable_refl (lawful : predicate.IsEquivalence)
    (completed : ∀ record ∈ records, record.isFault = false) :
    List.Forall₂ (Interchangeable predicate) records records := by
  refine List.forall₂_same.mpr fun record member => ⟨rfl, ?_⟩
  have clean := completed record member
  cases outcome : record.outcome with
  | completed output => exact ⟨output, output, rfl, rfl, lawful.holds_refl output⟩
  | faulted fault => simp [Record.isFault, outcome, Outcome.fault?] at clean

/-- One output is replaced and all others are kept. -/
theorem interchangeable_replace (lawful : predicate.IsEquivalence) {before after : List Record}
    {record : Record} {output replacement : Output}
    (completed : ∀ other ∈ before ++ record :: after, other.isFault = false)
    (shown : record.outcome = .completed output)
    (agrees : predicate output replacement = .ok true) :
    List.Forall₂ (Interchangeable predicate) (before ++ record :: after)
      (before ++ { record with outcome := .completed replacement } :: after) := by
  obtain ⟨early, late⟩ := List.forall_mem_append.mp completed
  have head : Interchangeable predicate record
      { record with outcome := .completed replacement } :=
    ⟨rfl, output, replacement, shown, rfl, Predicate.holds_eq_true_iff.mpr agrees⟩
  exact List.rel_append (interchangeable_refl lawful early)
    (.cons head (interchangeable_refl lawful (List.forall_mem_cons.mp late).2))

end Equivalence

/-- All outputs whose class is as large as any agree. -/
def UniqueLargest (predicate : Predicate) (outputs : List Output) : Prop :=
  ∀ left ∈ outputs, ∀ right ∈ outputs,
    (∀ other ∈ outputs, classSize predicate outputs other ≤ classSize predicate outputs left) →
    (∀ other ∈ outputs, classSize predicate outputs other ≤ classSize predicate outputs right) →
      predicate left right = .ok true

/-- How verdicts on completed records follow from the classes of their outputs. -/
structure ByClasses (predicate : Predicate) (records : List Record) : Prop where
  agree : classify predicate records = .agree ↔
    ∀ left ∈ outputsOf records, ∀ right ∈ outputsOf records, predicate left right = .ok true
  /-- Otherwise the outliers are the versions outside the reference class in record order. -/
  diverge : classify predicate records ≠ .agree →
    ∃ leader, Leader predicate (outputsOf records) leader ∧
      classify predicate records =
        .diverge ((records.filter (outside predicate leader)).map Record.version)
  permuted : ∀ others : List Record, records.Perm others →
    (classify predicate others = .agree ↔ classify predicate records = .agree) ∧
      ((∃ named, classify predicate others = .diverge named) ↔
        ∃ named, classify predicate records = .diverge named)
  /-- The outliers move with their records if only one class is largest. -/
  outliers : ∀ others : List Record, records.Perm others →
    UniqueLargest predicate (outputsOf records) → classify predicate records ≠ .agree →
      ∃ leader, Leader predicate (outputsOf records) leader ∧
        classify predicate records =
          .diverge ((records.filter (outside predicate leader)).map Record.version) ∧
        classify predicate others =
          .diverge ((others.filter (outside predicate leader)).map Record.version)
  replaced : ∀ before record after output replacement, records = before ++ record :: after →
    record.outcome = .completed output → predicate output replacement = .ok true →
      classify predicate (before ++ { record with outcome := .completed replacement } :: after) =
        classify predicate records

section Claim

variable {predicate : Predicate} {records others : List Record}

theorem outside_congr (lawful : predicate.IsEquivalence) {left right : Output}
    (agrees : predicate.holds left right = true) :
    outside predicate left = outside predicate right := by
  funext record
  have same : predicate.holds left = predicate.holds right := by
    funext output
    exact lawful.holds_congr agrees (lawful.holds_refl output)
  rw [outside, outside, same]

theorem classSize_perm {outputs otherOutputs : List Output}
    (permuted : outputs.Perm otherOutputs) (output : Output) :
    classSize predicate outputs output = classSize predicate otherOutputs output :=
  permuted.countP_eq _

theorem AllAgree.perm {outputs otherOutputs : List Output}
    (permuted : outputs.Perm otherOutputs) (agree : AllAgree predicate outputs) :
    AllAgree predicate otherOutputs :=
  fun left leftMember right rightMember =>
    agree left (permuted.mem_iff.mpr leftMember) right (permuted.mem_iff.mpr rightMember)

/-- Whether all outputs agree does not depend on the order of the records. -/
theorem classify_perm (lawful : predicate.IsEquivalence) (several : 2 ≤ records.length)
    (completed : ∀ record ∈ records, record.isFault = false) (permuted : records.Perm others) :
    (classify predicate others = .agree ↔ classify predicate records = .agree) ∧
      ((∃ named, classify predicate others = .diverge named) ↔
        ∃ named, classify predicate records = .diverge named) := by
  have outputs : (outputsOf records).Perm (outputsOf others) := permuted.filterMap _
  have alsoCompleted : ∀ record ∈ others, record.isFault = false := fun record member =>
    completed record (permuted.mem_iff.mpr member)
  rcases classify_cases lawful several completed with
    ⟨agree, verdict⟩ | ⟨differ, leader, leads, verdict⟩ <;>
  rcases classify_cases lawful (permuted.length_eq ▸ several) alsoCompleted with
    ⟨otherAgree, otherVerdict⟩ | ⟨otherDiffer, otherLeader, otherLeads, otherVerdict⟩ <;>
  simp only [verdict, otherVerdict]
  · simp
  · exact absurd (agree.perm outputs) otherDiffer
  · exact absurd (otherAgree.perm outputs.symm) differ
  · simp

/-- Neither does the reference class, if it is larger than all others. -/
theorem Leader.perm {outputs otherOutputs : List Output} {left right : Output}
    (permuted : outputs.Perm otherOutputs) (unique : UniqueLargest predicate outputs)
    (leads : Leader predicate outputs left) (leadsToo : Leader predicate otherOutputs right) :
    predicate.holds left right = true := by
  refine Predicate.holds_eq_true_iff.mpr
    (unique left leads.mem right (permuted.mem_iff.mpr leadsToo.mem) leads.size_le ?_)
  intro other member
  rw [classSize_perm permuted, classSize_perm permuted]
  exact leadsToo.size_le other (permuted.mem_iff.mp member)

/-- If the predicate is an equivalence, verdicts on completed records are those of the true
classes of their outputs: the greedy pass finds just these, ties go to the class that
appears first, and neither order nor choice of equivalent outputs matters otherwise. -/
theorem classify_byClasses (lawful : predicate.IsEquivalence) (several : 2 ≤ records.length)
    (completed : ∀ record ∈ records, record.isFault = false) : ByClasses predicate records where
  agree := by
    simp only [← Predicate.holds_eq_true_iff]
    rcases classify_cases lawful several completed with
      ⟨agree, verdict⟩ | ⟨differ, leader, leads, verdict⟩
    · exact ⟨fun _ => agree, fun _ => verdict⟩
    · rw [verdict]
      exact ⟨nofun, fun agree => absurd agree differ⟩
  diverge differs := by
    rcases classify_cases lawful several completed with
      ⟨_, verdict⟩ | ⟨_, leader, leads, verdict⟩
    · exact absurd verdict differs
    · exact ⟨leader, leads, verdict⟩
  permuted others permuted := classify_perm lawful several completed permuted
  outliers others permuted unique differs := by
    have alsoCompleted : ∀ record ∈ others, record.isFault = false := fun record member =>
      completed record (permuted.mem_iff.mpr member)
    have kept := (classify_perm lawful several completed permuted).1
    rcases classify_cases lawful several completed with
      ⟨_, verdict⟩ | ⟨_, leader, leads, verdict⟩
    · exact absurd verdict differs
    rcases classify_cases lawful (permuted.length_eq ▸ several) alsoCompleted with
      ⟨_, otherVerdict⟩ | ⟨_, otherLeader, otherLeads, otherVerdict⟩
    · exact absurd (kept.mp otherVerdict) differs
    · have agrees := leads.perm (permuted.filterMap _) unique otherLeads
      exact ⟨leader, leads, verdict, outside_congr lawful agrees ▸ otherVerdict⟩
  replaced before record after output replacement split shown agrees := by
    subst split
    exact classify_congr lawful several
      (interchangeable_replace lawful completed shown agrees)

/-- The odd one out of three is the outlier, wherever it stands. -/
theorem classify_byClasses_three :
    Predicate.exact.IsEquivalence ∧
      classify .exact [⟨"a", .blank 0, .completed (.changes 1), 0⟩,
        ⟨"b", .blank 0, .completed (.changes 2), 0⟩,
        ⟨"c", .blank 0, .completed (.changes 1), 0⟩] = .diverge ["b"] ∧
      ByClasses .exact [⟨"a", .blank 0, .completed (.changes 1), 0⟩,
        ⟨"b", .blank 0, .completed (.changes 2), 0⟩,
        ⟨"c", .blank 0, .completed (.changes 1), 0⟩] :=
  ⟨Predicate.isEquivalence_exact, by decide,
    classify_byClasses Predicate.isEquivalence_exact (by decide) (by decide)⟩

/-- Of two classes of one size the second is named. -/
example : classify .exact [⟨"a", .blank 0, .completed (.changes 1), 0⟩,
    ⟨"b", .blank 0, .completed (.changes 2), 0⟩] = .diverge ["b"] := by decide

end Claim

end Crosscheck.Comparison
