import Mathlib
import Crosscheck.Verdict

/-!
# The pass over outputs

Outputs are grouped in one pass that compares each with one representative of every class,
up to the first that agrees. `Grouped` is what such a pass has come to and `Reached` which
comparisons it makes; `placeAll_eq_ok_iff` and `placeAll_eq_error_iff` say that the code
computes just these. A predicate may answer as it likes, refuse or unwind: the bounds on
outliers come from the shape of the pass alone.
-/

namespace Crosscheck.Comparison

variable {predicate : Predicate}

/-- An output agrees with none of some classes, and every comparison gave an answer. -/
def Apart (predicate : Predicate) (output : Output) (classes : List OutputClass) : Prop :=
  ∀ other ∈ classes, predicate other.representative output = .ok false

/-- What the pass over some outputs has come to. -/
inductive Grouped (predicate : Predicate) : List Output → List OutputClass → Prop where
  | none : Grouped predicate [] []
  | joins {outputs output before first after}
      (prior : Grouped predicate outputs (before ++ first :: after))
      (apart : Apart predicate output before)
      (agrees : predicate first.representative output = .ok true) :
      Grouped predicate (outputs ++ [output])
        (before ++ { first with members := first.members ++ [outputs.length] } :: after)
  | founds {outputs output classes} (prior : Grouped predicate outputs classes)
      (apart : Apart predicate output classes) :
      Grouped predicate (outputs ++ [output]) (classes ++ [⟨output, [outputs.length]⟩])

/-- The pass compares a representative with an output: it has grouped the outputs before
that one, and the representatives before this one did not agree. -/
def Reached (predicate : Predicate) (outputs : List Output) (left right : Output) : Prop :=
  ∃ earlier later before first after, outputs = earlier ++ right :: later ∧
    Grouped predicate earlier (before ++ first :: after) ∧ Apart predicate right before ∧
    first.representative = left

/-- The first of the largest items. -/
def FirstLargest {α : Type} (size : α → Nat) (items : List α) (best : α) : Prop :=
  ∃ before after, items = before ++ best :: after ∧
    (∀ other ∈ before, size other < size best) ∧ ∀ other ∈ after, size other ≤ size best

namespace FirstLargest

variable {α β : Type} {size : α → Nat} {items : List α} {best : α}

theorem mem (first : FirstLargest size items best) : best ∈ items := by
  obtain ⟨before, after, rfl, _⟩ := first
  simp

theorem size_le (first : FirstLargest size items best) :
    ∀ other ∈ items, size other ≤ size best := by
  obtain ⟨before, after, rfl, smaller, notLarger⟩ := first
  intro other member
  rcases List.mem_append.mp member with early | late
  · exact Nat.le_of_lt (smaller other early)
  · rcases List.mem_cons.mp late with rfl | later
    · exact Nat.le_refl _
    · exact notLarger other later

private theorem length_eq {front back otherFront otherBack : List Nat} {largest other : Nat}
    (same : front ++ largest :: back = otherFront ++ other :: otherBack)
    (smaller : ∀ size ∈ front, size < largest) (notLarger : ∀ size ∈ back, size ≤ largest)
    (otherSmaller : ∀ size ∈ otherFront, size < other)
    (otherNotLarger : ∀ size ∈ otherBack, size ≤ other) :
    front.length = otherFront.length := by
  rcases List.append_eq_append_iff.mp same with ⟨gap, early, late⟩ | ⟨gap, early, late⟩
  · cases gap with
    | nil => simp [early]
    | cons head rest =>
        cases late
        have below := otherSmaller largest (by simp [early])
        have above := notLarger other (by simp)
        omega
  · cases gap with
    | nil => simp [early]
    | cons head rest =>
        cases late
        have below := smaller other (by simp [early])
        have above := otherNotLarger largest (by simp)
        omega

/-- Lists of the same sizes have their first largest items at one place. -/
theorem level {otherSize : β → Nat} {others : List β} {other : β}
    (first : FirstLargest size items best) (firstToo : FirstLargest otherSize others other)
    (sizes : items.map size = others.map otherSize) :
    ∃ before after otherBefore otherAfter, items = before ++ best :: after ∧
      others = otherBefore ++ other :: otherAfter ∧ before.length = otherBefore.length := by
  obtain ⟨before, after, rfl, smaller, notLarger⟩ := first
  obtain ⟨otherBefore, otherAfter, rfl, otherSmaller, otherNotLarger⟩ := firstToo
  simp only [List.map_append, List.map_cons] at sizes
  have places := length_eq sizes (List.forall_mem_map.mpr smaller)
    (List.forall_mem_map.mpr notLarger) (List.forall_mem_map.mpr otherSmaller)
    (List.forall_mem_map.mpr otherNotLarger)
  rw [List.length_map, List.length_map] at places
  exact ⟨before, after, otherBefore, otherAfter, rfl, rfl, places⟩

end FirstLargest

section Place

variable {output : Output} {index : Nat} {before after classes : List OutputClass}
  {first : OutputClass}

theorem place_of_apart (apart : Apart predicate output classes) :
    place predicate output index classes = .ok (classes ++ [⟨output, [index]⟩]) := by
  induction classes with
  | nil => rfl
  | cons head rest inductionHypothesis =>
      obtain ⟨differs, others⟩ := List.forall_mem_cons.mp apart
      simp [place, differs, inductionHypothesis others, Except.map]

theorem place_of_agrees (apart : Apart predicate output before)
    (agrees : predicate first.representative output = .ok true) :
    place predicate output index (before ++ first :: after) =
      .ok (before ++ { first with members := first.members ++ [index] } :: after) := by
  induction before with
  | nil => simp [place, agrees]
  | cons head rest inductionHypothesis =>
      obtain ⟨differs, others⟩ := List.forall_mem_cons.mp apart
      simp [place, differs, inductionHypothesis others, Except.map]

theorem place_of_fails {failure : PredicateFailure} (apart : Apart predicate output before)
    (fails : predicate first.representative output = .error failure) :
    place predicate output index (before ++ first :: after) = .error failure := by
  induction before with
  | nil => simp [place, fails]
  | cons head rest inductionHypothesis =>
      obtain ⟨differs, others⟩ := List.forall_mem_cons.mp apart
      simp [place, differs, inductionHypothesis others, Except.map]

/-- An output stands apart from all classes, or there is a first that it agrees with or that
it cannot be compared with. -/
theorem apart_or_exists_first (predicate : Predicate) (output : Output)
    (classes : List OutputClass) :
    Apart predicate output classes ∨ ∃ before first after, classes = before ++ first :: after ∧
      Apart predicate output before ∧ predicate first.representative output ≠ .ok false := by
  induction classes with
  | nil => exact Or.inl (by simp [Apart])
  | cons head rest inductionHypothesis =>
      by_cases differs : predicate head.representative output = .ok false
      · rcases inductionHypothesis with apart | ⟨before, first, after, rfl, apart, meets⟩
        · exact Or.inl (List.forall_mem_cons.mpr ⟨differs, apart⟩)
        · exact Or.inr ⟨head :: before, first, after, rfl,
            List.forall_mem_cons.mpr ⟨differs, apart⟩, meets⟩
      · exact Or.inr ⟨[], head, rest, rfl, by simp [Apart], differs⟩

end Place

section PlaceAll

variable {outputs : List Output} {classes : List OutputClass}

theorem placeAll_append (predicate : Predicate) (classes : List OutputClass) (index : Nat)
    (first second : List Output) :
    placeAll predicate classes index (first ++ second) =
      (placeAll predicate classes index first).bind fun grouped =>
        placeAll predicate grouped (index + first.length) second := by
  induction first generalizing classes index with
  | nil => rfl
  | cons output rest inductionHypothesis =>
      simp only [List.cons_append, placeAll]
      split
      · rfl
      · rw [inductionHypothesis, List.length_cons, Nat.add_assoc, Nat.add_comm 1]

theorem placeAll_of_grouped (grouped : Grouped predicate outputs classes) :
    placeAll predicate [] 0 outputs = .ok classes := by
  induction grouped with
  | none => rfl
  | joins _ apart agrees inductionHypothesis =>
      simp [placeAll_append, inductionHypothesis, Except.bind, placeAll,
        place_of_agrees apart agrees]
  | founds _ apart inductionHypothesis =>
      simp [placeAll_append, inductionHypothesis, Except.bind, placeAll, place_of_apart apart]

theorem placeAll_of_reached {left right : Output} {failure : PredicateFailure}
    (reached : Reached predicate outputs left right)
    (fails : predicate left right = .error failure) :
    placeAll predicate [] 0 outputs = .error failure := by
  obtain ⟨earlier, later, before, first, after, rfl, grouped, apart, rfl⟩ := reached
  simp [placeAll_append, placeAll_of_grouped grouped, Except.bind, placeAll,
    place_of_fails apart fails]

/-- The pass groups all outputs or reaches a comparison that fails. -/
theorem exists_grouped_or_fails (predicate : Predicate) (outputs : List Output) :
    (∃ classes, Grouped predicate outputs classes) ∨
      ∃ left right failure, Reached predicate outputs left right ∧
        predicate left right = .error failure := by
  induction outputs using List.reverseRecOn with
  | nil => exact Or.inl ⟨[], .none⟩
  | append_singleton outputs output inductionHypothesis =>
      rcases inductionHypothesis with ⟨classes, grouped⟩ | ⟨left, right, failure, reached, fails⟩
      · rcases apart_or_exists_first predicate output classes with
          apart | ⟨before, first, after, rfl, apart, meets⟩
        · exact Or.inl ⟨_, grouped.founds apart⟩
        · cases answer : predicate first.representative output with
          | error failure =>
              exact Or.inr ⟨_, output, failure,
                ⟨outputs, [], before, first, after, rfl, grouped, apart, rfl⟩, answer⟩
          | ok agrees =>
              cases agrees with
              | true => exact Or.inl ⟨_, grouped.joins apart answer⟩
              | false => exact absurd answer meets
      · obtain ⟨earlier, later, before, first, after, rfl, grouped, apart, same⟩ := reached
        exact Or.inr ⟨left, right, failure,
          ⟨earlier, later ++ [output], before, first, after, by simp, grouped, apart, same⟩, fails⟩

theorem placeAll_eq_ok_iff :
    placeAll predicate [] 0 outputs = .ok classes ↔ Grouped predicate outputs classes := by
  constructor
  · intro placed
    rcases exists_grouped_or_fails predicate outputs with
      ⟨others, grouped⟩ | ⟨left, right, failure, reached, fails⟩
    · rw [placeAll_of_grouped grouped] at placed
      cases placed
      exact grouped
    · rw [placeAll_of_reached reached fails] at placed
      cases placed
  · exact placeAll_of_grouped

theorem placeAll_eq_error_iff {failure : PredicateFailure} :
    placeAll predicate [] 0 outputs = .error failure ↔
      ∃ left right, Reached predicate outputs left right ∧
        predicate left right = .error failure := by
  constructor
  · intro placed
    rcases exists_grouped_or_fails predicate outputs with
      ⟨classes, grouped⟩ | ⟨left, right, other, reached, fails⟩
    · rw [placeAll_of_grouped grouped] at placed
      cases placed
    · rw [placeAll_of_reached reached fails] at placed
      cases placed
      exact ⟨left, right, reached, fails⟩
  · rintro ⟨left, right, reached, fails⟩
    exact placeAll_of_reached reached fails

end PlaceAll

section Members

variable {outputs : List Output} {classes : List OutputClass}

/-- Every place is in exactly one class. -/
theorem Grouped.perm_members (grouped : Grouped predicate outputs classes) :
    (classes.flatMap OutputClass.members).Perm (List.range outputs.length) := by
  induction grouped with
  | none => exact .nil
  | @joins outputs output before first after _ _ _ inductionHypothesis =>
      rw [List.length_append, List.length_singleton, List.range_succ]
      refine List.Perm.trans ?_ (inductionHypothesis.append_right [outputs.length])
      simp only [List.flatMap_append, List.flatMap_cons, List.append_assoc]
      exact (List.perm_append_comm.append_left _).append_left _
  | founds _ _ inductionHypothesis =>
      rw [List.length_append, List.length_singleton, List.range_succ]
      simpa using inductionHypothesis.append_right _

/-- No class is empty. -/
theorem Grouped.members_ne_nil (grouped : Grouped predicate outputs classes) :
    ∀ group ∈ classes, group.members ≠ [] := by
  induction grouped with
  | none => simp
  | joins _ _ _ inductionHypothesis =>
      intro group member
      rcases List.mem_append.mp member with early | late
      · exact inductionHypothesis group (List.mem_append_left _ early)
      · rcases List.mem_cons.mp late with rfl | later
        · simp
        · exact inductionHypothesis group
            (List.mem_append_right _ (List.mem_cons_of_mem _ later))
  | founds _ _ inductionHypothesis =>
      intro group member
      rcases List.mem_append.mp member with early | late
      · exact inductionHypothesis group early
      · simp [List.mem_singleton.mp late]

/-- The class that leads others is the largest, the first of several. -/
abbrev Leads (classes : List OutputClass) (best : OutputClass) : Prop :=
  FirstLargest (fun group => group.members.length) classes best

private theorem leads_foldl {seen rest : List OutputClass} {best : OutputClass}
    (leads : Leads seen best) :
    Leads (seen ++ rest) (rest.foldl
      (fun best other => if other.members.length > best.members.length then other else best)
      best) := by
  induction rest generalizing seen best with
  | nil => simpa using leads
  | cons other rest inductionHypothesis =>
      rw [List.foldl_cons, ← List.singleton_append, ← List.append_assoc]
      apply inductionHypothesis
      split
      next larger =>
        refine ⟨seen, [], rfl, fun earlier member => ?_, by simp⟩
        exact Nat.lt_of_le_of_lt (leads.size_le earlier member) larger
      next notLarger =>
        obtain ⟨before, after, rfl, smaller, others⟩ := leads
        refine ⟨before, after ++ [other], by simp, smaller, ?_⟩
        exact List.forall_mem_append.mpr ⟨others, by simpa using Nat.le_of_not_lt notLarger⟩

/-- The reference leads. -/
theorem leads_of_reference {best : OutputClass} (found : reference classes = some best) :
    Leads classes best := by
  cases classes with
  | nil => cases found
  | cons first rest =>
      cases found
      exact leads_foldl ⟨[], [], rfl, by simp, by simp⟩

/-- Of several classes none has all places. -/
theorem Grouped.length_lt (grouped : Grouped predicate outputs classes)
    (several : 2 ≤ classes.length) {group : OutputClass} (member : group ∈ classes) :
    group.members.length < outputs.length := by
  obtain ⟨before, after, rfl⟩ := List.append_of_mem member
  have filled := grouped.members_ne_nil
  have total := grouped.perm_members.length_eq
  simp only [List.flatMap_append, List.flatMap_cons, List.length_append, List.length_range]
    at total
  have positive : ∀ others : List OutputClass, (∀ other ∈ others, other.members ≠ []) →
      others.length ≤ (others.flatMap OutputClass.members).length := by
    intro others nonempty
    induction others with
    | nil => simp
    | cons head rest inductionHypothesis =>
        obtain ⟨first, later⟩ := List.forall_mem_cons.mp nonempty
        have one := List.length_pos_iff.mpr first
        have more := inductionHypothesis later
        simp only [List.flatMap_cons, List.length_append, List.length_cons]
        omega
  have early := positive before fun other held => filled other (List.mem_append_left _ held)
  have late := positive after fun other held =>
    filled other (List.mem_append_right _ (List.mem_cons_of_mem _ held))
  simp only [List.length_append, List.length_cons] at several
  omega

/-- Every class holds different places, all of them among those of the outputs. -/
theorem Grouped.perm_filter (grouped : Grouped predicate outputs classes) {group : OutputClass}
    (member : group ∈ classes) :
    ((List.range outputs.length).filter group.members.contains).Perm group.members := by
  have distinct : (classes.flatMap OutputClass.members).Nodup :=
    grouped.perm_members.nodup_iff.mpr List.nodup_range
  have own : group.members.Nodup := (List.nodup_flatMap.mp distinct).1 group member
  refine (List.perm_ext_iff_of_nodup (List.nodup_range.filter _) own).mpr fun place => ?_
  have inside : place ∈ group.members → place ∈ List.range outputs.length := fun held =>
    grouped.perm_members.mem_iff.mp (List.mem_flatMap.mpr ⟨group, member, held⟩)
  simp only [List.mem_filter, List.contains_iff_mem]
  exact ⟨And.right, fun held => ⟨inside held, held⟩⟩

/-- A class and its outliers make up all places. -/
theorem Grouped.length_outliers (grouped : Grouped predicate outputs classes)
    {versions : List String} (named : versions.length = outputs.length) {group : OutputClass}
    (member : group ∈ classes) :
    group.members.length + (outliers group.members versions).length = outputs.length := by
  have places : versions.zipIdx.map Prod.snd = List.range outputs.length := by
    rw [List.zipIdx_map_snd, ← List.range_eq_range', named]
  have outside : (outliers group.members versions).length =
      (List.range outputs.length).countP fun place => !group.members.contains place := by
    rw [outliers, List.length_map, ← List.countP_eq_length_filter, ← places, List.countP_map]
    rfl
  have total := List.length_eq_countP_add_countP group.members.contains
    (l := List.range outputs.length)
  rw [List.length_range, List.countP_eq_length_filter,
    (grouped.perm_filter member).length_eq] at total
  simp only [decide_not, Bool.decide_eq_true] at total
  rw [outside]
  exact total.symm

end Members

section Classify

variable {records : List Record}

/-- The outputs of the records that completed. -/
def outputsOf (records : List Record) : List Output :=
  records.filterMap fun record => record.outcome.output?

theorem outputsOf_cons {record : Record} {output : Output}
    (shown : record.outcome = .completed output) :
    outputsOf (record :: records) = output :: outputsOf records := by
  simp [outputsOf, shown, Outcome.output?]

theorem length_outputsOf (completed : ∀ record ∈ records, record.isFault = false) :
    (outputsOf records).length = records.length := by
  rw [outputsOf, List.length_filterMap_eq_countP, List.countP_eq_length]
  intro record member
  have clean := completed record member
  cases outcome : record.outcome with
  | completed output => rfl
  | faulted fault => simp [Record.isFault, outcome, Outcome.fault?] at clean

/-- A kind of fault is shared if all of at least one record have it. -/
theorem sharedKind?_eq_some_iff {kind : FaultKind} :
    sharedKind? records = some kind ↔ records ≠ [] ∧
      ∀ record ∈ records, record.outcome.fault?.map Fault.kind = some kind := by
  cases records with
  | nil => simp [sharedKind?]
  | cons first rest =>
      cases fault : first.outcome.fault? with
      | none => simp [sharedKind?, fault]
      | some found =>
          simp only [sharedKind?, fault, List.all_eq_true, beq_iff_eq, ne_eq, List.cons_ne_nil,
            not_false_eq_true, true_and, List.forall_mem_cons, Option.map_some,
            Option.some.injEq]
          constructor
          · intro shared
            split at shared
            next all =>
              cases shared
              exact ⟨rfl, all⟩
            next => cases shared
          · rintro ⟨rfl, all⟩
            rw [if_pos all]

theorem classify_of_few (predicate : Predicate) (few : records.length < 2) :
    classify predicate records =
      .unresolved (Indecision.tooFewVersions records.length).message := by
  simp [classify, few]

theorem classify_of_shared (predicate : Predicate) {kind : FaultKind}
    (several : 2 ≤ records.length)
    (shared : ∀ record ∈ records, record.outcome.fault?.map Fault.kind = some kind) :
    classify predicate records = .sharedFault kind := by
  have nonempty : records ≠ [] := by
    rintro rfl
    simp at several
  simp [classify, Nat.not_lt.mpr several, sharedKind?_eq_some_iff.mpr ⟨nonempty, shared⟩]

theorem classify_of_faulted (predicate : Predicate) (several : 2 ≤ records.length)
    (faulted : ∃ record ∈ records, record.isFault = true)
    (mixed : ¬∃ kind, ∀ record ∈ records, record.outcome.fault?.map Fault.kind = some kind) :
    classify predicate records = .fault ((records.filter Record.isFault).map Record.version) := by
  have none : sharedKind? records = none := by
    cases shared : sharedKind? records with
    | none => rfl
    | some kind => exact absurd ⟨kind, (sharedKind?_eq_some_iff.mp shared).2⟩ mixed
  have some : (records.filter Record.isFault).isEmpty = false := by
    obtain ⟨record, member, fault⟩ := faulted
    exact List.isEmpty_eq_false_iff.mpr (List.ne_nil_of_mem (List.mem_filter.mpr ⟨member, fault⟩))
  simp [classify, Nat.not_lt.mpr several, none, some]

theorem classify_of_completed (predicate : Predicate) (several : 2 ≤ records.length)
    (completed : ∀ record ∈ records, record.isFault = false) :
    classify predicate records =
      ofOutputs predicate (records.map Record.version) (outputsOf records) := by
  have none : sharedKind? records = none := by
    cases shared : sharedKind? records with
    | none => rfl
    | some kind =>
        obtain ⟨nonempty, all⟩ := sharedKind?_eq_some_iff.mp shared
        obtain ⟨record, member⟩ := List.exists_mem_of_ne_nil records nonempty
        have kindOf := all record member
        have clean := completed record member
        cases fault : record.outcome.fault? <;> simp_all [Record.isFault]
  have clean : (records.filter Record.isFault).isEmpty = true := by
    rw [List.isEmpty_iff, List.filter_eq_nil_iff]
    intro record member
    simp [completed record member]
  simp only [classify, Nat.not_lt.mpr several, ↓reduceIte, none, clean]
  rfl

/-- Completed outputs are left without a verdict by a comparison that fails, and by nothing
else. -/
theorem ofOutputs_eq_unresolved_iff {versions : List String} {outputs : List Output}
    {reason : String} :
    ofOutputs predicate versions outputs = .unresolved reason ↔
      ∃ left right failure, Reached predicate outputs left right ∧
        predicate left right = .error failure ∧
        reason = (Indecision.predicate failure).message := by
  unfold ofOutputs
  cases placed : placeAll predicate [] 0 outputs with
  | error failure =>
      obtain ⟨left, right, reached, fails⟩ := placeAll_eq_error_iff.mp placed
      simp only [Verdict.unresolved.injEq]
      constructor
      · rintro rfl
        exact ⟨left, right, failure, reached, fails, rfl⟩
      · rintro ⟨otherLeft, otherRight, other, otherReached, otherFails, rfl⟩
        rw [placeAll_of_reached otherReached otherFails] at placed
        cases placed
        rfl
  | ok classes =>
      have undecided : (if classes.length ≤ 1 then Verdict.agree else
          .diverge (outliers (((reference classes).map OutputClass.members).getD []) versions)) ≠
            .unresolved reason := by
        split <;> simp
      refine ⟨fun same => absurd same undecided, ?_⟩
      rintro ⟨left, right, failure, reached, fails, _⟩
      rw [placeAll_of_reached reached fails] at placed
      cases placed

/-- Outputs that diverge have been grouped into several classes, and the outliers are outside
the leading one. -/
theorem of_ofOutputs_eq_diverge {versions named : List String} {outputs : List Output}
    (diverges : ofOutputs predicate versions outputs = .diverge named) :
    ∃ classes reference, Grouped predicate outputs classes ∧ 2 ≤ classes.length ∧
      Leads classes reference ∧ named = outliers reference.members versions := by
  unfold ofOutputs at diverges
  split at diverges
  next => cases diverges
  next classes placed =>
    split at diverges
    next => cases diverges
    next several =>
      have grouped := placeAll_eq_ok_iff.mp placed
      cases found : reference classes with
      | none =>
          cases classes with
          | nil => simp at several
          | cons first rest => cases found
      | some best =>
          rw [found] at diverges
          cases diverges
          exact ⟨classes, best, grouped, by omega, leads_of_reference found, rfl⟩

/-- Only completed records diverge. -/
theorem of_classify_eq_diverge {named : List String}
    (diverges : classify predicate records = .diverge named) :
    2 ≤ records.length ∧ (∀ record ∈ records, record.isFault = false) ∧
      ofOutputs predicate (records.map Record.version) (outputsOf records) = .diverge named := by
  rcases Nat.lt_or_ge records.length 2 with few | several
  · rw [classify_of_few predicate few] at diverges
    cases diverges
  by_cases shared :
      ∃ kind, ∀ record ∈ records, record.outcome.fault?.map Fault.kind = some kind
  · obtain ⟨kind, all⟩ := shared
    rw [classify_of_shared predicate several all] at diverges
    cases diverges
  by_cases faulted : ∃ record ∈ records, record.isFault = true
  · rw [classify_of_faulted predicate several faulted shared] at diverges
    cases diverges
  have completed : ∀ record ∈ records, record.isFault = false := by simpa using faulted
  exact ⟨several, completed, classify_of_completed predicate several completed ▸ diverges⟩

/-- What holds of every verdict, whatever the predicate does. -/
structure Sound (predicate : Predicate) (records : List Record) : Prop where
  few : records.length < 2 →
    classify predicate records = .unresolved (Indecision.tooFewVersions records.length).message
  /-- Faults take precedence over all that the predicate would do. -/
  shared : 2 ≤ records.length →
    ∀ kind, (∀ record ∈ records, record.outcome.fault?.map Fault.kind = some kind) →
      classify predicate records = .sharedFault kind
  faulted : 2 ≤ records.length → (∃ record ∈ records, record.isFault = true) →
    (¬∃ kind, ∀ record ∈ records, record.outcome.fault?.map Fault.kind = some kind) →
      classify predicate records = .fault ((records.filter Record.isFault).map Record.version)
  /-- Completed records stay unresolved only over a comparison that is made and fails. -/
  unresolved : 2 ≤ records.length → (∀ record ∈ records, record.isFault = false) →
    ∀ reason, classify predicate records = .unresolved reason ↔
      ∃ left right failure, Reached predicate (outputsOf records) left right ∧
        predicate left right = .error failure ∧
        reason = (Indecision.predicate failure).message
  /-- Outliers are some but not all, and no class is larger than the rest. -/
  diverged : ∀ named, classify predicate records = .diverge named →
    0 < named.length ∧ named.length < records.length ∧
      ∃ classes reference, Grouped predicate (outputsOf records) classes ∧
        reference ∈ classes ∧
        named = outliers reference.members (records.map Record.version) ∧
        reference.members.length + named.length = records.length ∧
        ∀ other ∈ classes, other.members.length ≤ reference.members.length

/-- Every verdict is sound, also for predicates that refuse, unwind or obey no law. -/
theorem sound_classify (predicate : Predicate) (records : List Record) :
    Sound predicate records where
  few := classify_of_few predicate
  shared several _ all := classify_of_shared predicate several all
  faulted several some mixed := classify_of_faulted predicate several some mixed
  unresolved several completed reason := by
    rw [classify_of_completed predicate several completed]
    exact ofOutputs_eq_unresolved_iff
  diverged named diverges := by
    obtain ⟨_, completed, outputs⟩ := of_classify_eq_diverge diverges
    obtain ⟨classes, reference, grouped, several, leads, rfl⟩ := of_ofOutputs_eq_diverge outputs
    have sized := length_outputsOf completed
    have versions : (records.map Record.version).length = (outputsOf records).length := by
      rw [List.length_map, sized]
    have total := grouped.length_outliers versions leads.mem
    have partly := grouped.length_lt several leads.mem
    have nonempty := List.length_pos_iff.mpr (grouped.members_ne_nil reference leads.mem)
    refine ⟨by omega, by omega, classes, reference, grouped, leads.mem, rfl, ?_, leads.size_le⟩
    rw [total, sized]

end Classify

end Crosscheck.Comparison
