import Mathlib
import Crosscheck.Proofs.Equivalence
import Crosscheck.Proofs.Verdict.Grouping

/-!
# Verdicts under an equivalence

The pass compares outputs with one representative of each class only. If the predicate is
an equivalence relation this computes the classes of that relation in the order in which
they appear (`quotient_of_grouped`), so a verdict can be told from the outputs without the
pass: either all outputs agree, or `Leader` names the reference class by its first output
(`classify_cases`).
-/

namespace Crosscheck.Comparison

section Places

variable {α β : Type}

/-- The places of the items that pass a test. -/
def places (test : α → Bool) (items : List α) : List Nat :=
  (items.zipIdx.filter fun entry => test entry.1).map Prod.snd

theorem mem_places {test : α → Bool} {items : List α} {place : Nat} :
    place ∈ places test items ↔ ∃ item, items[place]? = some item ∧ test item = true := by
  simp only [places, List.mem_map, List.mem_filter, List.mem_zipIdx_iff_getElem?]
  constructor
  · rintro ⟨⟨item, _⟩, ⟨held, passes⟩, rfl⟩
    exact ⟨item, held, passes⟩
  · rintro ⟨item, held, passes⟩
    exact ⟨(item, place), ⟨held, passes⟩, rfl⟩

theorem length_places (test : α → Bool) (items : List α) :
    (places test items).length = items.countP test := by
  rw [places, List.length_map, ← List.countP_eq_length_filter]
  conv_rhs => rw [← List.zipIdx_map_fst 0 items, List.countP_map]
  rfl

theorem places_append_singleton (test : α → Bool) (items : List α) (item : α) :
    places test (items ++ [item]) =
      places test items ++ if test item then [items.length] else [] := by
  cases passes : test item <;> simp [places, List.zipIdx_append, passes]

theorem places_map (test : β → Bool) (view : α → β) (items : List α) :
    places test (items.map view) = places (fun item => test (view item)) items := by
  simp [places, List.zipIdx_map, List.filter_map, Function.comp_def]

/-- The names that stand outside the places of a test belong to the items that fail it. -/
theorem outliers_places (test : α → Bool) (name : α → String) (items : List α) :
    outliers (places test items) (items.map name) =
      (items.filter fun item => !test item).map name := by
  have chosen : (items.zipIdx.filter fun entry => !(places test items).contains entry.2) =
      items.zipIdx.filter fun entry => !test entry.1 := by
    apply List.filter_congr
    rintro ⟨item, place⟩ member
    have held : items[place]? = some item := List.mem_zipIdx_iff_getElem?.mp member
    have same : (places test items).contains place = test item := by
      rw [Bool.eq_iff_iff, List.contains_iff_mem, mem_places]
      simp [held]
    rw [same]
  rw [outliers, List.zipIdx_map, List.filter_map, List.map_map]
  conv_rhs => rw [← List.zipIdx_map_fst 0 items, List.filter_map, List.map_map]
  exact congrArg (List.map _) chosen

end Places

section Classes

variable {predicate : Predicate} {outputs : List Output} {classes : List OutputClass}

/-- The representatives in the order of their classes. -/
def representatives (classes : List OutputClass) : List Output :=
  classes.map OutputClass.representative

/-- Classes that are those of a relation, in the order of their first outputs. -/
structure Quotient (predicate : Predicate) (outputs : List Output)
    (classes : List OutputClass) : Prop where
  members : ∀ group ∈ classes,
    group.members = places (predicate.holds group.representative) outputs
  apart : (representatives classes).Pairwise fun left right =>
    predicate.holds left right = false
  covered : ∀ output ∈ outputs, ∃ leader ∈ representatives classes,
    predicate.holds leader output = true
  /-- All that comes before the first output of a class belongs to earlier classes. -/
  first : ∀ before leader after, representatives classes = before ++ leader :: after →
    ∃ earlier later, outputs = earlier ++ leader :: later ∧
      ∀ other ∈ earlier, ∃ prior ∈ before, predicate.holds prior other = true

theorem Apart.holds_eq_false {output : Output} (apart : Apart predicate output classes)
    {leader : Output} (member : leader ∈ representatives classes) :
    predicate.holds leader output = false := by
  obtain ⟨group, groupMember, rfl⟩ := List.mem_map.mp member
  exact Predicate.holds_of_eq_false (apart group groupMember)

/-- An output that joins a class is found in the places of that class alone. -/
theorem Quotient.joins (lawful : predicate.IsEquivalence) {output : Output}
    {before after : List OutputClass} {joined : OutputClass}
    (quotient : Quotient predicate outputs (before ++ joined :: after))
    (apart : Apart predicate output before)
    (agrees : predicate joined.representative output = .ok true) :
    Quotient predicate (outputs ++ [output])
      (before ++ { joined with members := joined.members ++ [outputs.length] } :: after) := by
  have agrees := Predicate.holds_eq_true_iff.mpr agrees
  have same : representatives
      (before ++ { joined with members := joined.members ++ [outputs.length] } :: after) =
        representatives (before ++ joined :: after) := by
    simp [representatives]
  have later : ∀ group ∈ after, predicate.holds group.representative output = false := by
    intro group member
    have distinct := quotient.apart
    simp only [representatives, List.map_append, List.map_cons] at distinct
    have differs := (List.pairwise_cons.mp (List.pairwise_append.mp distinct).2.1).1
      group.representative (List.mem_map_of_mem member)
    rw [Bool.eq_false_iff] at differs ⊢
    intro alsoAgrees
    exact differs (lawful.holds_trans agrees (lawful.holds_symm alsoAgrees))
  exact
    { members := by
        intro group member
        rw [places_append_singleton]
        rcases List.mem_append.mp member with early | late
        · have differs := apart.holds_eq_false (List.mem_map_of_mem early)
          simp [differs, quotient.members group (List.mem_append_left _ early)]
        · rcases List.mem_cons.mp late with rfl | behind
          · simp [agrees, quotient.members joined (by simp)]
          · simp [later group behind, quotient.members group (by simp [behind])]
      apart := by
        rw [same]
        exact quotient.apart
      covered := by
        intro other member
        rw [same]
        rcases List.mem_append.mp member with old | new
        · exact quotient.covered other old
        · obtain rfl := List.mem_singleton.mp new
          exact ⟨joined.representative, by simp [representatives], agrees⟩
      first := by
        intro front leader back split
        obtain ⟨earlier, rest, rfl, known⟩ := quotient.first front leader back (same ▸ split)
        exact ⟨earlier, rest ++ [output], by simp, known⟩ }

/-- An output that stands apart is the first of a new class. -/
theorem Quotient.founds (lawful : predicate.IsEquivalence) {output : Output}
    (quotient : Quotient predicate outputs classes) (apart : Apart predicate output classes) :
    Quotient predicate (outputs ++ [output]) (classes ++ [⟨output, [outputs.length]⟩]) := by
  have extended : representatives (classes ++ [⟨output, [outputs.length]⟩]) =
      representatives classes ++ [output] := by
    simp [representatives]
  have fresh : ∀ other ∈ outputs, predicate.holds output other = false := by
    intro other member
    obtain ⟨leader, leaderMember, agrees⟩ := quotient.covered other member
    rw [Bool.eq_false_iff]
    intro same
    have alsoAgrees := lawful.holds_trans agrees (lawful.holds_symm same)
    simp [apart.holds_eq_false leaderMember] at alsoAgrees
  have alone : places (predicate.holds output) outputs = [] := by
    rw [← List.length_eq_zero_iff, length_places, List.countP_eq_zero]
    intro other member
    simp [fresh other member]
  exact
    { members := by
        intro group member
        rw [places_append_singleton]
        rcases List.mem_append.mp member with old | new
        · have differs := apart.holds_eq_false (List.mem_map_of_mem old)
          simp [differs, quotient.members group old]
        · obtain rfl := List.mem_singleton.mp new
          simp [alone, lawful.holds_refl]
      apart := by
        rw [extended, List.pairwise_append]
        refine ⟨quotient.apart, List.pairwise_singleton _ _, ?_⟩
        intro leader member other new
        obtain rfl := List.mem_singleton.mp new
        exact apart.holds_eq_false member
      covered := by
        intro other member
        rw [extended]
        rcases List.mem_append.mp member with old | new
        · obtain ⟨leader, leaderMember, agrees⟩ := quotient.covered other old
          exact ⟨leader, List.mem_append_left _ leaderMember, agrees⟩
        · obtain rfl := List.mem_singleton.mp new
          exact ⟨other, by simp, lawful.holds_refl other⟩
      first := by
        intro front leader back split
        rw [extended] at split
        rcases back.eq_nil_or_concat with rfl | ⟨init, last, rfl⟩
        · obtain ⟨rfl, same⟩ := List.append_inj' split rfl
          cases same
          exact ⟨outputs, [], rfl, quotient.covered⟩
        · rw [List.concat_eq_append, ← List.cons_append, ← List.append_assoc] at split
          obtain ⟨same, _⟩ := List.append_inj' split rfl
          obtain ⟨earlier, rest, rfl, known⟩ := quotient.first front leader init same
          exact ⟨earlier, rest ++ [output], by simp, known⟩ }

/-- The pass computes the classes of an equivalence. -/
theorem quotient_of_grouped (lawful : predicate.IsEquivalence)
    (grouped : Grouped predicate outputs classes) : Quotient predicate outputs classes := by
  induction grouped with
  | none =>
      exact
        { members := by simp
          apart := .nil
          covered := by simp
          first := by simp [representatives] }
  | joins _ apart agrees inductionHypothesis =>
      exact inductionHypothesis.joins lawful apart agrees
  | founds _ apart inductionHypothesis => exact inductionHypothesis.founds lawful apart

end Classes

section Leader

variable {predicate : Predicate} {outputs : List Output} {classes : List OutputClass}

/-- The number of outputs that agree with an output. -/
def classSize (predicate : Predicate) (outputs : List Output) (output : Output) : Nat :=
  outputs.countP (predicate.holds output)

/-- The first output of the reference class: its class is larger than those of the outputs
before it and no smaller than those of the outputs after it. -/
def Leader (predicate : Predicate) (outputs : List Output) (leader : Output) : Prop :=
  FirstLargest (classSize predicate outputs) outputs leader

theorem classSize_congr (lawful : predicate.IsEquivalence) {left right : Output}
    (agrees : predicate.holds left right = true) :
    classSize predicate outputs left = classSize predicate outputs right := by
  unfold classSize
  congr 1
  funext output
  exact lawful.holds_congr agrees (lawful.holds_refl output)

theorem Quotient.classSize_eq (quotient : Quotient predicate outputs classes)
    {group : OutputClass} (member : group ∈ classes) :
    classSize predicate outputs group.representative = group.members.length := by
  rw [quotient.members group member, length_places]
  rfl

/-- The representative of the leading class is the first output of a largest class. -/
theorem Quotient.leader (quotient : Quotient predicate outputs classes)
    (lawful : predicate.IsEquivalence) {best : OutputClass} (leads : Leads classes best) :
    Leader predicate outputs best.representative := by
  have bounded := leads.size_le
  have size := quotient.classSize_eq leads.mem
  obtain ⟨before, after, rfl, smaller, _⟩ := leads
  obtain ⟨earlier, later, split, known⟩ := quotient.first
    (representatives before) best.representative (representatives after)
    (by simp [representatives])
  refine ⟨earlier, later, split, ?_, ?_⟩
  · intro other member
    obtain ⟨prior, priorMember, agrees⟩ := known other member
    obtain ⟨group, groupMember, rfl⟩ := List.mem_map.mp priorMember
    rw [← classSize_congr lawful agrees, size,
      quotient.classSize_eq (List.mem_append_left _ groupMember)]
    exact smaller group groupMember
  · intro other member
    obtain ⟨prior, priorMember, agrees⟩ := quotient.covered other (by simp [split, member])
    obtain ⟨group, groupMember, rfl⟩ := List.mem_map.mp priorMember
    rw [← classSize_congr lawful agrees, size, quotient.classSize_eq groupMember]
    exact bounded group groupMember

/-- Any two of the outputs agree. -/
def AllAgree (predicate : Predicate) (outputs : List Output) : Prop :=
  ∀ left ∈ outputs, ∀ right ∈ outputs, predicate.holds left right = true

/-- There is at most one class exactly if all outputs agree. -/
theorem Quotient.length_le_one_iff (quotient : Quotient predicate outputs classes)
    (lawful : predicate.IsEquivalence) : classes.length ≤ 1 ↔ AllAgree predicate outputs := by
  constructor
  · intro few left leftMember right rightMember
    obtain ⟨leader, leaderMember, leftAgrees⟩ := quotient.covered left leftMember
    obtain ⟨other, otherMember, rightAgrees⟩ := quotient.covered right rightMember
    have same : leader = other := by
      cases classes with
      | nil => simp [representatives] at leaderMember
      | cons first rest =>
          obtain rfl : rest = [] := by simpa using few
          simp only [representatives, List.map_cons, List.map_nil, List.mem_singleton]
            at leaderMember otherMember
          exact leaderMember.trans otherMember.symm
    subst same
    exact lawful.holds_trans (lawful.holds_symm leftAgrees) rightAgrees
  · intro agree
    by_contra several
    cases classes with
    | nil => simp at several
    | cons first rest =>
        cases rest with
        | nil => simp at several
        | cons second rest =>
            have differs := (List.pairwise_cons.mp quotient.apart).1 second.representative
              (by simp)
            obtain ⟨_, _, split, _⟩ := quotient.first [] first.representative _ rfl
            obtain ⟨_, _, splitToo, _⟩ := quotient.first [first.representative]
              second.representative _ rfl
            have same := agree first.representative (by simp [split])
              second.representative (by simp [splitToo])
            simp [same] at differs

end Leader

section Verdicts

variable {predicate : Predicate} {records others : List Record}

/-- Whether a record's output is outside the class of an output. -/
def outside (predicate : Predicate) (leader : Output) (record : Record) : Bool :=
  !record.outcome.output?.any (predicate.holds leader)

/-- Under a predicate that always answers, no comparison fails. -/
theorem exists_grouped (lawful : predicate.IsEquivalence) (outputs : List Output) :
    ∃ classes, Grouped predicate outputs classes := by
  rcases exists_grouped_or_fails predicate outputs with grouped | ⟨left, right, _, _, fails⟩
  · exact grouped
  · obtain ⟨answer, answered⟩ := lawful.answers left right
    rw [answered] at fails
    cases fails

theorem map_output?_of_completed (completed : ∀ record ∈ records, record.isFault = false) :
    records.map (fun record => record.outcome.output?) = (outputsOf records).map some := by
  induction records with
  | nil => rfl
  | cons record rest inductionHypothesis =>
      obtain ⟨first, later⟩ := List.forall_mem_cons.mp completed
      cases outcome : record.outcome with
      | completed output =>
          rw [outputsOf_cons outcome, List.map_cons, List.map_cons, inductionHypothesis later,
            outcome]
          rfl
      | faulted fault => simp [Record.isFault, outcome, Outcome.fault?] at first

/-- The outliers of a class, told from the records. -/
theorem outliers_eq (completed : ∀ record ∈ records, record.isFault = false) (leader : Output) :
    outliers (places (predicate.holds leader) (outputsOf records))
        (records.map Record.version) =
      (records.filter (outside predicate leader)).map Record.version := by
  have same : places (predicate.holds leader) (outputsOf records) =
      places (fun record => record.outcome.output?.any (predicate.holds leader)) records := by
    rw [← places_map (Option.any (predicate.holds leader)),
      map_output?_of_completed completed, places_map]
    rfl
  rw [same, outliers_places]
  rfl

/-- Completed records agree, or diverge from the class of the leader. -/
theorem classify_cases (lawful : predicate.IsEquivalence) (several : 2 ≤ records.length)
    (completed : ∀ record ∈ records, record.isFault = false) :
    (AllAgree predicate (outputsOf records) ∧ classify predicate records = .agree) ∨
      (¬AllAgree predicate (outputsOf records) ∧
        ∃ leader, Leader predicate (outputsOf records) leader ∧
          classify predicate records =
            .diverge ((records.filter (outside predicate leader)).map Record.version)) := by
  obtain ⟨classes, grouped⟩ := exists_grouped lawful (outputsOf records)
  have quotient := quotient_of_grouped lawful grouped
  rw [classify_of_completed predicate several completed, ← quotient.length_le_one_iff lawful]
  unfold ofOutputs
  simp only [placeAll_of_grouped grouped]
  by_cases few : classes.length ≤ 1
  · exact Or.inl ⟨few, if_pos few⟩
  · refine Or.inr ⟨few, ?_⟩
    cases found : reference classes with
    | none =>
        cases classes with
        | nil => simp at few
        | cons first rest => cases found
    | some best =>
        have leads := leads_of_reference found
        refine ⟨best.representative, quotient.leader lawful leads, ?_⟩
        rw [if_neg few, ← outliers_eq completed, ← quotient.members best leads.mem]
        rfl

end Verdicts

end Crosscheck.Comparison
