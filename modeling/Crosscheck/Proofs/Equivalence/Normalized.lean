import Mathlib
import Crosscheck.Proofs.Equivalence
import Crosscheck.Proofs.Text.Fields

/-!
# What a normalization looks through

The code compares values that are put together again from their fields, and rows that are
sorted. `Normalization.Agrees` says when two outputs agree without either: values are the
same if they have the same fields, and rows may be matched one to one.
-/

namespace Crosscheck

section Viewed

variable {α β : Type} {view : α → β} {left right : List α}

theorem map_eq_map_iff : left.map view = right.map view ↔
    List.Forall₂ (fun first second => view first = view second) left right := by
  rw [← List.forall₂_eq_eq_eq, List.forall₂_map_left_iff, List.forall₂_map_right_iff]

theorem perm_map_iff : (left.map view).Perm (right.map view) ↔
    ∃ arranged, right.Perm arranged ∧ left.map view = arranged.map view := by
  rw [← congrFun₂ (List.eq_map_comp_perm view)]
  exact exists_congr fun arranged => and_comm.trans (and_congr_left' List.perm_comm)

end Viewed

/-- Sorting tells lists of rows apart by what they hold, not by its order. -/
theorem mergeSort_eq_iff_perm {left right : List (List String)} :
    (left.mergeSort fun first second => !second.lex first (decide <| · < ·)) =
      (right.mergeSort fun first second => !second.lex first (decide <| · < ·)) ↔
      left.Perm right := by
  have order : (fun first second : List String => !second.lex first (decide <| · < ·)) =
      fun first second => decide (first ≤ second) := by
    funext first second
    rw [Bool.eq_iff_iff, Bool.not_eq_true', decide_eq_true_iff, ← Bool.not_eq_true,
      List.lex_eq_true_iff_lt]
    exact not_lt
  rw [order]
  constructor
  · intro same
    exact (List.mergeSort_perm left _).symm.trans (same ▸ List.mergeSort_perm right _)
  · intro arranged
    refine List.Perm.eq_of_pairwise' (List.pairwise_mergeSort' (· ≤ ·) left)
      (List.pairwise_mergeSort' (· ≤ ·) right) ?_
    exact ((List.mergeSort_perm left _).trans arranged).trans (List.mergeSort_perm right _).symm

namespace Normalization

variable {normalization : Normalization}

/-- Whether two values are the same: they are equal, or they have the same fields and blanks
are looked through. -/
def SameValue (normalization : Normalization) (left right : String) : Prop :=
  left = right ∨ normalization.collapseBlanks = true ∧
    ∃ fields, Text.HasFields left.toList fields ∧ Text.HasFields right.toList fields

/-- Whether the rows may be taken in another order: it is the same, or the order is looked
through. -/
def MayReorder (normalization : Normalization) (rows arranged : List (List String)) : Prop :=
  rows = arranged ∨ normalization.unorderedRows = true ∧ rows.Perm arranged

/-- When two outputs agree. -/
inductive Agrees (normalization : Normalization) : Output → Output → Prop where
  /-- The rows are matched one to one, and so are the values of two rows that are matched. -/
  | rows {left right arranged} (reordered : normalization.MayReorder right arranged)
      (matched : List.Forall₂ (List.Forall₂ normalization.SameValue) left arranged) :
      Agrees normalization (.rows left) (.rows right)
  | changes (count) : Agrees normalization (.changes count) (.changes count)
  | error {left right}
      (same : normalization.anyErrors = true ∨ normalization.SameValue left right) :
      Agrees normalization (.error left) (.error right)

/-- A value is compared by its fields, which can be told from what it is compared as. -/
theorem value_eq_iff {left right : String} :
    normalization.value left = normalization.value right ↔ normalization.SameValue left right := by
  have joined (text : String) :
      (" ".intercalate ((Text.fields text.toList).map String.ofList)).toList =
        [' '].intercalate (Text.fields text.toList) := by
    rw [String.toList_intercalate, List.map_map]
    simp [Function.comp_def]
  unfold value SameValue
  cases normalization.collapseBlanks with
  | false => simp
  | true =>
      simp only [if_true, true_and]
      constructor
      · intro same
        have same := congrArg (Text.fields ∘ String.toList) same
        simp only [Function.comp_apply, joined, Text.fields_intercalate] at same
        exact .inr ⟨_, Text.hasFields_fields _, same ▸ Text.hasFields_fields _⟩
      · rintro (rfl | ⟨fields, first, second⟩)
        · rfl
        · rw [first.fields_eq, second.fields_eq]

theorem map_value_eq_iff {left right : List (List String)} :
    left.map (List.map normalization.value) = right.map (List.map normalization.value) ↔
      List.Forall₂ (List.Forall₂ normalization.SameValue) left right := by
  simp only [map_eq_map_iff, value_eq_iff]

theorem rows_eq_iff {left right : List (List String)} :
    normalization.rows left = normalization.rows right ↔
      ∃ arranged, normalization.MayReorder right arranged ∧
        List.Forall₂ (List.Forall₂ normalization.SameValue) left arranged := by
  simp only [← map_value_eq_iff]
  unfold rows MayReorder
  cases normalization.unorderedRows with
  | false => simp
  | true =>
      simp only [if_true, true_and, mergeSort_eq_iff_perm, perm_map_iff]
      refine exists_congr fun arranged => and_congr_left' ?_
      exact ⟨.inr, fun reordered => reordered.elim (· ▸ .refl _) id⟩

theorem length_rows (rows : List (List String)) :
    (normalization.rows rows).length = rows.length := by
  unfold Normalization.rows
  cases normalization.unorderedRows <;> simp

/-- An output as it is compared: all that is looked through is the same in it. -/
def normalized (normalization : Normalization) : Output → Output
  | .rows rows => .rows (normalization.rows rows)
  | .changes count => .changes count
  | .error text => .error (if normalization.anyErrors then "" else normalization.value text)

/-- Two outputs are compared as what they are normalized to. -/
theorem equivalent_iff_normalized_eq {left right : Output} :
    normalization.equivalent left right = true ↔
      normalization.normalized left = normalization.normalized right := by
  cases left <;> cases right <;> simp only [equivalent, normalized, reduceCtorEq,
    Bool.false_eq_true, beq_iff_eq, Output.rows.injEq, Output.changes.injEq, Output.error.injEq]
  case rows.rows left right =>
    rw [Bool.and_eq_true, beq_iff_eq, beq_iff_eq, and_iff_right_iff_imp]
    intro same
    rw [← length_rows left, same, length_rows right]
  case error.error => cases normalization.anyErrors <;> simp

theorem normalized_eq_iff {left right : Output} :
    normalization.normalized left = normalization.normalized right ↔
      normalization.Agrees left right := by
  constructor
  · intro same
    cases left <;> cases right <;> simp only [normalized, reduceCtorEq, Output.rows.injEq,
      Output.changes.injEq, Output.error.injEq] at same
    case rows.rows =>
      obtain ⟨arranged, reordered, matched⟩ := rows_eq_iff.mp same
      exact .rows reordered matched
    case changes.changes => exact same ▸ .changes _
    case error.error =>
      cases any : normalization.anyErrors with
      | true => exact .error (.inl any)
      | false => exact .error (.inr (value_eq_iff.mp (by simpa [any] using same)))
  · intro agrees
    cases agrees with
    | @rows left right arranged reordered matched =>
        exact congrArg Output.rows (rows_eq_iff.mpr ⟨arranged, reordered, matched⟩)
    | changes count => rfl
    | error same =>
        rcases same with any | same
        · simp [normalized, any]
        · simp [normalized, value_eq_iff.mpr same]

theorem predicate_eq_ok_true_iff {left right : Output} :
    normalization.predicate left right = .ok true ↔
      normalization.normalized left = normalization.normalized right := by
  rw [predicate, Except.ok.injEq, equivalent_iff_normalized_eq]

theorem isEquivalence_predicate (normalization : Normalization) :
    normalization.predicate.IsEquivalence where
  answers left right := ⟨normalization.equivalent left right, rfl⟩
  refl _ := predicate_eq_ok_true_iff.mpr rfl
  symm same := predicate_eq_ok_true_iff.mpr (predicate_eq_ok_true_iff.mp same).symm
  trans early late := predicate_eq_ok_true_iff.mpr
    ((predicate_eq_ok_true_iff.mp early).trans (predicate_eq_ok_true_iff.mp late))

/-- Comparison answers as `Agrees` says for every two outputs, whatever it looks through, and
what it answers is an equivalence. -/
theorem decides_agrees (normalization : Normalization) :
    (∀ left right, normalization.predicate left right = .ok true ↔
      normalization.Agrees left right) ∧
    normalization.predicate.IsEquivalence :=
  ⟨fun _ _ => predicate_eq_ok_true_iff.trans normalized_eq_iff,
    normalization.isEquivalence_predicate⟩

end Normalization

end Crosscheck
