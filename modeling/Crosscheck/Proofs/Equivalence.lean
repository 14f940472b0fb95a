import Mathlib
import Crosscheck.Equivalence

/-!
# Predicates that are equivalences

Nothing is promised of the predicate that a user brings. What verdicts mean under one that
always answers and obeys the laws of an equivalence relation is stated through `holds`, its
answer as a truth value, by which outputs that agree are interchangeable (`holds_congr`).
-/

namespace Crosscheck

namespace Predicate

/-- A predicate that always answers, and as an equivalence relation does. -/
structure IsEquivalence (predicate : Predicate) : Prop where
  answers : ∀ left right, ∃ answer, predicate left right = .ok answer
  refl : ∀ output, predicate output output = .ok true
  symm : ∀ {left right}, predicate left right = .ok true → predicate right left = .ok true
  trans : ∀ {left middle right}, predicate left middle = .ok true →
    predicate middle right = .ok true → predicate left right = .ok true

/-- Whether a predicate finds that two outputs agree. -/
def holds (predicate : Predicate) (left right : Output) : Bool :=
  match predicate left right with
  | .ok answer => answer
  | .error _ => false

variable {predicate : Predicate} {left middle right : Output}

theorem holds_eq_true_iff :
    predicate.holds left right = true ↔ predicate left right = .ok true := by
  unfold holds
  cases predicate left right <;> simp

theorem holds_of_eq_false (differs : predicate left right = .ok false) :
    predicate.holds left right = false := by
  simp [holds, differs]

namespace IsEquivalence

theorem holds_refl (lawful : predicate.IsEquivalence) (output : Output) :
    predicate.holds output output = true :=
  holds_eq_true_iff.mpr (lawful.refl output)

theorem holds_symm (lawful : predicate.IsEquivalence)
    (agrees : predicate.holds left right = true) : predicate.holds right left = true :=
  holds_eq_true_iff.mpr (lawful.symm (holds_eq_true_iff.mp agrees))

theorem holds_trans (lawful : predicate.IsEquivalence)
    (early : predicate.holds left middle = true) (late : predicate.holds middle right = true) :
    predicate.holds left right = true :=
  holds_eq_true_iff.mpr
    (lawful.trans (holds_eq_true_iff.mp early) (holds_eq_true_iff.mp late))

/-- Outputs that agree cannot be told apart by a third. -/
theorem holds_congr (lawful : predicate.IsEquivalence) {other otherRight : Output}
    (agrees : predicate.holds left other = true)
    (alsoAgrees : predicate.holds right otherRight = true) :
    predicate.holds left right = predicate.holds other otherRight := by
  rw [Bool.eq_iff_iff]
  constructor
  · intro same
    exact lawful.holds_trans (lawful.holds_symm agrees) (lawful.holds_trans same alsoAgrees)
  · intro same
    exact lawful.holds_trans agrees
      (lawful.holds_trans same (lawful.holds_symm alsoAgrees))

end IsEquivalence

/-- Equality is an equivalence. -/
theorem isEquivalence_exact : exact.IsEquivalence where
  answers left right := ⟨left == right, rfl⟩
  refl output := by simp [exact]
  symm same := by simp_all [exact]
  trans early late := by simp_all [exact]

end Predicate

end Crosscheck
