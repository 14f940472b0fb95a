import Mathlib

/-!
# Steps that may fail

What is done in several steps and has succeeded has passed each of them (`exists_of_bind`).
So a list that was worked off has a result for each of its items, in their order.
-/

namespace Crosscheck

variable {α β γ ε : Type}

/-- What succeeds in two steps has passed the first. -/
theorem exists_of_bind {first : Except ε α} {next : α → Except ε β} {value : β}
    (succeeded : first >>= next = .ok value) :
    ∃ given, first = .ok given ∧ next given = .ok value := by
  cases first with
  | error refusal => cases succeeded
  | ok given => exact ⟨given, rfl, succeeded⟩

section Lists

variable {f : α → Except ε β} {items : List α} {results : List β}

/-- Items that succeed one by one succeed together. -/
theorem exists_mapM (each : ∀ item ∈ items, ∃ result, f item = .ok result) :
    ∃ results, items.mapM f = .ok results := by
  induction items with
  | nil => exact ⟨[], rfl⟩
  | cons item items inductionHypothesis =>
      rw [List.forall_mem_cons] at each
      obtain ⟨⟨result, first⟩, later⟩ := each
      obtain ⟨results, others⟩ := inductionHypothesis later
      exact ⟨result :: results, by rw [List.mapM_cons, first, others]; rfl⟩

theorem mapM_eq_ok {g : α → β} (each : ∀ item ∈ items, f item = .ok (g item)) :
    items.mapM f = .ok (items.map g) := by
  induction items with
  | nil => rfl
  | cons item items inductionHypothesis =>
      rw [List.forall_mem_cons] at each
      rw [List.mapM_cons, each.1, inductionHypothesis each.2]
      rfl

theorem exists_of_mapM_cons {item : α} (mapped : (item :: items).mapM f = .ok results) :
    ∃ result others, f item = .ok result ∧ items.mapM f = .ok others ∧
      results = result :: others := by
  rw [List.mapM_cons] at mapped
  obtain ⟨result, first, mapped⟩ := exists_of_bind mapped
  obtain ⟨others, later, same⟩ := exists_of_bind mapped
  cases same
  exact ⟨result, others, first, later, rfl⟩

/-- What each result shares with its item all results share with all items. -/
theorem map_eq_of_mapM {view : β → γ} {seen : α → γ}
    (kept : ∀ item result, f item = .ok result → view result = seen item)
    (mapped : items.mapM f = .ok results) : results.map view = items.map seen := by
  induction items generalizing results with
  | nil =>
      cases mapped
      rfl
  | cons item items inductionHypothesis =>
      obtain ⟨result, others, first, later, rfl⟩ := exists_of_mapM_cons mapped
      rw [List.map_cons, List.map_cons, kept item result first, inductionHypothesis later]

end Lists

end Crosscheck
