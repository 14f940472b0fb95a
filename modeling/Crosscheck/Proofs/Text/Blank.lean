import Mathlib
import Crosscheck.Text.Blank

/-!
# Trimmed texts

Trimming takes blanks off both ends and nothing else. `exists_blank_append` says so of
every text, and `Trimmed` names the texts that trimming leaves alone.
-/

namespace Crosscheck.Text

theorem isBlank_of_isDigit {char : Char} (digit : char.isDigit = true) :
    isBlank char = false := by
  have bounds : 48 ≤ char.toNat ∧ char.toNat ≤ 57 := Char.isDigit_iff_toNat.mp digit
  simp only [isBlank, Bool.or_eq_false_iff, Bool.and_eq_false_iff, beq_eq_false_iff_ne,
    decide_eq_false_iff_not]
  omega

/-- A text that neither begins nor ends with a blank. -/
structure Trimmed (text : List Char) : Prop where
  first : ∀ char, text.head? = some char → isBlank char = false
  last : ∀ char, text.getLast? = some char → isBlank char = false

theorem Trimmed.of_visible {text : List Char} (visible : ∀ char ∈ text, isBlank char = false) :
    Trimmed text where
  first char head := visible char (List.mem_of_head? head)
  last char last := visible char (List.mem_of_getLast? last)

theorem trimRight_eq (text : List Char) : trimRight text = text.rdropWhile isBlank := rfl

theorem trimLeft_of_first {text : List Char}
    (first : ∀ char, text.head? = some char → isBlank char = false) : trimLeft text = text := by
  cases text with
  | nil => rfl
  | cons head rest => simp [trimLeft, first head rfl]

theorem trimRight_of_last {text : List Char}
    (last : ∀ char, text.getLast? = some char → isBlank char = false) :
    trimRight text = text := by
  rw [trimRight_eq, List.rdropWhile_eq_self_iff]
  intro nonempty
  simp [last _ (List.getLast?_eq_some_getLast nonempty)]

theorem Trimmed.trim_eq {text : List Char} (trimmed : Trimmed text) : trim text = text := by
  rw [trim, trimLeft_of_first trimmed.first, trimRight_of_last trimmed.last]

/-- Blanks around a text are trimmed away, and nothing of the text is. -/
theorem Trimmed.trim_between {lead text trail : List Char} (trimmed : Trimmed text)
    (nonempty : text ≠ []) (left : ∀ char ∈ lead, isBlank char = true)
    (right : ∀ char ∈ trail, isBlank char = true) : trim (lead ++ text ++ trail) = text := by
  have first : trimLeft (lead ++ text ++ trail) = text ++ trail := by
    rw [List.append_assoc, trimLeft, List.dropWhile_append_of_pos left]
    refine trimLeft_of_first fun char head => trimmed.first char ?_
    rwa [List.head?_append_of_ne_nil _ nonempty] at head
  have last : trimRight (text ++ trail) = trimRight text := by
    rw [trimRight, trimRight, List.reverse_append,
      List.dropWhile_append_of_pos (by simpa using right)]
  rw [trim, first, last, trimRight_of_last trimmed.last]

/-- A blank in front is trimmed away. -/
theorem trim_cons_of_blank {char : Char} (blank : isBlank char = true) (text : List Char) :
    trim (char :: text) = trim text := by
  simp [trim, trimLeft, blank]

/-- Trimming takes off blanks, and nothing else. -/
theorem exists_blank_append (text : List Char) :
    ∃ left right, text = left ++ trim text ++ right ∧
      (∀ char ∈ left, isBlank char = true) ∧ ∀ char ∈ right, isBlank char = true := by
  refine ⟨text.takeWhile isBlank, (trimLeft text).rtakeWhile isBlank, ?_, ?_, ?_⟩
  · rw [List.append_assoc, trim, trimRight_eq, List.rdropWhile_append_rtakeWhile, trimLeft,
      List.takeWhile_append_dropWhile]
  · exact fun char member => List.mem_takeWhile_imp member
  · exact fun char member => List.mem_rtakeWhile_imp member

/-- It leaves no blank at either end. -/
theorem trimmed_trim (text : List Char) : Trimmed (trim text) where
  first char first := by
    obtain ⟨rest, kept⟩ := List.rdropWhile_prefix isBlank (trimLeft text)
    have found : (text.dropWhile isBlank).head? = some char := by
      rw [← trimLeft, ← kept, ← trimRight_eq, ← trim, List.head?_append, first, Option.some_or]
    have stopped := List.head?_dropWhile_not isBlank text
    rwa [found] at stopped
  last char last := by
    have nonempty : (trimLeft text).rdropWhile isBlank ≠ [] := by
      rintro none
      simp [trim, trimRight_eq, none] at last
    have stopped := List.rdropWhile_last_not isBlank (trimLeft text) nonempty
    rw [trim, trimRight_eq, List.getLast?_eq_some_getLast nonempty, Option.some.injEq] at last
    simpa [last] using stopped

end Crosscheck.Text
