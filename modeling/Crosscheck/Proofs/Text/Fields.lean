import Mathlib
import Crosscheck.Text.Blank

/-!
# Fields of a text

`HasFields` says which fields a text has without a word on how they are found: blanks
separate them, none of them is empty, and each goes on until the next blank or the end.
Every text has the fields that `fields` finds (`hasFields_fields`) and no others
(`HasFields.fields_eq`), and fields with one blank between two are found again
(`fields_intercalate`).
-/

namespace Crosscheck.Text

/-- A run of characters, of which none is a blank. -/
structure IsField (field : List Char) : Prop where
  nonempty : field ≠ []
  free : ∀ char ∈ field, isBlank char = false

/-- `HasFields text fields`: the fields of the text in their order. -/
inductive HasFields : List Char → List (List Char) → Prop where
  | nil : HasFields [] []
  | blank {char text fields} (blank : isBlank char = true) (rest : HasFields text fields) :
      HasFields (char :: text) fields
  | field {field text fields} (isField : IsField field)
      (ended : ∀ char ∈ text.head?, isBlank char = true) (rest : HasFields text fields) :
      HasFields (field ++ text) (field :: fields)

theorem fields_nil : fields [] = [] := rfl

/-- A blank belongs to no field. -/
theorem fields_cons_of_blank {char : Char} (blank : isBlank char = true) (text : List Char) :
    fields (char :: text) = fields text := by
  rw [fields, fields, List.foldr_cons]
  cases text.foldr extendFields [[]] with
  | nil => simp [extendFields, blank]
  | cons field rest => cases field <;> simp [extendFields, blank]

/-- The first field is still open where the text has not begun, and closed by a blank. -/
theorem foldr_extendFields_of_ended {text : List Char}
    (ended : ∀ char ∈ text.head?, isBlank char = true) :
    ∃ rest, text.foldr extendFields [[]] = [] :: rest := by
  cases text with
  | nil => exact ⟨[], rfl⟩
  | cons char text =>
      have blank := ended char rfl
      rw [List.foldr_cons]
      cases text.foldr extendFields [[]] with
      | nil => exact ⟨[], by simp [extendFields, blank]⟩
      | cons field rest => cases field <;> simp [extendFields, blank]

/-- Characters that are not blank are added to the field that is open. -/
theorem foldr_extendFields_append {run : List Char} (free : ∀ char ∈ run, isBlank char = false)
    (field : List Char) (rest : List (List Char)) :
    run.foldr extendFields (field :: rest) = (run ++ field) :: rest := by
  induction run with
  | nil => rfl
  | cons char run inductionHypothesis =>
      rw [List.forall_mem_cons] at free
      rw [List.foldr_cons, inductionHypothesis free.2]
      simp [extendFields, free.1]

/-- A field that ends with the text or before a blank is the first one found. -/
theorem fields_append {field text : List Char} (isField : IsField field)
    (ended : ∀ char ∈ text.head?, isBlank char = true) :
    fields (field ++ text) = field :: fields text := by
  obtain ⟨rest, closed⟩ := foldr_extendFields_of_ended ended
  rw [fields, fields, List.foldr_append, closed, foldr_extendFields_append isField.free]
  simp [isField.nonempty]

theorem HasFields.fields_eq {text : List Char} {found : List (List Char)}
    (has : HasFields text found) : fields text = found := by
  induction has with
  | nil => exact fields_nil
  | blank blank _ inductionHypothesis =>
      rw [fields_cons_of_blank blank, inductionHypothesis]
  | field isField ended _ inductionHypothesis =>
      rw [fields_append isField ended, inductionHypothesis]

/-- A text that does not begin with a blank begins with a field. -/
theorem exists_field_append {char : Char} (text : List Char) (free : isBlank char = false) :
    ∃ field rest, char :: text = field ++ rest ∧ IsField field ∧
      (∀ next ∈ rest.head?, isBlank next = true) ∧ rest.length ≤ text.length := by
  refine ⟨char :: text.takeWhile (! isBlank ·), text.dropWhile (! isBlank ·), ?_, ⟨?_, ?_⟩, ?_, ?_⟩
  · rw [List.cons_append, List.takeWhile_append_dropWhile]
  · exact List.cons_ne_nil _ _
  · rw [List.forall_mem_cons]
    exact ⟨free, fun next member => by simpa using List.mem_takeWhile_imp member⟩
  · intro next first
    have stopped := List.head?_dropWhile_not (! isBlank ·) text
    rw [Option.mem_def.mp first] at stopped
    simpa using stopped
  · exact (List.dropWhile_suffix _).length_le

/-- By induction on the length, since a field is taken off as a whole. -/
theorem hasFields_fields (text : List Char) : HasFields text (fields text) := by
  induction length : text.length using Nat.strong_induction_on generalizing text with
  | _ _ inductionHypothesis =>
      subst length
      cases text with
      | nil => exact .nil
      | cons char text =>
          cases blank : isBlank char with
          | true =>
              rw [fields_cons_of_blank blank]
              exact .blank blank (inductionHypothesis _ (Nat.lt_succ_self _) text rfl)
          | false =>
              obtain ⟨field, rest, split, isField, ended, shorter⟩ := exists_field_append text blank
              have later := inductionHypothesis _ (Nat.lt_succ_of_le shorter) rest rfl
              rw [split, fields_append isField ended]
              exact .field isField ended later

theorem HasFields.isField {text : List Char} {found : List (List Char)}
    (has : HasFields text found) : ∀ field ∈ found, IsField field := by
  induction has with
  | nil => simp
  | blank _ _ inductionHypothesis => exact inductionHypothesis
  | field isField _ _ inductionHypothesis =>
      exact List.forall_mem_cons.mpr ⟨isField, inductionHypothesis⟩

/-- Fields with a space between two are the fields of the text that they make. -/
theorem hasFields_intercalate {found : List (List Char)}
    (areFields : ∀ field ∈ found, IsField field) :
    HasFields ([' '].intercalate found) found := by
  induction found with
  | nil => exact .nil
  | cons field found inductionHypothesis =>
      rw [List.forall_mem_cons] at areFields
      have rest := inductionHypothesis areFields.2
      cases found with
      | nil =>
          have last : HasFields (field ++ []) [field] := .field areFields.1 (by simp) .nil
          simpa using last
      | cons next found =>
          rw [List.intercalate_cons_cons, List.append_assoc]
          exact .field areFields.1 (by simp; decide) (.blank (by decide) rest)

theorem fields_intercalate (text : List Char) :
    fields ([' '].intercalate (fields text)) = fields text :=
  (hasFields_intercalate (hasFields_fields text).isField).fields_eq

end Crosscheck.Text
