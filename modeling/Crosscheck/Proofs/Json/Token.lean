import Mathlib
import Crosscheck.Json.Document
import Crosscheck.Json.Value

/-!
# Strings and numbers that are read back

A string is read character by character, and every character is read back from its escape,
whatever has been read before (`readText_escape`). A number is read as long as digits
follow, so it is read back in front of any text that does not go on with a number
(`readNumber_printNumber`). Nothing that is printed is a control.
-/

namespace Crosscheck.Json

/-- A character that no string or number is printed with. -/
def IsControl (char : Char) : Prop := char.toNat < 0x20

instance : DecidablePred IsControl := fun char => inferInstanceAs (Decidable (char.toNat < 0x20))

section Escape

theorem hexValue?_digitChar : ∀ digit < 16,
    Document.hexValue? (Nat.digitChar digit) = some digit := by
  decide

theorem not_isControl_digitChar : ∀ digit < 16, ¬IsControl (Nat.digitChar digit) := by
  decide

/-- The digits of a code denote it. -/
theorem hexValue4?_codeDigits {code : Nat} (below : code < 0x10000) :
    Document.hexValue4? (Nat.digitChar (code / 4096 % 16)) (Nat.digitChar (code / 256 % 16))
      (Nat.digitChar (code / 16 % 16)) (Nat.digitChar (code % 16)) = some code := by
  have digit : ∀ value, Document.hexValue? (Nat.digitChar (value % 16)) = some (value % 16) :=
    fun value => hexValue?_digitChar _ (Nat.mod_lt value (by decide))
  have whole : (((code / 4096 % 16) * 16 + code / 256 % 16) * 16 + code / 16 % 16) * 16 +
      code % 16 = code := by omega
  simp [Document.hexValue4?, digit, whole]

theorem not_isControl_of_mem_codeDigits {code : Nat} {char : Char}
    (member : char ∈ codeDigits code) : ¬IsControl char := by
  have digit : ∀ value, ¬IsControl (Nat.digitChar (value % 16)) :=
    fun value => not_isControl_digitChar _ (Nat.mod_lt value (by decide))
  simp only [codeDigits, List.mem_cons, List.not_mem_nil, or_false] at member
  rcases member with rfl | rfl | rfl | rfl <;> exact digit _

/-- A character stands for itself unless it is a delimiter or a control. -/
theorem escape_cases (char : Char) :
    (∃ letter, escape char = ['\\', letter] ∧ letter ≠ 'u' ∧ ¬IsControl letter ∧
      Document.shortEscape? letter = some char) ∨
    (IsControl char ∧ escape char = '\\' :: 'u' :: codeDigits char.toNat) ∨
    (¬IsControl char ∧ char ≠ '\x22' ∧ char ≠ '\\' ∧ escape char = [char]) := by
  unfold escape
  split
  · exact .inl ⟨'\x22', by decide⟩
  · exact .inl ⟨'\\', by decide⟩
  · exact .inl ⟨'b', by decide⟩
  · exact .inl ⟨'f', by decide⟩
  · exact .inl ⟨'n', by decide⟩
  · exact .inl ⟨'r', by decide⟩
  · exact .inl ⟨'t', by decide⟩
  next quote backslash _ _ _ _ _ =>
    by_cases control : IsControl char
    · exact .inr (.inl ⟨control, if_pos control⟩)
    · exact .inr (.inr ⟨control, quote, backslash, if_neg control⟩)

theorem not_isControl_of_mem_escape {char escaped : Char} (member : escaped ∈ escape char) :
    ¬IsControl escaped := by
  have backslash : ¬IsControl '\\' := by decide
  rcases escape_cases char with
    ⟨letter, written, _, plain, _⟩ | ⟨control, written⟩ | ⟨plain, _, _, written⟩
  · rw [written] at member
    simp only [List.mem_cons, List.not_mem_nil, or_false] at member
    rcases member with rfl | rfl
    · exact backslash
    · exact plain
  · rw [written, List.mem_cons, List.mem_cons] at member
    rcases member with rfl | rfl | digit
    · exact backslash
    · decide
    · exact not_isControl_of_mem_codeDigits digit
  · rw [written, List.mem_singleton] at member
    exact member ▸ plain

end Escape

section Text

open Document

variable {spelling : Spelling}

/-- A character is read back from its escape. -/
theorem readText_escape (char : Char) (rest : List Char) :
    readText spelling (escape char ++ rest) = readText (spelling.push char) rest := by
  rcases escape_cases char with
    ⟨letter, written, other, _, short⟩ | ⟨control, written⟩ | ⟨plain, quote, backslash, written⟩
  · rw [written, List.cons_append, List.cons_append, List.nil_append, readText]
    · rw [short]
    · rintro _ _ _ _ _ rfl
      exact absurd rfl other
  · have below : char.toNat < 0x20 := control
    have unit : spelling.pushUnit char.toNat = spelling.push char := by
      rw [Spelling.pushUnit, if_neg (by omega), if_neg (by omega), Char.ofNat_toNat]
    rw [written, codeDigits]
    simp only [List.cons_append, List.nil_append]
    rw [readText, hexValue4?_codeDigits (by omega)]
    exact congrArg (readText · rest) unit
  · have printed : ¬(char.toNat < 0x20 ∨ char = '\\') := by
      rintro (control | rfl)
      · exact plain control
      · exact backslash rfl
    rw [written, List.singleton_append, readText]
    · rw [if_neg printed]
    · exact quote
    · rintro _ _ _ _ _ same _
      exact backslash same
    · rintro _ _ same _
      exact backslash same

theorem readText_flatMap_escape (text rest : List Char) :
    readText spelling (text.flatMap escape ++ '\x22' :: rest) =
      some ((text.foldl Spelling.push spelling).finish, rest) := by
  induction text generalizing spelling with
  | nil => rfl
  | cons char text inductionHypothesis =>
      rw [List.flatMap_cons, List.append_assoc, readText_escape, inductionHypothesis]
      rfl

theorem foldl_push (text : List Char) (latest : List Char) :
    text.foldl Spelling.push { latest } = { latest := text.reverse ++ latest } := by
  induction text generalizing latest with
  | nil => rfl
  | cons char text inductionHypothesis =>
      rw [List.foldl_cons, List.reverse_cons, List.append_assoc]
      exact inductionHypothesis (char :: latest)

/-- A string is read back from its text, whatever follows. -/
theorem readText_printText (text : String) (rest : List Char) :
    readText {} (text.toList.flatMap escape ++ '\x22' :: rest) = some (some text, rest) := by
  rw [readText_flatMap_escape, foldl_push]
  simp [Spelling.finish]

end Text

section Number

open Document

/-- A text that no number goes on with: it is over, or it goes on with a comma or a closing
bracket. -/
def Closes (rest : List Char) : Prop :=
  ∀ char ∈ rest.head?, char = ',' ∨ char = ']' ∨ char = '\x7d'

@[simp] theorem closes_nil : Closes [] := by simp [Closes]

@[simp] theorem closes_comma (rest : List Char) : Closes (',' :: rest) := by simp [Closes]

@[simp] theorem closes_bracket (rest : List Char) : Closes (']' :: rest) := by simp [Closes]

@[simp] theorem closes_brace (rest : List Char) : Closes ('\x7d' :: rest) := by simp [Closes]

theorem isDigit_of_mem_printNumber {value : Nat} {char : Char}
    (member : char ∈ printNumber value) : char.isDigit = true :=
  Nat.isDigit_of_mem_toDigits (by decide) (by decide) member

theorem printNumber_ne_nil (value : Nat) : printNumber value ≠ [] := Nat.toDigits_ne_nil

/-- A text that begins with a number begins with a digit. -/
theorem isDigit_of_printNumber_append {value : Nat} {rest further : List Char} {first : Char}
    (written : printNumber value ++ rest = first :: further) : first.isDigit = true := by
  have head : (printNumber value ++ rest).head? = some first := by rw [written, List.head?_cons]
  rw [List.head?_append_of_ne_nil _ (printNumber_ne_nil value)] at head
  exact isDigit_of_mem_printNumber (List.mem_of_mem_head? head)

theorem not_isControl_of_isDigit {char : Char} (digit : char.isDigit = true) :
    ¬IsControl char := by
  have least : 48 ≤ char.toNat := by
    simp only [Char.isDigit, Bool.and_eq_true, decide_eq_true_eq] at digit
    exact UInt32.le_iff_toNat_le.mp digit.1
  intro control
  exact absurd (least.trans_lt control) (by decide)

/-- No number but zero begins with a zero. -/
theorem head?_printNumber_ne {value : Nat} (positive : 0 < value) :
    (printNumber value).head? ≠ some '0' := by
  induction value using Nat.strong_induction_on with
  | _ value inductionHypothesis =>
      unfold printNumber
      rcases Nat.lt_or_ge value 10 with small | large
      · rw [Nat.toDigits_of_lt_base small]
        interval_cases value <;> decide
      · have shorter := inductionHypothesis (value / 10) (by omega) (by omega)
        rw [Nat.toDigits_of_base_le (by decide) large,
          List.head?_append_of_ne_nil _ Nat.toDigits_ne_nil]
        exact shorter

theorem not_redundant_printNumber (value : Nat) :
    ¬((printNumber value).head? = some '0' ∧ (printNumber value).length > 1) := by
  rintro ⟨zero, long⟩
  rcases Nat.eq_zero_or_pos value with rfl | positive
  · simp [printNumber] at long
  · exact head?_printNumber_ne positive zero

variable {rest : List Char}

theorem Closes.takeWhile_isDigit (closes : Closes rest) : rest.takeWhile Char.isDigit = [] := by
  cases rest with
  | nil => rfl
  | cons char rest =>
      rcases closes char rfl with rfl | rfl | rfl <;> rfl

theorem Closes.dropWhile_isDigit (closes : Closes rest) : rest.dropWhile Char.isDigit = rest := by
  have whole := List.takeWhile_append_dropWhile (p := Char.isDigit) (l := rest)
  rwa [closes.takeWhile_isDigit, List.nil_append] at whole

theorem Closes.readFraction_eq (closes : Closes rest) : readFraction rest = some ([], rest) := by
  cases rest with
  | nil => rfl
  | cons char rest => rcases closes char rfl with rfl | rfl | rfl <;> rfl

theorem Closes.readExponent_eq (closes : Closes rest) :
    readExponent rest = some (none, rest) := by
  cases rest with
  | nil => rfl
  | cons char rest => rcases closes char rfl with rfl | rfl | rfl <;> rfl

/-- A number is read back in front of any text that it does not go on with. -/
theorem readNumber_printNumber (value : Nat) (closes : Closes rest) :
    readNumber (printNumber value ++ rest) = (.natural value, some rest) := by
  have all : ∀ char ∈ printNumber value, char.isDigit = true :=
    fun _ => isDigit_of_mem_printNumber
  have taken : (printNumber value ++ rest).takeWhile Char.isDigit = printNumber value := by
    rw [List.takeWhile_append_of_pos all, closes.takeWhile_isDigit, List.append_nil]
  have dropped : (printNumber value ++ rest).dropWhile Char.isDigit = rest := by
    rw [List.dropWhile_append_of_pos all, closes.dropWhile_isDigit]
  have unsigned : ∀ further, printNumber value ++ rest ≠ '-' :: further := by
    intro further signed
    exact absurd (isDigit_of_printNumber_append signed) (by decide)
  have nonempty : (printNumber value).isEmpty = false :=
    List.isEmpty_eq_false_iff.mpr (printNumber_ne_nil value)
  have whole : digitsValue (printNumber value) = value :=
    Nat.ofDigitChars_toDigits (by decide) (by decide)
  unfold readNumber
  split
  next negative digits sign =>
    split at sign
    next signed => exact absurd signed (unsigned _)
    next =>
      cases sign
      simp [taken, dropped, nonempty, not_redundant_printNumber, closes.readFraction_eq,
        closes.readExponent_eq, whole]

end Number

end Crosscheck.Json
