import Mathlib
import Crosscheck.Statement.Literal
import Crosscheck.Proofs.Statement.RoundTrip

/-!
# Literals and what replaces them

`Stands` says what a literal is without a scan, and `mem_literals_iff` that the scan finds just
these. A literal stands outside quotes, and what replaces its digits is numeric as well: neither
blank, nor a mark, nor a terminator. So a statement that stands on its own still does
after one of its literals was replaced, and no literal stands in it then that neither stood
there before nor came in (`of_replace`).
-/

namespace Crosscheck.Statement

open Text

/-- Digits and signs, at least one. -/
structure Numeric (text : List Char) : Prop where
  nonempty : text ≠ []
  plain : ∀ char ∈ text, char.isDigit = true ∨ char = '-'

section Numeric

variable {char : Char}

theorem isBlank_of_numeric (plain : char.isDigit = true ∨ char = '-') : isBlank char = false := by
  rcases plain with digit | rfl
  · exact isBlank_of_isDigit digit
  · decide

theorem isMark_of_numeric (plain : char.isDigit = true ∨ char = '-') :
    Quoting.isMark char = false := by
  rw [Quoting.isMark, Bool.or_eq_false_iff, beq_eq_false_iff_ne, beq_eq_false_iff_ne]
  constructor <;> rintro rfl <;> exact absurd plain (by decide)

theorem ne_terminator_of_numeric (plain : char.isDigit = true ∨ char = '-') :
    char ≠ terminator := by
  rintro rfl
  exact absurd plain (by decide)

namespace Numeric

variable {text : List Char}

theorem not_mem_terminator (numeric : Numeric text) : terminator ∉ text :=
  fun member => ne_terminator_of_numeric (numeric.plain _ member) rfl

/-- A numeric text outside quotes leaves the scan there. -/
theorem after_outside (numeric : Numeric text) : Quoting.outside.after text = .outside := by
  have plain := numeric.plain
  clear numeric
  induction text with
  | nil => rfl
  | cons head rest inductionHypothesis =>
      rw [Quoting.after_cons,
        Quoting.next_outside (isMark_of_numeric (plain head List.mem_cons_self))]
      exact inductionHypothesis fun char member => plain char (List.mem_cons_of_mem _ member)

/-- Nor does it change anything for what follows it. -/
theorem after_around {before : List Char} (numeric : Numeric text)
    (outside : Quoting.outside.after before = .outside) (after : List Char) :
    Quoting.outside.after (before ++ text ++ after) = Quoting.outside.after after := by
  rw [Quoting.after_append, Quoting.after_append, outside, numeric.after_outside]

theorem hasBare_around {before : List Char} (numeric : Numeric text)
    (outside : Quoting.outside.after before = .outside) (after : List Char) :
    HasBare .outside (before ++ text ++ after) ↔
      HasBare .outside before ∨ HasBare .outside after := by
  rw [hasBare_append, hasBare_append, Quoting.after_append, outside, numeric.after_outside,
    or_iff_left (not_hasBare_of_not_mem numeric.not_mem_terminator)]

/-- In place of a numeric text outside quotes there may be any other. -/
theorem standalone_congr {before after other : List Char} (numeric : Numeric text)
    (otherNumeric : Numeric other) (outside : Quoting.outside.after before = .outside)
    (standalone : Standalone (before ++ text ++ after)) :
    Standalone (before ++ other ++ after) := by
  obtain ⟨⟨_, ⟨first, last⟩, unbroken⟩, closed⟩ := standalone
  have trimmed : Trimmed (before ++ other ++ after) := by
    constructor
    · intro char head
      cases before with
      | nil =>
          rw [List.nil_append, List.head?_append_of_ne_nil _ otherNumeric.nonempty] at head
          exact isBlank_of_numeric (otherNumeric.plain char (List.mem_of_head? head))
      | cons => exact first char head
    · intro char ends
      rcases after.eq_nil_or_concat with rfl | ⟨front, final, rfl⟩
      · rw [List.append_nil, List.getLast?_append_of_ne_nil _ otherNumeric.nonempty] at ends
        exact isBlank_of_numeric (otherNumeric.plain char (List.mem_of_getLast? ends))
      · refine last char ?_
        simpa using ends
  rw [numeric.hasBare_around outside, ← otherNumeric.hasBare_around outside] at unbroken
  rw [numeric.after_around outside, ← otherNumeric.after_around outside] at closed
  exact ⟨.of_ne_nil (by simp [otherNumeric.nonempty]) trimmed unbroken, closed⟩

end Numeric
end Numeric

section Scan

/-- A literal of a statement: a longest run of digits outside quotes that does not go on with
a word. -/
structure Literal.Stands (literal : Literal) (statement : List Char) : Prop where
  whole : statement = literal.before ++ literal.digits ++ literal.after
  outside : Quoting.outside.after literal.before = .outside
  nonempty : literal.digits ≠ []
  digits : ∀ char ∈ literal.digits, char.isDigit = true
  fresh : ∀ char, literal.before.getLast? = some char → isWordChar char = false
  ended : ∀ char, literal.after.head? = some char → char.isDigit = false

variable {literal : Literal} {statement : List Char}

/-- No word goes on where there is nothing before or what is before is no part of a word. -/
theorem any_isWordChar_eq_false_iff {previous : Option Char} :
    previous.any isWordChar = false ↔ ∀ char, previous = some char → isWordChar char = false := by
  cases previous <;> simp

theorem isWordChar_of_isDigit {char : Char} (digit : char.isDigit = true) :
    isWordChar char = true := by
  simp [isWordChar, Char.isAlphanum, digit]

theorem literalAt?_eq_some_iff (literal : Literal) (passed rest : List Char) :
    literalAt? passed (Quoting.outside.after passed.reverse) rest = some literal ↔
      literal.Stands (passed.reverse ++ rest) ∧ literal.before.length = passed.length := by
  constructor
  · intro found
    unfold literalAt? at found
    split at found
    next starts =>
      obtain ⟨outside, digit, fresh⟩ := starts
      cases found
      refine ⟨⟨?_, outside, ?_, fun char => List.mem_takeWhile_imp, ?_, ?_⟩, by simp⟩
      · rw [List.append_assoc, List.takeWhile_append_dropWhile]
      · cases rest with
        | nil => simp at digit
        | cons head rest => simp_all
      · rw [List.getLast?_reverse, ← any_isWordChar_eq_false_iff]
        simpa using fresh
      · intro char head
        have stopped := List.head?_dropWhile_not Char.isDigit rest
        rwa [head] at stopped
    next => cases found
  · rintro ⟨⟨whole, outside, nonempty, digits, fresh, ended⟩, length⟩
    obtain ⟨before, digitChars, after⟩ := literal
    rw [List.append_assoc] at whole
    obtain ⟨rfl, rfl⟩ := List.append_inj whole (by simpa using length.symm)
    have stopped : after.takeWhile Char.isDigit = [] ∧ after.dropWhile Char.isDigit = after := by
      cases after with
      | nil => exact ⟨rfl, rfl⟩
      | cons head after => simp [ended head rfl]
    have starts : (digitChars ++ after).head?.any Char.isDigit = true := by
      cases digitChars with
      | nil => exact absurd rfl nonempty
      | cons head digitChars => simpa using digits head List.mem_cons_self
    rw [List.getLast?_reverse] at fresh
    unfold literalAt?
    rw [if_pos ⟨outside, starts, by simp [any_isWordChar_eq_false_iff.mpr fresh]⟩,
      List.takeWhile_append_of_pos digits, List.dropWhile_append_of_pos digits, stopped.1,
      stopped.2, List.append_nil]

theorem mem_literalsFrom_iff (literal : Literal) (passed rest : List Char) :
    literal ∈ literalsFrom passed (Quoting.outside.after passed.reverse) rest ↔
      literal.Stands (passed.reverse ++ rest) ∧ passed.length ≤ literal.before.length := by
  induction rest generalizing passed with
  | nil =>
      simp only [literalsFrom, List.not_mem_nil, List.append_nil, false_iff, not_and, not_le]
      intro stands
      have lengths := congrArg List.length stands.whole
      have positive := List.length_pos_iff.mpr stands.nonempty
      simp only [List.length_reverse, List.length_append] at lengths
      omega
  | cons char rest inductionHypothesis =>
      have state : (Quoting.outside.after passed.reverse).next char =
          Quoting.outside.after (char :: passed).reverse := by simp
      have here := literalAt?_eq_some_iff literal passed (char :: rest)
      have later := inductionHypothesis (char :: passed)
      simp only [List.reverse_cons, List.append_assoc, List.singleton_append,
        List.length_cons] at later
      have either : literal ∈ literalsFrom passed (Quoting.outside.after passed.reverse)
            (char :: rest) ↔
          literalAt? passed (Quoting.outside.after passed.reverse) (char :: rest) =
              some literal ∨
            literal ∈ literalsFrom (char :: passed)
              (Quoting.outside.after (char :: passed).reverse) rest := by
        simp only [literalsFrom, state]
        split
        next found => simp [found, eq_comm]
        next none => simp [none]
      rw [either, here, List.reverse_cons, later, ← and_or_left]
      exact and_congr_right fun _ => by omega

/-- The scan of the characters finds every literal of a statement, and nothing else. -/
theorem mem_literals_iff : literal ∈ literals statement ↔ literal.Stands statement := by
  simpa [literals] using mem_literalsFrom_iff literal [] statement

end Scan

namespace Literal

/-- A literal is a part of a statement, outside quotes. -/
structure Occurs (literal : Literal) (statement : List Char) : Prop where
  whole : statement = literal.before ++ literal.digits ++ literal.after
  outside : Quoting.outside.after literal.before = .outside
  numeric : Numeric literal.digits

/-- The literals of a statement occur in it. -/
theorem occurs_of_mem {statement : List Char} {literal : Literal}
    (member : literal ∈ literals statement) : literal.Occurs statement := by
  have stands := mem_literals_iff.mp member
  exact ⟨stands.whole, stands.outside, stands.nonempty, fun char digit =>
    .inl (stands.digits char digit)⟩

/-- A statement that stands on its own still does with other digits in one of its literals. -/
theorem Occurs.standalone_replace {statement digits : List Char} {literal : Literal}
    (occurs : literal.Occurs statement) (numeric : Numeric digits)
    (standalone : Standalone statement) : Standalone (literal.replace digits) := by
  rw [occurs.whole] at standalone
  exact occurs.numeric.standalone_congr numeric occurs.outside standalone

/-- No terminator comes in with the digits, neither a bare one nor any other. -/
theorem Occurs.unbroken_replace {statement digits : List Char} {literal : Literal}
    (occurs : literal.Occurs statement) (numeric : Numeric digits)
    (unbroken : ¬HasBare .outside statement) : ¬HasBare .outside (literal.replace digits) := by
  rw [occurs.whole, occurs.numeric.hasBare_around occurs.outside] at unbroken
  rwa [replace, numeric.hasBare_around occurs.outside]

theorem Occurs.not_mem_replace {statement digits : List Char} {literal : Literal}
    (occurs : literal.Occurs statement) (numeric : Numeric digits)
    (none : terminator ∉ statement) : terminator ∉ literal.replace digits := by
  rw [occurs.whole] at none
  simp only [List.mem_append, not_or] at none
  simp [replace, none, numeric.not_mem_terminator]

namespace Stands

variable {literal other : Literal} {statement digits : List Char}

/-- A literal begins with a digit, and neither ends what is before it nor goes on after it. -/
theorem not_digit_after (stands : literal.Stands statement) {char : Char} {rest : List Char}
    (after : literal.after = char :: rest) : char.isDigit = false :=
  stands.ended char (by rw [after]; rfl)

theorem not_digit_before (stands : literal.Stands statement) {front : List Char} {char : Char}
    (before : literal.before = front ++ [char]) : char.isDigit = false := by
  have fresh := stands.fresh char (by simp [before])
  exact Bool.eq_false_iff.mpr fun digit => by simp [isWordChar_of_isDigit digit] at fresh

/-- A literal does not run into the digits of another, so one that begins before them ends
before them and stood there with the digits that they replace. -/
theorem of_begins_before (stands : literal.Stands statement)
    (found : other.Stands (literal.replace digits)) {between : List Char}
    (earlier : literal.before = other.before ++ between) (nonempty : between ≠ []) :
    ∃ former : Literal, former.Stands statement ∧ former.digits = other.digits := by
  have whole := found.whole
  rw [replace, earlier, List.append_assoc, List.append_assoc, List.append_assoc,
    List.append_cancel_left_eq] at whole
  obtain ⟨front, last, rfl⟩ := between.eq_nil_or_concat.resolve_left nonempty
  have ends : last.isDigit = false := stands.not_digit_before (by
    rw [earlier, List.concat_eq_append, List.append_assoc])
  rcases List.append_eq_append_iff.mp whole with ⟨rest, run, _⟩ | ⟨rest, divided, after⟩
  · have digit := found.digits last (by simp [run])
    simp [ends] at digit
  · refine ⟨⟨other.before, other.digits, rest ++ (literal.digits ++ literal.after)⟩,
      ⟨?_, found.outside, found.nonempty, found.digits, found.fresh, fun char head => ?_⟩, rfl⟩
    · rw [stands.whole, earlier, divided]
      simp
    · cases rest with
      | nil =>
          have member : last ∈ other.digits := by
            rw [List.append_nil] at divided
            simp [← divided]
          exact absurd (found.digits last member) (by simp [ends])
      | cons first rest =>
          cases head
          exact found.ended char (by rw [after]; rfl)

/-- One that begins after them stood there as well. -/
theorem of_begins_after (stands : literal.Stands statement) (numeric : Numeric digits)
    (found : other.Stands (literal.replace digits)) {between : List Char}
    (later : other.before = literal.before ++ (digits ++ between))
    (after : literal.after = between ++ (other.digits ++ other.after)) :
    ∃ former : Literal, former.Stands statement ∧ former.digits = other.digits := by
  have own : Numeric literal.digits :=
    ⟨stands.nonempty, fun char member => .inl (stands.digits char member)⟩
  refine ⟨⟨literal.before ++ literal.digits ++ between, other.digits, other.after⟩,
    ⟨?_, ?_, found.nonempty, found.digits, fun char ends => ?_, found.ended⟩, rfl⟩
  · rw [stands.whole, after]
    simp
  · rw [own.after_around stands.outside, ← numeric.after_around stands.outside,
      List.append_assoc, ← later]
    exact found.outside
  · rcases between.eq_nil_or_concat with rfl | ⟨front, last, rfl⟩
    · obtain ⟨first, rest, run⟩ := List.exists_cons_of_ne_nil found.nonempty
      have ended := stands.not_digit_after (by rw [after, run]; rfl)
      exact absurd (found.digits first (by simp [run])) (by simp [ended])
    · refine found.fresh char ?_
      simpa [later] using ends

/-- What stands in a statement after a literal was replaced stood there before, or lies in what
came in. -/
theorem of_replace (stands : literal.Stands statement) (numeric : Numeric digits)
    (found : other.Stands (literal.replace digits)) :
    (∃ former : Literal, former.Stands statement ∧ former.digits = other.digits) ∨
      other.digits <:+: digits := by
  have whole := found.whole
  rw [replace, List.append_assoc, List.append_assoc] at whole
  obtain ⟨between, nonempty, earlier⟩ | ⟨between, later, rest⟩ :
      (∃ between, between ≠ [] ∧ literal.before = other.before ++ between) ∨
        ∃ between, other.before = literal.before ++ between ∧
          digits ++ literal.after = between ++ (other.digits ++ other.after) := by
    rcases List.append_eq_append_iff.mp whole with later | ⟨between, earlier, rest⟩
    · exact .inr later
    · cases between with
      | nil => exact .inr ⟨[], by simpa using earlier.symm, by simpa using rest.symm⟩
      | cons => exact .inl ⟨_, List.cons_ne_nil _ _, earlier⟩
  · exact .inl (stands.of_begins_before found earlier nonempty)
  · rcases List.append_eq_append_iff.mp rest with ⟨further, rfl, after⟩ | ⟨further, within, rest⟩
    · exact .inl (stands.of_begins_after numeric found later after)
    · refine .inr ?_
      rcases List.append_eq_append_iff.mp rest with ⟨last, rfl, _⟩ | ⟨last, run, after⟩
      · exact ⟨between, last, by rw [within, List.append_assoc]⟩
      · cases last with
        | nil =>
            rw [List.append_nil] at run
            exact ⟨between, [], by rw [within, run, List.append_nil]⟩
        | cons first last =>
            have ended := stands.not_digit_after after
            exact absurd (found.digits first (by simp [run])) (by simp [ended])

end Stands
end Literal
end Crosscheck.Statement
