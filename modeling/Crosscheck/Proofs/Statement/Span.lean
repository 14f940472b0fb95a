import Mathlib
import Crosscheck.Statement.Span
import Crosscheck.Proofs.Statement.Literal
import Crosscheck.Proofs.Text.Utf8

/-!
# Literals among the octets of a statement

The scan of the octets finds the literals of the characters, which takes two steps. It may pass
a run of digits at once, since no literal begins within one (`spansFrom_eq`), and it may look
at octets, since those of a character beyond ASCII are neither digits nor marks nor letters
(`literals_spell`). So every span begins and ends between two characters, and a literal is
taken from its span as it stands in the statement.
-/

namespace Crosscheck.Statement

open Text

section Runs

variable {passed rest : List Char} {quoting : Quoting}

/-- No literal begins where a word goes on. -/
theorem literalAt?_of_word (word : passed.head?.any isWordChar = true) :
    literalAt? passed quoting rest = none := by
  simp [literalAt?, word]

/-- A digit that no word goes on to begins a literal. -/
theorem literalAt?_of_digit {char : Char} (digit : char.isDigit = true) :
    literalAt? passed .outside (char :: rest) =
      if passed.head?.any isWordChar then none
      else some ⟨passed.reverse, char :: rest.takeWhile Char.isDigit,
        rest.dropWhile Char.isDigit⟩ := by
  cases word : passed.head?.any isWordChar <;> simp [literalAt?, digit, word]

theorem literalAt?_of_not_digit {char : Char} (other : char.isDigit = false) :
    literalAt? passed quoting (char :: rest) = none := by
  simp [literalAt?, other]

/-- Digits that go on with a word, or with a run of digits, hold no literal. -/
theorem literalsFrom_digits_append {passed digits : List Char} (rest : List Char)
    (all : ∀ char ∈ digits, char.isDigit = true) (word : passed.head?.any isWordChar = true) :
    literalsFrom passed .outside (digits ++ rest) =
      literalsFrom (digits.reverse ++ passed) .outside rest := by
  induction digits generalizing passed with
  | nil => rfl
  | cons digit digits inductionHypothesis =>
      rw [List.forall_mem_cons] at all
      have stays : Quoting.outside.next digit = .outside :=
        Quoting.next_outside (isMark_of_numeric (.inl all.1))
      rw [List.cons_append, literalsFrom, literalAt?_of_word word, stays,
        inductionHypothesis all.2 (by simpa using isWordChar_of_isDigit all.1)]
      simp

/-- Where a literal lies among the characters of its statement. -/
def Literal.place (literal : Literal) : Span :=
  ⟨literal.before.length, literal.before.length + literal.digits.length⟩

/-- Passing each run of digits at once misses no literal. -/
theorem spansFrom_eq (passed : List Char) (quoting : Quoting) (text : List Char) :
    spansFrom passed.head? quoting passed.length text =
      (literalsFrom passed quoting text).map Literal.place := by
  -- By the length of the text, since a run of digits is passed as a whole.
  induction size : text.length using Nat.strong_induction_on
    generalizing passed quoting text with
  | _ size inductionHypothesis =>
      subst size
      cases text with
      | nil => simp [spansFrom, literalsFrom]
      | cons char rest =>
          rw [spansFrom]
          split
          next run =>
            obtain ⟨rfl, digit⟩ := run
            have stays : Quoting.outside.next char = .outside :=
              Quoting.next_outside (isMark_of_numeric (.inl digit))
            have shorter : (rest.dropWhile Char.isDigit).length < (char :: rest).length :=
              Nat.lt_succ_of_le (List.dropWhile_sublist _).length_le
            have further := inductionHypothesis _ shorter
              ((char :: rest.takeWhile Char.isDigit).reverse ++ passed) .outside
              (rest.dropWhile Char.isDigit) rfl
            have word : (char :: passed).head?.any isWordChar = true := by
              simpa using isWordChar_of_isDigit digit
            have all : ∀ other ∈ rest.takeWhile Char.isDigit, other.isDigit = true :=
              fun _ => List.mem_takeWhile_imp
            have skipped := literalsFrom_digits_append (rest.dropWhile Char.isDigit) all word
            rw [List.takeWhile_append_dropWhile] at skipped
            rw [List.head?_append_of_ne_nil _ (by simp), List.head?_reverse, List.length_append,
              List.length_reverse, Nat.add_comm] at further
            dsimp only
            rw [further, literalsFrom, stays, skipped, literalAt?_of_digit digit]
            cases passed.head?.any isWordChar <;> simp [Literal.place]
          next other =>
            have none : literalAt? passed quoting (char :: rest) = none := by
              unfold literalAt?
              exact if_neg fun starts => other ⟨starts.1, by simpa using starts.2.1⟩
            rw [literalsFrom, none]
            exact inductionHypothesis _ (Nat.lt_succ_self _) (char :: passed) _ rest rfl

end Runs

section Octets

variable {char : Char} {passed rest text : List Char} {quoting : Quoting}

theorem toNat_lt_of_isWordChar (word : isWordChar char = true) : char.toNat < 0x80 := by
  have between : ∀ low high : Char, high.toNat < 0x80 → low ≤ char ∧ char ≤ high →
      char.toNat < 0x80 :=
    fun _ _ ascii within => Nat.lt_of_le_of_lt (UInt32.le_iff_toNat_le.mp within.2) ascii
  simp only [isWordChar, Char.isAlphanum, Char.isAlpha, Char.isUpper, Char.isLower, Char.isDigit,
    Bool.or_eq_true, Bool.and_eq_true, decide_eq_true_eq, beq_iff_eq] at word
  rcases word with ((upper | lower) | digit) | rfl
  · exact between 'A' 'Z' (by decide) upper
  · exact between 'a' 'z' (by decide) lower
  · exact between '0' '9' (by decide) digit
  · decide

theorem toNat_lt_of_isMark (mark : Quoting.isMark char = true) : char.toNat < 0x80 := by
  rw [Quoting.isMark, Bool.or_eq_true, beq_iff_eq, beq_iff_eq] at mark
  rcases mark with rfl | rfl <;> decide

section Beyond

variable (beyond : 0x80 ≤ char.toNat)
include beyond

theorem isWordChar_of_beyond : isWordChar char = false :=
  Bool.eq_false_iff.mpr fun word => (toNat_lt_of_isWordChar word).not_ge beyond

theorem isDigit_of_beyond : char.isDigit = false :=
  Bool.eq_false_iff.mpr fun digit =>
    (toNat_lt_of_isWordChar (isWordChar_of_isDigit digit)).not_ge beyond

/-- Beyond ASCII nothing opens a quoted part or ends one. -/
theorem next_of_beyond (proper : quoting.Proper) : quoting.next char = quoting := by
  have plain : ∀ mark, Quoting.isMark mark = true → char ≠ mark := by
    rintro mark marks rfl
    exact (toNat_lt_of_isMark marks).not_ge beyond
  cases quoting with
  | outside =>
      exact Quoting.next_outside (Bool.eq_false_iff.mpr fun marks => plain char marks rfl)
  | inside mark => simp [Quoting.next, plain mark (proper mark rfl)]

end Beyond

/-- A text spelled by its octets, each of them a character. -/
def spell (text : List Char) : List Char := ofOctets (Utf8.encode text)

@[simp] theorem spell_nil : spell [] = [] := rfl

@[simp] theorem length_spell (text : List Char) :
    (spell text).length = (Utf8.encode text).length := by
  simp [spell, ofOctets]

theorem spell_append (left right : List Char) :
    spell (left ++ right) = spell left ++ spell right := by
  simp [spell, ofOctets, Utf8.encode_append]

theorem spell_cons (char : Char) (rest : List Char) :
    spell (char :: rest) = spell [char] ++ spell rest :=
  spell_append [char] rest

/-- A character of ASCII is spelled by itself, and any other by octets beyond ASCII. -/
theorem spell_singleton (char : Char) :
    (char.toNat < 0x80 ∧ spell [char] = [char]) ∨
      (0x80 ≤ char.toNat ∧ spell [char] ≠ [] ∧ ∀ other ∈ spell [char], 0x80 ≤ other.toNat) := by
  have number : ∀ value < 0x100, (Char.ofNat value).toNat = value := by
    intro value small
    rw [Char.toNat_ofNat, if_pos (.inl (small.trans (by decide)))]
  have spelled : spell [char] = (String.utf8EncodeChar char).map charOfOctet := by
    simp [spell, ofOctets, Utf8.encode]
  rw [spelled]
  rcases Nat.lt_or_ge char.toNat 0x80 with ascii | beyond
  · have single : char.utf8Size = 1 :=
      Char.utf8Size_eq_one_iff.mpr (UInt32.le_iff_toNat_le.mpr (Nat.le_of_lt_succ ascii))
    have same : char.val.toUInt8.toNat = char.toNat :=
      Nat.mod_eq_of_lt (ascii.trans (by decide))
    refine .inl ⟨ascii, ?_⟩
    rw [String.utf8EncodeChar_eq_singleton single, List.map_singleton, charOfOctet, same,
      Char.ofNat_toNat]
  · refine .inr ⟨beyond, by simp [String.utf8EncodeChar_ne_nil], fun other member => ?_⟩
    obtain ⟨octet, octetMember, rfl⟩ := List.mem_map.mp member
    rw [charOfOctet, number _ octet.toNat_lt]
    by_contra low
    have named := Utf8.ofNat_eq_of_mem_utf8EncodeChar (Nat.lt_of_not_le low) octetMember
    rw [← named, number _ octet.toNat_lt] at beyond
    exact low beyond

/-- The octets of a text begin with a digit where the text does. -/
theorem any_isDigit_spell (text : List Char) :
    (spell text).head?.any Char.isDigit = text.head?.any Char.isDigit := by
  cases text with
  | nil => rfl
  | cons char rest =>
      rw [spell_cons]
      rcases spell_singleton char with ⟨_, itself⟩ | ⟨beyond, nonempty, octets⟩
      · simp [itself]
      · obtain ⟨first, others, spelled⟩ := List.exists_cons_of_ne_nil nonempty
        have low : first.isDigit = false :=
          isDigit_of_beyond (octets first (by rw [spelled]; exact List.mem_cons_self))
        simp [spelled, low, isDigit_of_beyond beyond]

/-- Digits are spelled by themselves. -/
theorem spell_of_digits {digits : List Char} (all : ∀ char ∈ digits, char.isDigit = true) :
    spell digits = digits := by
  induction digits with
  | nil => rfl
  | cons digit digits inductionHypothesis =>
      rw [List.forall_mem_cons] at all
      rcases spell_singleton digit with ⟨_, itself⟩ | ⟨beyond, _⟩
      · rw [spell_cons, itself, inductionHypothesis all.2, List.singleton_append]
      · exact absurd all.1 (by simp [isDigit_of_beyond beyond])

/-- A run of digits is as long among the octets of a text as in the text. -/
theorem span_spell (text : List Char) :
    (spell text).takeWhile Char.isDigit = spell (text.takeWhile Char.isDigit) ∧
      (spell text).dropWhile Char.isDigit = spell (text.dropWhile Char.isDigit) := by
  have all : ∀ char ∈ text.takeWhile Char.isDigit, char.isDigit = true :=
    fun char => List.mem_takeWhile_imp
  have stopped : (spell (text.dropWhile Char.isDigit)).head?.any Char.isDigit = false := by
    rw [any_isDigit_spell]
    have other := List.head?_dropWhile_not Char.isDigit text
    cases head : (text.dropWhile Char.isDigit).head? <;> simp_all
  have divided : spell text =
      text.takeWhile Char.isDigit ++ spell (text.dropWhile Char.isDigit) := by
    rw [← spell_of_digits all, ← spell_append, List.takeWhile_append_dropWhile]
  rw [divided, List.takeWhile_append_of_pos all, List.dropWhile_append_of_pos all,
    spell_of_digits all]
  cases later : spell (text.dropWhile Char.isDigit) with
  | nil => simp
  | cons head rest => simp_all

/-- A word goes on after the octets of a text where it goes on after the text. -/
theorem any_isWordChar_spell (passed : List Char) :
    (spell passed.reverse).reverse.head?.any isWordChar = passed.head?.any isWordChar := by
  cases passed with
  | nil => rfl
  | cons char passed =>
      rw [List.reverse_cons, spell_append, List.reverse_append]
      rcases spell_singleton char with ⟨_, itself⟩ | ⟨beyond, nonempty, octets⟩
      · simp [itself]
      · obtain ⟨last, others, spelled⟩ :=
          List.exists_cons_of_ne_nil (List.reverse_ne_nil_iff.mpr nonempty)
        have low : isWordChar last = false :=
          isWordChar_of_beyond (octets last (by
            rw [← List.mem_reverse, spelled]
            exact List.mem_cons_self))
        simp [spelled, low, isWordChar_of_beyond beyond]

/-- A literal as its statement is spelled. -/
def Literal.spelled (literal : Literal) : Literal :=
  ⟨spell literal.before, spell literal.digits, spell literal.after⟩

theorem literalAt?_spell (passed : List Char) (quoting : Quoting) (text : List Char) :
    literalAt? (spell passed.reverse).reverse quoting (spell text) =
      (literalAt? passed quoting text).map Literal.spelled := by
  unfold literalAt?
  rw [any_isDigit_spell, any_isWordChar_spell]
  split <;> simp [Literal.spelled, span_spell]

/-- Octets beyond ASCII hold no literal. -/
theorem literalsFrom_beyond_append {beyond : List Char} (proper : quoting.Proper)
    (all : ∀ char ∈ beyond, 0x80 ≤ char.toNat) :
    literalsFrom passed quoting (beyond ++ rest) =
      literalsFrom (beyond.reverse ++ passed) quoting rest := by
  induction beyond generalizing passed with
  | nil => rfl
  | cons char others inductionHypothesis =>
      rw [List.forall_mem_cons] at all
      rw [List.cons_append, literalsFrom, literalAt?_of_not_digit (isDigit_of_beyond all.1),
        next_of_beyond all.1 proper, inductionHypothesis all.2]
      simp

theorem literalsFrom_spell (passed text : List Char) (proper : quoting.Proper) :
    literalsFrom (spell passed.reverse).reverse quoting (spell text) =
      (literalsFrom passed quoting text).map Literal.spelled := by
  induction text generalizing passed quoting with
  | nil => rfl
  | cons char rest inductionHypothesis =>
      have further := inductionHypothesis (char :: passed) (proper.next char)
      have here := literalAt?_spell passed quoting (char :: rest)
      rw [List.reverse_cons, spell_append, List.reverse_append] at further
      rcases spell_singleton char with ⟨_, itself⟩ | ⟨beyond, nonempty, octets⟩
      · rw [spell_cons, itself, List.singleton_append] at here
        rw [itself, List.reverse_singleton, List.singleton_append] at further
        rw [spell_cons, itself, List.singleton_append, literalsFrom, literalsFrom, here, further]
        cases literalAt? passed quoting (char :: rest) <;> rfl
      · rw [next_of_beyond beyond proper] at further
        rw [spell_cons, literalsFrom_beyond_append proper octets, further, literalsFrom,
          literalAt?_of_not_digit (isDigit_of_beyond beyond), next_of_beyond beyond proper]

/-- The literals of a statement are found among its octets. -/
theorem literals_spell (text : List Char) :
    literals (spell text) = (literals text).map Literal.spelled :=
  literalsFrom_spell [] text Quoting.proper_outside

/-- Where a literal lies among the octets of its statement. -/
def Literal.span (literal : Literal) : Span :=
  ⟨(Utf8.encode literal.before).length,
    (Utf8.encode literal.before).length + (Utf8.encode literal.digits).length⟩

/-- The spans of a statement are those of its literals. -/
theorem spans_encode (statement : List Char) :
    spans (Utf8.encode statement) = (literals statement).map Literal.span := by
  have found := spansFrom_eq [] .outside (spell statement)
  rw [← literals, literals_spell, List.map_map] at found
  refine found.trans (List.map_congr_left fun literal _ => ?_)
  simp [Literal.place, Literal.spelled, Literal.span]

/-- A literal is taken from its span with what stands before and after it. -/
theorem literal?_span {literal : Literal} {statement : List Char}
    (whole : statement = literal.before ++ literal.digits ++ literal.after) :
    literal.span.literal? (Utf8.encode statement) = some literal := by
  have octets : Utf8.encode statement = Utf8.encode literal.before ++
      Utf8.encode literal.digits ++ Utf8.encode literal.after := by
    rw [whole, Utf8.encode_append, Utf8.encode_append]
  have before : (Utf8.encode statement).take literal.span.first = Utf8.encode literal.before := by
    rw [octets, List.append_assoc]
    exact List.take_left
  have digits : ((Utf8.encode statement).take literal.span.last).drop literal.span.first =
      Utf8.encode literal.digits := by
    rw [octets, List.take_left' (by simp [Literal.span])]
    exact List.drop_left
  have after : (Utf8.encode statement).drop literal.span.last = Utf8.encode literal.after := by
    rw [octets, List.drop_left' (by simp [Literal.span])]
  simp [Span.literal?, before, digits, after, Utf8.decode?_encode]

theorem mem_spans_iff {span : Span} {statement : List Char} :
    span ∈ spans (Utf8.encode statement) ↔
      ∃ literal : Literal, literal.Stands statement ∧ literal.span = span := by
  simp only [spans_encode, List.mem_map, mem_literals_iff]

namespace Literal.Stands

variable {literal : Literal} {statement : List Char} (stands : literal.Stands statement)
include stands

theorem first_lt_last : literal.span.first < literal.span.last := by
  obtain ⟨digit, digits, run⟩ := List.exists_cons_of_ne_nil stands.nonempty
  have octets : 0 < (Utf8.encode literal.digits).length := by
    rw [run, Utf8.encode, List.flatMap_cons, List.length_append, String.length_utf8EncodeChar]
    exact Nat.add_pos_left (Char.utf8Size_pos digit) _
  exact Nat.lt_add_of_pos_right octets

/-- Both ends of a span lie between two characters of the statement. -/
theorem isValid_span :
    String.Pos.Raw.IsValid (String.ofList statement) ⟨literal.span.first⟩ ∧
      String.Pos.Raw.IsValid (String.ofList statement) ⟨literal.span.last⟩ := by
  have first := Utf8.isValid_length_encode literal.before (literal.digits ++ literal.after)
  have last := Utf8.isValid_length_encode (literal.before ++ literal.digits) literal.after
  rw [← List.append_assoc, ← stands.whole] at first
  rw [← stands.whole, Utf8.encode_append, List.length_append] at last
  exact ⟨first, last⟩

end Literal.Stands

end Octets

end Crosscheck.Statement
