import Mathlib
import Crosscheck.Proofs.Mutation.Tweak

/-!
# What a tweak leaves of its statement

A tweak replaces the octets of one literal and leaves all others as they are, since a span ends
between two characters on both sides. `Supplants` says which digits may come in by the value of
the literal alone; their decimal denotes another value than the literal, so the statement
changes unless an edge of an integer type takes its own place. No answer comes of a tweak only
where its draws ask for what follows the largest word and sums are checked. A tweak brings the
values in a statement closer to that word by no more than one (`Tweaks.hasRoom`).
-/

namespace Crosscheck.Mutation

open Statement Text

/-- What may come in for a literal of some value: the decimal of the next integer or of the
previous one, zero for a value that no signed word of 128 bits holds, or an edge of an integer
type. -/
inductive Supplants (overflow : Overflow) (value : Nat) : List Char → Prop where
  | next (room : value + 1 < 2 ^ 127) :
      Supplants overflow value (toString (value + 1 : Int)).toList
  | previous (room : value < 2 ^ 127) :
      Supplants overflow value (toString (value - 1 : Int)).toList
  | zero (large : 2 ^ 127 ≤ value) : Supplants overflow value ['0']
  /-- The largest word is followed by the smallest, unless sums are checked. -/
  | least (unchecked : overflow = .wraps) (largest : value + 1 = 2 ^ 127) :
      Supplants overflow value (toString (-2 ^ 127 : Int)).toList
  | edge {text : String} (member : text ∈ edgeIntegers) : Supplants overflow value text.toList

section Digits

variable {overflow : Overflow} {literal : Literal} {digits text : List Char}

theorem integerText_eq (value : Int) : integerText value = (toString value).toList := by
  cases value <;> simp [integerText, toString, Int.repr, Nat.repr]

theorem neighbour_of_large (large : 2 ^ 127 ≤ literal.value) (offset : Int) :
    neighbour overflow literal offset = .ok ['0'] :=
  if_neg (Nat.not_lt.mpr large)

theorem neighbour_of_room {offset : Int} (held : literal.value < 2 ^ 127)
    (above : -(2 ^ 127) ≤ literal.value + offset) (below : literal.value + offset < 2 ^ 127) :
    neighbour overflow literal offset = .ok (toString (literal.value + offset)).toList := by
  refine (if_pos held).trans ?_
  rw [add_of_room above below, ← integerText_eq]
  rfl

/-- Only the largest word has a neighbour that no word holds. -/
theorem neighbour_of_largest (largest : literal.value + 1 = 2 ^ 127)
    (moved : neighbour overflow literal 1 = .ok digits) :
    overflow = .wraps ∧ digits = (toString (-2 ^ 127 : Int)).toList := by
  have word : (literal.value : Int) + 1 = 2 ^ 127 := by exact_mod_cast largest
  have held : literal.value < 2 ^ 127 := by omega
  replace moved := (if_pos held).symm.trans moved
  rw [Overflow.add, word] at moved
  cases overflow with
  | unwinds => cases moved
  | wraps =>
      cases moved
      exact ⟨rfl, rfl⟩

theorem Replaces.supplants (replaces : Replaces overflow literal digits) :
    Supplants overflow (Nat.ofDigitChars 10 literal.digits 0) digits := by
  change Supplants overflow literal.value digits
  cases replaces with
  | next moved =>
      rcases Nat.lt_trichotomy (literal.value + 1) (2 ^ 127) with room | largest | large
      · rw [neighbour_of_room (by omega) (by omega) (by omega)] at moved
        cases moved
        exact .next room
      · obtain ⟨unchecked, rfl⟩ := neighbour_of_largest largest moved
        exact .least unchecked largest
      · rw [neighbour_of_large (by omega)] at moved
        cases moved
        exact .zero (by omega)
  | previous moved =>
      rcases Nat.lt_or_ge literal.value (2 ^ 127) with room | large
      · rw [neighbour_of_room room (by omega) (by omega)] at moved
        cases moved
        exact .previous room
      · rw [neighbour_of_large large] at moved
        cases moved
        exact .zero large
  | edge member => exact .edge member

/-- Digits that are the decimal of an integer denote that integer. -/
theorem eq_value_of_decimal {value : Int} (decimal : (toString value).toList = digits)
    (plain : ∀ char ∈ digits, char.isDigit = true) :
    value = Nat.ofDigitChars 10 digits 0 := by
  rw [← integerText_eq] at decimal
  subst decimal
  cases value with
  | ofNat value => simp [integerText]
  | negSucc value => exact absurd (plain '-' List.mem_cons_self) (by decide)

/-- What comes in for a literal is not the literal itself, unless that is an edge. -/
theorem Supplants.ne (supplants : Supplants overflow (Nat.ofDigitChars 10 digits 0) text)
    (plain : ∀ char ∈ digits, char.isDigit = true)
    (unlisted : String.ofList digits ∉ edgeIntegers) : text ≠ digits := by
  intro same
  generalize known : Nat.ofDigitChars 10 digits 0 = value at supplants
  cases supplants with
  | next =>
      have denoted := eq_value_of_decimal same plain
      omega
  | previous =>
      have denoted := eq_value_of_decimal same plain
      omega
  | zero large =>
      subst same
      rw [← known] at large
      exact absurd large (by decide)
  | least =>
      have denoted := eq_value_of_decimal same plain
      omega
  | edge member =>
      rw [← same, String.ofList_toList] at unlisted
      exact unlisted member

end Digits

section Statements

open Crosscheck.Random

/-- What a tweak may answer for a statement. -/
structure Tweaked (overflow : Overflow) (statement : String) (answer : Option String) :
    Prop where
  /-- The scan of the octets finds all literals, and each of its spans begins and ends between
  two characters, so that the literal is taken from it as it stands. -/
  scanned : ∀ span, span ∈ spans (Utf8.encode statement.toList) ↔
    ∃ literal : Literal, literal.Stands statement.toList ∧ literal.span = span
  divided : ∀ span ∈ spans (Utf8.encode statement.toList), span.first < span.last ∧
    String.Pos.Raw.IsValid statement ⟨span.first⟩ ∧
    String.Pos.Raw.IsValid statement ⟨span.last⟩ ∧
    ∃ literal : Literal, literal.Stands statement.toList ∧
      span.literal? (Utf8.encode statement.toList) = some literal
  /-- There is no answer exactly if there is no literal. -/
  eq_none_iff : answer = none ↔ ¬∃ literal : Literal, literal.Stands statement.toList
  /-- One literal is replaced, between the same octets. -/
  replaced : ∀ tweaked, answer = some tweaked → ∃ (literal : Literal) (digits : List Char),
    literal.Stands statement.toList ∧
    Supplants overflow (Nat.ofDigitChars 10 literal.digits 0) digits ∧
    Utf8.encode statement.toList = Utf8.encode literal.before ++
      Utf8.encode literal.digits ++ Utf8.encode literal.after ∧
    Utf8.encode tweaked.toList = Utf8.encode literal.before ++
      Utf8.encode digits ++ Utf8.encode literal.after
  changed : (∀ literal : Literal, literal.Stands statement.toList →
    String.ofList literal.digits ∉ edgeIntegers) → answer ≠ some statement

variable {σ : Type} [RandomSource σ]

/-- The literal that is drawn from a statement is the largest word, and the neighbour that is
drawn for it is the next one. -/
def Exceeds (statement : String) (state : σ) : Prop :=
  ∃ (literal : Literal) (middle after : σ), literal.Stands statement.toList ∧
    Nat.ofDigitChars 10 literal.digits 0 + 1 = 2 ^ 127 ∧
    (choose (spans (Utf8.encode statement.toList))).run state = (some literal.span, middle) ∧
    (below 3).run middle = (0, after)

/-- Only the next of the largest word is out of reach. -/
theorem largest_of_unwound {overflow : Overflow} {literal : Literal} {middle : σ}
    {payload : Payload} (unwound : ((replacement overflow literal).run middle).1 = .error payload) :
    ((below 3).run middle).1 = 0 ∧ literal.value + 1 = 2 ^ 127 := by
  have largest := always_replacement overflow literal middle
  rw [unwound] at largest
  refine ⟨?_, largest.2.2⟩
  rcases drawn : (below 3).run middle with ⟨kind, after⟩
  rw [replacement, run_bind_of_run drawn] at unwound
  rcases kind with _ | _ | kind
  · rfl
  · obtain ⟨digits, moved⟩ := exists_previous overflow literal
    rw [moved] at unwound
    cases unwound
  · cases unwound

theorem exceeds_of_unwound {overflow : Overflow} {statement : String} {state : σ}
    {payload : Payload}
    (unwound : ((tweakLiteral overflow statement).run state).1 = .error payload) :
    Exceeds statement state := by
  rcases chosen : (choose (spans (Utf8.encode statement.toList))).run state with ⟨drawn, middle⟩
  have found := always_choose (spans (Utf8.encode statement.toList)) state
  rw [chosen] at found
  rw [tweakLiteral, run_bind_of_run chosen] at unwound
  rcases found with ⟨_, missing⟩ | ⟨span, member, held⟩
  · obtain rfl : drawn = none := missing
    cases unwound
  · obtain ⟨literal, stands, rfl⟩ := mem_spans_iff.mp member
    obtain rfl : drawn = some literal.span := held
    rw [Option.bind_some, literal?_span stands.whole, StateT.run_bind] at unwound
    rcases replaced : (replacement overflow literal).run middle with ⟨answer, after⟩
    rw [replaced] at unwound
    cases answer with
    | ok answer => cases unwound
    | error reason =>
        obtain ⟨next, largest⟩ := largest_of_unwound
          (show ((replacement overflow literal).run middle).1 = .error reason by rw [replaced])
        exact ⟨literal, middle, ((below 3).run middle).2, stands, largest, chosen,
          Prod.ext next rfl⟩

/-- What a tweak may answer is as `Tweaked` has it. -/
theorem tweaked_of_replaces {overflow : Overflow} {statement : String} {answer : Option String}
    (answered : (literals statement.toList = [] ∧ answer = none) ∨
      ∃ literal ∈ literals statement.toList, ∃ digits, Replaces overflow literal digits ∧
        answer = some (String.ofList (literal.replace digits))) :
    Tweaked overflow statement answer := by
  simp only [mem_literals_iff] at answered
  refine ⟨fun span => mem_spans_iff, fun span member => ?_, ?_, fun tweaked same => ?_,
    fun unlisted same => ?_⟩
  · obtain ⟨literal, stands, rfl⟩ := mem_spans_iff.mp member
    obtain ⟨first, last⟩ := stands.isValid_span
    rw [String.ofList_toList] at first last
    exact ⟨stands.first_lt_last, first, last, literal, stands, literal?_span stands.whole⟩
  · rcases answered with ⟨none, answer⟩ | ⟨literal, stands, digits, _, answer⟩
    · refine iff_of_true answer ?_
      rintro ⟨literal, stands⟩
      exact absurd (mem_literals_iff.mpr stands) (by simp [none])
    · rw [answer]
      exact iff_of_false (by simp) (not_not_intro ⟨literal, stands⟩)
  · rcases answered with ⟨_, answer⟩ | ⟨literal, stands, digits, replaces, answer⟩
    · rw [answer] at same
      cases same
    · rw [answer, Option.some.injEq] at same
      refine ⟨literal, digits, stands, replaces.supplants, ?_, ?_⟩
      · rw [← Utf8.encode_append, ← Utf8.encode_append, ← stands.whole]
      · rw [← same, String.toList_ofList, Literal.replace, Utf8.encode_append,
          Utf8.encode_append]
  · rcases answered with ⟨_, answer⟩ | ⟨literal, stands, digits, replaces, answer⟩
    · rw [answer] at same
      cases same
    · rw [answer, Option.some.injEq] at same
      have whole := stands.whole
      rw [← same, String.toList_ofList, Literal.replace] at whole
      have unchanged : digits = literal.digits :=
        List.append_cancel_left (List.append_cancel_right whole)
      exact replaces.supplants.ne stands.digits (unlisted literal stands) unchanged

/-- A tweak answers nothing exactly for a statement without literals. Otherwise, whatever is
drawn, it replaces one literal by a neighbour of its value, by zero if that is too large, or by
an edge, and leaves the octets before and after it. Unless an edge already stands in the
statement as a literal the statement changes. There is no answer at all only where sums are
checked and the next of the largest word is asked for. -/
theorem tweaked_tweakLiteral (overflow : Overflow) (statement : String) (state : σ) :
    (∃ answer, ((tweakLiteral overflow statement).run state).1 = .ok answer ∧
      Tweaked overflow statement answer) ∨
    (overflow = .unwinds ∧ Exceeds statement state ∧
      ((tweakLiteral overflow statement).run state).1 = .error Overflow.payload) := by
  have answered := always_replaces overflow statement state
  cases unwound : ((tweakLiteral overflow statement).run state).1 with
  | ok answer =>
      rw [unwound] at answered
      exact .inl ⟨answer, rfl, tweaked_of_replaces answered⟩
  | error payload =>
      rw [unwound] at answered
      obtain ⟨rfl, overflows⟩ := answered
      exact .inr ⟨overflows.checked, exceeds_of_unwound unwound, rfl⟩

end Statements

section Room

/-- What stands within a text of digits denotes no more than the text. -/
theorem ofDigitChars_le_of_infix {inner text : List Char} (within : inner <:+: text) :
    Nat.ofDigitChars 10 inner 0 ≤ Nat.ofDigitChars 10 text 0 := by
  obtain ⟨before, after, rfl⟩ := within
  have shifted : Nat.ofDigitChars 10 inner (Nat.ofDigitChars 10 before 0) = _ :=
    Nat.ofDigitChars_eq_ofDigitChars_zero
  rw [Nat.ofDigitChars_append, Nat.ofDigitChars_append,
    Nat.ofDigitChars_eq_ofDigitChars_zero (l := after), shifted]
  calc Nat.ofDigitChars 10 inner 0
      ≤ 10 ^ inner.length * Nat.ofDigitChars 10 before 0 + Nat.ofDigitChars 10 inner 0 :=
        Nat.le_add_left _ _
    _ ≤ 10 ^ after.length *
          (10 ^ inner.length * Nat.ofDigitChars 10 before 0 + Nat.ofDigitChars 10 inner 0) :=
        Nat.le_mul_of_pos_left _ (Nat.pow_pos (by decide))
    _ ≤ _ := Nat.le_add_right _ _

theorem ofDigitChars_lt_pow {digits : List Char} (plain : ∀ char ∈ digits, char.isDigit = true) :
    Nat.ofDigitChars 10 digits 0 < 10 ^ digits.length := by
  induction digits with
  | nil => exact Nat.one_pos
  | cons digit digits inductionHypothesis =>
      rw [List.forall_mem_cons] at plain
      have rest := inductionHypothesis plain.2
      have few : digit.toNat - '0'.toNat ≤ 9 := by
        have below : digit.toNat ≤ 57 := (Char.isDigit_iff_toNat.mp plain.1).2
        have zero : '0'.toNat = 48 := rfl
        omega
      rw [Nat.ofDigitChars_cons, Nat.ofDigitChars_eq_ofDigitChars_zero, Nat.mul_zero,
        Nat.zero_add, List.length_cons, Nat.pow_succ]
      have most := Nat.mul_le_mul_left (10 ^ digits.length) few
      omega

/-- No literal of the statement that a word holds is among the given number of the largest. -/
def HasRoom (room : Nat) (statement : String) : Prop :=
  ∀ literal : Literal, literal.Stands statement.toList → literal.value < 2 ^ 127 →
    literal.value + room < 2 ^ 127

theorem HasRoom.mono {room less : Nat} {statement : String} (hasRoom : HasRoom room statement)
    (fewer : less ≤ room) : HasRoom less statement := by
  intro literal stands held
  have room := hasRoom literal stands held
  omega

theorem length_edge_le : ∀ text ∈ edgeIntegers, text.toList.length ≤ 20 := by decide +kernel

/-- A literal that comes in is short or follows the one that it comes in for. -/
theorem Supplants.near {value : Nat} {text digits : List Char}
    (supplants : Supplants .unwinds value text) (within : digits <:+: text)
    (plain : ∀ char ∈ digits, char.isDigit = true) :
    Nat.ofDigitChars 10 digits 0 < 10 ^ 20 ∨
      (value < 2 ^ 127 ∧ Nat.ofDigitChars 10 digits 0 ≤ value + 1) := by
  have short : text.length ≤ 20 → Nat.ofDigitChars 10 digits 0 < 10 ^ 20 := fun few =>
    (ofDigitChars_lt_pow plain).trans_le
      (Nat.pow_le_pow_right (by decide) (within.length_le.trans few))
  have long : ∀ natural : Nat, natural ≤ value + 1 → text = (toString (natural : Int)).toList →
      Nat.ofDigitChars 10 digits 0 ≤ value + 1 := by
    intro natural bounded denotes
    rw [← integerText_eq] at denotes
    have inner := ofDigitChars_le_of_infix within
    rw [show text = Nat.toDigits 10 natural from denotes, Nat.ofDigitChars_ten_toDigits] at inner
    exact inner.trans bounded
  cases supplants with
  | next room => exact .inr ⟨by omega, long (value + 1) le_rfl rfl⟩
  | previous room =>
      cases value with
      | zero => exact .inl (short (by decide))
      | succ value =>
          refine .inr ⟨room, long value (by omega) ?_⟩
          simp
  | zero large => exact .inl (short (by decide))
  | least unchecked => cases unchecked
  | edge member => exact .inl (short (length_edge_le _ member))

/-- A tweak takes up no more than one of the room. -/
theorem Tweaks.hasRoom {room : Nat} {statement tweaked : String} (few : room ≤ 10 ^ 20)
    (tweaks : Tweaks .unwinds statement tweaked) (roomy : HasRoom (room + 1) statement) :
    HasRoom room tweaked := by
  cases tweaks with
  | @replace literal digits member replaces =>
      intro other found held
      have stands := mem_literals_iff.mp member
      rw [String.toList_ofList] at found
      rcases stands.of_replace replaces.numeric found with ⟨former, stood, same⟩ | within
      · have room := roomy former stood (by rwa [Literal.value, same])
        rw [Literal.value, same] at room
        exact (Nat.lt_succ_self _).trans room
      · rcases replaces.supplants.near within found.digits with short | ⟨held, next⟩
        · change Nat.ofDigitChars 10 other.digits 0 + room < 2 ^ 127
          exact (Nat.add_lt_add_of_lt_of_le short few).trans (by decide)
        · have room := roomy literal stands held
          change Nat.ofDigitChars 10 other.digits 0 + _ < 2 ^ 127
          change _ ≤ literal.value + 1 at next
          omega

end Room

end Crosscheck.Mutation
