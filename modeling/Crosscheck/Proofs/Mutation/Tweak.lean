import Mathlib
import Crosscheck.Mutation.Tweak
import Crosscheck.Proofs.Random.Source
import Crosscheck.Proofs.Statement.Span

/-!
# What a tweak replaces

`Tweaks` says what a tweak may make of a statement, without the draws that decide it: one
literal gets a neighbour of its value or an edge of an integer type for its digits. Where
sums are checked there is one way to get nothing at all (`Overflows`): to ask for what comes
after the largest word.
-/

namespace Crosscheck.Mutation

open Statement

/-- What may stand in place of the digits of a literal. -/
inductive Replaces (overflow : Overflow) (literal : Literal) : List Char → Prop where
  | next {digits} (moved : neighbour overflow literal 1 = .ok digits) :
      Replaces overflow literal digits
  | previous {digits} (moved : neighbour overflow literal (-1) = .ok digits) :
      Replaces overflow literal digits
  | edge {value : String} (member : value ∈ edgeIntegers) :
      Replaces overflow literal value.toList

/-- One literal of a statement is replaced. -/
inductive Tweaks (overflow : Overflow) (statement : String) : String → Prop where
  | replace {literal : Literal} {digits : List Char}
      (member : literal ∈ literals statement.toList)
      (replaces : Replaces overflow literal digits) :
      Tweaks overflow statement (String.ofList (literal.replace digits))

/-- Sums are checked, and a literal of the statement is the largest word. -/
structure Overflows (overflow : Overflow) (statement : String) : Prop where
  checked : overflow = .unwinds
  largest : ∃ literal ∈ literals statement.toList, literal.value + 1 = 2 ^ 127

theorem numeric_toDigits (value : Nat) : Numeric (Nat.toDigits 10 value) where
  nonempty := Nat.toDigits_ne_nil
  plain _ member := .inl (Nat.isDigit_of_mem_toDigits (by decide) (by decide) member)

theorem numeric_integerText (value : Int) : Numeric (integerText value) := by
  cases value with
  | ofNat value => exact numeric_toDigits value
  | negSucc value =>
      refine ⟨by simp [integerText], fun char member => ?_⟩
      rcases List.mem_cons.mp member with rfl | later
      · exact .inr rfl
      · exact (numeric_toDigits (value + 1)).plain char later

theorem numeric_neighbour {overflow : Overflow} {literal : Literal} {offset : Int}
    {digits : List Char} (moved : neighbour overflow literal offset = .ok digits) :
    Numeric digits := by
  unfold neighbour at moved
  split at moved
  · cases sum : overflow.add literal.value offset with
    | error payload =>
        rw [sum] at moved
        cases moved
    | ok value =>
        rw [sum] at moved
        cases moved
        exact numeric_integerText value
  · cases moved
    exact numeric_toDigits 0

theorem numeric_edge : ∀ value ∈ edgeIntegers, Numeric value.toList := by
  have listed : edgeIntegers.all (fun value => value.toList != [] &&
      value.toList.all fun char => char.isDigit || char == '-') = true := by decide +kernel
  intro value member
  have numeric := List.all_eq_true.mp listed value member
  rw [Bool.and_eq_true, bne_iff_ne, List.all_eq_true] at numeric
  exact ⟨numeric.1, by simpa using numeric.2⟩

theorem Replaces.numeric {overflow : Overflow} {literal : Literal} {digits : List Char}
    (replaces : Replaces overflow literal digits) : Numeric digits := by
  cases replaces with
  | next moved => exact numeric_neighbour moved
  | previous moved => exact numeric_neighbour moved
  | edge member => exact numeric_edge _ member

section Keep

variable {overflow : Overflow} {statement tweaked : String}

theorem Tweaks.standalone (tweaks : Tweaks overflow statement tweaked)
    (standalone : Standalone statement.toList) : Standalone tweaked.toList := by
  cases tweaks with
  | replace member replaces =>
      rw [String.toList_ofList]
      exact (Literal.occurs_of_mem member).standalone_replace replaces.numeric standalone

theorem Tweaks.unbroken (tweaks : Tweaks overflow statement tweaked)
    (unbroken : ¬HasBare .outside statement.toList) : ¬HasBare .outside tweaked.toList := by
  cases tweaks with
  | replace member replaces =>
      rw [String.toList_ofList]
      exact (Literal.occurs_of_mem member).unbroken_replace replaces.numeric unbroken

theorem Tweaks.not_mem_terminator (tweaks : Tweaks overflow statement tweaked)
    (none : terminator ∉ statement.toList) : terminator ∉ tweaked.toList := by
  cases tweaks with
  | replace member replaces =>
      rw [String.toList_ofList]
      exact (Literal.occurs_of_mem member).not_mem_replace replaces.numeric none

end Keep

section Sum

variable {overflow : Overflow}

/-- A sum within the range is what it is. -/
theorem add_of_room {left right : Int} (above : -2 ^ 127 ≤ left + right)
    (below : left + right < 2 ^ 127) : overflow.add left right = .ok (left + right) := by
  have exact : Int.bmod (left + right) (Nat.pow 2 128) = left + right :=
    Int.bmod_eq_of_le (by simpa using above) (by simpa using below)
  simp [Overflow.add, exact]

/-- The previous value is always there. -/
theorem exists_previous (overflow : Overflow) (literal : Literal) :
    ∃ digits, neighbour overflow literal (-1) = .ok digits := by
  unfold neighbour
  split
  next held =>
    have held : literal.value < 2 ^ 127 := held
    rw [add_of_room (by omega) (by omega)]
    exact ⟨_, rfl⟩
  next => exact ⟨_, rfl⟩

/-- So is the next one, but for the largest word where sums are checked. -/
theorem next_cases (overflow : Overflow) (literal : Literal) :
    (∃ digits, neighbour overflow literal 1 = .ok digits) ∨
      overflow = .unwinds ∧ literal.value + 1 = 2 ^ 127 ∧
        neighbour overflow literal 1 = .error Overflow.payload := by
  unfold neighbour
  split
  next held =>
    have held : literal.value < 2 ^ 127 := held
    by_cases room : literal.value + 1 < 2 ^ 127
    · rw [add_of_room (by omega) (by omega)]
      exact .inl ⟨_, rfl⟩
    · have largest : literal.value + 1 = 2 ^ 127 := by omega
      have sum : (literal.value : Int) + 1 = 2 ^ 127 := by exact_mod_cast largest
      unfold Overflow.add
      rw [sum]
      cases overflow with
      | unwinds => exact .inr ⟨rfl, largest, rfl⟩
      | wraps => exact .inl ⟨_, rfl⟩
  next => exact .inl ⟨_, rfl⟩

end Sum

section Draw

open Crosscheck.Random

variable {σ : Type} [RandomSource σ]

/-- An answer with a property, or none because a sum was out of range. -/
def Yields {α : Type} (overflows : Prop) (property : α → Prop) : Except Payload α → Prop
  | .ok answer => property answer
  | .error payload => payload = Overflow.payload ∧ overflows

theorem always_replacement (overflow : Overflow) (literal : Literal) :
    Always (replacement overflow literal : StateM σ (Except Payload (Option (List Char))))
      (Yields (overflow = .unwinds ∧ literal.value + 1 = 2 ^ 127) fun drawn =>
        ∃ digits, Replaces overflow literal digits ∧ drawn = some digits) := by
  refine .bind (always_below (by decide)) fun kind _ => ?_
  split
  · refine .pure ?_
    rcases next_cases overflow literal with ⟨digits, moved⟩ | ⟨checked, largest, unwinds⟩
    · rw [moved]
      exact ⟨digits, .next moved, rfl⟩
    · rw [unwinds]
      exact ⟨rfl, checked, largest⟩
  · obtain ⟨digits, moved⟩ := exists_previous overflow literal
    rw [moved]
    exact .pure ⟨digits, .previous moved, rfl⟩
  · refine .bind (always_choose edgeIntegers) fun drawn found => .pure ?_
    rcases found with ⟨none, _⟩ | ⟨value, member, rfl⟩
    · cases none
    · exact ⟨_, .edge member, rfl⟩

/-- A tweak answers nothing only where there is no literal. Whatever is drawn for it, it
replaces one literal, which is taken from its span as it stands in the statement, unless the
sum that it needs is out of range. -/
theorem always_replaces (overflow : Overflow) (statement : String) :
    Always (tweakLiteral overflow statement : StateM σ (Except Payload (Option String)))
      (Yields (Overflows overflow statement) fun drawn =>
        (literals statement.toList = [] ∧ drawn = none) ∨
          ∃ literal ∈ literals statement.toList, ∃ digits, Replaces overflow literal digits ∧
            drawn = some (String.ofList (literal.replace digits))) := by
  have listed := spans_encode statement.toList
  refine .bind (always_choose (spans (Text.Utf8.encode statement.toList))) fun drawn found => ?_
  rcases found with ⟨none, rfl⟩ | ⟨span, member, rfl⟩
  · rw [listed, List.map_eq_nil_iff] at none
    exact .pure (.inl ⟨none, rfl⟩)
  · rw [listed] at member
    obtain ⟨literal, held, rfl⟩ := List.mem_map.mp member
    rw [Option.bind_some, literal?_span (Literal.occurs_of_mem held).whole]
    refine .bind (always_replacement overflow literal) fun drawn replaced => .pure ?_
    cases drawn with
    | error payload => exact ⟨replaced.1, replaced.2.1, literal, held, replaced.2.2⟩
    | ok drawn =>
        obtain ⟨digits, replaces, rfl⟩ := replaced
        exact .inr ⟨literal, held, digits, replaces, rfl⟩

/-- So all that comes out of it is a tweak of the statement. -/
theorem always_tweakLiteral (overflow : Overflow) (statement : String) :
    Always (tweakLiteral overflow statement : StateM σ (Except Payload (Option String)))
      (Yields (Overflows overflow statement) fun drawn =>
        ∀ tweaked, drawn = some tweaked → Tweaks overflow statement tweaked) := by
  refine (always_replaces overflow statement).mono fun drawn replaced => ?_
  cases drawn with
  | error payload => exact replaced
  | ok drawn =>
      intro tweaked same
      rcases replaced with ⟨_, rfl⟩ | ⟨literal, member, digits, replaces, rfl⟩
      · cases same
      · cases same
        exact .replace member replaces

end Draw
end Crosscheck.Mutation
