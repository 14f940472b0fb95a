import Mathlib
import Crosscheck.Corpus

/-!
# What random programs always answer

`Always` says that a program answers with a property whatever the words of its source
are. It has one rule for each way to build a program and one for each kind of draw, so
that no proof about a program looks at words again.
-/

namespace Crosscheck.Random

variable {σ α β : Type}

/-- Whatever state its source is in, the program's answer has the property. -/
def Always (program : StateM σ α) (property : α → Prop) : Prop :=
  ∀ state, property (program.run state).1

namespace Always

variable {program : StateM σ α} {property : α → Prop}

theorem mono {weaker : α → Prop} (always : Always program property)
    (implies : ∀ answer, property answer → weaker answer) : Always program weaker :=
  fun state => implies _ (always state)

theorem pure {answer : α} (holds : property answer) :
    Always (Pure.pure answer : StateM σ α) property :=
  fun _ => holds

theorem bind {next : α → StateM σ β} {final : β → Prop} (first : Always program property)
    (second : ∀ answer, property answer → Always (next answer) final) :
    Always (program >>= next) final :=
  fun state => second _ (first state) (program.run state).2

theorem ite {condition : Prop} [Decidable condition] {other : StateM σ α}
    (holds : condition → Always program property) (fails : ¬condition → Always other property) :
    Always (if condition then program else other) property := by
  split
  next yes => exact holds yes
  next no => exact fails no

end Always

/-- What follows a program goes on from its answer, in the state that it leaves. -/
theorem run_bind_of_run {program : StateM σ α} {next : α → StateM σ β} {answer : α}
    {state after : σ} (ran : program.run state = (answer, after)) :
    (program >>= next).run state = (next answer).run after := by
  rw [StateT.run_bind, ran]
  rfl

/-- The high half of a wide product is below the count, also after a carry: a low half that
leaves room for one is followed by a high half that is not the last. -/
theorem wideProduct_lt {size word count : Nat} (bounded : word < size) (positive : 0 < count) :
    (wideProduct size word count).1 < count ∧
      ((wideProduct size word count).2 > size - count →
        (wideProduct size word count).1 + 1 < count) := by
  have halves := Nat.div_add_mod (word * count) size
  have room : word * count + count ≤ size * count := by
    rw [← Nat.succ_mul]
    exact Nat.mul_le_mul_right count bounded
  simp only [wideProduct]
  generalize word * count / size = high at *
  generalize word * count % size = low at *
  constructor
  · by_contra beyond
    have most := Nat.mul_le_mul_left size (Nat.le_of_not_lt beyond)
    omega
  · intro carries
    by_contra beyond
    have most := Nat.mul_le_mul_left size (Nat.le_of_not_lt beyond)
    rw [Nat.mul_succ] at most
    omega

theorem always_scale {size : Nat} {word : StateM σ Nat} (words : Always word (· < size))
    {count : Nat} (positive : 0 < count) : Always (scale size word count) (· < count) := by
  refine .bind words fun first bounded => ?_
  obtain ⟨high, carried⟩ := wideProduct_lt bounded positive
  refine .ite (fun carries => ?_) fun _ => .pure high
  refine .bind words fun second _ => .pure ?_
  split
  · exact carried carries
  · exact high

variable [RandomSource σ]

/-- A word may be any. -/
theorem always_word64 : Always (word64 : StateM σ UInt64) fun _ => True := fun _ => trivial

theorem always_below {count : Nat} (positive : 0 < count) :
    Always (below count : StateM σ Nat) (· < count) :=
  .ite (fun _ => always_scale (fun _ => UInt32.toNat_lt_size _) positive)
    fun _ => always_scale (fun _ => UInt64.toNat_lt_size _) positive

theorem always_between {first last : Nat} (ordered : first ≤ last) :
    Always (between first last : StateM σ Nat) fun drawn => first ≤ drawn ∧ drawn ≤ last :=
  .bind (always_below (by omega)) fun _ _ => .pure (by omega)

/-- Only an empty list has no member to draw. -/
theorem always_choose (members : List α) :
    Always (choose members : StateM σ (Option α)) fun drawn =>
      (members = [] ∧ drawn = none) ∨ ∃ member ∈ members, drawn = some member := by
  refine .ite (fun empty => .pure (.inl ⟨List.isEmpty_iff.mp empty, rfl⟩)) fun nonempty => ?_
  have positive : 0 < members.length :=
    List.length_pos_iff.mpr fun none => nonempty (List.isEmpty_iff.mpr none)
  refine .bind (always_below positive) fun index bounded => .pure (.inr ?_)
  exact ⟨members[index], List.getElem_mem bounded, List.getElem?_eq_getElem bounded⟩

theorem always_random (corpus : Corpus) :
    Always (corpus.random : StateM σ (Option Entry)) fun drawn =>
      ∀ entry, drawn = some entry → entry ∈ corpus.entries := by
  refine .ite (fun _ => .pure nofun) fun _ => ?_
  refine .bind always_word64 fun word _ => .pure fun entry held => ?_
  exact Array.mem_of_getElem? held

/-- Whether a number is from 0 to 1. -/
def isProbability (number : Float) : Bool := number == 1.0 || (0.0 ≤ number && number < 1.0)

/-- Chance answers for such numbers, and only for them. -/
theorem exists_chance_iff (probability : Float) (state : σ) :
    (∃ tossed, ((chance probability).run state).1 = .ok tossed) ↔
      isProbability probability = true := by
  unfold chance isProbability
  split
  next certain => exact iff_of_true ⟨true, rfl⟩ (by rw [certain, Bool.true_or])
  next uncertain =>
    rw [Bool.not_eq_true] at uncertain
    rw [uncertain, Bool.false_or]
    split
    next proper => exact iff_of_true ⟨_, rfl⟩ proper
    next improper => exact iff_of_false (by rintro ⟨_, ⟨⟩⟩) improper

end Crosscheck.Random
