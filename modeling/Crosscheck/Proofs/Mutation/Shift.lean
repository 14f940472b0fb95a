import Mathlib
import Crosscheck.Mutation
import Crosscheck.Proofs.Random.Source

/-!
# One octet shifted

The place of a shift is drawn below the number of octets and its distance from 1 to 15, for any
words of the source, so the shift finds its octet (`always_below`) and never comes back to the
value that it started from. One octet is another one afterwards and all others are as they were.
-/

namespace Crosscheck.Mutation

open Crosscheck.Random

/-- The octets that a shift starts from: the base, or one zero octet if that is missing or empty. -/
def shiftBase : Option (List UInt8) → List UInt8
  | some (octet :: rest) => octet :: rest
  | _ => [0]

theorem shiftBase_eq (base : Option (List UInt8)) :
    shiftBase base = if (base.getD []).isEmpty then [0] else base.getD [] := by
  rcases base with _ | _ | ⟨octet, rest⟩ <;> rfl

theorem length_shiftBase (base : Option (List UInt8)) :
    (shiftBase base).length = max 1 (base.getD []).length := by
  rcases base with _ | _ | ⟨octet, rest⟩ <;> simp [shiftBase]

/-- One octet has moved ahead by 1 to 15, modulo 256, and nothing else has changed. -/
structure Shifted (before after : List UInt8) : Prop where
  length : after.length = before.length
  /-- A single place differs. -/
  once : ∃! place : Nat, after[place]? ≠ before[place]?
  ahead : ∀ place : Nat, after[place]? ≠ before[place]? →
    ∃ old new, before[place]? = some old ∧ after[place]? = some new ∧
      (new - old).toNat ∈ Finset.Icc 1 15

theorem toNat_ofNat_of_le {delta : Nat} (short : delta ≤ 15) : (UInt8.ofNat delta).toNat = delta :=
  UInt8.toNat_ofNat_of_lt' (by simp only [UInt8.size]; omega)

/-- A distance of 1 to 15 never leads back to the same octet. -/
theorem add_ofNat_ne {delta : Nat} (moves : 1 ≤ delta) (short : delta ≤ 15) (octet : UInt8) :
    octet + UInt8.ofNat delta ≠ octet := by
  intro back
  have none : UInt8.ofNat delta = 0 := by simpa using back
  have zero := congrArg UInt8.toNat none
  rw [toNat_ofNat_of_le short, UInt8.toNat_zero] at zero
  omega

theorem shifted_modify {octets : List UInt8} {index delta : Nat} (inside : index < octets.length)
    (moves : 1 ≤ delta) (short : delta ≤ 15) :
    Shifted octets (octets.modify index (· + UInt8.ofNat delta)) := by
  have elsewhere : ∀ place, place ≠ index →
      (octets.modify index (· + UInt8.ofNat delta))[place]? = octets[place]? := by
    intro place other
    simp [other.symm]
  have here : (octets.modify index (· + UInt8.ofNat delta))[index]? =
      some (octets[index] + UInt8.ofNat delta) := by
    simp [inside]
  have only : ∀ place, (octets.modify index (· + UInt8.ofNat delta))[place]? ≠ octets[place]? →
      place = index := by
    intro place differs
    by_contra other
    exact differs (elsewhere place other)
  refine ⟨List.length_modify _ _ _, ⟨index, ?_, only⟩, fun place differs => ?_⟩
  · simpa [here, inside] using add_ofNat_ne moves short octets[index]
  · obtain rfl := only place differs
    refine ⟨octets[place], _, List.getElem?_eq_getElem inside, here, ?_⟩
    rw [UInt8.add_comm, UInt8.add_sub_cancel, toNat_ofNat_of_le short]
    exact Finset.mem_Icc.mpr ⟨moves, short⟩

section Run

variable {σ : Type} [RandomSource σ]

theorem run_octetShift {base : Option (List UInt8)} {corpus : Option Corpus} {delta index : Nat}
    {state middle after : σ} (moved : (between 1 15).run state = (delta, middle))
    (placed : (below (shiftBase base).length).run middle = (index, after)) :
    (octetShift base corpus).run state =
      (.ok ((shiftBase base).modify index (· + UInt8.ofNat delta)), after) := by
  rw [shiftBase_eq] at placed ⊢
  have shifted : (shiftOctet base).run state = (_, after) :=
    (run_bind_of_run moved).trans (run_bind_of_run placed)
  exact run_bind_of_run shifted

/-- A shift draws its distance and then its place, which is that of an octet. It answers with as
many octets as the base has, at least one, and differs from what it started from in a single
place, where it is ahead by 1 to 15, modulo 256. -/
theorem shifted_octetShift (base : Option (List UInt8)) (corpus : Option Corpus) (state : σ) :
    ∃ delta index middle after output,
      (between 1 15).run state = (delta, middle) ∧
      (below (shiftBase base).length).run middle = (index, after) ∧
      index < (shiftBase base).length ∧
      (octetShift base corpus).run state = (.ok output, after) ∧
      output.length = max 1 (base.getD []).length ∧
      Shifted (shiftBase base) output := by
  have positive : 0 < (shiftBase base).length := by
    rw [length_shiftBase]
    omega
  rcases moved : (between 1 15).run state with ⟨delta, middle⟩
  rcases placed : (below (shiftBase base).length).run middle with ⟨index, after⟩
  have distance := always_between (σ := σ) (show 1 ≤ 15 by decide) state
  have inside := always_below positive middle
  rw [moved] at distance
  rw [placed] at inside
  have shifted := shifted_modify inside distance.1 distance.2
  exact ⟨delta, index, middle, after, _, rfl, placed, inside, run_octetShift moved placed,
    shifted.length.trans (length_shiftBase base), shifted⟩

end Run
end Crosscheck.Mutation
