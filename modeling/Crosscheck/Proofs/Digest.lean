import Mathlib
import Crosscheck.Digest

/-!
# Digests as names

The hexadecimal digits of octets are ordered as the octets are (`hex_append_lt_iff`), so what
is named for its digest is in the order of the digests if it is in that of the names.
-/

namespace Crosscheck.Digest

theorem digitChar_lt_iff : ∀ left < 16, ∀ right < 16,
    (Nat.digitChar left < Nat.digitChar right ↔ left < right) := by decide

theorem digitChar_eq_iff : ∀ left < 16, ∀ right < 16,
    (Nat.digitChar left = Nat.digitChar right ↔ left = right) := by decide

theorem digitChar_notMem : ∀ digit < 16, Nat.digitChar digit ∉ ['.', '/', '\x00'] := by decide

theorem utf8Size_digitChar : ∀ digit < 16, (Nat.digitChar digit).utf8Size = 1 := by decide

theorem hexOctet_append_lt_iff (left right : UInt8) (before after : List Char) :
    hexOctet left ++ before < hexOctet right ++ after ↔
      left < right ∨ left = right ∧ before < after := by
  have highLeft : left.toNat / 16 < 16 := by have := left.toNat_lt; omega
  have highRight : right.toNat / 16 < 16 := by have := right.toNat_lt; omega
  have lowLeft : left.toNat % 16 < 16 := Nat.mod_lt _ (by decide)
  have lowRight : right.toNat % 16 < 16 := Nat.mod_lt _ (by decide)
  simp only [hexOctet, List.cons_append, List.nil_append, List.cons_lt_cons_iff,
    digitChar_lt_iff _ highLeft _ highRight, digitChar_eq_iff _ highLeft _ highRight,
    digitChar_lt_iff _ lowLeft _ lowRight, digitChar_eq_iff _ lowLeft _ lowRight,
    UInt8.lt_iff_toNat_lt, ← UInt8.toNat_inj]
  by_cases follows : before < after <;> simp only [follows, and_true, and_false, or_false] <;> omega

/-- Hexadecimal digits keep the order of octets. -/
theorem hex_append_lt_iff {left right : List UInt8} (aligned : left.length = right.length)
    (ending : String) : hex left ++ ending < hex right ++ ending ↔ left < right := by
  simp only [String.lt_iff_toList_lt, String.toList_append, hex, String.toList_ofList]
  induction left generalizing right with
  | nil =>
      rw [List.length_eq_zero_iff.mp aligned.symm]
      simp
  | cons octet rest inductionHypothesis =>
      cases right with
      | nil => cases aligned
      | cons other others =>
          rw [List.flatMap_cons, List.flatMap_cons, List.append_assoc, List.append_assoc,
            hexOctet_append_lt_iff, List.cons_lt_cons_iff,
            inductionHypothesis (Nat.succ.inj aligned)]

/-- Among the digits is neither a dot nor a slash nor a zero. -/
theorem notMem_of_mem_hex {char : Char} {octets : List UInt8} (member : char ∈ (hex octets).toList) :
    char ∉ ['.', '/', '\x00'] := by
  rw [hex, String.toList_ofList, List.mem_flatMap] at member
  obtain ⟨octet, _, member⟩ := member
  have bound := octet.toNat_lt
  simp only [hexOctet, List.mem_cons, List.not_mem_nil, or_false] at member
  rcases member with rfl | rfl
  · exact digitChar_notMem _ (by omega)
  · exact digitChar_notMem _ (by omega)

theorem utf8ByteSize_hex (octets : List UInt8) :
    (hex octets).utf8ByteSize = 2 * octets.length := by
  rw [hex, String.utf8ByteSize_ofList]
  induction octets with
  | nil => rfl
  | cons octet rest inductionHypothesis =>
      have bound := octet.toNat_lt
      simp only [List.flatMap_cons, hexOctet, List.cons_append, List.nil_append,
        String.utf8Len_cons, inductionHypothesis, List.length_cons]
      rw [utf8Size_digitChar _ (by omega), utf8Size_digitChar _ (by omega)]
      omega

/-- Two messages have one digest. -/
def Collide (left right : List UInt8) : Prop :=
  left ≠ right ∧ md5 left = md5 right

/-- A digest has sixteen octets. -/
theorem length_md5 (message : List UInt8) : (md5 message).length = 16 := by
  simp [md5, wordOctets]

end Crosscheck.Digest
