import Mathlib
import Crosscheck.Text.Utf8

/-!
# Text and its encoding

Reading the octets of one character from a boundary gives that character and ends at a
boundary again, so a whole text is read back from its encoding, character by character. In
octets that need not be text, every octet of ASCII is such a boundary: what stands before it is
read as if it ended there, and what stands after it as if it began there
(`decodeLossy_append_cons`).
-/

namespace Crosscheck.Text.Utf8

namespace Reading

variable {reading : Reading}

theorem next_of_boundary (boundary : reading.pending = .boundary) (octet : UInt8) :
    reading.next octet = reading.first octet := by
  simp [next, boundary]

theorem toNat_continuation (bits : Nat) :
    (UInt8.ofNat (bits % 64 + 128)).toNat = bits % 64 + 128 := by
  simp
  omega

/-- An octet that continues a sequence adds its six bits; the last one completes it. -/
theorem next_of_owed {value remaining bits : Nat} {low high : UInt8}
    (owed : reading.pending = .owed value remaining low high)
    (above : low.toNat ≤ bits % 64 + 128) (below : bits % 64 + 128 ≤ high.toNat) :
    reading.next (UInt8.ofNat (bits % 64 + 128)) =
      if remaining ≤ 1 then reading.emit (Char.ofNat (value * 64 + bits % 64))
      else { reading with
        pending := .owed (value * 64 + bits % 64) (remaining - 1) 0x80 0xBF } := by
  rw [← toNat_continuation bits] at above below
  have within : low ≤ UInt8.ofNat (bits % 64 + 128) ∧ UInt8.ofNat (bits % 64 + 128) ≤ high :=
    ⟨UInt8.le_iff_toNat_le.mpr above, UInt8.le_iff_toNat_le.mpr below⟩
  have added : (UInt8.ofNat (bits % 64 + 128)).toNat - 0x80 = bits % 64 := by
    rw [toNat_continuation, Nat.add_sub_cancel]
  simp only [next, owed, within, and_self, ↓reduceIte, added]

theorem first_of_one {octet : UInt8} (below : octet.toNat < 0x80) :
    reading.first octet = reading.emit (Char.ofNat octet.toNat) := by
  simp [first, UInt8.lt_iff_toNat_lt, below]

theorem first_of_two {octet : UInt8} (above : 0xC2 ≤ octet.toNat) (below : octet.toNat < 0xE0) :
    reading.first octet =
      { reading with pending := .owed (octet.toNat - 0xC0) 1 0x80 0xBF } := by
  have long : ¬octet.toNat < 0x80 := by omega
  have sound : ¬octet.toNat < 0xC2 := by omega
  simp [first, UInt8.lt_iff_toNat_lt, long, sound, below]

theorem first_of_three {octet : UInt8} (above : 0xE0 ≤ octet.toNat)
    (below : octet.toNat < 0xF0) :
    reading.first octet =
      { reading with
        pending := .owed (octet.toNat - 0xE0) 2
          (if octet.toNat = 0xE0 then 0xA0 else 0x80)
          (if octet.toNat = 0xED then 0x9F else 0xBF) } := by
  have long : ¬octet.toNat < 0x80 := by omega
  have sound : ¬octet.toNat < 0xC2 := by omega
  have longer : ¬octet.toNat < 0xE0 := by omega
  simp [first, UInt8.lt_iff_toNat_lt, ← UInt8.toNat_inj, long, sound, longer, below]

theorem first_of_four {octet : UInt8} (above : 0xF0 ≤ octet.toNat)
    (below : octet.toNat < 0xF5) :
    reading.first octet =
      { reading with
        pending := .owed (octet.toNat - 0xF0) 3
          (if octet.toNat = 0xF0 then 0x90 else 0x80)
          (if octet.toNat = 0xF4 then 0x8F else 0xBF) } := by
  have long : ¬octet.toNat < 0x80 := by omega
  have sound : ¬octet.toNat < 0xC2 := by omega
  have longer : ¬octet.toNat < 0xE0 := by omega
  have longest : ¬octet.toNat < 0xF0 := by omega
  simp [first, UInt8.lt_iff_toNat_lt, ← UInt8.toNat_inj, long, sound, longer, longest, below]

/-- The octets of a character are read as that character. -/
theorem foldl_next_utf8EncodeChar (boundary : reading.pending = .boundary) (char : Char) :
    (String.utf8EncodeChar char).foldl next reading = reading.emit char := by
  have scalar : char.toNat < 0xD800 ∨ (0xDFFF < char.toNat ∧ char.toNat < 0x110000) := char.valid
  have named : Char.ofNat char.toNat = char := Char.ofNat_toNat char
  unfold String.utf8EncodeChar
  rw [show char.val.toNat = char.toNat from rfl]
  generalize char.toNat = value at scalar named
  subst named
  dsimp only
  -- One case for each number of octets, whose bits add up to the character's.
  split_ifs with one two three
  · have lead : (UInt8.ofNat value).toNat = value := by simp; omega
    rw [List.foldl_cons, List.foldl_nil, next_of_boundary boundary,
      first_of_one (by omega), lead]
  · have lead : (UInt8.ofNat (value / 64 % 32 + 192)).toNat = value / 64 + 192 := by simp; omega
    have whole : (value / 64 + 192 - 0xC0) * 64 + value % 64 = value := by omega
    rw [List.foldl_cons, next_of_boundary boundary, first_of_two (by omega) (by omega),
      List.foldl_cons, next_of_owed rfl (by simp) (by simp; omega), lead, whole]
    rfl
  · have lead : (UInt8.ofNat (value / 4096 % 16 + 224)).toNat = value / 4096 + 224 := by
      simp; omega
    have whole : ((value / 4096 + 224 - 0xE0) * 64 + value / 64 % 64) * 64 + value % 64 =
        value := by omega
    rw [List.foldl_cons, next_of_boundary boundary, first_of_three (by omega) (by omega),
      List.foldl_cons, next_of_owed rfl (by split <;> simp; omega) (by split <;> simp <;> omega),
      if_neg (by omega), List.foldl_cons, next_of_owed rfl (by simp) (by simp; omega),
      lead, whole]
    rfl
  · have lead : (UInt8.ofNat (value / 262144 % 8 + 240)).toNat = value / 262144 + 240 := by
      simp; omega
    have whole : (((value / 262144 + 240 - 0xF0) * 64 + value / 4096 % 64) * 64 +
        value / 64 % 64) * 64 + value % 64 = value := by omega
    rw [List.foldl_cons, next_of_boundary boundary, first_of_four (by omega) (by omega),
      List.foldl_cons, next_of_owed rfl (by split <;> simp; omega) (by split <;> simp <;> omega),
      if_neg (by omega), List.foldl_cons, next_of_owed rfl (by simp) (by simp; omega),
      if_neg (by omega), List.foldl_cons, next_of_owed rfl (by simp) (by simp; omega),
      lead, whole]
    rfl

end Reading

/-- An encoded text is read back from any boundary. -/
theorem read_encode (text : List Char) : read (encode text) = ⟨text.reverse, true, .boundary⟩ := by
  have all : ∀ reading : Reading, reading.pending = .boundary →
      (encode text).foldl Reading.next reading =
        { reading with latest := text.reverse ++ reading.latest } := by
    induction text with
    | nil =>
        intro reading _
        rfl
    | cons char rest inductionHypothesis =>
        intro reading boundary
        rw [encode, List.flatMap_cons, List.foldl_append,
          Reading.foldl_next_utf8EncodeChar boundary, ← encode, inductionHypothesis _ rfl]
        simp [Reading.emit, boundary]
  simp [read, all, Reading.start, Reading.finish]

/-- A text is what its encoding is read as. -/
theorem decodeLossy_encode (text : List Char) : decodeLossy (encode text) = text := by
  simp [decodeLossy, read_encode]

theorem decode?_encode (text : List Char) : decode? (encode text) = some text := by
  simp [decode?, read_encode]

/-- An octet of ASCII encodes only its own character. -/
theorem ofNat_eq_of_mem_utf8EncodeChar {octet : UInt8} {char : Char} (ascii : octet.toNat < 0x80)
    (member : octet ∈ String.utf8EncodeChar char) : Char.ofNat octet.toNat = char := by
  have named : Char.ofNat char.toNat = char := Char.ofNat_toNat char
  unfold String.utf8EncodeChar at member
  rw [show char.val.toNat = char.toNat from rfl] at member
  generalize char.toNat = value at member named
  subst named
  dsimp only at member
  -- All octets of a longer sequence are above.
  split_ifs at member with one two three
  · rw [List.mem_singleton] at member
    subst member
    congr 1
    simp
    omega
  all_goals
    simp only [List.mem_cons, List.not_mem_nil, or_false] at member
    exfalso
    rcases member with rfl | rfl | rfl | rfl <;> simp at ascii <;> omega

theorem encode_append (left right : List Char) :
    encode (left ++ right) = encode left ++ encode right := List.flatMap_append

theorem length_encode (text : List Char) :
    (encode text).length = (String.ofList text).utf8ByteSize := by
  rw [String.utf8ByteSize_ofList]
  induction text with
  | nil => rfl
  | cons char rest inductionHypothesis =>
      rw [encode, List.flatMap_cons, List.length_append, String.length_utf8EncodeChar, ← encode,
        inductionHypothesis, String.utf8Len_cons, Nat.add_comm]

/-- The octets of what a text begins with end between two characters of the text. -/
theorem isValid_length_encode (left right : List Char) :
    String.Pos.Raw.IsValid (String.ofList (left ++ right)) ⟨(encode left).length⟩ := by
  rw [String.Pos.Raw.isValid_iff_exists_append]
  refine ⟨String.ofList left, String.ofList right, String.ofList_append, ?_⟩
  rw [length_encode]
  rfl

namespace Reading

section Ascii

variable {reading : Reading} {octet : UInt8}

/-- What a reading owes is never an octet of ASCII. -/
def OwesAbove (reading : Reading) : Prop :=
  ∀ value remaining low high, reading.pending = .owed value remaining low high → 0x80 ≤ low

theorem OwesAbove.of_boundary (boundary : reading.pending = .boundary) : reading.OwesAbove := by
  intro value remaining low high owed
  simp [boundary] at owed

theorem OwesAbove.of_owed {value remaining : Nat} {low high : UInt8}
    (owed : reading.pending = .owed value remaining low high) (above : 0x80 ≤ low) :
    reading.OwesAbove := by
  intro _ _ _ _ same
  rw [owed, Pending.owed.injEq] at same
  exact same.2.2.1 ▸ above

theorem owesAbove_first (reading : Reading) (octet : UInt8) : (reading.first octet).OwesAbove := by
  unfold first
  split
  · exact .of_boundary rfl
  split
  · exact .of_boundary rfl
  split
  · exact .of_owed rfl (by decide)
  split
  · exact .of_owed rfl (by split <;> decide)
  split
  · exact .of_owed rfl (by split <;> decide)
  · exact .of_boundary rfl

theorem owesAbove_next (reading : Reading) (octet : UInt8) : (reading.next octet).OwesAbove := by
  unfold next
  split
  · exact owesAbove_first reading octet
  split
  · dsimp only
    split
    · exact .of_boundary rfl
    · exact .of_owed rfl (by decide)
  · exact owesAbove_first _ octet

theorem owesAbove_foldl (octets : List UInt8) : (octets.foldl next start).OwesAbove := by
  induction octets using List.reverseRecOn with
  | nil => exact .of_boundary rfl
  | append_singleton octets octet _ =>
      rw [List.foldl_concat]
      exact owesAbove_next _ octet

/-- An octet of ASCII ends what was being read and stands for itself. -/
theorem OwesAbove.next_of_ascii (above : reading.OwesAbove) (ascii : octet < 0x80) :
    reading.next octet = reading.finish.emit (Char.ofNat octet.toNat) := by
  have alone : ∀ reading : Reading, reading.first octet = reading.emit (Char.ofNat octet.toNat) :=
    fun reading => if_pos ascii
  unfold next finish
  split
  · exact alone reading
  next value remaining low high owed =>
    have below : ¬low ≤ octet := UInt8.not_le.mpr (UInt8.lt_of_lt_of_le ascii (above _ _ _ _ owed))
    rw [if_neg fun within => below within.1, alone]

/-- A reading with what was read before it. -/
def onto (reading earlier : Reading) : Reading :=
  { reading with
    latest := reading.latest ++ earlier.latest
    sound := reading.sound && earlier.sound }

theorem first_onto (reading earlier : Reading) (octet : UInt8) :
    (reading.onto earlier).first octet = (reading.first octet).onto earlier := by
  unfold first
  split_ifs <;> rfl

theorem next_onto (reading earlier : Reading) (octet : UInt8) :
    (reading.onto earlier).next octet = (reading.next octet).onto earlier := by
  obtain ⟨latest, sound, pending⟩ := reading
  cases pending with
  | boundary => exact first_onto _ earlier octet
  | owed value remaining low high =>
      unfold next
      dsimp only [onto]
      split_ifs
      · rfl
      · rfl
      · exact first_onto (substitute ⟨latest, sound, .owed value remaining low high⟩) earlier octet

/-- What was read before a boundary is left alone. -/
theorem foldl_next_onto (reading earlier : Reading) (octets : List UInt8) :
    octets.foldl next (reading.onto earlier) = (octets.foldl next reading).onto earlier := by
  induction octets generalizing reading with
  | nil => rfl
  | cons octet rest inductionHypothesis =>
      rw [List.foldl_cons, List.foldl_cons, next_onto, inductionHypothesis]

theorem finish_onto (reading earlier : Reading) :
    (reading.onto earlier).finish = reading.finish.onto earlier := by
  obtain ⟨latest, sound, pending⟩ := reading
  cases pending <;> rfl

end Ascii

end Reading

/-- An octet of ASCII divides what is read: not even a sequence that it cuts short reaches
across it. -/
theorem read_append_cons {octet : UInt8} (ascii : octet < 0x80) (left right : List UInt8) :
    read (left ++ octet :: right) =
      (read right).onto ((read left).emit (Char.ofNat octet.toNat)) := by
  have fresh : (read left).emit (Char.ofNat octet.toNat) =
      Reading.start.onto ((read left).emit (Char.ofNat octet.toNat)) := by
    simp [Reading.onto, Reading.start, Reading.emit]
  calc read (left ++ octet :: right)
    _ = (right.foldl Reading.next ((left.foldl Reading.next Reading.start).next octet)).finish := by
      rw [read, List.foldl_append, List.foldl_cons]
    _ = (right.foldl Reading.next ((read left).emit (Char.ofNat octet.toNat))).finish := by
      rw [(Reading.owesAbove_foldl left).next_of_ascii ascii]
      rfl
    _ = (read right).onto ((read left).emit (Char.ofNat octet.toNat)) := by
      rw [fresh, Reading.foldl_next_onto, Reading.finish_onto, ← fresh]
      rfl

theorem decodeLossy_append_cons {octet : UInt8} (ascii : octet < 0x80) (left right : List UInt8) :
    decodeLossy (left ++ octet :: right) =
      decodeLossy left ++ Char.ofNat octet.toNat :: decodeLossy right := by
  simp [decodeLossy, read_append_cons ascii, Reading.onto, Reading.emit]

end Crosscheck.Text.Utf8
