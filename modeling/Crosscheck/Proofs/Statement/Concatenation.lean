import Mathlib
import Crosscheck.Proofs.Statement.RoundTrip

/-!
# Splitting inputs that are put together

A terminator between two inputs divides their statements, if the first input ends outside
quotes. The inputs are octets that need not be text: a sequence that the terminator cuts short
is replaced before it, and the octets that would have gone on with it are replaced after it,
just as if the two inputs were read alone.
-/

namespace Crosscheck.Statement

open Text

/-- The octet of the terminator is read as the terminator, whatever stands around it. -/
theorem decodeLossy_append_terminator (left right : List UInt8) :
    Utf8.decodeLossy (left ++ Utf8.encode [terminator] ++ right) =
      Utf8.decodeLossy left ++ terminator :: Utf8.decodeLossy right := by
  have octets : Utf8.encode [terminator] = [0x3B] := by decide
  rw [octets, List.append_assoc, List.singleton_append]
  exact Utf8.decodeLossy_append_cons (by decide) left right

theorem split_append {left : List UInt8}
    (closed : Quoting.outside.after (Utf8.decodeLossy left) = .outside) (right : List UInt8) :
    split (left ++ Utf8.encode [terminator] ++ right) = split left ++ split right := by
  apply toList_injective
  rw [List.map_append, map_toList_split, map_toList_split, map_toList_split,
    decodeLossy_append_terminator, splitText_append closed]

/-- Statements are divided at a terminator that stands outside quotes, and each of them is
trimmed, not blank and without such a terminator, whatever octets an input is made of. -/
theorem split_divides :
    (∀ left right : List UInt8, Quoting.outside.after (Utf8.decodeLossy left) = .outside →
      split (left ++ Utf8.encode [terminator] ++ right) = split left ++ split right) ∧
    ∀ input : List UInt8, ∀ statement ∈ split input,
      (∃ char ∈ statement.toList, isBlank char = false) ∧
      Trimmed statement.toList ∧ ¬HasBare .outside statement.toList := by
  refine ⟨fun left right closed => split_append closed right, fun input statement member => ?_⟩
  have whole := whole_of_mem_split member
  exact ⟨whole.nonblank, whole.trimmed, whole.unbroken⟩

/-- The first two octets of a sequence of three end one input, behind a quoted terminator, and
the last one begins the next, which leaves a quote open. -/
theorem split_divides_truncated :
    Quoting.outside.after (Utf8.decodeLossy [0x27, 0x3B, 0x27, 0xE2, 0x82]) = .outside ∧
    split ([0x27, 0x3B, 0x27, 0xE2, 0x82] ++ Utf8.encode [terminator] ++
      [0xAC, 0x20, 0x3B, 0x0A, 0x22, 0x61]) = ["';'\uFFFD", "\uFFFD", "\"a"] := by
  have closed : Quoting.outside.after
      (Utf8.decodeLossy [0x27, 0x3B, 0x27, 0xE2, 0x82]) = .outside := by decide +kernel
  refine ⟨closed, ?_⟩
  rw [split_divides.1 _ _ closed]
  decide +kernel

end Crosscheck.Statement
