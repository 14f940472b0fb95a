import Crosscheck.Statement.Literal
import Crosscheck.Text.Octets

/-!
# Where literals lie

Literals are looked for octet by octet, since no digit, quote or letter of a word has more than
one. A span tells a literal by its offsets among the octets of its statement, and taking it
from there divides the statement at both of them, which has to be between two characters.
-/

namespace Crosscheck.Statement

/-- The octets from one offset up to another. -/
structure Span where
  first : Nat
  last : Nat
  deriving DecidableEq, Repr

/-- The literals of the rest of a statement when `offset` octets have been passed, the last of
them `previous`. A run of digits is passed as a whole, also where it goes on with a word. -/
def spansFrom (previous : Option Char) (quoting : Quoting) (offset : Nat) :
    List Char → List Span
  | [] => []
  | char :: rest =>
    if quoting = .outside ∧ char.isDigit then
      let digits := char :: rest.takeWhile Char.isDigit
      let further :=
        spansFrom digits.getLast? .outside (offset + digits.length) (rest.dropWhile Char.isDigit)
      if previous.any isWordChar then further
      else ⟨offset, offset + digits.length⟩ :: further
    else spansFrom (some char) (quoting.next char) (offset + 1) rest
termination_by text => text.length
decreasing_by
  · exact Nat.lt_succ_of_le (List.dropWhile_sublist _).length_le
  · exact Nat.lt_succ_self _

/-- The spans of the literals among the octets of a statement, from left to right. -/
def spans (octets : List UInt8) : List Span :=
  spansFrom none .outside 0 (Text.ofOctets octets)

/-- The literal at a span, with the text on both sides of it. There is none if the statement
cannot be divided at an end of the span. -/
def Span.literal? (octets : List UInt8) (span : Span) : Option Literal := do
  let before ← Text.Utf8.decode? (octets.take span.first)
  let digits ← Text.Utf8.decode? ((octets.take span.last).drop span.first)
  let after ← Text.Utf8.decode? (octets.drop span.last)
  return ⟨before, digits, after⟩

end Crosscheck.Statement
