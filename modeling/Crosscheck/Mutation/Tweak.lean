import Crosscheck.Failure
import Crosscheck.Mutation.Pool
import Crosscheck.Random.Source
import Crosscheck.Statement.Span

/-!
# Tweaking integer literals

One literal of a statement becomes a neighbour of its value or a value at the edge
of an integer type. Values are signed words of 128 bits: literals of 2^127 and more have
no neighbours and become zero. The largest word itself has no next one. Whether sums are
checked is up to how the program is built: if they are, the addition unwinds, and if not,
the largest word is followed by the smallest.
-/

namespace Crosscheck

/-- What becomes of a sum that is out of range. -/
inductive Overflow where
  /-- Sums are checked, as they are unless a build leaves the checks out. -/
  | unwinds
  | wraps
  deriving DecidableEq, Repr

namespace Overflow

/-- What a checked sum unwinds with. -/
def payload : Payload := .text "attempt to add with overflow"

/-- A sum of two signed words of 128 bits. -/
def add (overflow : Overflow) (left right : Int) : Except Payload Int :=
  let word := Int.bmod (left + right) (Nat.pow 2 128)
  if overflow = .unwinds ∧ word ≠ left + right then .error payload else .ok word

end Overflow

namespace Mutation

variable {σ : Type} [RandomSource σ]

/-- The decimal of an integer. -/
def integerText (value : Int) : List Char :=
  match value with
  | .ofNat value => Nat.toDigits 10 value
  | .negSucc value => '-' :: Nat.toDigits 10 (value + 1)

/-- The decimal of the value of a literal moved by an offset, or zero if the value is
out of range. -/
def neighbour (overflow : Overflow) (literal : Statement.Literal) (offset : Int) :
    Except Payload (List Char) :=
  if literal.value < Nat.pow 2 127 then (overflow.add literal.value offset).map integerText
  else .ok ['0']

/-- Draw what replaces a literal. -/
def replacement (overflow : Overflow) (literal : Statement.Literal) :
    StateM σ (Except Payload (Option (List Char))) := do
  match ← Random.below 3 with
  | 0 => return (neighbour overflow literal 1).map some
  | 1 => return (neighbour overflow literal (-1)).map some
  | _ => return .ok ((← Random.choose edgeIntegers).map String.toList)

/-- Replace one literal of a statement, if it has any. -/
def tweakLiteral (overflow : Overflow) (statement : String) :
    StateM σ (Except Payload (Option String)) := do
  let octets := Text.Utf8.encode statement.toList
  match (← Random.choose (Statement.spans octets)).bind (Statement.Span.literal? octets) with
  | none => return .ok none
  | some literal =>
    let replaced := fun digits => String.ofList (literal.replace digits)
    return (← replacement overflow literal).map (·.map replaced)

end Mutation
end Crosscheck
