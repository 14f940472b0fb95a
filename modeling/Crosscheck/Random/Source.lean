import Crosscheck.Decimal.Shortest
import Crosscheck.Failure

/-!
# Random sources

Every random decision is made from a stream of words, and a source may be any state
that yields one. A bounded choice multiplies a word by the number of values and
takes the high half; a second word settles the cases in which the low half leaves
the high half in doubt.
-/

namespace Crosscheck

/-- A state that yields words of 32 and of 64 bits. -/
class RandomSource (σ : Type) where
  next32 : σ → UInt32 × σ
  next64 : σ → UInt64 × σ

/-- A source of one of two kinds. -/
instance {σ τ : Type} [RandomSource σ] [RandomSource τ] : RandomSource (σ ⊕ τ) where
  next32
    | .inl state => (RandomSource.next32 state).map id .inl
    | .inr state => (RandomSource.next32 state).map id .inr
  next64
    | .inl state => (RandomSource.next64 state).map id .inl
    | .inr state => (RandomSource.next64 state).map id .inr

namespace Random

variable {σ : Type} [RandomSource σ]

/-- Take one word of 32 bits. -/
def word32 : StateM σ UInt32 := RandomSource.next32

/-- Take one word of 64 bits. -/
def word64 : StateM σ UInt64 := RandomSource.next64

/-- The product of a word below `size` and a count, as high and low half. -/
def wideProduct (size word count : Nat) : Nat × Nat :=
  let product := word * count
  (product / size, product % size)

/-- A number below `count`, which is positive and below `size`, from words below `size`. The
second word decides whether the sum of the discarded low half and its own high half carries. -/
def scale (size : Nat) (word : StateM σ Nat) (count : Nat) : StateM σ Nat := do
  let (high, low) := wideProduct size (← word) count
  if low > size - count then
    let (carry, _) := wideProduct size (← word) count
    return if low + carry ≥ size then high + 1 else high
  else
    return high

/-- A number below `count`, which is positive and below 2^64. The words have 64 bits only
where 32 bits are too few for the count. -/
def below (count : Nat) : StateM σ Nat :=
  if count < UInt32.size then scale UInt32.size (UInt32.toNat <$> word32) count
  else scale UInt64.size (UInt64.toNat <$> word64) count

/-- A number from `first` to `last`, both included. -/
def between (first last : Nat) : StateM σ Nat := do
  return first + (← below (last + 1 - first))

/-- A member of a list; an empty list takes no word. -/
def choose {α : Type} (members : List α) : StateM σ (Option α) := do
  if members.isEmpty then return none
  return members[← below members.length]?

/-- True with the given probability. Certainty takes no word, and a number that is not from 0
to 1 unwinds. -/
def chance (probability : Float) : StateM σ (Except Payload Bool) := do
  if probability == 1.0 then return .ok true
  if 0.0 ≤ probability && probability < 1.0 then
    return .ok ((← word64) < (probability * 18446744073709551616.0).toUInt64)
  return .error
    (.text ("p=" ++ Decimal.shortest probability ++ " is outside range [0.0, 1.0]"))

/-- A number from 0 to 1, 1 excluded, with 53 random bits. -/
def unit : StateM σ Float := do
  return ((← word64) >>> 11).toFloat * Float.scaleB 1.0 (-53)

end Random
end Crosscheck
