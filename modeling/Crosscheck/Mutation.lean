import Crosscheck.Corpus
import Crosscheck.Failure

/-!
# Mutation

A mutator derives a new input from a base, or synthesizes one without a base; the
corpus offers parts of other inputs. It answers with an input or a failure, unless it
unwinds.
-/

namespace Crosscheck

namespace Mutation

/-- What comes of a call to a mutator. -/
inductive Result where
  | ok (input : List UInt8)
  | failed (failure : Failure)
  /-- The call unwound through its caller. -/
  | unwound (payload : Payload)
  deriving DecidableEq, Repr

namespace Result

/-- The input, if there is one. -/
def input? : Result → Option (List UInt8)
  | .ok input => some input
  | .failed _ | .unwound _ => none

/-- The input, or another one in place of a failure. -/
def orElse (other : List UInt8) : Result → Except Payload (List UInt8)
  | .ok input => .ok input
  | .failed _ => .ok other
  | .unwound payload => .error payload

end Result
end Mutation

/-- Produces inputs from random decisions. -/
abbrev Mutator (σ : Type) := Option (List UInt8) → Option Corpus → StateM σ Mutation.Result

namespace Mutation

variable {σ : Type} [RandomSource σ]

/-- Add a number from 1 to 15 to one octet of the base, modulo 256. A missing or
empty base counts as one zero octet. -/
def shiftOctet (base : Option (List UInt8)) : StateM σ (List UInt8) := do
  let octets := base.getD []
  let octets := if octets.isEmpty then [0] else octets
  let delta ← Random.between 1 15
  let index ← Random.below octets.length
  return octets.modify index (· + UInt8.ofNat delta)

/-- The mutator that shifts one octet. -/
def octetShift : Mutator σ := fun base _ => do
  return .ok (← shiftOctet base)

end Mutation
end Crosscheck
