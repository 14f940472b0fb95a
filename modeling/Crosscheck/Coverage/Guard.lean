/-!
# Guard registries

An instrumented image carries one guard slot per edge, all zero when it is loaded.
The registry gives each slot of an image an identifier of its own, counting upward
over every image of a process. Zero means an inactive edge and is never given out.
-/

namespace Crosscheck

/-- What a registry refuses. -/
inductive GuardError where
  /-- The section starts past its end. -/
  | invalidRange (start stop : Nat)
  /-- The section needs more identifiers than are left. -/
  | exhausted (issued requested : Nat)
  deriving DecidableEq, Repr

/-- A position in hexadecimal digits. -/
def GuardError.position (value : Nat) : String := "0x" ++ String.ofList (Nat.toDigits 16 value)

/-- The wording of a refusal. -/
def GuardError.message : GuardError → String
  | .invalidRange start stop =>
    s!"guard range is corrupt: start {position start} is past stop {position stop}"
  | .exhausted issued requested =>
    s!"guard id space exhausted: {issued} ids issued, {requested} more requested"

/-- The identifiers given out so far, which are all from one up to `lastIssued`. -/
structure GuardRegistry where
  lastIssued : Nat
  bounded : lastIssued < UInt32.size := by decide

/-- The guard slots of one image. -/
abbrev GuardImage := Array UInt32

namespace GuardRegistry

/-- What a request leaves behind: the number of guards assigned or the refusal, the
registry and the image. -/
structure Assignment where
  assigned : Except GuardError Nat
  registry : GuardRegistry
  image : GuardImage

/-- Nothing has been given out. -/
def empty : GuardRegistry := { lastIssued := 0 }

/-- Number `count` slots from `start` on, beginning after `base`. -/
def number (image : GuardImage) (base start count : Nat) : GuardImage :=
  (List.range count).foldl
    (fun image offset => image.setIfInBounds (start + offset) (UInt32.ofNat (base + 1 + offset)))
    image

/-- Assign identifiers to the slots of an image from `start` up to `stop`. An empty
section, or one whose first slot already has an identifier, is left as it is: an
image may announce itself more than once. -/
def assignRange (registry : GuardRegistry) (image : GuardImage) (start stop : Nat) : Assignment :=
  if start = stop then ⟨.ok 0, registry, image⟩
  else if start > stop then ⟨.error (.invalidRange start stop), registry, image⟩
  else if image.getD start 0 ≠ 0 then ⟨.ok 0, registry, image⟩
  else if fits : registry.lastIssued + (stop - start) < UInt32.size then
    ⟨.ok (stop - start), { lastIssued := registry.lastIssued + (stop - start), bounded := fits },
      number image registry.lastIssued start (stop - start)⟩
  else ⟨.error (.exhausted registry.lastIssued (stop - start)), registry, image⟩

/-- Assign identifiers to all slots of an image. -/
def assign (registry : GuardRegistry) (image : GuardImage) : Assignment :=
  registry.assignRange image 0 image.size

end GuardRegistry
end Crosscheck
