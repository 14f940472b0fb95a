/-!
# Buffers

Octets that were written and not read yet, first in, first out. Those written of late are
kept in reverse, so that writing costs no more than what is written.
-/

namespace Crosscheck

/-- Octets that wait to be read. -/
structure Buffer where
  /-- The octets to be read first. -/
  front : List UInt8 := []
  /-- The octets after those, latest first. -/
  back : List UInt8 := []
  size : Nat := 0
  deriving DecidableEq, Repr

namespace Buffer

/-- The octets of a buffer, in the order in which they were written. -/
def octets (buffer : Buffer) : List UInt8 :=
  if buffer.back.isEmpty then buffer.front else buffer.front ++ buffer.back.reverse

/-- Write octets. -/
def push (buffer : Buffer) (octets : List UInt8) : Buffer :=
  { buffer with
    back := octets.reverse ++ buffer.back
    size := buffer.size + octets.length }

/-- What is left of a buffer when octets were read. -/
def drop (buffer : Buffer) (count : Nat) : Buffer :=
  { front := buffer.octets.drop count, size := buffer.size - count }

/-- Writing comes after what was written before. -/
theorem octets_push (buffer : Buffer) (octets : List UInt8) :
    (buffer.push octets).octets = buffer.octets ++ octets := by
  unfold push Buffer.octets
  cases hback : buffer.back <;> cases octets <;> simp

/-- What is read is taken from the start. -/
theorem octets_drop (buffer : Buffer) (count : Nat) :
    (buffer.drop count).octets = buffer.octets.drop count := rfl

end Buffer
end Crosscheck
