import Crosscheck.Random.Source

/-!
# A prescribed source

A source that repeats a given list of words, one for each call, so that every
decision of a run can be chosen in advance.
-/

namespace Crosscheck.Random

/-- A cycle of words and the number of calls made. -/
structure Cycle where
  words : Array UInt64
  taken : Nat

namespace Cycle

/-- The cycle before its first call. -/
def ofList (words : List UInt64) : Cycle := ⟨words.toArray, 0⟩

/-- Take the next word; a source without words yields zero. -/
def next (cycle : Cycle) : UInt64 × Cycle :=
  (cycle.words.getD (cycle.taken % cycle.words.size) 0, { cycle with taken := cycle.taken + 1 })

/-- A call for 32 bits takes a whole word and keeps its low half. -/
instance : RandomSource Cycle where
  next32 cycle :=
    let (word, cycle) := next cycle
    (word.toUInt32, cycle)
  next64 := next

end Cycle
end Crosscheck.Random
