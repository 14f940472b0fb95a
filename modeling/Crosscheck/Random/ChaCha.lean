import Crosscheck.Random.Source

/-!
# A seeded source

The words of the ChaCha stream with eight rounds, in order, from block zero of
stream zero. A campaign that starts from the same seed makes the same decisions.
-/

namespace Crosscheck.Random

/-- A stream position: the key, the next block, the words left of the current one,
and the number of words taken. -/
structure ChaCha where
  key : List UInt32
  block : Nat
  ready : List UInt32
  taken : Nat
  deriving Repr

namespace ChaCha

/-- The constant words of every block. -/
def constants : List UInt32 := [0x61707865, 0x3320646e, 0x79622d32, 0x6b206574]

/-- Rotate a word to the left. -/
def rotateLeft (word amount : UInt32) : UInt32 :=
  (word <<< amount) ||| (word >>> (32 - amount))

/-- One quarter round on the words at four positions. -/
def quarterRound (words : Array UInt32) (a b c d : Nat) : Array UInt32 :=
  let mix (words : Array UInt32) (target addend mixed : Nat) (amount : UInt32) : Array UInt32 :=
    let sum := words.getD target 0 + words.getD addend 0
    let words := words.setIfInBounds target sum
    words.setIfInBounds mixed (rotateLeft (words.getD mixed 0 ^^^ sum) amount)
  mix (mix (mix (mix words a b d 16) c d b 12) a b d 8) c d b 7

/-- Four column rounds and four diagonal rounds. -/
def doubleRound (words : Array UInt32) : Array UInt32 :=
  let words := quarterRound words 0 4 8 12
  let words := quarterRound words 1 5 9 13
  let words := quarterRound words 2 6 10 14
  let words := quarterRound words 3 7 11 15
  let words := quarterRound words 0 5 10 15
  let words := quarterRound words 1 6 11 12
  let words := quarterRound words 2 7 8 13
  quarterRound words 3 4 9 14

/-- The sixteen words of a block: the mixed state added to the state itself. -/
def blockWords (key : List UInt32) (block : Nat) : List UInt32 :=
  let counter := [UInt32.ofNat (block % UInt32.size), UInt32.ofNat (block / UInt32.size % UInt32.size)]
  let initial := (constants ++ key ++ counter ++ [0, 0]).toArray
  let mixed := doubleRound (doubleRound (doubleRound (doubleRound initial)))
  (mixed.zipWith (· + ·) initial).toList

/-- The stream of a key. -/
def ofKey (key : List UInt32) : ChaCha := ⟨key, 0, [], 0⟩

/-- One key word from a 64-bit state: the high bits choose the rotation of a
folded middle part. -/
def keyWord (state : UInt64) : UInt32 :=
  let folded := (((state >>> 18) ^^^ state) >>> 27).toUInt32
  let amount := (state >>> 59).toUInt32
  if amount = 0 then folded else (folded >>> amount) ||| (folded <<< (32 - amount))

/-- The key words that follow a 64-bit state. -/
def keyWords : Nat → UInt64 → List UInt32
  | 0, _ => []
  | count + 1, state =>
    let state := state * 6364136223846793005 + 11634580027462260723
    keyWord state :: keyWords count state

/-- The stream of a seed. -/
def ofSeed (seed : UInt64) : ChaCha := ofKey (keyWords 8 seed)

/-- Take the next word. -/
def next (stream : ChaCha) : UInt32 × ChaCha :=
  match stream.ready with
  | word :: rest => (word, { stream with ready := rest, taken := stream.taken + 1 })
  | [] =>
    let words := blockWords stream.key stream.block
    (words.headD 0,
      { stream with block := stream.block + 1, ready := words.tail, taken := stream.taken + 1 })

/-- A 64-bit word is two words, the low one first. -/
instance : RandomSource ChaCha where
  next32 := next
  next64 stream :=
    let (low, stream) := next stream
    let (high, stream) := next stream
    (low.toUInt64 ||| (high.toUInt64 <<< 32), stream)

end ChaCha
end Crosscheck.Random
