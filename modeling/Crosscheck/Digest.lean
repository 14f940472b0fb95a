/-!
# Message digests

The MD5 digest of an octet string, by which inputs and coverage are named. The
message is padded to whole blocks of sixteen little-endian words; each block is
folded into four chaining words in sixty-four steps.
-/

namespace Crosscheck.Digest

/-- The four chaining words. -/
structure Chain where
  a : UInt32
  b : UInt32
  c : UInt32
  d : UInt32

/-- The chaining words before the first block. -/
def Chain.start : Chain := ⟨0x67452301, 0xefcdab89, 0x98badcfe, 0x10325476⟩

/-- The additive constant of each step. -/
def constants : Array UInt32 := #[
  0xd76aa478, 0xe8c7b756, 0x242070db, 0xc1bdceee, 0xf57c0faf, 0x4787c62a, 0xa8304613, 0xfd469501,
  0x698098d8, 0x8b44f7af, 0xffff5bb1, 0x895cd7be, 0x6b901122, 0xfd987193, 0xa679438e, 0x49b40821,
  0xf61e2562, 0xc040b340, 0x265e5a51, 0xe9b6c7aa, 0xd62f105d, 0x02441453, 0xd8a1e681, 0xe7d3fbc8,
  0x21e1cde6, 0xc33707d6, 0xf4d50d87, 0x455a14ed, 0xa9e3e905, 0xfcefa3f8, 0x676f02d9, 0x8d2a4c8a,
  0xfffa3942, 0x8771f681, 0x6d9d6122, 0xfde5380c, 0xa4beea44, 0x4bdecfa9, 0xf6bb4b60, 0xbebfbc70,
  0x289b7ec6, 0xeaa127fa, 0xd4ef3085, 0x04881d05, 0xd9d4d039, 0xe6db99e5, 0x1fa27cf8, 0xc4ac5665,
  0xf4292244, 0x432aff97, 0xab9423a7, 0xfc93a039, 0x655b59c3, 0x8f0ccc92, 0xffeff47d, 0x85845dd1,
  0x6fa87e4f, 0xfe2ce6e0, 0xa3014314, 0x4e0811a1, 0xf7537e82, 0xbd3af235, 0x2ad7d2bb, 0xeb86d391]

/-- The rotation of each step: every round repeats four amounts. -/
def rotations : Array UInt32 := #[7, 12, 17, 22, 5, 9, 14, 20, 4, 11, 16, 23, 6, 10, 15, 21]

/-- Rotate a word to the left. -/
def rotateLeft (word amount : UInt32) : UInt32 :=
  (word <<< amount) ||| (word >>> (32 - amount))

/-- One step: a round function of three words, and the block word it takes. -/
def step (block : Array UInt32) (chain : Chain) (index : Nat) : Chain :=
  let (mixed, wordIndex) :=
    if index < 16 then ((chain.b &&& chain.c) ||| (~~~chain.b &&& chain.d), index)
    else if index < 32 then ((chain.d &&& chain.b) ||| (~~~chain.d &&& chain.c), (5 * index + 1) % 16)
    else if index < 48 then (chain.b ^^^ chain.c ^^^ chain.d, (3 * index + 5) % 16)
    else (chain.c ^^^ (chain.b ||| ~~~chain.d), (7 * index) % 16)
  let sum := chain.a + mixed + constants.getD index 0 + block.getD wordIndex 0
  let rotated := rotateLeft sum (rotations.getD (index / 16 * 4 + index % 4) 0)
  ⟨chain.d, chain.b + rotated, chain.b, chain.c⟩

/-- Fold one block into the chaining words. -/
def absorb (chain : Chain) (block : Array UInt32) : Chain :=
  let mixed := (List.range 64).foldl (step block) chain
  ⟨chain.a + mixed.a, chain.b + mixed.b, chain.c + mixed.c, chain.d + mixed.d⟩

/-- The eight octets of a length in bits, lowest first. -/
def lengthOctets (bits : Nat) : List UInt8 :=
  (List.range 8).map fun index => UInt8.ofNat (bits / Nat.pow 256 index % 256)

/-- A message with a one bit, zeros up to eight octets before the end of a block, and its length. -/
def pad (message : List UInt8) : List UInt8 :=
  let length := message.length
  message ++ 0x80 :: List.replicate ((119 - length % 64) % 64) 0 ++ lengthOctets (8 * length)

/-- The little-endian word at an offset. -/
def wordAt (octets : Array UInt8) (offset : Nat) : UInt32 :=
  (List.range 4).foldl (fun word index =>
    word ||| ((octets.getD (offset + index) 0).toUInt32 <<< UInt32.ofNat (8 * index))) 0

/-- The sixteen words of one block. -/
def blockAt (octets : Array UInt8) (index : Nat) : Array UInt32 :=
  (Array.range 16).map fun word => wordAt octets (64 * index + 4 * word)

/-- The octets of a word, lowest first. -/
def wordOctets (word : UInt32) : List UInt8 :=
  (List.range 4).map fun index => (word >>> UInt32.ofNat (8 * index)).toUInt8

/-- The sixteen octets of the digest. -/
def md5 (message : List UInt8) : List UInt8 :=
  let octets := (pad message).toArray
  let chain := (List.range (octets.size / 64)).foldl
    (fun chain index => absorb chain (blockAt octets index)) Chain.start
  [chain.a, chain.b, chain.c, chain.d].flatMap wordOctets

/-- The two lower-case hexadecimal digits of an octet. -/
def hexOctet (octet : UInt8) : List Char :=
  [Nat.digitChar (octet.toNat / 16), Nat.digitChar (octet.toNat % 16)]

/-- Octets as lower-case hexadecimal digits. -/
def hex (octets : List UInt8) : String :=
  String.ofList (octets.flatMap hexOctet)

/-- The digest in hexadecimal digits. -/
def hexMd5 (message : List UInt8) : String :=
  hex (md5 message)

end Crosscheck.Digest
