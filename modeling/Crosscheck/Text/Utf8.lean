/-!
# UTF-8 text

Inputs are octet strings that need not be text. The reader below takes one octet
at a time and owes, between two octets, either nothing or the rest of one
sequence. An ill-formed octet ends the sequence it interrupts, which is replaced
as a whole, and is then read again as a first octet; so every maximal ill-formed
part becomes exactly one replacement character, and an ASCII octet always starts
afresh.

`decodeLossy` is the total reading, `decode?` the strict one, and `encode` their
inverse on text.
-/

namespace Crosscheck.Text.Utf8

/-- The character that stands for one ill-formed part. -/
def replacement : Char := Char.ofNat 0xFFFD

/-- What a reader owes between two octets. -/
inductive Pending where
  /-- Nothing: the next octet is a first octet. -/
  | boundary
  /-- `remaining` more octets, the next of them from `low` to `high`, complete
  the scalar value whose leading bits are `value`. -/
  | owed (value remaining : Nat) (low high : UInt8)
  deriving DecidableEq, Repr

/-- A reading in progress: its characters, latest first, whether every part so
far was well formed, and what is still owed. -/
structure Reading where
  latest : List Char
  sound : Bool
  pending : Pending

namespace Reading

/-- Nothing has been read. -/
def start : Reading := ⟨[], true, .boundary⟩

/-- Add one decoded character. -/
def emit (reading : Reading) (char : Char) : Reading :=
  { reading with latest := char :: reading.latest, pending := .boundary }

/-- Replace an ill-formed part. -/
def substitute (reading : Reading) : Reading :=
  { (reading.emit replacement) with sound := false }

/-- Read a first octet. Octets that begin no sequence are ill formed on their
own, and the second octets of E0, ED, F0 and F4 have a narrower range, which
excludes overlong forms, surrogates and values past the last scalar. -/
def first (reading : Reading) (octet : UInt8) : Reading :=
  if octet < 0x80 then reading.emit (Char.ofNat octet.toNat)
  else if octet < 0xC2 then reading.substitute
  else if octet < 0xE0 then
    { reading with pending := .owed (octet.toNat - 0xC0) 1 0x80 0xBF }
  else if octet < 0xF0 then
    { reading with
      pending := .owed (octet.toNat - 0xE0) 2
        (if octet = 0xE0 then 0xA0 else 0x80) (if octet = 0xED then 0x9F else 0xBF) }
  else if octet < 0xF5 then
    { reading with
      pending := .owed (octet.toNat - 0xF0) 3
        (if octet = 0xF0 then 0x90 else 0x80) (if octet = 0xF4 then 0x8F else 0xBF) }
  else reading.substitute

/-- Read one octet. -/
def next (reading : Reading) (octet : UInt8) : Reading :=
  match reading.pending with
  | .boundary => reading.first octet
  | .owed value remaining low high =>
    if low ≤ octet ∧ octet ≤ high then
      let value := value * 64 + (octet.toNat - 0x80)
      if remaining ≤ 1 then reading.emit (Char.ofNat value)
      else { reading with pending := .owed value (remaining - 1) 0x80 0xBF }
    else reading.substitute.first octet

/-- Close the reading: a sequence cut short is ill formed. -/
def finish (reading : Reading) : Reading :=
  match reading.pending with
  | .boundary => reading
  | .owed .. => reading.substitute

end Reading

/-- Read a whole octet string. -/
def read (octets : List UInt8) : Reading :=
  (octets.foldl Reading.next Reading.start).finish

/-- The text of an octet string, each maximal ill-formed part replaced. -/
def decodeLossy (octets : List UInt8) : List Char :=
  (read octets).latest.reverse

/-- The text of an octet string, if all of it is well formed. -/
def decode? (octets : List UInt8) : Option (List Char) :=
  let reading := read octets
  if reading.sound then some reading.latest.reverse else none

/-- The octets of a text. -/
def encode (text : List Char) : List UInt8 :=
  text.flatMap String.utf8EncodeChar

/-- The octets of a string. -/
def octets (text : String) : List UInt8 :=
  text.toUTF8.toList

/-- The text of an octet string as a string, each maximal ill-formed part replaced. -/
def lossyString (octets : List UInt8) : String :=
  String.ofList (decodeLossy octets)

end Crosscheck.Text.Utf8
