/-!
# JSON documents as they are read

Reading goes from left to right, and what a reader wants from a document may already
fail before the place where the text breaks the grammar. So a document keeps
everything up to that place: a broken value is a leaf of its own, and an array or an
object remembers whether it was closed.
-/

namespace Crosscheck.Json

/-- A document, possibly broken off. -/
inductive Document where
  /-- The text breaks the grammar here. -/
  | malformed
  | null
  | bool (value : Bool)
  /-- A number written with digits alone. -/
  | natural (value : Nat)
  /-- A number with a sign, a fraction or an exponent, and whether it is finite. -/
  | decimal (finite : Bool)
  /-- A string; `none` if its escapes leave half of a surrogate pair. -/
  | string (value : Option String)
  | array (items : List Document) (closed : Bool)
  | object (members : List (Option String × Document)) (closed : Bool)
  deriving Repr, Inhabited

namespace Document

/-- A blank between tokens. -/
def isBlank (char : Char) : Bool :=
  char == ' ' || char == '\n' || char == '\t' || char == '\r'

/-- A text without the blanks in front. -/
def skipBlanks (text : List Char) : List Char := text.dropWhile isBlank

/-- The value of a hexadecimal digit. -/
def hexValue? (char : Char) : Option Nat :=
  if char.isDigit then some (char.toNat - '0'.toNat)
  else if 'a' ≤ char ∧ char ≤ 'f' then some (char.toNat - 'a'.toNat + 10)
  else if 'A' ≤ char ∧ char ≤ 'F' then some (char.toNat - 'A'.toNat + 10)
  else none

/-- The value of four hexadecimal digits. -/
def hexValue4? (a b c d : Char) : Option Nat := do
  return (((← hexValue? a) * 16 + (← hexValue? b)) * 16 + (← hexValue? c)) * 16 + (← hexValue? d)

/-- The character of a one-letter escape. -/
def shortEscape? : Char → Option Char
  | '\x22' => some '\x22'
  | '\\' => some '\\'
  | '/' => some '/'
  | 'b' => some '\x08'
  | 'f' => some '\x0c'
  | 'n' => some '\n'
  | 'r' => some '\r'
  | 't' => some '\t'
  | _ => none

/-- A string being read: its characters, latest first, whether it still denotes a
text, and the high half of a surrogate pair that waits for the low one. -/
structure Spelling where
  latest : List Char := []
  sound : Bool := true
  high : Option Nat := none

namespace Spelling

/-- Add a character; a waiting half has no partner then. -/
def push (spelling : Spelling) (char : Char) : Spelling :=
  { latest := char :: spelling.latest
    sound := spelling.sound && spelling.high.isNone
    high := none }

/-- Add a code unit. -/
def pushUnit (spelling : Spelling) (unit : Nat) : Spelling :=
  if 0xD800 ≤ unit ∧ unit < 0xDC00 then
    { spelling with sound := spelling.sound && spelling.high.isNone, high := some unit }
  else if 0xDC00 ≤ unit ∧ unit < 0xE000 then
    match spelling.high with
    | some high =>
      { spelling with
        latest := Char.ofNat (0x10000 + (high - 0xD800) * 0x400 + (unit - 0xDC00)) :: spelling.latest
        high := none }
    | none => { spelling with sound := false }
  else spelling.push (Char.ofNat unit)

/-- The text, if the string denotes one. -/
def finish (spelling : Spelling) : Option String :=
  if spelling.sound ∧ spelling.high.isNone then some (String.ofList spelling.latest.reverse)
  else none

end Spelling

/-- Read a string after its opening delimiter; `none` if it breaks the grammar. -/
def readText (spelling : Spelling) : List Char → Option (Option String × List Char)
  | [] => none
  | '\x22' :: rest => some (spelling.finish, rest)
  | '\\' :: 'u' :: a :: b :: c :: d :: rest =>
    match hexValue4? a b c d with
    | some unit => readText (spelling.pushUnit unit) rest
    | none => none
  | '\\' :: letter :: rest =>
    match shortEscape? letter with
    | some char => readText (spelling.push char) rest
    | none => none
  | char :: rest =>
    if char.toNat < 0x20 ∨ char = '\\' then none else readText (spelling.push char) rest

/-- The value of a run of digits. -/
def digitsValue (digits : List Char) : Nat :=
  digits.foldl (fun value digit => 10 * value + (digit.toNat - '0'.toNat)) 0

/-- Append digits to a number as long as it fits 64 bits: the number, and the digits that
are left. -/
def significand (value : Nat) : List Char → Nat × List Char
  | [] => (value, [])
  | digit :: rest =>
    let longer := 10 * value + digitsValue [digit]
    if longer < UInt64.size then significand longer rest else (value, digit :: rest)

/-- The number of binary64 that is nearest to a natural number, the even one of two, as long
as it is finite: a multiple of a power of two with 53 binary digits. -/
def nearest (value : Nat) : Nat :=
  let unit := Nat.pow 2 (value.log2 - 52)
  let count := value / unit
  let rest := 2 * (value % unit)
  if rest < unit ∨ (rest = unit ∧ count % 2 = 0) then count * unit else (count + 1) * unit

/-- The least number that is nearer to infinity: the largest finite one and half a unit. -/
def overflow : Nat := Nat.pow 2 1024 - Nat.pow 2 970

/-- Whether a number is finite when it is taken as a product of two numbers of binary64:
one for the digits that fit 64 bits and one for the power of ten. -/
def isFinite (digits fraction : List Char) (exponent : Int) : Bool :=
  let (value, left) := significand 0 digits
  let (value, dropped) := significand value fraction
  let exponent := exponent + left.length - (fraction.length - dropped.length)
  value == 0 || exponent < 0 ||
    (exponent ≤ 308 && nearest value * nearest (Nat.pow 10 exponent.toNat) < overflow)

/-- The digits after a mark, if the mark is there; `none` if it is there without digits. -/
def readFraction (text : List Char) : Option (List Char × List Char) :=
  match text with
  | '.' :: rest =>
    let digits := rest.takeWhile Char.isDigit
    if digits.isEmpty then none else some (digits, rest.dropWhile Char.isDigit)
  | _ => some ([], text)

/-- The exponent, if there is one; the inner option tells whether it is written. -/
def readExponent (text : List Char) : Option (Option Int × List Char) :=
  match text with
  | mark :: rest =>
    if mark = 'e' ∨ mark = 'E' then
      let (negative, rest) : Bool × List Char :=
        match rest with
        | '-' :: rest => (true, rest)
        | '+' :: rest => (false, rest)
        | _ => (false, rest)
      let digits := rest.takeWhile Char.isDigit
      if digits.isEmpty then none
      else
        let size : Int := digitsValue digits
        some (some (if negative then -size else size), rest.dropWhile Char.isDigit)
    else some (none, text)
  | [] => some (none, text)

/-- Read a number; the rest is `none` if it breaks the grammar. -/
def readNumber (text : List Char) : Document × Option (List Char) :=
  let (negative, unsigned) : Bool × List Char :=
    match text with
    | '-' :: rest => (true, rest)
    | _ => (false, text)
  let digits := unsigned.takeWhile Char.isDigit
  if digits.isEmpty ∨ (digits.head? = some '0' ∧ digits.length > 1) then (.malformed, none)
  else
    match readFraction (unsigned.dropWhile Char.isDigit) with
    | none => (.malformed, none)
    | some (fraction, rest) =>
      match readExponent rest with
      | none => (.malformed, none)
      | some (exponent, rest) =>
        if !negative ∧ fraction.isEmpty ∧ exponent.isNone then
          (.natural (digitsValue digits), some rest)
        else
          (.decimal (isFinite digits fraction (exponent.getD 0)), some rest)

/-- Read one of the three words. -/
def readWord (word : List Char) (document : Document) (text : List Char) :
    Document × Option (List Char) :=
  if word.isPrefixOf text then (document, some (text.drop word.length)) else (.malformed, none)

mutual

/-- Read a value. The fuel bounds the number of nested calls. -/
def readValue : Nat → List Char → Document × Option (List Char)
  | 0, _ => (.malformed, none)
  | fuel + 1, text =>
    match skipBlanks text with
    | [] => (.malformed, none)
    | '\x22' :: rest =>
      match readText {} rest with
      | some (value, rest) => (.string value, some rest)
      | none => (.malformed, none)
    | '[' :: rest =>
      match skipBlanks rest with
      | ']' :: rest => (.array [] true, some rest)
      | rest => readItems fuel [] rest
    | '\x7b' :: rest =>
      match skipBlanks rest with
      | '\x7d' :: rest => (.object [] true, some rest)
      | rest => readMembers fuel [] rest
    | 'n' :: rest => readWord ['n', 'u', 'l', 'l'] .null ('n' :: rest)
    | 't' :: rest => readWord ['t', 'r', 'u', 'e'] (.bool true) ('t' :: rest)
    | 'f' :: rest => readWord ['f', 'a', 'l', 's', 'e'] (.bool false) ('f' :: rest)
    | rest => readNumber rest

/-- Read the items of an array from one on; those before it stand latest first. -/
def readItems : Nat → List Document → List Char → Document × Option (List Char)
  | 0, items, _ => (.array items.reverse false, none)
  | fuel + 1, items, text =>
    match readValue fuel text with
    | (item, none) => (.array (item :: items).reverse false, none)
    | (item, some rest) =>
      match skipBlanks rest with
      | ',' :: rest => readItems fuel (item :: items) rest
      | ']' :: rest => (.array (item :: items).reverse true, some rest)
      | _ => (.array (item :: items).reverse false, none)

/-- Read the members of an object from one on; those before it stand latest first. -/
def readMembers : Nat → List (Option String × Document) → List Char →
    Document × Option (List Char)
  | 0, members, _ => (.object members.reverse false, none)
  | fuel + 1, members, text =>
    match skipBlanks text with
    | '\x22' :: rest =>
      match readText {} rest with
      | none => (.object members.reverse false, none)
      | some (name, rest) =>
        match skipBlanks rest with
        | ':' :: rest =>
          match readValue fuel rest with
          | (value, none) => (.object ((name, value) :: members).reverse false, none)
          | (value, some rest) =>
            match skipBlanks rest with
            | ',' :: rest => readMembers fuel ((name, value) :: members) rest
            | '\x7d' :: rest => (.object ((name, value) :: members).reverse true, some rest)
            | _ => (.object ((name, value) :: members).reverse false, none)
        | _ => (.object ((name, .malformed) :: members).reverse false, none)
    | _ => (.object members.reverse false, none)

end

/-- The document of a text, and whether nothing but blanks follows it. -/
def read (text : List Char) : Document × Bool :=
  match readValue (2 * text.length + 2) text with
  | (document, none) => (document, false)
  | (document, some rest) => (document, (skipBlanks rest).isEmpty)

/-- Whether a value nested in `depth` more arrays and objects at most can be held
as it is: it breaks off nowhere, its strings denote text and its numbers fit. -/
def isStorable (depth : Nat) (document : Document) : Bool :=
  match depth, document with
  | _, .null => true
  | _, .bool _ => true
  | _, .natural value => isFinite (Nat.toDigits 10 value) [] 0
  | _, .decimal finite => finite
  | _, .string value => value.isSome
  | depth + 1, .array items closed => closed && items.all (isStorable depth)
  | depth + 1, .object members closed =>
    closed && members.all fun (name, value) => name.isSome && isStorable depth value
  | _, _ => false

end Document
end Crosscheck.Json
