import Crosscheck.Utility.Lines

/-!
# Showing octets

Octets are shown in rows of a certain length, in one or several forms. Rows that repeat the one
before are shown by a star.
-/

namespace Crosscheck.Utility.Dump

/-- How octets are shown. -/
inductive Form where
  /-- As numbers of so many octets to a base. -/
  | number (base size : Nat)
  /-- As numbers with a sign. -/
  | signed (size : Nat)
  /-- As characters, where control characters are written as escapes. -/
  | char
  /-- As characters with names. -/
  | name

/-- The number of octets that are shown together. -/
def Form.size : Form → Nat
  | .number _ size => size
  | .signed size => size
  | _ => 1

/-- The number of digits of the greatest number of so many octets. -/
def digitCount (base size : Nat) : Nat := (Nat.toDigits base (Nat.pow 256 size - 1)).length

/-- The number of characters in which each of them is shown, with the blank before. -/
def Form.width : Form → Nat
  | .number base size => digitCount base size + 1
  | .signed size => (Nat.toDigits 10 (Nat.pow 256 size / 2)).length + 2
  | _ => 4

/-- The number that octets make up, the least significant first. -/
def valueOf (octets : List UInt8) : Nat :=
  octets.reverse.foldl (fun value octet => value * 256 + octet.toNat) 0

/-- The names of the characters that cannot be seen. -/
def names : List String := [
  "nul", "soh", "stx", "etx", "eot", "enq", "ack", "bel", "bs", "ht", "nl", "vt", "ff", "cr",
  "so", "si", "dle", "dc1", "dc2", "dc3", "dc4", "nak", "syn", "etb", "can", "em", "sub", "esc",
  "fs", "gs", "rs", "us", "sp"]

/-- A number with zeros in front. -/
def padded (base width value : Nat) : List Char :=
  let digits := Nat.toDigits base value
  List.replicate (width - digits.length) '0' ++ digits

/-- The text of an octet as a character. -/
def charText (octet : UInt8) : List Char :=
  match octet.toNat with
  | 0 => ['\\', '0']
  | 7 => ['\\', 'a']
  | 8 => ['\\', 'b']
  | 9 => ['\\', 't']
  | 10 => ['\\', 'n']
  | 11 => ['\\', 'v']
  | 12 => ['\\', 'f']
  | 13 => ['\\', 'r']
  | code => if 32 ≤ code && code < 127 then [Char.ofNat code] else padded 8 3 code

/-- The text of octets that are shown together. -/
def Form.text (form : Form) (octets : List UInt8) : List Char :=
  match form with
  | .number 10 _ => Text.digits (valueOf octets)
  | .number base size => padded base (digitCount base size) (valueOf octets)
  | .signed size =>
    let value := valueOf octets
    let bound := Nat.pow 256 size
    if bound ≤ 2 * value then '-' :: Text.digits (bound - value) else Text.digits value
  | .char => charText (octets.headD 0)
  | .name =>
    let code := (octets.headD 0).toNat % 128
    if code = 127 then "del".toList
    else ((names[code]?).getD (String.ofList [Char.ofNat code])).toList

/-- The texts of octets in a row. The fuel bounds their number. -/
def cells (form : Form) (width : Nat) : Nat → List UInt8 → List Char
  | 0, _ => []
  | _, [] => []
  | fuel + 1, octets =>
    alignedRight width (form.text (octets.take form.size)) ++
      cells form width fuel (octets.drop form.size)

/-- How a file is shown. -/
structure Layout where
  /-- The base of the numbers of octets, if they are shown. -/
  base : Option Nat := some 8
  forms : List Form
  rowLength : Nat := 16
  showsAll : Bool := false

/-- The number of an octet. -/
def Layout.offset (layout : Layout) (value : Nat) : List Char :=
  match layout.base with
  | none => []
  | some base => padded base (if base = 16 then 6 else 7) value

/-- The lines of a row. -/
def Layout.row (layout : Layout) (offset : Nat) (octets : List UInt8) : List Char :=
  let largest := (layout.forms.map Form.size).foldl max 1
  let width := (layout.forms.map fun form => form.width * (largest / form.size)).foldl max 1
  let title := layout.offset offset
  (layout.forms.zipIdx).flatMap fun (form, index) =>
    let start := if index = 0 then title else List.replicate title.length ' '
    start ++ cells form (width * form.size / largest) octets.length octets ++ ['\n']

/-- The rows of octets from an offset on, given the row before and whether rows were left out.
The fuel bounds their number. -/
def Layout.rows (layout : Layout) :
    Nat → Nat → Option (List UInt8) → Bool → List UInt8 → List Char
  | 0, _, _, _, _ => []
  | fuel + 1, offset, before, skips, octets =>
    if octets.isEmpty then
      let last := layout.offset offset
      if last.isEmpty then [] else last ++ ['\n']
    else
      let row := octets.take layout.rowLength
      let rest := octets.drop layout.rowLength
      let next := layout.rows fuel (offset + row.length) (some row)
      if !layout.showsAll && before = some row && row.length = layout.rowLength then
        (if skips then [] else ['*', '\n']) ++ next true rest
      else layout.row offset row ++ next false rest

/-- The number of octets that a size in a type means. -/
def readSize (usual : Nat) : List Char → Nat × List Char
  | 'C' :: rest => (1, rest)
  | 'S' :: rest => (2, rest)
  | 'I' :: rest => (4, rest)
  | 'L' :: rest => (8, rest)
  | text =>
    let digits := text.takeWhile Char.isDigit
    ((number? digits).getD usual, text.drop digits.length)

/-- The forms that a type writes. The fuel bounds their number. -/
def readForms (type : List Char) : Nat → List Char → Utility (List Form)
  | 0, _ => return []
  | _, [] => return []
  | fuel + 1, 'z' :: rest => readForms type fuel rest
  | fuel + 1, letter :: rest => do
    let (size, after) := readSize 4 rest
    match letter with
    | 'x' => return .number 16 size :: (← readForms type fuel after)
    | 'o' => return .number 8 size :: (← readForms type fuel after)
    | 'u' => return .number 10 size :: (← readForms type fuel after)
    | 'd' => return .signed size :: (← readForms type fuel after)
    | 'c' => return .char :: (← readForms type fuel rest)
    | 'a' => return .name :: (← readForms type fuel rest)
    | _ =>
      fail ("invalid character ".toList ++ quoted [letter] ++ " in type string ".toList ++
        quoted type)

/-- The forms that options ask for. -/
def givenForms : List OptionValue → Utility (List Form)
  | [] => return []
  | (letter, value) :: others => do
    let forms ←
      match letter with
      | 't' => readForms value value.length value
      | 'c' => pure [.char]
      | 'a' => pure [.name]
      | 'b' => pure [.number 8 1]
      | 'x' => pure [.number 16 2]
      | 'o' => pure [.number 8 2]
      | 'd' => pure [.number 10 2]
      | _ => pure []
    return forms ++ (← givenForms others)

/-- Show octets. -/
def od : Utility Nat := do
  let (options, operands) ← OptionTable.read {
    letters := "A:abcdj:N:ot:vw:x".toList
    names := [("address-radix", 'A'), ("format", 't'), ("read-bytes", 'N'), ("skip-bytes", 'j'),
      ("output-duplicates", 'v'), ("width", 'w')] }
  let forms ← givenForms options
  let number (letter : Char) : Option Nat := (value? options letter).bind number?
  let base : Option Nat := match value? options 'A' with
    | some ['n'] => none
    | some ['d'] => some 10
    | some ['x'] => some 16
    | _ => some 8
  let layout : Layout := {
    base, forms := if forms.isEmpty then [.number 8 2] else forms
    rowLength := (number 'w').getD 16, showsAll := has options 'v' }
  let (text, complete) ← readAll operands
  let octets := (Text.toOctets text).drop ((number 'j').getD 0)
  let octets := match number 'N' with
    | some count => octets.take count
    | none => octets
  if !complete && text.isEmpty then return 1
  write (layout.rows (octets.length + 2) ((number 'j').getD 0) none false octets)
  return if complete then 0 else 1

/-! ## Octets as letters -/

/-- The letters that stand for six bits. -/
def letters : List Char :=
  "ABCDEFGHIJKLMNOPQRSTUVWXYZabcdefghijklmnopqrstuvwxyz0123456789+/".toList

/-- The letter of six bits. -/
def letterOf (bits : Nat) : Char := (letters[bits % 64]?).getD '='

/-- Octets as letters. -/
def encode : List UInt8 → List Char
  | [] => []
  | [a] => [letterOf (a.toNat / 4), letterOf (a.toNat * 16), '=', '=']
  | [a, b] =>
    [letterOf (a.toNat / 4), letterOf (a.toNat * 16 + b.toNat / 16), letterOf (b.toNat * 4), '=']
  | a :: b :: c :: rest =>
    letterOf (a.toNat / 4) :: letterOf (a.toNat * 16 + b.toNat / 16) ::
      letterOf (b.toNat * 4 + c.toNat / 64) :: letterOf c.toNat :: encode rest

/-- The octets that letters stand for, as far as they do. -/
def decode : List Char → List UInt8 × Bool
  | [] => ([], true)
  | a :: b :: c :: d :: rest =>
    match letters.idxOf? a, letters.idxOf? b, letters.idxOf? c, letters.idxOf? d with
    | some w, some x, some y, some z =>
      let (octets, complete) := decode rest
      (UInt8.ofNat (w * 4 + x / 16) :: UInt8.ofNat (x * 16 + y / 4) ::
        UInt8.ofNat (y * 64 + z) :: octets, complete)
    | some w, some x, some y, none =>
      ([UInt8.ofNat (w * 4 + x / 16), UInt8.ofNat (x * 16 + y / 4)], d == '=' && rest.isEmpty)
    | some w, some x, none, _ =>
      ([UInt8.ofNat (w * 4 + x / 16)], c == '=' && d == '=' && rest.isEmpty)
    | _, _, _, _ => ([], false)
  | _ => ([], false)

/-- Lines of a number of characters. The fuel bounds their number. -/
def wrapped (width : Nat) : Nat → List Char → List Char
  | 0, _ => []
  | _, [] => []
  | fuel + 1, text => text.take width ++ '\n' :: wrapped width fuel (text.drop width)

/-- Write octets as letters, or read them from letters. -/
def base64 : Utility Nat := do
  let (options, operands) ← OptionTable.read {
    letters := "diw:".toList
    names := [("decode", 'd'), ("ignore-garbage", 'i'), ("wrap", 'w')] }
  let (text, complete) ← readAll operands
  unless complete do exit 1
  if has options 'd' then
    let kept := text.filter fun char =>
      if has options 'i' then letters.contains char || char == '=' else char != '\n'
    let missing := (4 - kept.length % 4) % 4
    let (octets, isValid) := decode (kept ++ List.replicate missing '=')
    write (Text.ofOctets octets)
    if !isValid || 0 < missing then fail "invalid input".toList
    return 0
  let encoded := encode (Text.toOctets text)
  match (value? options 'w').bind number? with
  | some 0 => write encoded
  | width => write (wrapped (width.getD 76) (encoded.length + 1) encoded)
  return 0

end Crosscheck.Utility.Dump
