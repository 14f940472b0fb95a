import Crosscheck.Utility.Stream

/-!
# Sorting lines

Lines are compared by keys, which are parts of them, and where no key tells them apart by all
their characters.
-/

namespace Crosscheck.Utility.Sort

/-- How texts are compared. -/
structure Manner where
  numeric : Bool := false
  reversed : Bool := false
  /-- Whether small letters count as capital ones. -/
  folded : Bool := false
  /-- Whether only letters, digits and blanks count. -/
  plain : Bool := false
  /-- Whether only printable characters count. -/
  printable : Bool := false
  deriving DecidableEq, Repr

/-- A part of a line. -/
structure Key where
  /-- The number of fields before the one in which it starts. -/
  field : Nat := 0
  /-- The number of characters before its start. -/
  char : Nat := 0
  /-- The number of fields before its end, and of characters in the field where it ends. -/
  last : Option (Nat × Nat) := none
  manner : Manner := {}
  /-- Whether blanks do not count at its start, and where its end is looked for. -/
  skipsStart : Bool := false
  skipsEnd : Bool := false
  deriving DecidableEq, Repr

/-- What lines are sorted by. -/
structure Plan where
  keys : List Key := []
  separator : Option Char := none
  reversed : Bool := false
  /-- Whether lines that no key tells apart stay as they are. -/
  stable : Bool := false
  /-- Whether of such lines only the first remains. -/
  unique : Bool := false

/-- Whether a character separates fields where no other one does. -/
def isBlank (char : Char) : Bool := char == ' ' || char == '\t' || char == '\n'

/-! ## Keys -/

/-- What is left of a line after a number of fields. -/
def skipFields (separator : Option Char) : Nat → List Char → List Char
  | 0, line => line
  | count + 1, line =>
    match separator with
    | some separator => skipFields (some separator) count ((line.dropWhile (· != separator)).drop 1)
    | none => skipFields none count ((line.dropWhile isBlank).dropWhile (!isBlank ·))

/-- What is left of a line after the end of a key. -/
def skipToEnd (separator : Option Char) (skipsBlanks : Bool) (line : List Char) :
    Nat × Nat → List Char
  | (0, 0) => line
  | (fields + 1, 0) =>
    match separator with
    | some separator => (skipFields (some separator) fields line).dropWhile (· != separator)
    | none => skipFields none (fields + 1) line
  | (fields, chars) =>
    let rest := skipFields separator fields line
    (if skipsBlanks then rest.dropWhile isBlank else rest).drop chars

/-- The part of a line that a key means. -/
def Key.part (key : Key) (separator : Option Char) (line : List Char) : List Char :=
  let rest := skipFields separator key.field line
  let start := (if key.skipsStart then rest.dropWhile isBlank else rest).drop key.char
  match key.last with
  | none => start
  | some last =>
    start.take (start.length - (skipToEnd separator key.skipsEnd line last).length)

/-! ## Comparison -/

/-- Compare texts character by character. -/
def compareTexts : List Char → List Char → Ordering
  | [], [] => .eq
  | [], _ :: _ => .lt
  | _ :: _, [] => .gt
  | left :: lefts, right :: rights =>
    if left < right then .lt else if right < left then .gt else compareTexts lefts rights

/-- The sign, the digits before the point and those after it of the number that a text starts
with. -/
def number (text : List Char) : Bool × List Char × List Char :=
  let text := text.dropWhile isBlank
  let (negative, text) :=
    match text with
    | '-' :: rest => (true, rest)
    | _ => (false, text)
  let whole := text.takeWhile Char.isDigit
  let fraction :=
    match text.drop whole.length with
    | '.' :: rest => rest.takeWhile Char.isDigit
    | _ => []
  (negative, whole.dropWhile (· == '0'), (fraction.reverse.dropWhile (· == '0')).reverse)

/-- Compare the numbers that texts start with. -/
def compareNumbers (left right : List Char) : Ordering :=
  let (leftNegative, leftWhole, leftFraction) := number left
  let (rightNegative, rightWhole, rightFraction) := number right
  let sizes := ((compare leftWhole.length rightWhole.length).then
    (compareTexts leftWhole rightWhole)).then (compareTexts leftFraction rightFraction)
  let leftNegative := leftNegative && !(leftWhole.isEmpty && leftFraction.isEmpty)
  let rightNegative := rightNegative && !(rightWhole.isEmpty && rightFraction.isEmpty)
  match leftNegative, rightNegative with
  | false, false => sizes
  | true, true => sizes.swap
  | true, false => .lt
  | false, true => .gt

/-- The characters of a text that count. -/
def Manner.relevant (manner : Manner) (text : List Char) : List Char :=
  let text :=
    if manner.plain then
      text.filter fun char => char.isAlphanum || char == ' ' || char == '\t'
    else if manner.printable then text.filter fun char => ' ' ≤ char && char ≤ '~'
    else text
  if manner.folded then text.map Char.toUpper else text

/-- Compare texts in a manner. -/
def Manner.compare (manner : Manner) (left right : List Char) : Ordering :=
  let ordering :=
    if manner.numeric then compareNumbers left right
    else compareTexts (manner.relevant left) (manner.relevant right)
  if manner.reversed then ordering.swap else ordering

/-- Compare lines by keys. -/
def Plan.compareKeys (plan : Plan) (left right : List Char) : Ordering :=
  plan.keys.foldl (fun ordering key =>
    ordering.then (key.manner.compare (key.part plan.separator left) (key.part plan.separator right)))
    .eq

/-- Compare lines. -/
def Plan.compare (plan : Plan) (left right : List Char) : Ordering :=
  let keys := plan.compareKeys left right
  if !plan.keys.isEmpty && (plan.stable || plan.unique) then keys
  else
    let lines := compareTexts left right
    keys.then (if plan.reversed then lines.swap else lines)

/-- Leave only the first of lines that are the same. -/
def Plan.withoutRepeated (plan : Plan) : List (List Char) → List (List Char)
  | [] => []
  | line :: rest =>
    match plan.withoutRepeated rest with
    | [] => [line]
    | next :: others =>
      if plan.compare line next == .eq then line :: others else line :: next :: others

/-- Sort lines. -/
def Plan.sort (plan : Plan) (lines : List (List Char)) : List (List Char) :=
  let sorted := lines.mergeSort fun left right => plan.compare left right != .gt
  if plan.unique then plan.withoutRepeated sorted else sorted

/-- The first line that is not where it belongs, with its number. -/
def Plan.disorder? (plan : Plan) (number : Nat) : List (List Char) → Option (Nat × List Char)
  | left :: right :: rest =>
    let ordering := plan.compare left right
    if ordering == .gt || (plan.unique && ordering == .eq) then some (number + 1, right)
    else plan.disorder? (number + 1) (right :: rest)
  | _ => none

/-! ## Options -/

/-- Take note of a letter that says how a key is compared; `none` if it does not. -/
def Manner.note? (manner : Manner) : Char → Option Manner
  | 'n' => some { manner with numeric := true }
  | 'r' => some { manner with reversed := true }
  | 'f' => some { manner with folded := true }
  | 'd' => some { manner with plain := true }
  | 'i' => some { manner with printable := true }
  | _ => none

/-- Read a position of a key: the number of a field and that of a character, and the letters
after it. -/
def readPosition (text : List Char) : Utility (Nat × Option Nat × List Char) := do
  let digits := text.takeWhile Char.isDigit
  let rest := text.drop digits.length
  match number? digits with
  | none =>
    fail ("invalid number at field start: invalid count at start of ".toList ++ quoted text) 2
  | some field =>
    match rest with
    | '.' :: rest =>
      let digits := rest.takeWhile Char.isDigit
      match number? digits with
      | none =>
        fail ("invalid number after '.': invalid count at start of ".toList ++ quoted rest) 2
      | some char => return (field, some char, rest.drop digits.length)
    | _ => return (field, none, rest)

/-- Refuse a key. -/
def refuseKey {α : Type} (about : String) (text : List Char) : Utility α :=
  fail ((about ++ ": invalid field specification ").toList ++ quoted text) 2

/-- Take note of the letters after a position of a key. -/
def readLetters (text : List Char) (isStart : Bool) : List Char → Key → Utility Key
  | [], key => return key
  | 'b' :: letters, key =>
    readLetters text isStart letters
      (if isStart then { key with skipsStart := true } else { key with skipsEnd := true })
  | letter :: letters, key =>
    match key.manner.note? letter with
    | some manner => readLetters text isStart letters { key with manner }
    | none => refuseKey "stray character in field spec" text

/-- Read a key. -/
def readKey (text : List Char) : Utility Key := do
  let (field, char, rest) ← readPosition text
  if field = 0 then refuseKey "field number is zero" text
  if char = some 0 then refuseKey "character offset is zero" text
  let letters := rest.takeWhile (· != ',')
  let key ← readLetters text true letters { field := field - 1, char := char.getD 1 - 1 }
  match rest.drop letters.length with
  | [] => return key
  | _ :: rest =>
    let (field, char, letters) ← readPosition rest
    if field = 0 then refuseKey "field number is zero" text
    let last := match char with
      | none => (field, 0)
      | some 0 => (field, 0)
      | some char => (field - 1, char)
    readLetters text false letters { key with last := some last }

/-- Read the keys among options. -/
def readKeys : List OptionValue → Utility (List Key)
  | [] => return []
  | ('k', text) :: others => do
    let key ← readKey text
    return key :: (← readKeys others)
  | _ :: others => readKeys others

/-- The character that separates fields. -/
def readSeparator : List Char → Utility Char
  | [] => fail "empty tab".toList 2
  | [char] => return char
  | ['\\', '0'] => return '\x00'
  | text => fail ("multi-character tab ".toList ++ quoted text) 2

/-- The texts of operands; the first that cannot be read ends the utility. -/
def readTexts : List (List Char) → Utility (List (List Char))
  | [] => return []
  | path :: others => do
    match ← openOperand path with
    | .error error =>
      let about := if path = ['-'] then "stat failed: " else "cannot read: "
      fail (about.toList ++ path ++ ": ".toList ++ error.reason.toList) 2
    | .ok handle =>
      match ← drain handle plenty [] with
      | .error error =>
        fail ("read failed: ".toList ++ path ++ ": ".toList ++ error.reason.toList) 2
      | .ok octets =>
        closeOperand handle
        return Text.ofOctets octets :: (← readTexts others)

/-- Complain about an operand that is not sorted. -/
def checkOrder (plan : Plan) (speaks : Bool) (path : List Char) (lines : List (List Char)) :
    Utility Nat := do
  match plan.disorder? 1 lines with
  | none => return 0
  | some (number, line) =>
    if speaks then
      complain (path ++ ":".toList ++ Text.digits number ++ ": disorder: ".toList ++ line)
    return 1

/-- Sort the lines of the inputs. -/
def sort : Utility Nat := do
  let (options, operands) ← OptionTable.read {
    letters := "bcCdfik:mno:rst:uz".toList
    names := [("ignore-leading-blanks", 'b'), ("check", 'c'), ("dictionary-order", 'd'),
      ("ignore-case", 'f'), ("ignore-nonprinting", 'i'), ("key", 'k'), ("merge", 'm'),
      ("numeric-sort", 'n'), ("output", 'o'), ("reverse", 'r'), ("stable", 's'),
      ("field-separator", 't'), ("unique", 'u'), ("zero-terminated", 'z')]
    fault := 2 }
  let usual : Manner := options.foldl (fun manner (letter, _) => (manner.note? letter).getD manner) {}
  let skipsBlanks := has options 'b'
  let inherit (key : Key) : Key :=
    if key.manner = {} && !key.skipsStart && !key.skipsEnd then
      { key with manner := usual, skipsStart := skipsBlanks, skipsEnd := skipsBlanks }
    else key
  let keys := (← readKeys options).map inherit
  let isUsual := { usual with reversed := false } = ({} : Manner) && !skipsBlanks
  let separator ← (value? options 't').mapM readSeparator
  let plan : Plan := {
    keys := if keys.isEmpty && !isUsual then [inherit {}] else keys
    separator, reversed := usual.reversed, stable := has options 's', unique := has options 'u' }
  let checks := has options 'c' || has options 'C'
  match operands with
  | _ :: extra :: _ =>
    if checks then
      let letter := if has options 'c' then 'c' else 'C'
      fail ("extra operand ".toList ++ quoted extra ++ " not allowed with -".toList ++ [letter]) 2
  | _ => pure ()
  let texts ← readTexts (inputs operands)
  let terminator := if has options 'z' then '\x00' else '\n'
  let split (text : List Char) : List (List Char) :=
    let parts := Program.divide terminator text
    if parts.getLast? == some [] then parts.dropLast else parts
  let lines := texts.flatMap split
  if checks then
    return ← checkOrder plan (has options 'c') ((inputs operands).headD []) lines
  let text := (plan.sort lines).flatMap (· ++ [terminator])
  match value? options 'o' with
  | none => write text
  | some path =>
    let setting ← read
    match ← Activity.openPath setting.directory setting.descriptors .write path with
    | .ok handle => discard (Activity.write handle (Text.toOctets text))
    | .error error => fail ("open failed: ".toList ++ path ++ ": ".toList ++ error.reason.toList) 2
  return 0

end Crosscheck.Utility.Sort
