import Crosscheck.Script.Format
import Crosscheck.Script.Pattern
import Crosscheck.Utility.Stream

/-!
# Transliterating characters

Characters of one set are replaced by those of another one, taken away, or written once where
they are repeated.
-/

namespace Crosscheck.Utility.Transliterate

/-- A part of a set. -/
inductive Item where
  | chars (chars : List Char)
  /-- A class of characters. -/
  | group (name : String) (chars : List Char)
  /-- A character a number of times, as often as need be for zero. -/
  | repeated (char : Char) (count : Nat)
  deriving DecidableEq, Repr

/-- All characters. -/
def allChars : List Char := (List.range 256).map Char.ofNat

/-- The characters of a class. -/
def classChars (name : List Char) : List Char :=
  let ranges := Script.Pattern.classRanges name
  let more : List (Char × Char) :=
    match String.ofList name with
    | "cntrl" => [('\x00', '\x1f'), ('\x7f', '\x7f')]
    | "print" => [(' ', '~')]
    | "graph" => [('!', '~')]
    | _ => []
  allChars.filter fun char =>
    (ranges ++ more).any fun (first, last) => first ≤ char && char ≤ last

/-- Read a character, which may be written as an escape. -/
def readChar : List Char → Option (Char × List Char)
  | [] => none
  | '\\' :: rest =>
    let digits := (rest.take 3).takeWhile Script.Format.isOctal
    if !digits.isEmpty then
      let value := Script.Format.valueIn 8 digits
      let digits := if value < 256 then digits else digits.take 2
      some (Script.Format.octetChar (Script.Format.valueIn 8 digits), rest.drop digits.length)
    else
      match rest with
      | [] => some ('\\', [])
      | 'e' :: rest => some ('e', rest)
      | letter :: rest => some ((Script.Format.shortEscape? letter).getD letter, rest)
  | char :: rest => some (char, rest)

/-- The name between two marks in brackets, and what follows. -/
def readBracketed? (mark : Char) (text : List Char) : Option (List Char × List Char) :=
  let name := text.takeWhile (· != mark)
  match text.drop name.length with
  | _ :: ']' :: rest => some (name, rest)
  | _ => none

/-- Read a repetition in brackets. -/
def readRepeated? (text : List Char) : Option (Item × List Char) := do
  let (char, rest) ← readChar text
  match rest with
  | '*' :: rest =>
    let digits := rest.takeWhile Char.isDigit
    match rest.drop digits.length with
    | ']' :: rest =>
      let base := if digits.head? == some '0' then 8 else 10
      return (.repeated char (Script.Format.valueIn base digits), rest)
    | _ => none
  | _ => none

/-- Read a set. The fuel bounds the number of its parts. -/
def readItems : Nat → List Char → Except (List Char) (List Item)
  | 0, _ => .ok []
  | _, [] => .ok []
  | fuel + 1, text => do
    let special : Option (Item × List Char) :=
      match text with
      | '[' :: ':' :: rest =>
        (readBracketed? ':' rest).map fun (name, rest) =>
          (.group (String.ofList name) (classChars name), rest)
      | '[' :: '=' :: rest =>
        (readBracketed? '=' rest).map fun (name, rest) => (.chars name, rest)
      | '[' :: rest => readRepeated? rest
      | _ => none
    match special with
    | some (.group name [], _) => throw ("invalid character class ".toList ++ quoted name.toList)
    | some (item, rest) => return item :: (← readItems fuel rest)
    | none =>
      match readChar text with
      | none => return []
      | some (first, '-' :: rest) =>
        match readChar rest with
        | none => return .chars [first, '-'] :: (← readItems fuel [])
        | some (last, after) =>
          if last < first then
            throw ("range-endpoints of '".toList ++ first :: '-' :: last ::
              "' are in reverse collating sequence order".toList)
          let range := allChars.filter fun char => first ≤ char && char ≤ last
          return .chars range :: (← readItems fuel after)
      | some (char, rest) => return .chars [char] :: (← readItems fuel rest)

/-- The characters of a part of a set. -/
def Item.expand (fill : Nat) : Item → List Char
  | .chars members => members
  | .group _ members => members
  | .repeated char count => List.replicate (if count = 0 then fill else count) char

/-- The characters of a set. A repetition without a number fills it up to a length. -/
def expand (length : Nat) (items : List Item) : List Char :=
  let fixed := (items.map fun item => (item.expand 0).length).foldl (· + ·) 0
  items.flatMap (Item.expand (length - fixed))

/-- What becomes of characters. -/
structure Plan where
  deletes : List Char := []
  /-- The replacement of each character by its number, as far as there is one. -/
  replaces : Array (Option Char) := #[]
  squeezes : List Char := []

/-- Replace characters, given the last one that was written. -/
def apply (plan : Plan) (last : Option Char) (text : List Char) : Option Char × List Char :=
  let kept := if plan.deletes.isEmpty then text else text.filter (!plan.deletes.contains ·)
  let replaced := kept.map fun char => ((plan.replaces[char.toNat]?).join).getD char
  if plan.squeezes.isEmpty then (last, replaced)
  else
    let (last, latest) := replaced.foldl (fun (last, latest) char =>
      if last == some char && plan.squeezes.contains char then (last, latest)
      else (some char, char :: latest)) (last, [])
    (last, latest.reverse)

/-- The replacements of the characters of a set by those of another one. The last
replacement counts. -/
def replacements (source target : List Char) : Array (Option Char) :=
  (source.zip target).foldl (fun table (char, other) =>
    table.setIfInBounds char.toNat (some other)) (Array.replicate 256 none)

/-- A target as long as a source: its last character is repeated. -/
def lengthen (source target : List Char) : List Char :=
  match target.getLast? with
  | some last => target ++ List.replicate (source.length - target.length) last
  | none => []

/-- Read a set or give up. -/
def readSet (length : Nat) (text : List Char) : Utility (List Char) := do
  match readItems (text.length + 1) text with
  | .ok items => return expand length items
  | .error cause => fail cause

/-- Replace, take away or squeeze characters of the input. -/
def transliterate : Utility Nat := do
  let (options, operands) ← OptionTable.read {
    letters := "cCdst".toList
    names := [("complement", 'c'), ("delete", 'd'), ("squeeze-repeats", 's'), ("truncate-set1", 't')]
    mixed := false }
  let deletes := has options 'd'
  let squeezes := has options 's'
  let needed := if deletes == squeezes then 2 else 1
  match operands with
  | [] => misuse "missing operand".toList
  | first :: others =>
    if needed = 2 && others.isEmpty then
      complain ("missing operand after ".toList ++ quoted first)
      discard (writeTo 2 (if deletes then
          "Two strings must be given when both deleting and squeezing repeats.\n".toList
        else "Two strings must be given when translating.\n".toList))
      hint
      exit 1
    match others[if deletes && !squeezes then 0 else 1]? with
    | some extra =>
      complain ("extra operand ".toList ++ quoted extra)
      if deletes && !squeezes then
        discard (writeTo 2
          "Only one string may be given when deleting without squeezing repeats.\n".toList)
      hint
      exit 1
    | none => pure ()
    let source ← readSet 0 first
    let source :=
      if has options 'c' || has options 'C' then allChars.filter (!source.contains ·) else source
    let target ←
      match others with
      | [] => pure none
      | second :: _ => some <$> readSet source.length second
    let plan : Plan ←
      match target with
      | none =>
        pure (if deletes then { deletes := source } else { squeezes := source })
      | some target =>
        if deletes then pure { deletes := source, squeezes := target }
        else if target.isEmpty && !has options 't' then
          fail "when not truncating set1, string2 must be non-empty".toList
        else
          let target := if has options 't' then target else lengthen source target
          pure {
            replaces := replacements source target
            squeezes := if squeezes then target else [] }
    let transducer : Transducer (Option Char) := ⟨apply plan, fun _ => []⟩
    match (← read).descriptors.lookup 0 with
    | none => fail "read error: Bad file descriptor".toList
    | some handle =>
      let (_, pending, error) ← transducer.overHandle (← isEager) handle plenty none {}
      match error with
      | some error => fail ("read error: ".toList ++ error.reason.toList)
      | none =>
        discard pending.flush
        return 0

end Crosscheck.Utility.Transliterate
