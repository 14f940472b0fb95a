import Crosscheck.Decimal.Shortest
import Crosscheck.Json.Document
import Crosscheck.Toml.Value

/-!
# Words of the settings language

Numbers, dates and the constants are words without blanks, and a word is one of them
as a whole or nothing. Single underscores may stand between digits.
-/

namespace Crosscheck.Toml

/-- A character of a word. -/
def isWordChar (char : Char) : Bool :=
  char.isAlphanum || char == '+' || char == '-' || char == '.' || char == '_' || char == ':'

/-- The digits of a group of them, without the underscores between two. -/
def ungroup? (isDigit : Char → Bool) : List Char → Option (List Char)
  | [] => none
  | [digit] => if isDigit digit then some [digit] else none
  | digit :: '_' :: rest => if isDigit digit then (ungroup? isDigit rest).map (digit :: ·) else none
  | digit :: rest => if isDigit digit then (ungroup? isDigit rest).map (digit :: ·) else none

/-- The number that digits write in a base. -/
def valueIn (base : Nat) (digits : List Char) : Nat :=
  digits.foldl (fun value digit => value * base + (Json.Document.hexValue? digit).getD 0) 0

/-- A sign in front of a word, and the rest of it. -/
def signed : List Char → Bool × List Char
  | '-' :: rest => (true, rest)
  | '+' :: rest => (false, rest)
  | word => (false, word)

/-- The digits of a whole number, which start with a zero only if that is all. -/
def wholeDigits? (word : List Char) : Option (List Char) := do
  let digits ← ungroup? Char.isDigit word
  if digits.head? = some '0' ∧ digits.length > 1 then none else some digits

/-- An integer, if it fits 64 bits with a sign. -/
def bounded? (value : Int) : Option Value :=
  if Int64.minValue.toInt ≤ value ∧ value ≤ Int64.maxValue.toInt then some (.integer value) else none

/-- An integer. A base other than ten is named in front. -/
def integer? (word : List Char) : Option Value :=
  let inBase (base : Nat) (isDigit : Char → Bool) (rest : List Char) : Option Value := do
    bounded? (valueIn base (← ungroup? isDigit rest))
  match word with
  | '0' :: 'x' :: rest => inBase 16 (fun digit => (Json.Document.hexValue? digit).isSome) rest
  | '0' :: 'o' :: rest => inBase 8 (fun digit => '0' ≤ digit ∧ digit ≤ '7') rest
  | '0' :: 'b' :: rest => inBase 2 (fun digit => digit = '0' ∨ digit = '1') rest
  | _ => do
    let (negative, rest) := signed word
    let value : Int := valueIn 10 (← wholeDigits? rest)
    bounded? (if negative then -value else value)

/-- The part of a number after its point, if there is a point. -/
def fraction? (word : List Char) : Option (List Char × List Char) :=
  match word with
  | '.' :: rest =>
    let isMark (char : Char) := char == 'e' || char == 'E'
    (ungroup? Char.isDigit (rest.takeWhile (!isMark ·))).map (·, rest.dropWhile (!isMark ·))
  | _ => some ([], word)

/-- The exponent of a number, zero if there is none. -/
def exponent? (word : List Char) : Option Int :=
  match word with
  | [] => some 0
  | mark :: rest =>
    if mark = 'e' ∨ mark = 'E' then do
      let (negative, rest) := signed rest
      let size : Int := valueIn 10 (← ungroup? Char.isDigit rest)
      some (if negative then -size else size)
    else none

/-- A number with a point or an exponent, unless it is too large. One that is too small
for a finite number is infinite. -/
def fractional? (word : List Char) : Option Value := do
  let (negative, rest) := signed word
  let isMark (char : Char) := char == '.' || char == 'e' || char == 'E'
  let whole ← wholeDigits? (rest.takeWhile (!isMark ·))
  let (fraction, rest) ← fraction? (rest.dropWhile (!isMark ·))
  let value := Decimal.ofDecimal (valueIn 10 (whole ++ fraction))
    ((← exponent? rest) - fraction.length)
  if !word.any isMark ∨ (value.isInf ∧ !negative) then none
  else some (.float (if negative then -value else value))

/-- The constants. -/
def constant? (word : List Char) : Option Value :=
  match String.ofList word with
  | "true" => some (.boolean true)
  | "false" => some (.boolean false)
  | "inf" => some (.float (1.0 / 0.0))
  | "+inf" => some (.float (1.0 / 0.0))
  | "-inf" => some (.float (-1.0 / 0.0))
  | "nan" => some (.float (0.0 / 0.0))
  | "+nan" => some (.float (0.0 / 0.0))
  | "-nan" => some (.float (0.0 / 0.0))
  | _ => none

/-- The number that two digits write. -/
def twoDigits? (tens ones : Char) : Option Nat :=
  if tens.isDigit ∧ ones.isDigit then some (valueIn 10 [tens, ones]) else none

/-- The number of days of a month. -/
def daysIn (year month : Nat) : Nat :=
  if month = 2 then if year % 4 = 0 ∧ (year % 100 ≠ 0 ∨ year % 400 = 0) then 29 else 28
  else if month = 4 ∨ month = 6 ∨ month = 9 ∨ month = 11 then 30
  else 31

/-- Whether a word starts with a date, and what follows it. -/
def day? : List Char → Option (List Char)
  | a :: b :: c :: d :: '-' :: e :: f :: '-' :: g :: h :: rest => do
    let year := (← twoDigits? a b) * 100 + (← twoDigits? c d)
    let month ← twoDigits? e f
    let day ← twoDigits? g h
    if 1 ≤ month ∧ month ≤ 12 ∧ 1 ≤ day ∧ day ≤ daysIn year month then some rest else none
  | _ => none

/-- Whether a word starts with a time of day, and what follows it. -/
def clock? : List Char → Option (List Char)
  | a :: b :: ':' :: c :: d :: ':' :: e :: f :: rest => do
    if (← twoDigits? a b) ≤ 23 ∧ (← twoDigits? c d) ≤ 59 ∧ (← twoDigits? e f) ≤ 60 then
      match rest with
      | '.' :: digits =>
        if digits.head?.any Char.isDigit then some (digits.dropWhile Char.isDigit)
        else none
      | _ => some rest
    else none
  | _ => none

/-- Whether a text is nothing or a distance from universal time. -/
def isOffset : List Char → Bool
  | [] => true
  | [mark] => mark = 'Z' ∨ mark = 'z'
  | [mark, a, b, ':', c, d] =>
    (mark == '+' || mark == '-') && (twoDigits? a b).any (· ≤ 23) && (twoDigits? c d).any (· ≤ 59)
  | _ => false

/-- Whether a word is a time of day with or without a distance from universal time. -/
def isMoment (word : List Char) : Bool := (clock? word).any isOffset

/-- A date, a time or both in one word. -/
def date? (word : List Char) : Option Value :=
  match day? word, clock? word with
  | some [], _ => some .date
  | some (mark :: rest), _ =>
    if (mark = 'T' ∨ mark = 't') ∧ isMoment rest then some .date else none
  | none, some [] => some .date
  | none, _ => none

/-- Read a word. The time of a date may stand behind a space. -/
def readWord? (text : List Char) : Option (Value × List Char) :=
  let word := text.takeWhile isWordChar
  let rest := text.dropWhile isWordChar
  match rest with
  | ' ' :: later =>
    if day? word = some [] ∧ isMoment (later.takeWhile isWordChar) then
      some (.date, later.dropWhile isWordChar)
    else (value? word).map (·, rest)
  | _ => (value? word).map (·, rest)
where
  /-- The value of a word. -/
  value? (word : List Char) : Option Value :=
    (date? word).or ((constant? word).or ((integer? word).or (fractional? word)))

end Crosscheck.Toml
