import Crosscheck.Text.Blank

/-!
# Sentinels

The line that answers the query at the end of an input is the token, a colon and a count
of 64 bits. Blanks may surround the count and a plus sign may precede it.
-/

namespace Crosscheck.Sentinel

/-- The number that decimal digits write; there has to be at least one. -/
def decimal? (text : List Char) : Option Nat :=
  if text.isEmpty ∨ !text.all Char.isDigit then none
  else some (text.foldl (fun value digit => 10 * value + (digit.toNat - '0'.toNat)) 0)

/-- The count that a text denotes. -/
def count? (text : List Char) : Option UInt64 :=
  let digits :=
    match text with
    | '+' :: rest => rest
    | _ => text
  match decimal? digits with
  | some value => if value < UInt64.size then some (UInt64.ofNat value) else none
  | none => none

/-- A text without another one in front. -/
def after? (front text : List Char) : Option (List Char) :=
  if front.isPrefixOf text then some (text.drop front.length) else none

/-- The count of a line, if it is the sentinel of a token. -/
def parse? (line token : String) : Option UInt64 := do
  let rest ← after? token.toList line.toList
  let rest ← after? [':'] rest
  count? (Text.trim rest)

end Crosscheck.Sentinel
