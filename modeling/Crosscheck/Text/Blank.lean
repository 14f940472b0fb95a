/-!
# Blank characters

A blank is a character of the Unicode property White_Space. Statements are
trimmed of blanks at both ends, and values are compared by the fields that blanks
separate.
-/

namespace Crosscheck.Text

/-- The Unicode property White_Space. -/
def isBlank (char : Char) : Bool :=
  let code := char.toNat
  (0x09 ≤ code && code ≤ 0x0D) || code == 0x20 || code == 0x85 || code == 0xA0
    || code == 0x1680 || (0x2000 ≤ code && code ≤ 0x200A)
    || code == 0x2028 || code == 0x2029 || code == 0x202F || code == 0x205F || code == 0x3000

/-- A text without the blanks in front. -/
def trimLeft (text : List Char) : List Char :=
  text.dropWhile isBlank

/-- A text without the blanks at its end. -/
def trimRight (text : List Char) : List Char :=
  (text.reverse.dropWhile isBlank).reverse

/-- A text without the blanks at either end. -/
def trim (text : List Char) : List Char :=
  trimRight (trimLeft text)

/-- Add one character to a list of fields whose first member is still open. -/
def extendFields (char : Char) : List (List Char) → List (List Char)
  | [] => if isBlank char then [[]] else [[char]]
  | field :: rest =>
    if isBlank char then
      if field.isEmpty then field :: rest else [] :: field :: rest
    else (char :: field) :: rest

/-- The maximal runs of characters that are not blank, in order. -/
def fields (text : List Char) : List (List Char) :=
  (text.foldr extendFields [[]]).filter (fun field => !field.isEmpty)

end Crosscheck.Text
