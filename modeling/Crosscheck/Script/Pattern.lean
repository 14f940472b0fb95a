/-!
# Patterns

A star stands for any text, a question mark for any character and brackets for one of
several characters. What is quoted stands for itself.
-/

namespace Crosscheck.Script

/-- A character of a pattern before its meaning is settled. -/
structure PatternChar where
  char : Char
  quoted : Bool
  deriving DecidableEq, Repr

/-- What one place of a pattern matches. -/
inductive PatternItem where
  | exactly (char : Char)
  | anyChar
  | anyText
  | oneOf (negated : Bool) (ranges : List (Char × Char))
  deriving DecidableEq, Repr

namespace Pattern

/-- The characters of a named class, as ranges. -/
def classRanges (name : List Char) : List (Char × Char) :=
  match String.ofList name with
  | "digit" => [('0', '9')]
  | "lower" => [('a', 'z')]
  | "upper" => [('A', 'Z')]
  | "alpha" => [('a', 'z'), ('A', 'Z')]
  | "alnum" => [('0', '9'), ('a', 'z'), ('A', 'Z')]
  | "xdigit" => [('0', '9'), ('a', 'f'), ('A', 'F')]
  | "space" => [('\t', '\r'), (' ', ' ')]
  | "blank" => [('\t', '\t'), (' ', ' ')]
  | "punct" => [('!', '/'), (':', '@'), ('[', '\x60'), ('\x7b', '~')]
  | _ => []

/-- Read the ranges in brackets after the first of them; `none` if the brackets do not
close. The fuel bounds the number of ranges. -/
def ranges? : Nat → List PatternChar → Option (List (Char × Char) × List PatternChar)
  | 0, _ => none
  | _, [] => none
  | _, ⟨']', false⟩ :: rest => some ([], rest)
  | fuel + 1, ⟨'[', false⟩ :: ⟨':', false⟩ :: rest =>
    let name := (rest.takeWhile fun item => item.char != ':').map PatternChar.char
    match rest.dropWhile fun item => item.char != ':' with
    | _ :: ⟨']', _⟩ :: rest => do
      let (ranges, rest) ← ranges? fuel rest
      return (classRanges name ++ ranges, rest)
    | _ => none
  | fuel + 1, first :: ⟨'-', false⟩ :: last :: rest =>
    if last = ⟨']', false⟩ then do
      let (ranges, rest) ← ranges? fuel (last :: rest)
      return ((first.char, first.char) :: ('-', '-') :: ranges, rest)
    else do
      let (ranges, rest) ← ranges? fuel rest
      return ((first.char, last.char) :: ranges, rest)
  | fuel + 1, first :: rest => do
    let (ranges, rest) ← ranges? fuel rest
    return ((first.char, first.char) :: ranges, rest)

/-- Read what stands in brackets. A closing bracket in the first place is a character. -/
def brackets? (text : List PatternChar) : Option (PatternItem × List PatternChar) := do
  let (negated, text) : Bool × List PatternChar :=
    match text with
    | ⟨'!', false⟩ :: rest => (true, rest)
    | _ => (false, text)
  let text :=
    match text with
    | ⟨']', false⟩ :: rest => ⟨']', true⟩ :: rest
    | _ => text
  let (ranges, rest) ← ranges? (text.length + 1) text
  return (.oneOf negated ranges, rest)

/-- The items of a pattern. The fuel bounds their number. -/
def items : Nat → List PatternChar → List PatternItem
  | 0, _ => []
  | _, [] => []
  | fuel + 1, ⟨char, true⟩ :: rest => .exactly char :: items fuel rest
  | fuel + 1, ⟨'*', false⟩ :: rest => .anyText :: items fuel rest
  | fuel + 1, ⟨'?', false⟩ :: rest => .anyChar :: items fuel rest
  | fuel + 1, ⟨'\\', false⟩ :: next :: rest => .exactly next.char :: items fuel rest
  | fuel + 1, ⟨'[', false⟩ :: rest =>
    match brackets? rest with
    | some (item, rest) => item :: items fuel rest
    | none => .exactly '[' :: items fuel rest
  | fuel + 1, ⟨char, false⟩ :: rest => .exactly char :: items fuel rest

/-- The pattern that characters spell. -/
def ofChars (text : List PatternChar) : List PatternItem := items text.length text

/-- Whether an item matches a character. -/
def matchesChar (char : Char) : PatternItem → Bool
  | .exactly other => char == other
  | .anyChar => true
  | .anyText => false
  | .oneOf negated ranges => ranges.any (fun (first, last) => first ≤ char && char ≤ last) != negated

/-- A text with all that is left of it after some of its characters. -/
def suffixes : List Char → List (List Char)
  | [] => [[]]
  | char :: rest => (char :: rest) :: suffixes rest

/-- Whether a pattern matches a whole text. -/
def isMatch : List PatternItem → List Char → Bool
  | [], text => text.isEmpty
  | .anyText :: rest, text => (suffixes text).any (isMatch rest)
  | item :: rest, text =>
    match text with
    | [] => false
    | char :: text => matchesChar char item && isMatch rest text

/-- Take away the shortest or longest part of a text at an end that matches. -/
def trim (atEnd longest : Bool) (pattern : List PatternItem) (text : List Char) : List Char :=
  let counts := List.range (text.length + 1)
  let counts := if longest then counts.reverse else counts
  let part (count : Nat) := if atEnd then text.drop (text.length - count) else text.take count
  match counts.find? fun count => isMatch pattern (part count) with
  | some count => if atEnd then text.take (text.length - count) else text.drop count
  | none => text

end Pattern
end Crosscheck.Script
