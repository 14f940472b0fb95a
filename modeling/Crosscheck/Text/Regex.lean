/-!
# Regular expressions

A regular expression matches parts of a text. Of the matches that start first the longest
counts; parts that are grouped are remembered, and may have to occur again.
-/

namespace Crosscheck.Text

/-- A regular expression. -/
inductive Regex where
  | empty
  | exactly (char : Char)
  | anyChar
  | oneOf (negated : Bool) (ranges : List (Char × Char))
  | lineStart
  | lineEnd
  | textStart
  | textEnd
  | wordStart
  | wordEnd
  /-- Where a word starts or ends, or where none does. -/
  | wordEdge (negated : Bool)
  /-- Where no character of a word stands before or after. -/
  | noWordBefore
  | noWordAfter
  | sequence (first second : Regex)
  | either (first second : Regex)
  | star (body : Regex)
  | group (number : Nat) (body : Regex)
  /-- What a group has matched. -/
  | again (number : Nat)
  deriving Repr, Inhabited

namespace Regex

/-- A text in which matches are looked for. -/
structure Subject where
  chars : Array Char
  ignoresCase : Bool := false
  /-- Whether lines start and end inside the text. -/
  hasLines : Bool := false

/-- A place in a text, with the parts that groups have matched, latest first. -/
structure Spot where
  index : Nat
  groups : List (Nat × Nat × Nat) := []
  deriving DecidableEq, Repr

/-- Whether a character belongs to a word. -/
def isWordChar (char : Char) : Bool := char.isAlphanum || char == '_'

namespace Subject

/-- Whether the character before a place belongs to a word. -/
def followsWord (subject : Subject) (index : Nat) : Bool :=
  0 < index && (subject.chars[index - 1]?).any isWordChar

/-- Whether the character at a place belongs to a word. -/
def meetsWord (subject : Subject) (index : Nat) : Bool :=
  (subject.chars[index]?).any isWordChar

/-- The characters between two places. -/
def slice (subject : Subject) (first last : Nat) : List Char :=
  (subject.chars.extract first last).toList

/-- Whether two characters are the same to the reader of a text. -/
def same (subject : Subject) (left right : Char) : Bool :=
  left == right || (subject.ignoresCase && left.toLower == right.toLower)

end Subject

/-- Whether an expression for one character matches one; `none` for other expressions. -/
def matchesChar? (subject : Subject) (regex : Regex) (char : Char) : Option Bool :=
  match regex with
  | .exactly other => some (subject.same char other)
  | .anyChar => some true
  | .oneOf negated ranges =>
    let isIn (char : Char) := ranges.any fun (first, last) => first ≤ char && char ≤ last
    let found :=
      isIn char || (subject.ignoresCase && (isIn char.toLower || isIn char.toUpper))
    some (found != negated)
  | _ => none

/-- Leave out later ones of spots that stand at the same place. -/
def distinct (spots : List Spot) : List Spot :=
  match spots with
  | [] => []
  | [spot] => [spot]
  | spots => spots.eraseDupsBy fun left right => left.index == right.index

/-- The places that can be reached from one by any number of steps, the farthest way first,
given those that were reached before. The fuel bounds the number of steps. -/
def closure (next : Spot → List Spot) : Nat → Spot → List Nat → List Spot × List Nat
  | 0, spot, reached => ([spot], reached)
  | fuel + 1, spot, reached =>
    if reached.contains spot.index then ([], reached)
    else
      let (found, reached) := (next spot).foldl (fun (found, reached) after =>
        if after.index = spot.index then (found, reached)
        else
          let (more, reached) := closure next fuel after reached
          (found ++ more, reached)) ([], spot.index :: reached)
      (found ++ [spot], reached)

/-- How many characters from a place on pass a test. -/
def countWhile (subject : Subject) (test : Char → Bool) : Nat → Nat → Nat
  | 0, _ => 0
  | fuel + 1, index =>
    match subject.chars[index]? with
    | some char => if test char then countWhile subject test fuel (index + 1) + 1 else 0
    | none => 0

/-- The places up to which an expression matches from a place on, in the order in which they
are preferred. -/
def ends (subject : Subject) : Regex → Spot → List Spot
  | .empty, spot => [spot]
  | .exactly char, spot => one subject (.exactly char) spot
  | .anyChar, spot => one subject .anyChar spot
  | .oneOf negated ranges, spot => one subject (.oneOf negated ranges) spot
  | .lineStart, spot =>
    check spot (spot.index = 0 ||
      (subject.hasLines && subject.chars[spot.index - 1]? == some '\n'))
  | .lineEnd, spot =>
    check spot (spot.index = subject.chars.size ||
      (subject.hasLines && subject.chars[spot.index]? == some '\n'))
  | .textStart, spot => check spot (spot.index = 0)
  | .textEnd, spot => check spot (spot.index = subject.chars.size)
  | .wordStart, spot =>
    check spot (subject.meetsWord spot.index && !subject.followsWord spot.index)
  | .wordEnd, spot =>
    check spot (subject.followsWord spot.index && !subject.meetsWord spot.index)
  | .wordEdge negated, spot =>
    check spot ((subject.followsWord spot.index != subject.meetsWord spot.index) != negated)
  | .noWordBefore, spot => check spot (!subject.followsWord spot.index)
  | .noWordAfter, spot => check spot (!subject.meetsWord spot.index)
  | .sequence first second, spot =>
    distinct ((first.ends subject spot).flatMap fun spot => second.ends subject spot)
  | .either first second, spot =>
    distinct (first.ends subject spot ++ second.ends subject spot)
  | .star body, spot =>
    if (matchesChar? subject body 'a').isSome then
      let count := countWhile subject (fun char => (matchesChar? subject body char).getD false)
        subject.chars.size spot.index
      (List.range (count + 1)).reverse.map fun length =>
        { spot with index := spot.index + length }
    else
      (closure (fun spot => body.ends subject spot) (subject.chars.size + 1) spot []).1
  | .group number body, spot =>
    (body.ends subject spot).map fun after =>
      { after with
        groups := (number, spot.index, after.index) ::
          after.groups.filter fun (other, _) => other ≠ number }
  | .again number, spot =>
    match spot.groups.lookup number with
    | none => []
    | some (first, last) =>
      let wanted := subject.slice first last
      let found := subject.slice spot.index (spot.index + wanted.length)
      check { spot with index := spot.index + wanted.length }
        (wanted.length = found.length && (wanted.zip found).all fun (left, right) =>
          subject.same left right)
where
  /-- A place, if something holds. -/
  check (spot : Spot) (holds : Bool) : List Spot := if holds then [spot] else []
  /-- The place after a character that an expression matches. -/
  one (subject : Subject) (regex : Regex) (spot : Spot) : List Spot :=
    match subject.chars[spot.index]? with
    | some char =>
      check { spot with index := spot.index + 1 } ((matchesChar? subject regex char).getD false)
    | none => []

/-- A part of a text that is matched, with the parts of it that groups have matched. -/
structure Match where
  first : Nat
  last : Nat
  groups : List (Nat × Nat × Nat)
  deriving Repr

/-- The match that starts at a place: of the longest ones the first. -/
def matchAt? (regex : Regex) (subject : Subject) (index : Nat) : Option Match :=
  let longest := (regex.ends subject { index }).foldl (fun best spot =>
    match best with
    | none => some spot
    | some best => if best.index < spot.index then some spot else some best)
    (none : Option Spot)
  longest.map fun spot => ⟨index, spot.index, spot.groups⟩

/-- The first match that starts at a place or after it. The fuel bounds the number of
places. -/
def searchWithin (regex : Regex) (subject : Subject) : Nat → Nat → Option Match
  | 0, _ => none
  | fuel + 1, index =>
    match regex.matchAt? subject index with
    | some found => some found
    | none => regex.searchWithin subject fuel (index + 1)

/-- The first match that starts at a place or after it. -/
def search? (regex : Regex) (subject : Subject) (index : Nat) : Option Match :=
  regex.searchWithin subject (subject.chars.size + 1 - index) index

/-- What a group has matched; the number zero stands for the whole match. -/
def Match.group (found : Match) (subject : Subject) (number : Nat) : List Char :=
  if number = 0 then subject.slice found.first found.last
  else
    match found.groups.lookup number with
    | some (first, last) => subject.slice first last
    | none => []

/-- The expression for a text itself. -/
def ofText : List Char → Regex
  | [] => .empty
  | char :: rest => .sequence (.exactly char) (ofText rest)

/-- An expression a number of times, and possibly more often: up to a limit, or without
one. -/
def times (regex : Regex) (least : Nat) : Option Nat → Regex
  | none => copies least (.star regex)
  | some greatest => copies least (optionals (greatest - least))
where
  copies : Nat → Regex → Regex
    | 0, rest => rest
    | count + 1, rest => .sequence regex (copies count rest)
  optionals : Nat → Regex
    | 0 => .empty
    | count + 1 => .either (.sequence regex (optionals count)) .empty

end Regex
end Crosscheck.Text
