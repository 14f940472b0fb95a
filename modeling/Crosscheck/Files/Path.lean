/-!
# Paths

A path is a text of names between slashes. It starts at the root if it starts with a
slash and otherwise at the directory that its reader stands in. A slash at its end asks
for a directory, as a lone dot there does.
-/

namespace Crosscheck

/-- A path in its parts. A lone dot stays where it is, and another one stands for a slash
at the end: it can only be met in a directory. -/
structure Path where
  isAbsolute : Bool
  parts : List String
  deriving DecidableEq, Repr

namespace Path

/-- The names between the slashes of a text, empty ones included. -/
def names : List Char → List (List Char)
  | [] => [[]]
  | '/' :: rest => [] :: names rest
  | char :: rest =>
    match names rest with
    | [] => [[char]]
    | name :: others => (char :: name) :: others

/-- The path of a text. -/
def ofText (text : String) : Path :=
  let names := names text.toList
  let parts := names.filter (· != []) ++ (if names.getLast? == some [] then [['.']] else [])
  { isAbsolute := text.toList.head? == some '/', parts := parts.map String.ofList }

/-- A text without the slashes at its end. -/
def withoutSlashes (text : String) : String :=
  String.ofList (text.toList.reverse.dropWhile (· == '/')).reverse

/-- The text of a path below a directory. A path from the root takes its place. -/
def join (directory below : String) : String :=
  if below.toList.head? == some '/' ∨ directory.isEmpty then below
  else if directory.toList.getLast? == some '/' then directory ++ below
  else directory ++ "/" ++ below

/-- Whether a name stands for the place where it is met. -/
def isIdle (name : List Char) : Bool := name == [] || name == ['.']

/-- Names without the idle ones at their end. A dot that is the first of all remains. -/
def withoutIdle : List (List Char) → List (List Char)
  | [] => []
  | first :: rest =>
    let rest := (rest.reverse.dropWhile isIdle).reverse
    if first = [] ∧ rest = [] then [] else first :: rest

/-- The text of the path that leads to what holds the last name of a path. -/
def parentText (text : String) : String :=
  let rest := withoutIdle (withoutIdle (names text.toList)).dropLast
  if rest.isEmpty ∧ text.toList.head? == some '/' then "/"
  else String.ofList (['/'].intercalate rest)

end Path
end Crosscheck
