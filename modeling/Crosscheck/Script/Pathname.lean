import Crosscheck.Files.Tree
import Crosscheck.Script.Pattern
import Crosscheck.Text.Octets

/-!
# Pathnames

A pattern that stands where a path may stand is replaced by the paths of the files that
match it, each name on the way on its own. Names that start with a dot match only what
starts with one.
-/

namespace Crosscheck.Script.Pathname

/-- Whether a pattern asks for files: some of its items match more than one text. -/
def isPattern (text : List PatternChar) : Bool :=
  (Pattern.ofChars text).any fun
    | .exactly _ => false
    | _ => true

/-- The names between the slashes of a pattern, each with the slashes before it. -/
def names : List PatternChar → List (List Char × List PatternChar)
  | [] => []
  | item :: rest =>
    match names rest with
    | [] => if item.char == '/' then [(['/'], [])] else [([], [item])]
    | (slashes, name) :: others =>
      if item.char == '/' then
        if slashes.isEmpty && !name.isEmpty then (['/'], name) :: others
        else ('/' :: slashes, name) :: others
      else if slashes.isEmpty then ([], item :: name) :: others
      else ([], [item]) :: (slashes, name) :: others

/-- The names in the directory that a path leads to, those of the directory itself and of
the one above included. -/
def entries (tree : FileTree) (here : Place) (path : List Char) : List (List Char) :=
  match tree.list here (if path.isEmpty then "." else Text.pathOf path) with
  | .ok names => ['.'] :: ['.', '.'] :: names.map Text.ofString
  | .error _ => []

/-- Whether anything stands where a path leads, be it a link to nowhere. -/
def exists? (tree : FileTree) (here : Place) (path : List Char) : Bool :=
  let text := Text.pathOf path
  (tree.find here text).isOk ||
    ((tree.locateNew here text).toOption.bind tree.node?).isSome

/-- The paths that match the names of a pattern below a path. -/
def below (tree : FileTree) (here : Place) (start : List Char) :
    List (List Char × List PatternChar) → List (List Char)
  | [] => if exists? tree here start then [start] else []
  | (slashes, name) :: others =>
    let directory := start ++ slashes
    if isPattern name then
      let items := Pattern.ofChars name
      let dotted := (name.head?.map PatternChar.char) == some '.'
      let found := (entries tree here directory).filter fun entry =>
        (entry.head? != some '.' || dotted) && Pattern.isMatch items entry
      found.flatMap fun entry => below tree here (directory ++ entry) others
    else below tree here (directory ++ name.map PatternChar.char) others

/-- Whether a text comes before another one or is equal to it. -/
def precedes (left right : List Char) : Bool := decide (left < right) || left == right

/-- The paths that match a pattern, in order. -/
def matching (tree : FileTree) (here : Place) (pattern : List PatternChar) : List (List Char) :=
  (below tree here [] (names pattern)).mergeSort precedes

end Crosscheck.Script.Pathname
