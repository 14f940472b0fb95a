import Crosscheck.Files.Tree

/-!
# Changing file trees

What stands at a path itself, which may be a link, is taken away, moved or copied together
with everything below it.
-/

namespace Crosscheck.FileTree

/-- The place of what a path names itself, and what stands there. A slash at the end asks for
a directory. -/
def locateEntry (tree : FileTree) (here : Place) (text : String) :
    Except FileError (Place × Node) := do
  let place ←
    match tree.locateNew here text with
    | .ok place => pure place
    | .error .exists => tree.locate here text
    | .error error => .error error
  match tree.node? place with
  | none => throw .notFound
  | some node =>
    if text.toList.getLast? == some '/' && node ≠ .directory then
      match node, tree.hasDirectory here text with
      | .link _, true => return (← tree.locate here text, .directory)
      | _, _ => throw .notDirectory
    return (place, node)

/-- Whether a place is another one or below it. -/
def isWithin (place top : Place) : Bool := top.isPrefixOf place

/-- What stands at a place and below it, by its names from there. -/
def branch (tree : FileTree) (top : Place) : List (Place × Node) :=
  tree.nodes.filterMap fun (place, node) =>
    if isWithin place top then some (place.drop top.length, node) else none

/-- Take away what stands at a place and below it. -/
def prune (tree : FileTree) (top : Place) : FileTree :=
  ⟨tree.nodes.filter fun (place, _) => !isWithin place top⟩

/-- Put what stands at a place and below it. -/
def graft (tree : FileTree) (top : Place) (nodes : List (Place × Node)) : FileTree :=
  nodes.foldl (fun tree (place, node) => tree.put (top ++ place) node) tree

/-- Take away what a path names, unless it is a directory. -/
def removeFile (tree : FileTree) (here : Place) (text : String) : Except FileError FileTree := do
  match ← tree.locateEntry here text with
  | (_, .directory) => throw .isDirectory
  | (place, _) => return tree.erase place

/-- Take away a directory that is empty. -/
def removeDirectory (tree : FileTree) (here : Place) (text : String) :
    Except FileError FileTree := do
  match ← tree.locateEntry here text with
  | (place, .directory) =>
    if !(tree.namesIn place).isEmpty then throw .notEmpty
    return tree.erase place
  | _ => throw .notDirectory

/-- Take away what a path names with everything below it. -/
def removeAll (tree : FileTree) (here : Place) (text : String) : Except FileError FileTree := do
  let (place, _) ← tree.locateEntry here text
  return tree.prune place

/-- Give what a path names another name, in place of what stands there. -/
def rename (tree : FileTree) (here : Place) (source target : String) :
    Except FileError FileTree := do
  let (sourcePlace, sourceNode) ← tree.locateEntry here source
  let targetPlace ← tree.locateNew here target
  if sourcePlace = targetPlace then return tree
  match tree.node? targetPlace with
  | some .directory =>
    if sourceNode ≠ .directory then throw .isDirectory
    if !(tree.namesIn targetPlace).isEmpty then throw .notEmpty
  | some _ => if sourceNode = .directory then throw .notDirectory
  | none =>
    if target.toList.getLast? == some '/' && sourceNode ≠ .directory then throw .notDirectory
  let nodes := tree.branch sourcePlace
  return ((tree.prune sourcePlace).erase targetPlace).graft targetPlace nodes

/-- Create a symbolic link. -/
def createLink (tree : FileTree) (here : Place) (target text : String) :
    Except FileError FileTree := do
  if target.isEmpty then throw .notFound
  let place ← tree.locateNew here text
  match tree.node? place with
  | some _ => throw .exists
  | none => return tree.put place (.link target)

/-- Let a file be executed or not. -/
def setExecutable (tree : FileTree) (here : Place) (text : String) (executable : Bool) :
    Except FileError FileTree := do
  let node ← tree.find here text
  let place ← tree.locate here text
  match node with
  | .file octets _ => return tree.put place (.file octets executable)
  | _ => return tree

end Crosscheck.FileTree
