import Crosscheck.Files.Path

/-!
# File trees

The files that a program meets, as a value: what stands at each place, where a place is
the list of names that leads to it from the root. Paths are followed as by a system
that has symbolic links, and what cannot be done is refused with its reason.
-/

namespace Crosscheck

/-- Why an operation on files is refused. -/
inductive FileError where
  | notFound
  | denied
  | exists
  | notDirectory
  | isDirectory
  | nameTooLong
  | tooManyLinks
  | notEmpty
  | notPermitted
  | badDescriptor
  | brokenPipe
  | noSpace
  | interrupted
  | malformedProgram
  /-- The path contains the octet zero. -/
  | malformedPath
  /-- The octets of a text are not in its encoding. -/
  | malformedText
  deriving DecidableEq, Repr

/-- The reason of a refusal. -/
def FileError.reason : FileError → String
  | .notFound => "No such file or directory"
  | .denied => "Permission denied"
  | .exists => "File exists"
  | .notDirectory => "Not a directory"
  | .isDirectory => "Is a directory"
  | .nameTooLong => "File name too long"
  | .tooManyLinks => "Too many levels of symbolic links"
  | .notEmpty => "Directory not empty"
  | .notPermitted => "Operation not permitted"
  | .badDescriptor => "Bad file descriptor"
  | .brokenPipe => "Broken pipe"
  | .noSpace => "No space left on device"
  | .interrupted => "Interrupted system call"
  | .malformedProgram => "Exec format error"
  | .malformedPath => "file name contained an unexpected NUL byte"
  | .malformedText => "stream did not contain valid UTF-8"

/-- The number of a refusal that comes from the system. -/
def FileError.number? : FileError → Option Nat
  | .notFound => some 2
  | .denied => some 13
  | .exists => some 17
  | .notDirectory => some 20
  | .isDirectory => some 21
  | .nameTooLong => some 36
  | .tooManyLinks => some 40
  | .notEmpty => some 39
  | .notPermitted => some 1
  | .badDescriptor => some 9
  | .brokenPipe => some 32
  | .noSpace => some 28
  | .interrupted => some 4
  | .malformedProgram => some 8
  | .malformedPath => none
  | .malformedText => none

/-- The wording of a refusal. -/
def FileError.message (error : FileError) : String :=
  match error.number? with
  | some number => s!"{error.reason} (os error {number})"
  | none => error.reason

/-- A file that keeps nothing of what is written to it. -/
inductive Device where
  /-- Always empty. -/
  | null
  /-- Zeros without an end. -/
  | zero
  /-- Zeros without an end, where nothing can be written. -/
  | full
  deriving DecidableEq, Repr

/-- What stands at a place. -/
inductive Node where
  | file (octets : List UInt8) (executable : Bool)
  | directory
  | link (target : String)
  | device (device : Device)
  deriving DecidableEq, Repr

/-- The names that lead from the root to a place. -/
abbrev Place := List String

/-- What stands at each place but the root, which is a directory. -/
structure FileTree where
  nodes : List (Place × Node)
  deriving DecidableEq, Repr

namespace FileTree

/-- A tree with nothing below its root. -/
def empty : FileTree := ⟨[]⟩

/-- What stands at a place. -/
def node? (tree : FileTree) (place : Place) : Option Node :=
  if place = [] then some .directory else tree.nodes.lookup place

/-- Put a node into a list of them, in place of the one there or at the end. -/
def putNode (place : Place) (node : Node) : List (Place × Node) → List (Place × Node)
  | [] => [(place, node)]
  | (other, current) :: rest =>
    if other = place then (place, node) :: rest else (other, current) :: putNode place node rest

/-- Put a node at a place. -/
def put (tree : FileTree) (place : Place) (node : Node) : FileTree :=
  ⟨putNode place node tree.nodes⟩

/-- Take away what stands at a place. -/
def erase (tree : FileTree) (place : Place) : FileTree :=
  ⟨tree.nodes.filter fun (other, _) => other ≠ place⟩

/-- Whether a directory stands at a place. -/
def isDirectory (tree : FileTree) (place : Place) : Bool := tree.node? place == some .directory

/-- The names in a directory, in no particular order. -/
def namesIn (tree : FileTree) (place : Place) : List String :=
  tree.nodes.filterMap fun (other, _) =>
    match other.getLast? with
    | some name => if other.dropLast = place then some name else none
    | none => none

/-- Follow the parts of a path from a place, with a number of links at most. All but
the last part have to lead to directories. -/
def walk (tree : FileTree) (links : Nat) (place : Place) : List String → Except FileError Place
  | [] => .ok place
  | part :: rest =>
    match tree.node? place with
    | none => .error .notFound
    | some .directory =>
      if part = "." then tree.walk links place rest
      else if part = ".." then tree.walk links place.dropLast rest
      else if part.utf8ByteSize > 255 then .error .nameTooLong
      else
        match tree.node? (place ++ [part]) with
        | some (.link target) =>
          match links with
          | 0 => .error .tooManyLinks
          | remaining + 1 =>
            let path := Path.ofText target
            tree.walk remaining (if path.isAbsolute then [] else place) (path.parts ++ rest)
        | _ => tree.walk links (place ++ [part]) rest
    | some _ => .error .notDirectory
termination_by parts => (links, parts.length)

/-- The number of links that a path may lead through. -/
def maxLinks : Nat := 40

/-- The number of octets that a path must not reach. -/
def maxOctets : Nat := 4096

/-- The place that a path leads to, whether or not something stands there. -/
def locate (tree : FileTree) (here : Place) (text : String) : Except FileError Place :=
  if text.isEmpty then .error .notFound
  else if text.toList.contains '\x00' then .error .malformedPath
  else if text.utf8ByteSize ≥ maxOctets then .error .nameTooLong
  else
    let path := Path.ofText text
    tree.walk maxLinks (if path.isAbsolute then [] else here) path.parts

/-- What a path leads to. -/
def find (tree : FileTree) (here : Place) (text : String) : Except FileError Node := do
  match tree.node? (← tree.locate here text) with
  | none => .error .notFound
  | some node => .ok node

/-- The place of the directory that a path leads to. -/
def locateDirectory (tree : FileTree) (here : Place) (text : String) : Except FileError Place := do
  let place ← tree.locate here text
  match tree.node? place with
  | none => .error .notFound
  | some .directory => .ok place
  | some _ => .error .notDirectory

/-- The place of a new name, which must not be a dot or two: the path before the name has
to lead to a directory. -/
def locateNew (tree : FileTree) (here : Place) (text : String) : Except FileError Place := do
  let path := Path.ofText (Path.withoutSlashes text)
  match path.parts.getLast? with
  | none => if text.isEmpty then .error .notFound else .error .exists
  | some name =>
    if text.utf8ByteSize ≥ maxOctets then throw .nameTooLong
    if text.toList.contains '\x00' then throw .malformedPath
    let start := if path.isAbsolute then [] else here
    let parent ← tree.walk maxLinks start (path.parts.dropLast ++ ["."])
    if name = "." ∨ name = ".." then .error .exists
    else if name.utf8ByteSize > 255 then .error .nameTooLong
    else return parent ++ [name]

/-- Whether a path leads to a file with content. -/
def hasFile (tree : FileTree) (here : Place) (text : String) : Bool :=
  match tree.find here text with
  | .ok (.file ..) => true
  | _ => false

/-- Whether a path leads to a directory. -/
def hasDirectory (tree : FileTree) (here : Place) (text : String) : Bool :=
  match tree.find here text with
  | .ok .directory => true
  | _ => false

/-- The octets of a file. -/
def read (tree : FileTree) (here : Place) (text : String) : Except FileError (List UInt8) := do
  match ← tree.find here text with
  | .file octets _ => .ok octets
  | .directory => .error .isDirectory
  | .device _ => .ok []
  | .link _ => .error .notFound

/-- The names in the directory that a path leads to. -/
def list (tree : FileTree) (here : Place) (text : String) : Except FileError (List String) := do
  match ← tree.find here text with
  | .directory => return tree.namesIn (← tree.locate here text)
  | _ => .error .notDirectory

/-- Change the octets of a file, which is created if it is missing. -/
def update (tree : FileTree) (here : Place) (text : String)
    (change : List UInt8 → List UInt8) : Except FileError FileTree := do
  if text.toList.getLast? == some '/' then
    let _ ← tree.locateNew here text
    throw .isDirectory
  let place ← tree.locate here text
  match tree.node? place with
  | some .directory => .error .isDirectory
  | some (.file octets executable) => .ok (tree.put place (.file (change octets) executable))
  | some _ => .ok tree
  | none =>
    if tree.isDirectory place.dropLast then .ok (tree.put place (.file (change []) false))
    else .error .notFound

/-- Change the octets of the file at a place, if there is one. -/
def change (tree : FileTree) (place : Place) (change : List UInt8 → List UInt8) : FileTree :=
  match tree.node? place with
  | some (.file octets executable) => tree.put place (.file (change octets) executable)
  | _ => tree

/-- The octets of the file at a place, none if there is no file. -/
def octetsAt (tree : FileTree) (place : Place) : List UInt8 :=
  match tree.node? place with
  | some (.file octets _) => octets
  | _ => []

/-- Write a file anew. -/
def write (tree : FileTree) (here : Place) (text : String) (octets : List UInt8) :
    Except FileError FileTree := tree.update here text fun _ => octets

/-- Write after the end of a file. -/
def append (tree : FileTree) (here : Place) (text : String) (octets : List UInt8) :
    Except FileError FileTree := tree.update here text (· ++ octets)

/-- Create a directory in an existing one. -/
def createDirectory (tree : FileTree) (here : Place) (text : String) :
    Except FileError FileTree := do
  let place ← tree.locateNew here text
  match tree.node? place with
  | some _ => .error .exists
  | none => .ok (tree.put place .directory)

/-- Create a directory with those on the way to it, as far as they are missing. The
depth bounds the number of those. -/
def createDirectoriesWithin (tree : FileTree) (here : Place) (text : String) :
    Nat → Except FileError FileTree
  | 0 => .ok tree
  | depth + 1 =>
    if text.isEmpty then .ok tree
    else
      match tree.createDirectory here text with
      | .ok tree => .ok tree
      | .error .notFound => do
        let tree ← tree.createDirectoriesWithin here (Path.parentText text) depth
        match tree.createDirectory here text with
        | .ok tree => .ok tree
        | .error error => if tree.hasDirectory here text then .ok tree else .error error
      | .error error => if tree.hasDirectory here text then .ok tree else .error error

/-- Create a directory with those on the way to it, as far as they are missing. -/
def createDirectories (tree : FileTree) (here : Place) (text : String) :
    Except FileError FileTree :=
  tree.createDirectoriesWithin here text (text.length + 1)

/-- A tree with the nodes of another one at places where nothing stands. -/
def merge (tree other : FileTree) : FileTree :=
  ⟨tree.nodes ++ other.nodes.filter fun (place, _) => (tree.node? place).isNone⟩

end FileTree
end Crosscheck
