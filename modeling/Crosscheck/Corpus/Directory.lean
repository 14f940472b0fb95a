import Crosscheck.Digest
import Crosscheck.Failure
import Crosscheck.Files.Tree
import Crosscheck.Text.Quoted

/-!
# Corpora in directories

Inputs are kept in a directory as one file each, named for the digest of its octets. A
list of files and directories is read back in its order, and the files of a directory
in the order of their names; subdirectories and names that start with a dot are left
out.
-/

namespace Crosscheck

/-- Why seeds cannot be read. -/
inductive SeedError where
  | missing (path : String)
  | unlisted (path : String) (cause : FileError)
  | unread (path : String) (cause : FileError)
  deriving DecidableEq, Repr

/-- The wording of why seeds cannot be read. -/
def SeedError.message : SeedError → String
  | .missing path => s!"Corpus I/O error: Seed path {Text.quoted path} does not exist"
  | .unlisted path cause =>
    s!"Corpus I/O error: Failed to read seed directory {Text.quoted path}: {cause.message}"
  | .unread path cause =>
    s!"Corpus I/O error: Failed to read seed file {Text.quoted path}: {cause.message}"

namespace CorpusDirectory

/-- The name of the file that keeps an input. -/
def fileName (input : List UInt8) : String := Digest.hexMd5 input ++ ".sql"

/-- Whether a name is left out of the files of a directory. -/
def isHidden (name : String) : Bool := name.toList.head? == some '.'

/-- Whether a name does not come after another one. -/
def precedes (left right : String) : Bool := !(right < left)

/-- Read one file. -/
def readFile (tree : FileTree) (here : Place) (path : String) :
    Except SeedError (List UInt8) :=
  match tree.read here path with
  | .ok octets => .ok octets
  | .error cause => .error (.unread path cause)

/-- The paths of the files in a directory, in the order of their names. -/
def files (tree : FileTree) (here : Place) (path : String) (names : List String) : List String :=
  ((names.filter fun name => !isHidden name && tree.hasFile here (Path.join path name)).mergeSort
    precedes).map (Path.join path)

/-- Read what a path leads to. -/
def readPath (tree : FileTree) (here : Place) (path : String) :
    Except SeedError (List (List UInt8)) :=
  if tree.hasFile here path then (readFile tree here path).map ([·])
  else if tree.hasDirectory here path then
    match tree.list here path with
    | .error cause => .error (.unlisted path cause)
    | .ok names => (files tree here path names).mapM (readFile tree here)
  else .error (.missing path)

/-- Read what several paths lead to, in order. -/
def readAll (tree : FileTree) (here : Place) : List String → Except SeedError (List (List UInt8))
  | [] => .ok []
  | path :: rest => do return (← readPath tree here path) ++ (← readAll tree here rest)

/-- Write one input into a directory. -/
def writeInput (here : Place) (directory : String) (tree : FileTree) (input : List UInt8) :
    Except Failure FileTree :=
  let path := Path.join directory (fileName input)
  match tree.write here path input with
  | .ok tree => .ok tree
  | .error cause =>
    .error ⟨[s!"Failed to write corpus entry {Text.quoted path}", cause.message]⟩

/-- Write inputs into a directory, which is created if it is missing. -/
def writeAll (tree : FileTree) (here : Place) (directory : String)
    (inputs : List (List UInt8)) : Except Failure FileTree :=
  match tree.createDirectories here directory with
  | .ok tree => inputs.foldlM (writeInput here directory) tree
  | .error cause =>
    .error ⟨[s!"Failed to create corpus directory {Text.quoted directory}", cause.message]⟩

end CorpusDirectory
end Crosscheck
