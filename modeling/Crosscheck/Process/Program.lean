import Crosscheck.Process.Activity
import Crosscheck.Text.Octets

/-!
# Programs

A program is a file that can be executed. What it does depends on the setting in which it is
started: its words, its environment, its directory and the open files that it finds behind
its descriptors.
-/

namespace Crosscheck

/-- What a program finds when it is started. -/
structure Setting where
  /-- The number of its process. -/
  number : Nat
  /-- What the program is called, and its arguments. -/
  words : List (List Char)
  /-- The path by which it was found. -/
  path : List Char := []
  environment : List (String × List Char)
  directory : Place
  descriptors : List (Nat × Handle)
  deriving DecidableEq, Repr

/-- What a process does that is started in a setting. -/
abbrev Program := Setting → Process

/-- Executes the file at a place. -/
abbrev Executor := FileTree → Place → Setting → Except FileError Process

namespace Program

/-- How the content of a file starts that holds a program as it is executed by itself. -/
def mark : List UInt8 := [127, 69, 76, 70]

/-- The content of the file that holds a program. -/
def image (name : String) : List UInt8 := mark ++ Text.Utf8.octets name

/-- The name of the program that a file holds. -/
def name? (octets : List UInt8) : Option String :=
  if mark.isPrefixOf octets then
    (Text.Utf8.decode? (octets.drop mark.length)).map String.ofList
  else none

/-- Divide a text at a separator. -/
def divide (separator : Char) : List Char → List (List Char)
  | [] => [[]]
  | char :: rest =>
    if char == separator then [] :: divide separator rest
    else
      match divide separator rest with
      | [] => [[char]]
      | part :: others => (char :: part) :: others

/-- The directories in which programs are looked for unless others are named. -/
def usualPath : List Char := "/usr/local/sbin:/usr/local/bin:/usr/sbin:/usr/bin:/sbin:/bin".toList

/-- The place of a file that can be executed. -/
def locate (tree : FileTree) (here : Place) (path : List Char) : Except FileError Place := do
  match ← tree.find here (Text.pathOf path) with
  | .file _ true => tree.locate here (Text.pathOf path)
  | _ => throw .denied

/-- The paths at which a program of a name may stand. -/
def candidates (searchPath name : List Char) : List (List Char) :=
  if name.contains '/' then [name]
  else
    (divide ':' searchPath).map fun directory =>
      if directory.isEmpty then name
      else if directory.getLast? == some '/' then directory ++ name
      else directory ++ '/' :: name

/-- The first of some paths at which a file stands that can be executed, with its place. A
file that cannot be executed is remembered as the reason if there is no other. -/
def search (tree : FileTree) (here : Place) (reason : FileError) :
    List (List Char) → Except FileError (List Char × Place)
  | [] => .error reason
  | path :: others =>
    match locate tree here path with
    | .ok place => .ok (path, place)
    | .error .denied => search tree here .denied others
    | .error _ => search tree here reason others

/-- The place of the program of a name. -/
def find (tree : FileTree) (here : Place) (searchPath name : List Char) :
    Except FileError (List Char × Place) :=
  if name.isEmpty then .error .notFound
  else if name.contains '/' then (locate tree here name).map fun place => (name, place)
  else search tree here .notFound (candidates searchPath name)

/-- The line of a file that names the program that reads it: its path and an argument. -/
def interpreter? (octets : List UInt8) : Option (List Char × List (List Char)) :=
  match Text.ofOctets (octets.takeWhile (· != 10)) with
  | '#' :: '!' :: rest =>
    let isBlank (char : Char) := char == ' ' || char == '\t'
    let rest := ((rest.dropWhile isBlank).reverse.dropWhile isBlank).reverse
    let path := rest.takeWhile (!isBlank ·)
    let argument := (rest.drop path.length).dropWhile isBlank
    if path.isEmpty then none
    else some (path, if argument.isEmpty then [] else [argument])
  | _ => none

/-- Execute the file at a place, given the programs by name. The fuel bounds how often a
program executes another one. -/
def executor (programs : Executor → String → Option Program) : Nat → Executor
  | 0, _, _, _ => .error .tooManyLinks
  | fuel + 1, tree, place, setting =>
    match tree.node? place with
    | some (.file octets true) =>
      match name? octets with
      | some name =>
        match programs (executor programs fuel) name with
        | some program => .ok (program setting)
        | none => .error .malformedProgram
      | none =>
        match interpreter? octets with
        | none => .error .malformedProgram
        | some (path, arguments) => do
          let words := path :: arguments ++ [setting.path] ++ setting.words.drop 1
          executor programs fuel tree (← locate tree setting.directory path)
            { setting with words, path }
    | _ => .error .denied

/-- Execute the program that the first word names. -/
def execute (executor : Executor) (setting : Setting) : Activity FileError := fun next =>
  .look fun tree =>
    let searchPath := (setting.environment.lookup "PATH").getD usualPath
    let executed : Except FileError Process := do
      let (path, place) ← find tree setting.directory searchPath (setting.words.headD [])
      executor tree place { setting with path }
    match executed with
    | .ok process => process
    | .error error => next error

end Program
end Crosscheck
