import Crosscheck.Process.Activity
import Crosscheck.Text.Octets

/-!
# Opening files

A path is opened as the file that it leads to. Some paths stand for what is open already: they
name a descriptor of the process that asks.
-/

namespace Crosscheck

/-- The descriptor that a path stands for. -/
def descriptorOf? (path : List Char) : Option Nat :=
  let directories := ["/dev/fd/", "/proc/self/fd/"]
  match String.ofList path with
  | "/dev/stdin" => some 0
  | "/dev/stdout" => some 1
  | "/dev/stderr" => some 2
  | _ => do
    let directory ← directories.find? fun directory => directory.toList.isPrefixOf path
    (String.ofList (path.drop directory.length)).toNat?

/-- What is done to a file when it is opened. -/
def OpenMode.prepare (mode : OpenMode) (octets : List UInt8) : List UInt8 :=
  match mode with
  | .write => []
  | _ => octets

namespace Activity

/-- Open what a path leads to from a directory. -/
def openPath (here : Place) (descriptors : List (Nat × Handle)) (mode : OpenMode)
    (path : List Char) : Activity (Except FileError Handle) := do
  match descriptorOf? path with
  | some descriptor =>
    match descriptors.lookup descriptor with
    | some handle => return .ok handle
    | none => return .error .notFound
  | none =>
    let path := Text.pathOf path
    let opened : FileTree → Except FileError (Place × FileTree) := fun tree => do
      let tree ←
        if mode == .read then do
          let _ ← tree.find here path
          pure tree
        else tree.update here path mode.prepare
      return (← tree.locate here path, tree)
    match opened (← look) with
    | .error error => return .error error
    | .ok (place, tree) =>
      unless mode == .read do edit fun _ => tree
      return .ok (← openFile place mode)

end Activity
end Crosscheck
