import Crosscheck.CommandLine
import Crosscheck.Script.Launch

/-!
# The program

Everything that a run may read is gathered before it, and everything that it has written
is put into effect after it. What lies between is `Crosscheck.CommandLine.run`.
-/

namespace Crosscheck.Program

/-- The place in the tree of the directory that the program is started in. -/
def here : Place := ["work"]

/-- The tree before anything is gathered. -/
def emptyTree : FileTree := Script.standardTree.put here .directory

/-- Gather a file, if there is one. -/
def gather (tree : FileTree) (path : String) : IO FileTree := do
  try
    let octets ← IO.FS.readBinFile path
    let added := do
      (← tree.createDirectories here (Path.parentText path)).write here path octets.toList
    return added.toOption.getD tree
  catch _ => return tree

/-- The paths that a run may read besides its configuration. -/
def mentioned (arguments : Arguments) (tree : FileTree) : List String :=
  match Config.load tree here arguments.config with
  | .ok config => config.seedPaths ++ config.targets.flatMap TargetConfig.command
  | .error _ => []

/-- Gather what a run may read. -/
def gatherAll (arguments : Arguments) : IO FileTree := do
  let tree ← gather emptyTree arguments.config
  (mentioned arguments tree ++ arguments.seedPaths ++
    [arguments.output, CommandLine.findingsPath arguments]).foldlM gather tree

/-- The path that leads to a place. -/
def pathOf (place : Place) : String :=
  match place with
  | "work" :: rest => "/".intercalate rest
  | _ => "/" ++ "/".intercalate place

/-- Put what stands at a place into effect, unless it stood there before. -/
def putIntoEffect (before : FileTree) (entry : Place × Node) : IO Unit := do
  let (place, node) := entry
  if before.node? place == some node then return
  match node with
  | .directory => IO.FS.createDirAll (pathOf place)
  | .file octets _ => IO.FS.writeBinFile (pathOf place) ⟨octets.toArray⟩
  | .link _ => return
  | .device _ => return

/-- A number that nobody can foresee. -/
def chance : IO UInt64 := do
  return (← IO.getRandomBytes 8).toList.foldl (fun word octet => word * 256 + octet.toUInt64) 0

/-- Carry out a run. -/
def run (arguments : Arguments) : IO UInt32 := do
  let tree ← gatherAll arguments
  let launcher := Script.launcher here
  let finished := CommandLine.run { launcher, tree, here, chance := ← chance } arguments
  finished.log.forM fun event => IO.eprintln event.line
  finished.tree.nodes.forM (putIntoEffect tree)
  match finished.ending with
  | .done => pure ()
  | .failed failure => (CommandLine.report failure).forM (IO.eprintln ·)
  | .unwound payload => IO.eprintln payload.message
  return UInt32.ofNat finished.status

end Crosscheck.Program

open Crosscheck in
/-- Run the program with its arguments. -/
def main (words : List String) : IO UInt32 := do
  match Arguments.read words with
  | .ok arguments => Program.run arguments
  | .error cause =>
    match cause with
    | .malformed => IO.eprintln Arguments.usage
    | .helpWanted => IO.println Arguments.usage
    | .versionWanted => IO.println Arguments.versionText
    return UInt32.ofNat cause.status
