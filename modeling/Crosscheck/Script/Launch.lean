import Crosscheck.Script.Start
import Crosscheck.Utility

/-!
# Launching programs

The programs that can be launched are a shell, which runs scripts, and the utilities that
scripts make use of. They are found among the files as programs are found everywhere: by
a path, or by a name in the directories of programs.
-/

namespace Crosscheck.Script

/-- The names of the program that runs scripts. -/
def shellNames : List String := ["bash", "dash", "sh"]

/-- The program of a name. -/
def program? (executor : Executor) (name : String) : Option Program :=
  if shellNames.contains name then some (shell executor)
  else
    let delegate := (Utility.Delegate.table.lookup name).map fun utility => utility executor
    (delegate.or (Utility.table.lookup name)).map Utility.toProgram

/-- Executes the programs that there are. -/
def executor : Executor := Program.executor program? 40

/-- The directories that a system has before anything runs on it. -/
def standardDirectories : List String :=
  ["boot", "dev", "etc", "home", "media", "mnt", "opt", "proc", "root", "run", "srv", "sys", "tmp",
    "usr", "usr/bin", "usr/lib", "usr/local", "usr/local/bin", "usr/local/sbin", "usr/sbin",
    "usr/share", "var", "var/lib", "var/log", "var/tmp"]

/-- The files besides programs that a system has before anything runs on it. What they
hold is of no importance here. -/
def standardFiles : List String :=
  ["etc/fstab", "etc/group", "etc/hostname", "etc/hosts", "etc/os-release", "etc/passwd",
    "etc/profile", "etc/resolv.conf", "etc/shadow", "etc/shells"]

/-- The files that a system has before anything runs on it. -/
def standardTree : FileTree :=
  let place (path : String) : Place := (Path.ofText path).parts
  let programs :=
    shellNames ++ Utility.table.map Prod.fst ++ Utility.Delegate.table.map Prod.fst
  ⟨standardDirectories.map (fun path => (place path, .directory)) ++
    programs.map (fun name => (["usr", "bin", name], .file (Program.image name) true)) ++
    standardFiles.map (fun path => (place path, .file [] false)) ++
    [(["bin"], .link "usr/bin"), (["sbin"], .link "usr/sbin"), (["lib"], .link "usr/lib"),
      (["dev", "null"], .device .null), (["dev", "zero"], .device .zero),
      (["dev", "full"], .device .full)]⟩

/-- The environment that all programs are given. -/
def standardEnvironment : List (String × List Char) :=
  [("HOME", "/root".toList), ("PATH", Program.usualPath)]

/-- Launch programs from a directory. -/
def launcher (here : Place) : Launcher := fun _ tree invocation =>
  if invocation.words.any fun word => word.toList.contains '\x00' then .error .malformedWord
  else
    let launched : Except FileError Process := do
      let directory ←
        match invocation.directory with
        | none => pure here
        | some path => tree.locateDirectory here path
      let words := invocation.words.map Text.ofString
      let (path, place) ← Program.find tree directory Program.usualPath (words.headD [])
      let given := invocation.environment.map fun (name, value) => (name, Text.ofString value)
      executor tree place {
        number := Process.firstNumber
        words
        path
        environment := given ++ standardEnvironment
        directory
        descriptors := [(0, Handle.input), (1, Stream.out.handle), (2, Stream.err.handle)] }
    launched.mapError .file

end Crosscheck.Script
