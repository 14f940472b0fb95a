import Crosscheck.Session.Sentinel

/-!
# Arguments

What a user asks for on the command line. An option is named by two hyphens and a word or
by one hyphen and a letter; its value follows in the same argument or in the next one.
Every option but that for seeds is given once at most.
-/

namespace Crosscheck

/-- What a user asks for. -/
structure Arguments where
  /-- The path of the configuration. -/
  config : String := "divergent.toml"
  /-- In place of the number of iterations that is configured. -/
  iterations : Option Nat := none
  /-- Seconds after which no further step is taken. -/
  seconds : Option Nat := none
  /-- In place of the seed of random decisions that is configured. -/
  seed : Option Nat := none
  /-- Paths of inputs, after those that are configured. -/
  seedPaths : List String := []
  /-- The directory of what a run leaves. -/
  output : String := "divergent-out"
  /-- Whether the versions run an input in turn. -/
  sequential : Bool := false
  deriving DecidableEq, Repr

/-- Why there is no run. -/
inductive NoRun where
  | malformed
  | helpWanted
  | versionWanted
  deriving DecidableEq, Repr

/-- The status that a program ends with where there is no run. -/
def NoRun.status : NoRun → Nat
  | .malformed => 2
  | .helpWanted => 0
  | .versionWanted => 0

namespace Arguments

/-- The names of options. -/
inductive Name where
  | config
  | iterations
  | seconds
  | seed
  | seedPath
  | output
  | sequential
  | help
  | version
  deriving DecidableEq, Repr

/-- The options by their words. -/
def words : List (String × Name) := [
  ("config-file", .config), ("iterations", .iterations), ("duration-secs", .seconds),
  ("seed", .seed), ("seed-dir", .seedPath), ("out-dir", .output), ("sequential", .sequential),
  ("help", .help), ("version", .version)]

/-- The options by their letters. -/
def letters : List (Char × Name) := [
  ('c', .config), ('i', .iterations), ('o', .output), ('h', .help), ('V', .version)]

/-- Whether an option has a value. -/
def Name.hasValue : Name → Bool
  | .sequential => false
  | .help => false
  | .version => false
  | _ => true

/-- An option as it is met, with the value in the same argument. -/
structure Mention where
  name : Name
  value : Option String
  deriving DecidableEq, Repr

/-- The option that an argument names. -/
def mention? (argument : List Char) : Option Mention :=
  match argument with
  | '-' :: '-' :: rest =>
    let word := rest.takeWhile (· != '=')
    let value :=
      match rest.drop word.length with
      | _ :: value => some (String.ofList value)
      | [] => none
    (words.lookup (String.ofList word)).map (⟨·, value⟩)
  | '-' :: letter :: rest =>
    (letters.lookup letter).map fun name =>
      let value :=
        match rest with
        | [] => none
        | '=' :: value => some (String.ofList value)
        | value => some (String.ofList value)
      ⟨name, if name.hasValue then value else none⟩
  | _ => none

/-- Whether an argument is taken for an option rather than a value. -/
def isOption (argument : String) : Bool :=
  argument.toList.head? == some '-' && argument.length > 1

/-- A number of 64 bits. -/
def number? (text : String) : Except NoRun Nat :=
  match Sentinel.count? text.toList with
  | some value => .ok value.toNat
  | none => .error .malformed

/-- A path, which is not empty. -/
def path? (text : String) : Except NoRun String :=
  if text.isEmpty then .error .malformed else .ok text

/-- Take the value of an option. -/
def set (arguments : Arguments) (name : Name) (value : String) : Except NoRun Arguments := do
  match name with
  | .config => return { arguments with config := ← path? value }
  | .iterations => return { arguments with iterations := some (← number? value) }
  | .seconds => return { arguments with seconds := some (← number? value) }
  | .seed => return { arguments with seed := some (← number? value) }
  | .seedPath => return { arguments with seedPaths := arguments.seedPaths ++ [← path? value] }
  | .output => return { arguments with output := ← path? value }
  | .sequential => return { arguments with sequential := true }
  | .help => throw .helpWanted
  | .version => throw .versionWanted

/-- Read arguments, given what has been found and which options were met. -/
def readFrom (found : Arguments) (met : List Name) : List String → Except NoRun Arguments
  | [] => .ok found
  | ["--"] => .ok found
  | argument :: rest =>
    match mention? argument.toList with
    | none => .error .malformed
    | some ⟨name, value⟩ =>
      if name.hasValue then
        if name != .seedPath && met.contains name then .error .malformed
        else
          match value, rest with
          | some value, rest => do readFrom (← found.set name value) (name :: met) rest
          | none, value :: rest =>
            if isOption value then .error .malformed
            else do readFrom (← found.set name value) (name :: met) rest
          | none, [] => .error .malformed
      else if value.isSome || met.contains name then .error .malformed
      else do readFrom (← found.set name "") (name :: met) rest

/-- What the program tells of its arguments. -/
def usage : String :=
  "Usage: crosscheck [OPTIONS]\n\n" ++
  "  -c, --config-file <PATH>    the configuration [divergent.toml]\n" ++
  "  -i, --iterations <NUMBER>   in place of fuzzer.max-iterations\n" ++
  "      --duration-secs <NUMBER>\n" ++
  "                              stop after so many seconds\n" ++
  "      --seed <NUMBER>         in place of fuzzer.rng-seed\n" ++
  "      --seed-dir <PATH>       more files or directories with first inputs\n" ++
  "  -o, --out-dir <PATH>        the directory of results [divergent-out]\n" ++
  "      --sequential            run the versions of an input in turn\n" ++
  "  -h, --help                  show this text\n" ++
  "  -V, --version               show the version"

/-- What the program calls itself. -/
def versionText : String := "crosscheck 0.1.0"

/-- Read the arguments of a program. -/
def read (arguments : List String) : Except NoRun Arguments := readFrom {} [] arguments

end Arguments
end Crosscheck
