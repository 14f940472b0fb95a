import Crosscheck.Duration

/-!
# Settings of a session

An engine is spoken to line by line through its interactive shell. Every input is staged
in a script, which the engine reads on a fresh database, and a query follows whose answer
marks the end of the output.
-/

namespace Crosscheck

/-- How to speak to an engine. -/
structure SessionSettings where
  version : String
  /-- A program and its arguments. -/
  command : List String
  /-- Lines written after every start. -/
  setup : List String
  /-- What stands between two columns of a row. -/
  separator : String
  /-- How the tokens start that mark the end of the output. -/
  sentinel : String
  /-- The database that is opened anew for each input. -/
  database : String
  workingDirectory : Option String := none
  /-- Whether the engine reports coverage through a file. -/
  coverageFile : Bool := false
  /-- Nanoseconds of silence after which no more output is expected. -/
  settle : Nat := Duration.ofMillis 10
  deriving DecidableEq, Repr

namespace SessionSettings

/-- The database that is kept in memory. -/
def memoryDatabase : String := ":memory:"

/-- Settings for a shell that lists rows with bars between their columns. -/
def listMode (version : String) (command : List String) : SessionSettings where
  version := version
  command := command
  setup := [".echo off", ".bail off", ".mode list", ".separator |"]
  separator := "|"
  sentinel := "DIVERGENT_SENTINEL_7F3A9C"
  database := memoryDatabase

/-- The line that opens an empty database. -/
def resetLine (settings : SessionSettings) : String :=
  if settings.database = memoryDatabase then ".open " ++ memoryDatabase
  else s!".open --new '{settings.database}'"

/-- The query whose answer is the token and the number of changed rows. -/
def sentinelQuery (token : String) : String :=
  "SELECT '" ++ token ++ ":' || total_changes();\n"

/-- All that is written for an input that is staged in a script. -/
def inputLines (settings : SessionSettings) (script token : String) : String :=
  settings.resetLine ++ "\n" ++ ".read '" ++ script ++ "'\n" ++ sentinelQuery token

/-- All that is written after a start. -/
def setupLines (settings : SessionSettings) (token : String) : String :=
  "\n".intercalate settings.setup ++ "\n" ++ sentinelQuery token

/-- The token of a number: sixteen hexadecimal digits after the common start. -/
def token (settings : SessionSettings) (number : UInt64) : String :=
  let digits := Nat.toDigits 16 number.toNat
  settings.sentinel ++ "_" ++ String.ofList (List.replicate (16 - digits.length) '0' ++ digits)

end SessionSettings
end Crosscheck
