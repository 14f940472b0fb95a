import Crosscheck.Decimal.Fixed
import Crosscheck.Failure
import Crosscheck.Finding
import Crosscheck.Reporter.Event
import Crosscheck.Reporter.Writer
import Crosscheck.Stats

/-!
# Reporters

A reporter receives every finding as it is made and the statistics from time to
time. It may log events, append a line of JSON to a writer, or pass each call to
several reporters in turn, which ends with the first that refuses.
-/

namespace Crosscheck

/-- What one call to a reporter leaves behind. -/
structure Reported (κ : Type) where
  reporter : κ
  events : List LogEvent := []
  result : Except Failure Unit := .ok ()

/-- A state that receives findings and statistics. -/
class Reporting (κ : Type) where
  finding : κ → Finding → Reported κ
  stats : κ → Stats → Reported κ

/-- The reporters of this library. -/
inductive Reporter where
  /-- Turns every call into log events. -/
  | log
  /-- Appends one line of JSON for each finding and flushes it. -/
  | lines (writer : Writer)
  /-- Passes every call to each member in turn. -/
  | all (members : List Reporter)

namespace Reporter

/-- Append a finding as a line and flush. The text of a finding is one write here, where a
serializer makes a write of each piece: a writer that refuses in the middle of a line would
hold the beginning of it, which is left out. -/
def writeLine (writer : Writer) (finding : Finding) : Writer × Except Failure Unit :=
  match writer.write finding.toJson.print with
  | .error cause => (writer, .error (.because cause))
  | .ok writer =>
    match writer.write ['\n'] with
    | .error cause => (writer, .error (.because cause))
    | .ok writer =>
      match writer.flush with
      | .error cause => (writer, .error (.because cause))
      | .ok () => (writer, .ok ())

mutual

/-- Receive a finding. -/
def finding (report : Finding) : Reporter → Reported Reporter
  | .log => { reporter := .log, events := LogEvent.ofFinding report }
  | .lines writer =>
    let (writer, result) := writeLine writer report
    { reporter := .lines writer, result }
  | .all members =>
    let (members, events, result) := findingAll report members
    { reporter := .all members, events, result }

/-- Receive a finding in turn, up to the first refusal. -/
def findingAll (report : Finding) :
    List Reporter → List Reporter × List LogEvent × Except Failure Unit
  | [] => ([], [], .ok ())
  | first :: rest =>
    let reported := finding report first
    match reported.result with
    | .error failure => (reported.reporter :: rest, reported.events, .error failure)
    | .ok () =>
      let (rest, events, result) := findingAll report rest
      (reported.reporter :: rest, reported.events ++ events, result)

end

mutual

/-- Receive statistics. -/
def stats (counts : Stats) : Reporter → Reported Reporter
  | .log => { reporter := .log, events := [LogEvent.ofStats counts] }
  | .lines writer => { reporter := .lines writer }
  | .all members =>
    let (members, events, result) := statsAll counts members
    { reporter := .all members, events, result }

/-- Receive statistics in turn, up to the first refusal. -/
def statsAll (counts : Stats) :
    List Reporter → List Reporter × List LogEvent × Except Failure Unit
  | [] => ([], [], .ok ())
  | first :: rest =>
    let reported := stats counts first
    match reported.result with
    | .error failure => (reported.reporter :: rest, reported.events, .error failure)
    | .ok () =>
      let (rest, events, result) := statsAll counts rest
      (reported.reporter :: rest, reported.events ++ events, result)

end

mutual

/-- The writers inside a reporter, in order of appearance. -/
def writers : Reporter → List Writer
  | .log => []
  | .lines writer => [writer]
  | .all members => writersAll members

/-- The writers inside several reporters. -/
def writersAll : List Reporter → List Writer
  | [] => []
  | first :: rest => writers first ++ writersAll rest

end

instance : Reporting Reporter where
  finding reporter report := reporter.finding report
  stats reporter counts := reporter.stats counts

end Reporter
end Crosscheck
