import Crosscheck.Reporter

/-!
# Recorders

A recorder keeps all that it is told. It may refuse every call afterwards, which shows
that a refusal changes nothing but the result of the call.
-/

namespace Crosscheck

/-- A reporter that keeps findings and statistics. -/
structure Recorder where
  findings : Array Finding := #[]
  stats : Array Stats := #[]
  /-- Why each call is refused, if it is. -/
  refusal : Option Failure := none

namespace Recorder

/-- The result of every call. -/
def result (recorder : Recorder) : Except Failure Unit :=
  match recorder.refusal with
  | some failure => .error failure
  | none => .ok ()

instance : Reporting Recorder where
  finding recorder finding :=
    { reporter := { recorder with findings := recorder.findings.push finding }
      result := recorder.result }
  stats recorder stats :=
    { reporter := { recorder with stats := recorder.stats.push stats }
      result := recorder.result }

end Recorder
end Crosscheck
