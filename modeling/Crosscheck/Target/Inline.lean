import Crosscheck.Target
import Crosscheck.Target.Harness

/-!
# Harnesses without a worker

The harness runs in place: there is no context apart from the caller's, so no deadline
is kept, a harness that unwinds unwinds its caller, and nothing can be recycled.
-/

namespace Crosscheck

/-- A harness that runs in place. -/
structure InlineTarget where
  version : String
  harness : Harness
  /-- What is said of the harness's own faults. -/
  detail : String
  calls : Nat := 0

namespace InlineTarget

/-- Execute an input, however long that takes. -/
def execute (target : InlineTarget) (sink : Sink) (input : List UInt8) : Execution InlineTarget :=
  let timeline := target.harness target.calls input
  { target := { target with calls := target.calls + 1 }
    sink := (timeline.hits.map Prod.snd).foldl Sink.hit sink
    ending :=
      match timeline.result with
      | .unwound payload => .unwound payload
      | result => .answered (result.outcome target.detail)
    elapsed := timeline.duration }

instance : Target InlineTarget where
  version := version
  execute target sink input _ := target.execute sink input
  recycle target := (.error (.because "nothing to recycle"), target)
  capacity_execute _ sink _ _ := Sink.capacity_foldl _ Sink.capacity_hit _ sink

end InlineTarget
end Crosscheck
