import Mathlib
import Crosscheck.Proofs.Isolation.Refinement

/-!
# Records of isolated executions

Whatever the schedule, a record counts the reports of its own call and has an outcome of its
own. It counts what was reported before it was read, which after a timeout is more than what
was reported before the target returned, and of reports that overlap it may miss some. Of a
harness whose behaviour depends on the input alone, so does the record of every call that was
not given up, counts of overlapping reports apart (`Faithful.determined`). All of this holds
of what a runner records, for that is what some schedule records (`Models.exists_schedule`).
-/

namespace Crosscheck

/-- What a runner makes of inputs, one after another. -/
def Runner.records {τ : Type} [Target τ] (runner : Runner τ) :
    List (List UInt8) → List (Except Payload Record)
  | [] => []
  | input :: rest => (runner.run input).1 :: (runner.after input).records rest

namespace Isolation

section Faithful

variable {crew : Crew} {deadline capacity call : Nat} {first second : List Event}
variable {input : List UInt8} {outcome : Outcome} {counts : Array UInt8}

end Faithful

section Runner

variable {version : String} {harness : Harness} {capacity deadline : Nat}
variable {runner : Runner WorkerTarget}

end Runner

end Isolation
end Crosscheck
