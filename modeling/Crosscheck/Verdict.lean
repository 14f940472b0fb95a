import Crosscheck.Equivalence
import Crosscheck.Record

/-!
# Verdicts

The records of one input are classified together. Faults come first. Completed
outputs are grouped in record order: each joins the first class whose first member
it agrees with, or starts a class. The largest class is the reference, the earliest
of several largest ones, and every version outside it is an outlier.
-/

namespace Crosscheck

/-- What the records of one input amount to. -/
inductive Verdict where
  /-- All versions completed alike. -/
  | agree
  /-- Completed outputs differ; the outliers stand outside the largest class. -/
  | diverge (outliers : List String)
  /-- Some versions faulted, or all did in different ways. -/
  | fault (faulted : List String)
  /-- All versions faulted in the same way. -/
  | sharedFault (kind : FaultKind)
  /-- No verdict was reached. -/
  | unresolved (reason : String)
  deriving DecidableEq, Repr

namespace Verdict

/-- Whether the verdict is reported as soon as it is reached. -/
def isFinding : Verdict → Bool
  | .diverge _ | .fault _ | .sharedFault _ => true
  | .agree | .unresolved _ => false

/-- The name of a verdict. -/
def name : Verdict → String
  | .agree => "agree"
  | .diverge _ => "diverge"
  | .fault _ => "fault"
  | .sharedFault _ => "shared-fault"
  | .unresolved _ => "unresolved"

end Verdict

/-- Why no verdict is reached. -/
inductive Indecision where
  | tooFewVersions (count : Nat)
  | predicate (failure : PredicateFailure)
  deriving DecidableEq, Repr

/-- The wording of an indecision. -/
def Indecision.message : Indecision → String
  | .tooFewVersions count => s!"need at least two versions, got {count}"
  | .predicate (.refused failure) => "equivalence predicate failed: " ++ failure.message
  | .predicate (.unwound payload) => "equivalence predicate panicked: " ++ payload.message

namespace Comparison

/-- Outputs that agree with the first of them, by the places of their records. -/
structure OutputClass where
  representative : Output
  members : List Nat
  deriving DecidableEq, Repr

/-- Put an output into the first class that it agrees with, or into one of its own. -/
def place (predicate : Predicate) (output : Output) (index : Nat) :
    List OutputClass → Except PredicateFailure (List OutputClass)
  | [] => .ok [⟨output, [index]⟩]
  | first :: rest =>
    match predicate first.representative output with
    | .error failure => .error failure
    | .ok true => .ok ({ first with members := first.members ++ [index] } :: rest)
    | .ok false => (place predicate output index rest).map (first :: ·)

/-- Place the outputs in order, the first of them at the given place. -/
def placeAll (predicate : Predicate) (classes : List OutputClass) (index : Nat) :
    List Output → Except PredicateFailure (List OutputClass)
  | [] => .ok classes
  | output :: rest =>
    match place predicate output index classes with
    | .error failure => .error failure
    | .ok classes => placeAll predicate classes (index + 1) rest

/-- The largest class, the earliest of several. -/
def reference : List OutputClass → Option OutputClass
  | [] => none
  | first :: rest =>
    some (rest.foldl
      (fun best other => if other.members.length > best.members.length then other else best) first)

/-- The versions whose places are not among the given ones. -/
def outliers (members : List Nat) (versions : List String) : List String :=
  (versions.zipIdx.filter fun (_, index) => !members.contains index).map Prod.fst

/-- The verdict on outputs that all completed. -/
def ofOutputs (predicate : Predicate) (versions : List String) (outputs : List Output) : Verdict :=
  match placeAll predicate [] 0 outputs with
  | .error failure => .unresolved (Indecision.predicate failure).message
  | .ok classes =>
    if classes.length ≤ 1 then .agree
    else .diverge (outliers (((reference classes).map OutputClass.members).getD []) versions)

/-- The kind of fault that all records share. -/
def sharedKind? : List Record → Option FaultKind
  | [] => none
  | first :: rest =>
    match first.outcome.fault? with
    | none => none
    | some fault =>
      if rest.all fun record => record.outcome.fault?.map Fault.kind == some fault.kind then
        some fault.kind
      else none

/-- The verdict on the records of one input. -/
def classify (predicate : Predicate) (records : List Record) : Verdict :=
  if records.length < 2 then .unresolved (Indecision.tooFewVersions records.length).message
  else
    match sharedKind? records with
    | some kind => .sharedFault kind
    | none =>
      let faulted := records.filter Record.isFault
      if faulted.isEmpty then
        ofOutputs predicate (records.map Record.version)
          (records.filterMap fun record => record.outcome.output?)
      else .fault (faulted.map Record.version)

end Comparison
end Crosscheck
