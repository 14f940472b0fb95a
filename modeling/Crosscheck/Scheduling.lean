import Crosscheck.Corpus

/-!
# Scheduling

A scheduler picks the entry that the next mutation starts from and learns what came
of it.
-/

namespace Crosscheck

/-- Why a scheduler picks nothing. -/
inductive SchedulingError where
  | corpusEmpty
  deriving DecidableEq, Repr

/-- The wording of a scheduling error. -/
def SchedulingError.message : SchedulingError → String
  | .corpusEmpty => "Corpus is empty, cannot schedule next input"

/-- A state that picks entries. -/
class Scheduler (κ : Type) where
  /-- Pick an entry in an iteration. -/
  next {σ : Type} [RandomSource σ] (scheduler : κ) (corpus : Corpus) (iteration : Nat) :
    StateM σ (Except SchedulingError Nat × κ)
  /-- Learn how many first hits a child of an entry had and whether it was a finding. -/
  feedback (scheduler : κ) (id novelEdges : Nat) (isFinding : Bool) : κ

/-- A scheduler that always picks the same entry, or none. -/
inductive PinnedScheduler where
  | always (id : Nat)
  | never
  deriving DecidableEq, Repr

instance : Scheduler PinnedScheduler where
  next scheduler _ _ :=
    match scheduler with
    | .always id => pure (.ok id, scheduler)
    | .never => pure (.error .corpusEmpty, scheduler)
  feedback scheduler _ _ _ := scheduler

/-- A scheduler that is one of two kinds. -/
instance {κ μ : Type} [Scheduler κ] [Scheduler μ] : Scheduler (κ ⊕ μ) where
  next scheduler corpus iteration :=
    match scheduler with
    | .inl scheduler => (·.map id .inl) <$> Scheduler.next scheduler corpus iteration
    | .inr scheduler => (·.map id .inr) <$> Scheduler.next scheduler corpus iteration
  feedback scheduler parent novelEdges isFinding :=
    match scheduler with
    | .inl scheduler => .inl (Scheduler.feedback scheduler parent novelEdges isFinding)
    | .inr scheduler => .inr (Scheduler.feedback scheduler parent novelEdges isFinding)

end Crosscheck
