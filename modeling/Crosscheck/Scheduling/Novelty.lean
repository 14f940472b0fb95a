import Std.Data.HashMap
import Crosscheck.Decimal.Binary64
import Crosscheck.Scheduling

/-!
# Scheduling by novelty

Entries that revealed much, were found recently, have productive children and were
not picked often yet weigh more. The weight of an entry is
`(1 + novel + childEdges + 4 * findings) * window / (window + age) / (1 + selections)`,
evaluated from left to right, and an entry is drawn in proportion to its weight.
-/

namespace Crosscheck

/-- What the children of an entry achieved. -/
structure Productivity where
  childEdges : Nat := 0
  findings : Nat := 0
  deriving DecidableEq, Repr, Inhabited

/-- The age at which the weight of an entry has halved, and what is known of each entry. -/
structure NoveltyScheduler where
  window : Nat
  productivity : Std.HashMap Nat Productivity

namespace NoveltyScheduler

/-- The window that nothing else determines. -/
def defaultWindow : Nat := 1000

/-- A scheduler that has learned nothing; its window is at least one. -/
def ofWindow (window : Nat) : NoveltyScheduler := ⟨max window 1, ∅⟩

/-- What is known of an entry. -/
def productivityOf (scheduler : NoveltyScheduler) (id : Nat) : Productivity :=
  scheduler.productivity.getD id {}

/-- The weight of an entry in an iteration. -/
def weight (scheduler : NoveltyScheduler) (id : Nat) (metadata : Metadata) (iteration : Nat) :
    Float :=
  let productivity := scheduler.productivityOf id
  let merit := 1.0 + Decimal.ofCount metadata.novelEdges + Decimal.ofCount productivity.childEdges
    + 4.0 * Decimal.ofCount productivity.findings
  let age := Decimal.ofCount (iteration - metadata.foundAt)
  let window := Decimal.ofCount scheduler.window
  let recency := window / (window + age)
  merit * recency / (1.0 + Decimal.ofCount metadata.selections)

/-- The weights of all entries, in order. -/
def weights (scheduler : NoveltyScheduler) (corpus : Corpus) (iteration : Nat) :
    List (Nat × Float) :=
  corpus.entries.toList.map fun entry =>
    (entry.id, scheduler.weight entry.id entry.metadata iteration)

/-- The first entry whose weight reaches past the target, the weights before it taken
off. Rounding can leave a sliver past the last entry, which then is the answer. -/
def pick (last : Option Nat) (target : Float) : List (Nat × Float) → Option Nat
  | [] => last
  | (id, weight) :: rest => if target < weight then some id else pick (some id) (target - weight) rest

/-- Draw an entry in proportion to the weights. Weights whose sum is not a positive
finite number are ignored. -/
def draw {σ : Type} [RandomSource σ] (scheduler : NoveltyScheduler) (corpus : Corpus)
    (iteration : Nat) : StateM σ (Except SchedulingError Nat) := do
  if corpus.isEmpty then return .error .corpusEmpty
  let weights := scheduler.weights corpus iteration
  let total := weights.foldl (fun sum (_, weight) => sum + weight) 0.0
  let picked ←
    if !total.isFinite || total <= 0.0 then
      (·.map Entry.id) <$> corpus.random
    else do
      let target := (← Random.unit) * total
      pure (pick none target weights)
  match picked with
  | some id => return .ok id
  | none => return .error .corpusEmpty

/-- Learn of a child that had first hits or was a finding. -/
def learn (scheduler : NoveltyScheduler) (id novelEdges : Nat) (isFinding : Bool) :
    NoveltyScheduler :=
  if novelEdges = 0 ∧ !isFinding then scheduler
  else
    let known := scheduler.productivityOf id
    { scheduler with
      productivity := scheduler.productivity.insert id
        { childEdges := known.childEdges + novelEdges
          findings := if isFinding then known.findings + 1 else known.findings } }

instance : Scheduler NoveltyScheduler where
  next scheduler corpus iteration := do
    return (← scheduler.draw corpus iteration, scheduler)
  feedback := learn

end NoveltyScheduler
end Crosscheck
