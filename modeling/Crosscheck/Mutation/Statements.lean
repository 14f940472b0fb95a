import Crosscheck.Mutation
import Crosscheck.Mutation.Tweak

/-!
# Mutation by statements

Octet noise mostly yields syntax errors that every version rejects alike. The
statement mutator keeps statements whole: it duplicates, deletes and swaps them,
splices in statements of other entries, tweaks integer literals and inserts
statements from the pool. An input never has more statements than the limit. Nothing
but the tweak of a literal can unwind.
-/

namespace Crosscheck

/-- The limit on the number of statements, at least one, and what becomes of literals whose
sums are out of range. -/
structure StatementMutator where
  limit : Nat
  positive : 0 < limit
  overflow : Overflow
  deriving DecidableEq, Repr

namespace StatementMutator

variable {σ : Type} [RandomSource σ]

/-- The limit that nothing else determines. -/
def defaultLimit : Nat := 24

/-- A mutator with a limit; zero counts as one. -/
def ofLimit (overflow : Overflow) (limit : Nat) : StatementMutator :=
  ⟨max limit 1, by omega, overflow⟩

/-- The largest number of edits of one mutation. -/
def maxEdits : Nat := 4

/-- The largest number of pool statements in a synthesized input. -/
def maxSynthesized : Nat := 8

/-- Draw the given number of pool statements. -/
def drawPool : Nat → StateM σ (List String)
  | 0 => return []
  | count + 1 => do
    let drawn ← Random.choose Mutation.pool
    return drawn.toList ++ (← drawPool count)

/-- A fresh input: the schema and then statements of the pool. -/
def synthesize (mutator : StatementMutator) : StateM σ (List String) := do
  let budget := max (mutator.limit - Mutation.schema.length) 1
  let count ← Random.between 1 (min budget maxSynthesized)
  let drawn ← drawPool count
  return (Mutation.schema ++ drawn).take mutator.limit

/-- The edits of a statement list. -/
inductive Edit where
  | duplicate
  | delete
  | swap
  | splice
  | tweak
  | insert
  deriving DecidableEq, Repr

/-- All edits, in the order in which they are drawn from. -/
def edits : List Edit := [.duplicate, .delete, .swap, .splice, .tweak, .insert]

/-- Insert a statement at a drawn place. -/
def insertAnywhere (statements : List String) (statement : String) : StateM σ (List String) := do
  return statements.insertIdx (← Random.below (statements.length + 1)) statement

/-- Exchange the statements at two places. -/
def exchange (statements : List String) (first second : Nat) : List String :=
  match statements[first]?, statements[second]? with
  | some former, some latter => (statements.set first latter).set second former
  | _, _ => statements

/-- Apply one edit; `none` if it does not apply or changes nothing. -/
def apply (mutator : StatementMutator) (corpus : Option Corpus) (statements : List String) :
    Edit → StateM σ (Except Payload (Option (List String)))
  | .duplicate => do
    if 0 < statements.length ∧ statements.length < mutator.limit then
      let place ← Random.below statements.length
      match statements[place]? with
      | none => return .ok none
      | some statement => return .ok (some (← insertAnywhere statements statement))
    else return .ok none
  | .delete => do
    if 1 < statements.length then
      return .ok (some (statements.eraseIdx (← Random.below statements.length)))
    else return .ok none
  | .swap => do
    if 1 < statements.length then
      let first ← Random.below statements.length
      let second ← Random.below statements.length
      if first = second then return .ok none
      else return .ok (some (exchange statements first second))
    else return .ok none
  | .splice => do
    if statements.length < mutator.limit then
      let donor ← match corpus with
        | none => pure none
        | some corpus => corpus.random
      match donor with
      | none => return .ok none
      | some donor =>
        match ← Random.choose (Statement.split donor.input) with
        | none => return .ok none
        | some statement => return .ok (some (← insertAnywhere statements statement))
    else return .ok none
  | .tweak => do
    if 0 < statements.length then
      let place ← Random.below statements.length
      match statements[place]? with
      | none => return .ok none
      | some statement =>
        return (← Mutation.tweakLiteral mutator.overflow statement).map
          (·.map (statements.set place))
    else return .ok none
  | .insert => do
    if statements.length < mutator.limit then
      match ← Random.choose Mutation.pool with
      | none => return .ok none
      | some statement => return .ok (some (← insertAnywhere statements statement))
    else return .ok none

/-- Draw and apply edits until `wanted` of them applied or the attempts are used up.
The answer is the statements and the number of edits still wanted. -/
def edit (mutator : StatementMutator) (corpus : Option Corpus) :
    (attempts wanted : Nat) → List String → StateM σ (Except Payload (List String × Nat))
  | 0, wanted, statements => return .ok (statements, wanted)
  | _ + 1, 0, statements => return .ok (statements, 0)
  | attempts + 1, wanted + 1, statements => do
    match ← Random.choose edits with
    | none => return .ok (statements, wanted + 1)
    | some drawn =>
      match ← mutator.apply corpus statements drawn with
      | .error payload => return .error payload
      | .ok (some statements) => mutator.edit corpus attempts wanted statements
      | .ok none => mutator.edit corpus attempts (wanted + 1) statements

/-- Mutate a statement list. Four attempts are made for each wanted edit; if none
applied, a pool statement is appended while the limit allows. -/
def mutateStatements (mutator : StatementMutator) (corpus : Option Corpus)
    (statements : List String) : StateM σ (Except Payload (List String)) := do
  let wanted ← Random.between 1 maxEdits
  match ← mutator.edit corpus (4 * wanted) wanted statements with
  | .error payload => return .error payload
  | .ok (edited, left) =>
    let completed ←
      if left = wanted ∧ edited.length < mutator.limit then do
        pure (edited ++ (← Random.choose Mutation.pool).toList)
      else pure edited
    return .ok (completed.take mutator.limit)

/-- The mutator as a function: without a base the input is synthesized. -/
def mutate (mutator : StatementMutator) : Mutator σ := fun base corpus => do
  match base with
  | none => return .ok (Statement.join (← mutator.synthesize))
  | some base =>
    match ← mutator.mutateStatements corpus (Statement.split base) with
    | .ok statements => return .ok (Statement.join statements)
    | .error payload => return .unwound payload

end StatementMutator
end Crosscheck
