import Mathlib
import Crosscheck.Random.Cycle
import Crosscheck.Proofs.Mutation.Synthesis

/-!
# The limit after a mutation

A mutation is joined from no more statements than the limit allows. Read again it has as
many, or fewer, if every text that statements are taken from ends outside quotes or none
of their statements has a terminator. Without either, one statement may open a quoted part
that the next one closes, whose own quoted terminators are then bare: the mutation is read
as more statements than the limit.
-/

namespace Crosscheck.StatementMutator

open Mutation Statement Crosscheck.Random

section Terminators

variable {overflow : Overflow} {base : List UInt8} {corpus : Option Corpus} {tweaks : Nat}
  {statement : String}

/-- No statement of the base or of an entry has a terminator, not even a quoted one. -/
structure Plain (base : List UInt8) (corpus : Option Corpus) : Prop where
  base : ∀ statement ∈ split base, terminator ∉ statement.toList
  corpus : ∀ donors, corpus = some donors → ∀ donor ∈ donors.entries,
    ∀ statement ∈ split donor.input, terminator ∉ statement.toList

/-- Statements of any origin have no bare terminator. -/
theorem Derived.unbroken (derived : Derived overflow (split base) corpus tweaks statement) :
    ¬HasBare .outside statement.toList := by
  induction derived with
  | given given =>
      cases given with
      | base member => exact (whole_of_mem_split member).unbroken
      | donated _ _ member => exact (whole_of_mem_split member).unbroken
  | pool member => exact (standalone_of_isPlain (isPlain_pool _ member)).unbroken
  | tweaked _ replaced inductionHypothesis => exact replaced.unbroken inductionHypothesis

theorem Derived.not_mem_terminator (plain : Plain base corpus)
    (derived : Derived overflow (split base) corpus tweaks statement) :
    terminator ∉ statement.toList := by
  induction derived with
  | given given =>
      cases given with
      | base member => exact plain.base _ member
      | donated given held member => exact plain.corpus _ given _ held _ member
  | pool member => exact not_mem_of_isPlain (isPlain_pool _ member)
  | tweaked _ replaced inductionHypothesis =>
      exact replaced.not_mem_terminator inductionHypothesis

end Terminators

section Limit

variable {σ : Type} [RandomSource σ]

/-- A synthesized input is made of the schema and the pool, within the limit. -/
theorem always_synthesize (mutator : StatementMutator) :
    Always (mutator.synthesize : StateM σ (List String)) fun statements =>
      (∀ statement ∈ statements, statement ∈ schema ++ pool) ∧
        statements.length ≤ mutator.limit := by
  intro state
  obtain ⟨_, _, drawn, _, _, _, _, listed, ran⟩ := exists_run_synthesize mutator state
  rw [ran]
  refine ⟨fun statement member => ?_, List.length_take_le _ _⟩
  rcases List.mem_append.mp (List.mem_of_mem_take member) with first | later
  · exact List.mem_append_left _ first
  · exact List.mem_append_right _ (listed statement later)

/-- What keeps a mutation within the limit when it is read again. -/
inductive Tame (limit : Nat) (base : List UInt8) (corpus : Option Corpus) : Prop where
  | single (one : limit ≤ 1)
  | closed (closed : Closed base corpus)
  | plain (plain : Plain base corpus)

/-- A tame mutation is read as no more statements than it was joined from. -/
theorem Tame.length_split_join_le {overflow : Overflow} {limit tweaks : Nat} {input : List UInt8}
    {corpus : Option Corpus} {joined : List String} (tame : Tame limit input corpus)
    (mutated : Mutated overflow (split input) corpus tweaks joined)
    (bounded : joined.length ≤ max 1 limit) : (split (join joined)).length ≤ joined.length := by
  obtain ⟨first, rest, rfl⟩ := List.exists_cons_of_ne_nil mutated.nonempty
  have unbroken := (mutated.derived first List.mem_cons_self).unbroken
  cases tame with
  | single one =>
      have none : rest = [] := by
        rw [max_eq_left one, List.length_cons] at bounded
        exact List.eq_nil_of_length_eq_zero (by omega)
      subst none
      exact Statement.length_split_join_le unbroken (by simp)
  | closed closed =>
      have standalone := fun statement member =>
        (mutated.derived statement member).standalone closed
      rw [(split_join_eq_iff _).mpr standalone]
  | plain plain =>
      refine Statement.length_split_join_le unbroken fun statement member => ?_
      exact (mutated.derived _ (List.mem_cons_of_mem _ member)).not_mem_terminator plain

/-- The limit holds for what a mutation is read as, if what it is made from is tame. There is
no mutation to read only where sums are checked and one of them was out of range. -/
theorem length_split_mutate_le (overflow : Overflow) (limit : Nat) (base : Option (List UInt8))
    (corpus : Option Corpus) (tame : ∀ input, base = some input → Tame limit input corpus)
    (state : σ) :
    (∃ output after,
      ((ofLimit overflow limit).mutate base corpus).run state = (.ok output, after) ∧
      (split output).length ≤ max 1 limit) ∨
    (overflow = .unwinds ∧ ∃ after,
      ((ofLimit overflow limit).mutate base corpus).run state =
        (.unwound Overflow.payload, after)) := by
  cases base with
  | none =>
      have kept := always_synthesize (ofLimit overflow limit) state
      rcases ran : (ofLimit overflow limit).synthesize.run state with ⟨statements, after⟩
      rw [ran] at kept
      obtain ⟨listed, bounded⟩ := kept
      have standalone : ∀ statement ∈ statements, Standalone statement.toList := by
        intro statement member
        rcases List.mem_append.mp (listed statement member) with first | later
        · exact standalone_of_isPlain (isPlain_schema _ first)
        · exact standalone_of_isPlain (isPlain_pool _ later)
      refine .inl ⟨join statements, after, run_mutate_none ran, ?_⟩
      rwa [(split_join_eq_iff statements).mpr standalone, ← limit_ofLimit overflow]
  | some input =>
      have kept := always_mutateStatements (ofLimit overflow limit) corpus (split input) state
      rcases ran : ((ofLimit overflow limit).mutateStatements corpus (split input)).run state with
        ⟨joined, after⟩
      rw [ran] at kept
      cases joined with
      | error payload =>
          obtain ⟨rfl, _, _, overflows⟩ := kept
          exact .inr ⟨overflows.checked, after, run_mutate_unwound ran⟩
      | ok joined =>
          obtain ⟨mutated, bounded⟩ := kept
          rw [limit_ofLimit] at bounded
          exact .inl ⟨join joined, after, run_mutate_some ran,
            ((tame input rfl).length_split_join_le mutated bounded).trans bounded⟩

/-- An open quote that is moved to the front takes in what follows, which is no statement more. -/
theorem length_split_mutate_le_open :
    let base := Text.Utf8.encode "a;'".toList
    let words := Random.Cycle.ofList [0, 1610612736, 0, 2147483648]
    Tame 2 base none ∧
      ∃ output after,
        ((ofLimit .unwinds 2).mutate (some base) none).run words = (.ok output, after) ∧
        split output = ["'; a;"] ∧ (split output).length ≤ max 1 2 := by
  intro base words
  have tame : Tame 2 base none := .plain ⟨by decide +kernel, nofun⟩
  have read : (((ofLimit .unwinds 2).mutate (some base) none).run words).1.input?.map split =
      some ["'; a;"] := by decide +kernel
  rcases length_split_mutate_le .unwinds 2 (some base) none
    (fun _ given => Option.some.inj given ▸ tame) words with
    ⟨output, after, ran, bounded⟩ | ⟨_, after, unwound⟩
  · rw [ran] at read
    exact ⟨tame, output, after, ran, Option.some.inj read, bounded⟩
  · rw [unwound] at read
    cases read

/-- The limit of two is exceeded by an exchange that puts an open quote in front of quoted
terminators. -/
theorem length_split_mutate_gt :
    ∃ output after,
      ((ofLimit .unwinds 2).mutate (some (Text.Utf8.encode "'a;b;c'; '".toList)) none).run
        (Random.Cycle.ofList [0, 1610612736, 0, 2147483648]) = (.ok output, after) ∧
      split output = ["'; 'a", "b", "c';"] ∧ max 1 2 < (split output).length :=
  ⟨_, _, rfl, by decide +kernel, by decide +kernel⟩

end Limit
end Crosscheck.StatementMutator
