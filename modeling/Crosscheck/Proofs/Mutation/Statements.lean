import Mathlib
import Crosscheck.Mutation.Statements
import Crosscheck.Random.Cycle
import Crosscheck.Proofs.Mutation.Pool
import Crosscheck.Proofs.Mutation.Replacement

/-!
# What becomes of statements under mutation

Edits move statements about, take in those of other inputs and of the pool, and tweak
literals; `Derived` lists these ways. Each edit keeps to them and leaves at least one
statement, so every series of edits does. Where all texts involved end outside quotes every
derived statement stands on its own, so a mutation comes back from its octets intact.

A series that tweaks the same literal again and again can ask for what follows the largest word
only if it began close to it, since each tweak moves a value by one. So a mutation unwinds at
most where a statement at hand has a literal that is not `maxEdits` away from the largest word.
-/

namespace Crosscheck.StatementMutator

open Mutation Statement Crosscheck.Random

/-- The statements of the base and of the entries of the corpus. -/
inductive Given (base : List String) (corpus : Option Corpus) : String → Prop where
  | base {statement} (member : statement ∈ base) : Given base corpus statement
  | donated {statement} {donors : Corpus} {donor : Entry} (given : corpus = some donors)
      (held : donor ∈ donors.entries) (member : statement ∈ split donor.input) :
      Given base corpus statement

/-- The ways in which a statement gets into a mutation of some statements, with no more than
the given number of tweaks. -/
inductive Derived (overflow : Overflow) (base : List String) (corpus : Option Corpus) :
    Nat → String → Prop where
  | given {tweaks statement} (given : Given base corpus statement) :
      Derived overflow base corpus tweaks statement
  | pool {tweaks statement} (member : statement ∈ pool) :
      Derived overflow base corpus tweaks statement
  | tweaked {tweaks statement tweaked} (derived : Derived overflow base corpus tweaks statement)
      (replaced : Tweaks overflow statement tweaked) :
      Derived overflow base corpus (tweaks + 1) tweaked

/-- Statements that a mutation may consist of: derived ones, at least one. -/
structure Mutated (overflow : Overflow) (base : List String) (corpus : Option Corpus)
    (tweaks : Nat) (statements : List String) : Prop where
  nonempty : statements ≠ []
  derived : ∀ statement ∈ statements, Derived overflow base corpus tweaks statement

/-- Another tweak of a derived statement may be out of range. -/
def Strains (overflow : Overflow) (base : List String) (corpus : Option Corpus) (tweaks : Nat) :
    Prop :=
  ∃ statement, Derived overflow base corpus tweaks statement ∧ Overflows overflow statement

section Edits

variable {σ : Type} [RandomSource σ] {overflow : Overflow} {base statements : List String}
  {corpus : Option Corpus} {tweaks : Nat}

theorem Derived.mono {statement : String} {more : Nat}
    (derived : Derived overflow base corpus tweaks statement) (allowed : tweaks ≤ more) :
    Derived overflow base corpus more statement := by
  induction derived generalizing more with
  | given given => exact .given given
  | pool member => exact .pool member
  | tweaked _ replaced inductionHypothesis =>
      obtain ⟨more, rfl⟩ := Nat.exists_eq_add_of_le' (Nat.one_le_of_lt allowed)
      exact .tweaked (inductionHypothesis (Nat.le_of_succ_le_succ allowed)) replaced

theorem Strains.mono {more : Nat} (strains : Strains overflow base corpus tweaks)
    (allowed : tweaks ≤ more) : Strains overflow base corpus more := by
  obtain ⟨statement, derived, overflows⟩ := strains
  exact ⟨statement, derived.mono allowed, overflows⟩

theorem always_insertAnywhere {statement : String}
    (new : Derived overflow base corpus tweaks statement)
    (old : ∀ statement ∈ statements, Derived overflow base corpus tweaks statement) :
    Always (insertAnywhere statements statement : StateM σ (List String))
      (Mutated overflow base corpus tweaks) := by
  refine .bind (always_below (Nat.succ_pos _)) fun place bounded => .pure ?_
  have found : ∀ other, other ∈ statements.insertIdx place statement ↔
      other = statement ∨ other ∈ statements :=
    fun other => List.mem_insertIdx (Nat.lt_succ_iff.mp bounded)
  refine ⟨List.ne_nil_of_mem ((found statement).mpr (.inl rfl)), fun other member => ?_⟩
  rcases (found other).mp member with rfl | member
  · exact new
  · exact old other member

theorem mem_exchange {statement : String} {first second : Nat}
    (member : statement ∈ exchange statements first second) : statement ∈ statements := by
  unfold exchange at member
  split at member
  next former latter heldFirst heldSecond =>
    rcases List.mem_or_eq_of_mem_set member with member | rfl
    · rcases List.mem_or_eq_of_mem_set member with member | rfl
      · exact member
      · exact List.mem_of_getElem? heldSecond
    · exact List.mem_of_getElem? heldFirst
  next => exact member

theorem length_exchange (statements : List String) (first second : Nat) :
    (exchange statements first second).length = statements.length := by
  unfold exchange
  split <;> simp

/-- What an edit may answer: nothing, or statements of which one more may be tweaked. -/
def Applied (overflow : Overflow) (base : List String) (corpus : Option Corpus) (tweaks : Nat)
    (answer : Option (List String)) : Prop :=
  ∀ edited, answer = some edited → Mutated overflow base corpus (tweaks + 1) edited

/-- An edit that applies leaves statements that were there, and new ones of the kinds listed. -/
theorem always_apply (mutator : StatementMutator) (edit : Edit)
    (old : ∀ statement ∈ statements, Derived mutator.overflow base corpus tweaks statement) :
    Always (mutator.apply corpus statements edit :
        StateM σ (Except Payload (Option (List String))))
      (Yields (Strains mutator.overflow base corpus tweaks)
        (Applied mutator.overflow base corpus tweaks)) := by
  have idle : Always (pure (.ok none) : StateM σ (Except Payload (Option (List String))))
      (Yields (Strains mutator.overflow base corpus tweaks)
        (Applied mutator.overflow base corpus tweaks)) :=
    .pure fun _ same => by cases same
  have kept : ∀ {edited : List String}, edited ≠ [] → (∀ statement ∈ edited,
        Derived mutator.overflow base corpus tweaks statement) →
      Yields (Strains mutator.overflow base corpus tweaks)
        (Applied mutator.overflow base corpus tweaks) (.ok (some edited)) := by
    intro edited nonempty derived _ same
    cases same
    exact ⟨nonempty, fun statement member => (derived statement member).mono (Nat.le_succ _)⟩
  have inserted : ∀ {statement : String},
      Derived mutator.overflow base corpus tweaks statement →
      Always (do return .ok (some (← insertAnywhere statements statement)) :
          StateM σ (Except Payload (Option (List String))))
        (Yields (Strains mutator.overflow base corpus tweaks)
          (Applied mutator.overflow base corpus tweaks)) :=
    fun new => .bind (always_insertAnywhere new old) fun _ mutated =>
      .pure (kept mutated.nonempty mutated.derived)
  cases edit with
  | duplicate =>
      refine .ite (fun room => ?_) fun _ => idle
      refine .bind (always_below room.1) fun place _ => ?_
      split
      next => exact idle
      next statement held => exact inserted (old statement (List.mem_of_getElem? held))
  | delete =>
      refine .ite (fun several => ?_) fun _ => idle
      refine .bind (always_below (by omega)) fun place bounded => .pure (kept ?_ ?_)
      · intro none
        have shorter := List.length_eraseIdx_of_lt bounded
        rw [none, List.length_nil] at shorter
        omega
      · exact fun statement member => old _ (List.mem_of_mem_eraseIdx member)
  | swap =>
      refine .ite (fun several => ?_) fun _ => idle
      refine .bind (always_below (by omega)) fun first _ => ?_
      refine .bind (always_below (by omega)) fun second _ => ?_
      refine .ite (fun _ => idle) fun _ => .pure (kept ?_ ?_)
      · intro none
        have same := length_exchange statements first second
        rw [none, List.length_nil] at same
        omega
      · exact fun statement member => old _ (mem_exchange member)
  | splice =>
      refine .ite (fun _ => ?_) fun _ => idle
      cases corpus with
      | none => exact idle
      | some donors =>
          refine .bind (always_random donors) fun donor held => ?_
          cases donor with
          | none => exact idle
          | some donor =>
              refine .bind (always_choose (split donor.input)) fun drawn found => ?_
              rcases found with ⟨_, rfl⟩ | ⟨statement, member, rfl⟩
              · exact idle
              · exact inserted (.given (.donated rfl (held donor rfl) member))
  | tweak =>
      refine .ite (fun nonempty => ?_) fun _ => idle
      refine .bind (always_below nonempty) fun place _ => ?_
      split
      next => exact idle
      next statement held =>
        have derived := old statement (List.mem_of_getElem? held)
        refine .bind (always_tweakLiteral mutator.overflow statement) fun tweaked replaced =>
          .pure ?_
        cases tweaked with
        | error payload => exact ⟨replaced.1, statement, derived, replaced.2⟩
        | ok tweaked =>
            intro edited same
            obtain ⟨tweaked, rfl, rfl⟩ := Option.map_eq_some_iff.mp same
            refine ⟨List.ne_nil_of_length_pos (by simpa using nonempty), fun other member => ?_⟩
            rcases List.mem_or_eq_of_mem_set member with member | rfl
            · exact (old other member).mono (Nat.le_succ _)
            · exact .tweaked derived (replaced _ rfl)
  | insert =>
      refine .ite (fun _ => ?_) fun _ => idle
      refine .bind (always_choose pool) fun drawn found => ?_
      rcases found with ⟨_, rfl⟩ | ⟨statement, member, rfl⟩
      · exact idle
      · exact inserted (.pool member)

/-- What a series of edits may leave. As long as none has applied nothing has changed, and what
the first of them leaves is not empty. -/
structure Edited (overflow : Overflow) (base : List String) (corpus : Option Corpus)
    (statements : List String) (wanted : Nat) (answer : List String × Nat) : Prop where
  derived : ∀ statement ∈ answer.1, Derived overflow base corpus maxEdits statement
  nonempty : statements ≠ [] ∨ answer.2 ≠ wanted → answer.1 ≠ []

theorem edited_self {wanted : Nat} (allowed : tweaks ≤ maxEdits)
    (old : ∀ statement ∈ statements, Derived overflow base corpus tweaks statement) :
    Edited overflow base corpus statements wanted (statements, wanted) :=
  ⟨fun statement member => (old statement member).mono allowed, by simp⟩

/-- A series of edits tweaks a statement no more often than edits are wanted. -/
theorem always_edit (mutator : StatementMutator) (attempts : Nat) {wanted : Nat}
    (allowed : tweaks + wanted ≤ maxEdits)
    (old : ∀ statement ∈ statements, Derived mutator.overflow base corpus tweaks statement) :
    Always (mutator.edit corpus attempts wanted statements :
        StateM σ (Except Payload (List String × Nat)))
      (Yields (Strains mutator.overflow base corpus (maxEdits - 1))
        (Edited mutator.overflow base corpus statements wanted)) := by
  induction attempts generalizing wanted tweaks statements with
  | zero => exact .pure (edited_self (by omega) old)
  | succ attempts inductionHypothesis =>
      cases wanted with
      | zero => exact .pure (edited_self (by omega) old)
      | succ wanted =>
          refine .bind (always_choose edits) fun drawn _ => ?_
          cases drawn with
          | none => exact .pure (edited_self (by omega) old)
          | some drawn =>
              refine .bind (always_apply mutator drawn old) fun applied mutated => ?_
              rcases applied with payload | _ | edited
              · exact .pure ⟨mutated.1, mutated.2.mono (by omega)⟩
              · exact inductionHypothesis allowed old
              · obtain ⟨nonempty, derived⟩ := mutated edited rfl
                have further : tweaks + 1 + wanted ≤ maxEdits := by omega
                exact (inductionHypothesis further derived).mono fun answer answered => by
                  cases answer with
                  | error payload => exact answered
                  | ok answer =>
                      exact ⟨answered.derived, fun _ => answered.nonempty (.inl nonempty)⟩

/-- A mutation has at least one statement and no more than the limit. -/
theorem always_mutateStatements (mutator : StatementMutator) (corpus : Option Corpus)
    (base : List String) :
    Always (mutator.mutateStatements corpus base : StateM σ (Except Payload (List String)))
      (Yields (Strains mutator.overflow base corpus (maxEdits - 1)) fun mutated =>
        Mutated mutator.overflow base corpus maxEdits mutated ∧
          mutated.length ≤ mutator.limit) := by
  have cut : ∀ completed : List String, Mutated mutator.overflow base corpus maxEdits completed →
      Mutated mutator.overflow base corpus maxEdits (completed.take mutator.limit) ∧
        (completed.take mutator.limit).length ≤ mutator.limit := by
    intro completed mutated
    refine ⟨⟨?_, fun statement member => mutated.derived _ (List.mem_of_mem_take member)⟩,
      List.length_take_le _ _⟩
    simp [mutated.nonempty, mutator.positive.ne']
  refine .bind (always_between (by decide)) fun wanted drawn => ?_
  refine .bind (always_edit mutator _ (Nat.zero_add wanted ▸ drawn.2) fun _ member =>
    .given (.base member)) fun answer answered => ?_
  cases answer with
  | error payload => exact .pure answered
  | ok answer =>
      obtain ⟨edited, left⟩ := answer
      obtain ⟨derived, nonempty⟩ := answered
      refine .ite (fun few => ?_) fun many => .pure (cut _ ⟨?_, derived⟩)
      · -- A pool statement is appended, since the pool is not empty.
        refine .bind (always_choose pool) fun drawn found => .pure (cut _ ?_)
        rcases found with ⟨none, _⟩ | ⟨statement, drawnFrom, rfl⟩
        · cases none
        · refine ⟨by simp, fun other member => ?_⟩
          rcases List.mem_append.mp member with member | member
          · exact derived other member
          · rw [Option.toList_some, List.mem_singleton] at member
            exact member ▸ .pool drawnFrom
      · by_cases none : left = wanted
        · -- Nothing applied, and the statements were as many as the limit allows.
          have full : mutator.limit ≤ edited.length :=
            Nat.le_of_not_lt fun room => many ⟨none, room⟩
          exact List.ne_nil_of_length_pos (mutator.positive.trans_le full)
        · exact nonempty (.inr none)

theorem limit_ofLimit (overflow : Overflow) (limit : Nat) :
    (ofLimit overflow limit).limit = max 1 limit := max_comm _ _

theorem run_mutate_none {mutator : StatementMutator} {state after : σ}
    (ran : mutator.synthesize.run state = (statements, after)) :
    (mutator.mutate none corpus).run state = (.ok (join statements), after) :=
  run_bind_of_run ran

theorem run_mutate_some {mutator : StatementMutator} {input : List UInt8} {state after : σ}
    (ran : (mutator.mutateStatements corpus (split input)).run state = (.ok statements, after)) :
    (mutator.mutate (some input) corpus).run state = (.ok (join statements), after) :=
  run_bind_of_run ran

theorem run_mutate_unwound {mutator : StatementMutator} {input : List UInt8} {payload : Payload}
    {state after : σ}
    (ran : (mutator.mutateStatements corpus (split input)).run state = (.error payload, after)) :
    (mutator.mutate (some input) corpus).run state = (.unwound payload, after) :=
  run_bind_of_run ran

end Edits

section Room

variable {base : List String} {corpus : Option Corpus} {tweaks : Nat} {statement : String}

theorem hasRoom_pool : ∀ statement ∈ pool, HasRoom maxEdits statement := by
  intro statement member literal stands _
  have short := List.all_eq_true.mp (isShort_pool statement member) literal
    (mem_literals_iff.mpr stands)
  have bounded : literal.value < 10 ^ 20 := (ofDigitChars_lt_pow stands.digits).trans_le
    (Nat.pow_le_pow_right (by decide) (of_decide_eq_true short))
  exact (Nat.add_lt_add_right bounded maxEdits).trans (by decide)

/-- As many tweaks as are left there is room for, if there was at first. -/
theorem Derived.hasRoom (roomy : ∀ statement, Given base corpus statement →
    HasRoom maxEdits statement) (derived : Derived .unwinds base corpus tweaks statement)
    (allowed : tweaks ≤ maxEdits) : HasRoom (maxEdits - tweaks) statement := by
  induction derived with
  | given given => exact (roomy _ given).mono (Nat.sub_le _ _)
  | pool member => exact (hasRoom_pool _ member).mono (Nat.sub_le _ _)
  | @tweaked tweaks statement tweaked _ replaced inductionHypothesis =>
      have room := inductionHypothesis (Nat.le_of_succ_le allowed)
      rw [show maxEdits - tweaks = maxEdits - (tweaks + 1) + 1 by omega] at room
      exact replaced.hasRoom ((Nat.sub_le _ _).trans (by decide)) room

/-- So the last tweak is out of range only for a literal that began close to the largest word. -/
theorem Strains.exists_near {overflow : Overflow}
    (strains : Strains overflow base corpus (maxEdits - 1)) :
    overflow = .unwinds ∧ ∃ statement, Given base corpus statement ∧
      ∃ literal : Literal, literal.Stands statement.toList ∧
        literal.value < 2 ^ 127 ∧ 2 ^ 127 ≤ literal.value + maxEdits := by
  obtain ⟨statement, derived, rfl, literal, member, largest⟩ := strains
  refine ⟨rfl, ?_⟩
  by_contra far
  have roomy : ∀ statement, Given base corpus statement → HasRoom maxEdits statement :=
    fun statement given literal stands held =>
      Nat.lt_of_not_le fun near => far ⟨statement, given, literal, stands, held, near⟩
  have room := derived.hasRoom roomy (Nat.sub_le _ _) literal (mem_literals_iff.mp member)
    (by omega)
  have left : maxEdits - (maxEdits - 1) = 1 := rfl
  omega

end Room

section Closed

/-- A text that ends outside quotes. -/
def Closes (input : List UInt8) : Prop :=
  Quoting.outside.after (Text.Utf8.decodeLossy input) = .outside

/-- All texts that a mutation takes statements from end outside quotes. -/
structure Closed (base : List UInt8) (corpus : Option Corpus) : Prop where
  base : Closes base
  corpus : ∀ donors, corpus = some donors → ∀ donor ∈ donors.entries, Closes donor.input

/-- Then whatever gets into the mutation stands on its own. -/
theorem Derived.standalone {overflow : Overflow} {base : List UInt8} {corpus : Option Corpus}
    {tweaks : Nat} {statement : String} (closed : Closed base corpus)
    (derived : Derived overflow (split base) corpus tweaks statement) :
    Standalone statement.toList := by
  induction derived with
  | given given =>
      cases given with
      | base member => exact standalone_of_mem_split closed.base member
      | donated given held member =>
          exact standalone_of_mem_split (closed.corpus _ given _ held) member
  | pool member => exact standalone_of_isPlain (isPlain_pool _ member)
  | tweaked _ replaced inductionHypothesis => exact replaced.standalone inductionHypothesis

variable {σ : Type} [RandomSource σ]

/-- If the base and all entries of the corpus end outside quotes, a mutation that succeeds is
split into the very statements that it was joined from. These are at least one and no more
than the limit, and each of them comes from the base, an entry or the pool, with no more
than some literals replaced. The mutation succeeds unless sums are checked and a literal of the
base or of an entry is so close to the largest word that its tweaks can ask for what follows
that word; then it may unwind. -/
theorem mutate_intact (overflow : Overflow) (limit : Nat) (base : List UInt8)
    (corpus : Option Corpus) (closed : Closed base corpus) (state : σ) :
    (∃ joined after,
      ((ofLimit overflow limit).mutateStatements corpus (split base)).run state =
        (.ok joined, after) ∧
      ((ofLimit overflow limit).mutate (some base) corpus).run state = (.ok (join joined), after) ∧
      split (join joined) = joined ∧
      1 ≤ joined.length ∧ joined.length ≤ max 1 limit ∧
      ∀ statement ∈ joined, Derived overflow (split base) corpus maxEdits statement ∧
        Standalone statement.toList) ∨
    (overflow = .unwinds ∧
      (∃ statement, Given (split base) corpus statement ∧ ∃ literal : Literal,
        literal.Stands statement.toList ∧ literal.value < 2 ^ 127 ∧
          2 ^ 127 ≤ literal.value + maxEdits) ∧
      ∃ after, ((ofLimit overflow limit).mutate (some base) corpus).run state =
        (.unwound Overflow.payload, after)) := by
  have kept := always_mutateStatements (ofLimit overflow limit) corpus (split base) state
  rcases ran : ((ofLimit overflow limit).mutateStatements corpus (split base)).run state with
    ⟨joined, after⟩
  rw [ran] at kept
  cases joined with
  | error payload =>
      obtain ⟨rfl, strains⟩ := kept
      obtain ⟨checked, near⟩ := strains.exists_near
      exact .inr ⟨checked, near, after, run_mutate_unwound ran⟩
  | ok joined =>
      obtain ⟨mutated, bounded⟩ := kept
      have standalone : ∀ statement ∈ joined, Standalone statement.toList :=
        fun statement member => (mutated.derived statement member).standalone closed
      rw [limit_ofLimit] at bounded
      exact .inl ⟨joined, after, rfl, run_mutate_some ran,
        (split_join_eq_iff _).mpr standalone, List.length_pos_iff.mpr mutated.nonempty, bounded,
        fun statement member =>
          ⟨mutated.derived statement member, standalone statement member⟩⟩

/-- The statement of an entry is spliced in whole, its quoted terminator included. -/
theorem mutate_intact_spliced :
    let base := Text.Utf8.encode "a;';'".toList
    let corpus := Corpus.empty.add (Text.Utf8.encode "'x;y'".toList)
      { source := .seed, foundAt := 0 }
    let words := Random.Cycle.ofList [0, 2326440618, 0, 0, 0]
    Closed base (some corpus) ∧
      ∃ after, ((ofLimit .unwinds 3).mutate (some base) (some corpus)).run words =
          (.ok (join ["'x;y'", "a", "';'"]), after) ∧
        split (join ["'x;y'", "a", "';'"]) = ["'x;y'", "a", "';'"] := by
  intro base corpus words
  have closed : Closed base (some corpus) := by
    refine ⟨show _ = _ by decide +kernel, fun donors given donor held => ?_⟩
    cases given
    cases List.mem_singleton.mp (Array.mem_toList_iff.mpr held)
    exact show _ = _ by decide +kernel
  have listed : (((ofLimit .unwinds 3).mutateStatements (some corpus) (split base)).run words).1 =
      .ok ["'x;y'", "a", "';'"] := by decide +kernel
  have succeeded : (((ofLimit .unwinds 3).mutate (some base) (some corpus)).run words).1 ≠
      .unwound Overflow.payload := by decide +kernel
  rcases mutate_intact .unwinds 3 base (some corpus) closed words with
    ⟨joined, after, ran, mutated, kept, _⟩ | ⟨_, _, after, unwound⟩
  · obtain rfl : joined = ["'x;y'", "a", "';'"] := by
      rw [ran] at listed
      exact Except.ok.inj listed
    exact ⟨closed, after, mutated, kept⟩
  · exact absurd (by rw [unwound]) succeeded

/-- A base that holds the largest word is not mutated if its next one is drawn. -/
theorem unwound_mutate_largest :
    let base := Text.Utf8.encode "SELECT 170141183460469231731687303715884105727".toList
    let words := Random.Cycle.ofList [0, 2863311531, 0, 0, 0]
    Closed base none ∧ (((ofLimit .unwinds defaultLimit).mutate (some base) none).run words).1 =
      .unwound Overflow.payload :=
  ⟨⟨show _ = _ by decide +kernel, by simp⟩, by decide +kernel⟩

end Closed
end Crosscheck.StatementMutator
