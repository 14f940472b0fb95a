import Mathlib
import Crosscheck.Proofs.Campaign.Modes
import Crosscheck.Proofs.Files.Tree
import Crosscheck.Proofs.Session.Exchange
import Crosscheck.Target.Thread

/-!
# Which inputs meet the same context

A target holds a context of execution, or none. Whether it does after a run is settled by
target and runner together: an execution that completes leaves its context in place, in
whatever way the others end the runner has the target recycled, and recycling leaves none
(`holds_after_iff`). So a context that is met by an input has completed every input before
it since it was started (`Tenure`), and after a fault the next one is started anew.
-/

namespace Crosscheck

/-- Targets whose executions take place in a context that may outlive them. -/
class Contextual (τ : Type) [Target τ] where
  /-- Whether there is a context for the next execution. -/
  holds : τ → Bool
  /-- An execution that completes leaves its context. -/
  holds_execute : ∀ (target : τ) (sink : Sink) (input : List UInt8) (deadline : Nat)
    (output : Output),
    (Target.execute target sink input deadline).ending = .answered (.completed output) →
    holds (Target.execute target sink input deadline).target = true
  holds_recycle : ∀ target : τ, holds (Target.recycle target).2 = false

namespace Runner

variable {τ : Type} [Target τ]

/-- The target completes an input. -/
def Completes (runner : Runner τ) (input : List UInt8) : Prop :=
  ∃ record, (runner.run input).1 = .ok record ∧ record.outcome.fault? = none

/-- Whether the next input of a runner meets a context. -/
def holds [Contextual τ] (runner : Runner τ) : Bool := Contextual.holds runner.target

/-- To complete an input is to be answered with an output. -/
theorem completes_iff (runner : Runner τ) (input : List UInt8) : runner.Completes input ↔
    ∃ output, (Target.execute runner.target runner.sink.reset input runner.timeout).ending =
      .answered (.completed output) := by
  unfold Completes run
  dsimp only
  split
  next unwound => simp [unwound]
  next outcome answered =>
    cases outcome <;> simp [answered, Outcome.fault?]

/-- What recycling leaves as it is was left so by the execution. -/
theorem after_of_recycle {α : Type} (view : τ → α)
    (kept : ∀ target, view (Target.recycle target).2 = view target) (runner : Runner τ)
    (input : List UInt8) : view (runner.after input).target =
      view (Target.execute runner.target runner.sink.reset input runner.timeout).target := by
  unfold after run settle
  dsimp only
  split
  · rfl
  · split
    · rfl
    · exact kept _

variable [Contextual τ]

/-- A run leaves a record, and it leaves a context exactly if it was not a fault. -/
theorem holds_of_run [Answering τ] (runner : Runner τ) (input : List UInt8) :
    ∃ record, (runner.run input).1 = .ok record ∧
      ((runner.after input).holds = true ↔ record.outcome.fault? = none) := by
  obtain ⟨outcome, answered⟩ :=
    Answering.answers runner.target runner.sink.reset input runner.timeout
  unfold holds after run
  simp only [answered]
  refine ⟨_, rfl, ?_⟩
  cases outcome with
  | completed output =>
      simp only [settle, Outcome.fault?, Option.isNone_none, if_true, iff_true]
      exact Contextual.holds_execute _ _ _ _ output answered
  | faulted fault =>
      simp only [settle, Outcome.fault?, Option.isNone_some, Bool.false_eq_true, if_false,
        reduceCtorEq, iff_false, Bool.not_eq_true]
      exact Contextual.holds_recycle _

theorem holds_after_iff [Answering τ] (runner : Runner τ) (input : List UInt8) :
    (runner.after input).holds = true ↔ runner.Completes input := by
  obtain ⟨record, ran, kept⟩ := runner.holds_of_run input
  refine kept.trans ⟨fun sound => ⟨record, ran, sound⟩, ?_⟩
  rintro ⟨other, same, sound⟩
  cases ran.symm.trans same
  exact sound

/-- The context that a runner holds after some inputs was started for the first of the
later ones, met each of them and completed it. -/
inductive Tenure (origin : Runner τ) (earlier : List (List UInt8)) :
    List (List UInt8) → Prop where
  | started {input : List UInt8} (fresh : (origin.afterAll earlier).holds = false)
      (completes : (origin.afterAll earlier).Completes input) : Tenure origin earlier [input]
  | reused {served : List (List UInt8)} {input : List UInt8}
      (tenure : Tenure origin earlier served)
      (met : (origin.afterAll (earlier ++ served)).holds = true)
      (completes : (origin.afterAll (earlier ++ served)).Completes input) :
      Tenure origin earlier (served ++ [input])

/-- Whatever has been run, a context that is held has a tenure. -/
theorem exists_tenure [Answering τ] {origin : Runner τ} (fresh : origin.holds = false)
    {inputs : List (List UInt8)} (held : (origin.afterAll inputs).holds = true) :
    ∃ earlier served, inputs = earlier ++ served ∧ Tenure origin earlier served := by
  induction inputs using List.reverseRecOn with
  | nil => exact absurd (held.symm.trans fresh) (by decide)
  | append_singleton inputs input inductionHypothesis =>
      rw [afterAll_append, holds_after_iff] at held
      cases met : (origin.afterAll inputs).holds with
      | false => exact ⟨inputs, [input], rfl, .started met held⟩
      | true =>
          obtain ⟨earlier, served, rfl, tenure⟩ := inductionHypothesis met
          exact ⟨earlier, served ++ [input], List.append_assoc _ _ _, .reused tenure met held⟩

end Runner

namespace SessionTarget

variable {target : SessionTarget} {session : Session} {sink : Sink} {input : List UInt8}
  {deadline : Nat} {output : Output}

/-- A completed input leaves its process, which was there before. -/
theorem session_serve (completed : (target.serve session sink deadline).1 = .completed output) :
    (target.serve session sink deadline).2.2.session.isSome = true := by
  unfold serve at completed ⊢
  dsimp only at completed ⊢
  rw [completed]
  rfl

theorem session_stage
    (completed : (target.stage session sink input deadline).1 = .completed output) :
    (target.stage session sink input deadline).2.2.session.isSome = true := by
  unfold stage at completed ⊢
  dsimp only at completed ⊢
  split at completed
  · cases completed
  · exact session_serve completed

theorem launches_serve (target : SessionTarget) (session : Session) (sink : Sink)
    (deadline : Nat) : (target.serve session sink deadline).2.2.launches = target.launches := by
  unfold serve
  exact (apply_ite SessionTarget.launches _ _ _).trans (ite_self _)

theorem launches_stage (target : SessionTarget) (session : Session) (sink : Sink)
    (input : List UInt8) (deadline : Nat) :
    (target.stage session sink input deadline).2.2.launches = target.launches := by
  unfold stage
  dsimp only
  split
  · rfl
  · exact launches_serve target _ sink deadline

/-- A start that succeeds is one more launch. -/
theorem launches_start {capacity : Nat} (started : (target.start capacity).1 = .ok session) :
    (target.start capacity).2.launches = target.launches + 1 := by
  unfold start at started ⊢
  split at started
  · cases started
  · dsimp only
    split <;> rfl

/-- A process that is there is the one that serves. -/
theorem launches_of_session (held : target.session.isSome = true) :
    (target.execute sink input deadline).target.launches = target.launches := by
  obtain ⟨session, same⟩ := Option.isSome_iff_exists.mp held
  unfold execute
  simp only [same]
  exact launches_stage target session sink input deadline

/-- An input that is completed without one has launched another. -/
theorem launches_of_none (fresh : target.session.isSome = false)
    (completed : (target.execute sink input deadline).ending = .answered (.completed output)) :
    (target.execute sink input deadline).target.launches = target.launches + 1 := by
  have none := Option.isSome_eq_false_iff.mp fresh
  unfold execute at completed ⊢
  simp only [Option.isNone_iff_eq_none.mp none] at completed ⊢
  cases started : (target.start sink.map.capacity).1 with
  | error failure =>
      simp only [started] at completed
      cases completed
  | ok session =>
      simp only [started] at completed ⊢
      rw [launches_stage]
      exact launches_start started

end SessionTarget

/-- The process is the context. -/
instance : Contextual SessionTarget where
  holds target := target.session.isSome
  holds_execute target sink input deadline output completed := by
    simp only [Target.execute, SessionTarget.execute] at completed ⊢
    split at completed
    · cases completed
    · exact SessionTarget.session_stage (Ending.answered.inj completed)
  holds_recycle _ := rfl

/-- The worker is the context. -/
instance : Contextual WorkerTarget where
  holds target := target.hasWorker
  holds_execute target sink input deadline output completed := by
    simp only [Target.execute, WorkerTarget.execute] at completed ⊢
    split at completed
    next inTime =>
      rw [if_pos inTime]
      rfl
    · cases completed
  holds_recycle _ := rfl

namespace ThreadTarget

variable {target : ThreadTarget} {sink : Sink} {input : List UInt8} {deadline : Nat}

/-- A worker that has completed an input waits for the next one. -/
theorem hasWorker_engage {output : Output}
    (completed : (target.engage sink input deadline).ending = .answered (.completed output)) :
    (target.engage sink input deadline).target.worker.hasWorker = true := by
  unfold engage at completed ⊢
  dsimp only at completed ⊢
  split at completed
  · cases completed
  next kept =>
    rw [if_neg kept]
    exact Contextual.holds_execute target.worker sink input deadline output completed

theorem attempts_engage (target : ThreadTarget) (sink : Sink) (input : List UInt8)
    (deadline : Nat) : (target.engage sink input deadline).target.attempts = target.attempts := by
  unfold engage
  dsimp only
  split <;> rfl

/-- A worker is started if there is none, and otherwise not. -/
theorem attempts_execute (target : ThreadTarget) (sink : Sink) (input : List UInt8)
    (deadline : Nat) : (target.execute sink input deadline).target.attempts =
      if target.worker.hasWorker then target.attempts else target.attempts + 1 := by
  unfold execute
  split
  · exact attempts_engage target sink input deadline
  · dsimp only
    split
    · rfl
    · exact attempts_engage _ sink input deadline

end ThreadTarget

instance : Answering ThreadTarget where
  answers target sink input deadline := by
    have engaged : ∀ target : ThreadTarget, ∃ outcome,
        (target.engage sink input deadline).ending = .answered outcome := by
      intro target
      unfold ThreadTarget.engage
      dsimp only
      split
      · exact ⟨_, rfl⟩
      · exact Answering.answers target.worker sink input deadline
    simp only [Target.execute, ThreadTarget.execute]
    split
    · exact engaged target
    · split
      · exact ⟨_, rfl⟩
      · exact engaged _

instance : Contextual ThreadTarget where
  holds target := target.worker.hasWorker
  holds_execute target sink input deadline output completed := by
    simp only [Target.execute, ThreadTarget.execute] at completed ⊢
    split at completed
    next held =>
      rw [if_pos held]
      exact ThreadTarget.hasWorker_engage completed
    next fresh =>
      rw [if_neg fresh]
      split at completed
      · cases completed
      · exact ThreadTarget.hasWorker_engage completed
  holds_recycle _ := rfl

instance {τ υ : Type} [Target τ] [Target υ] [Contextual τ] [Contextual υ] :
    Contextual (τ ⊕ υ) where
  holds
    | .inl target => Contextual.holds target
    | .inr target => Contextual.holds target
  holds_execute
    | .inl target => Contextual.holds_execute target
    | .inr target => Contextual.holds_execute target
  holds_recycle
    | .inl target => Contextual.holds_recycle target
    | .inr target => Contextual.holds_recycle target

namespace Runner

/-- A process is launched for an input exactly if there is none, as far as the input is
completed. -/
theorem launches_after (runner : Runner SessionTarget) (input : List UInt8) :
    (runner.holds = true → (runner.after input).target.launches = runner.target.launches) ∧
      (runner.holds = false → runner.Completes input →
        (runner.after input).target.launches = runner.target.launches + 1) := by
  rw [after_of_recycle SessionTarget.launches (fun _ => rfl), completes_iff]
  refine ⟨SessionTarget.launches_of_session, fun fresh completes => ?_⟩
  obtain ⟨output, completed⟩ := completes
  exact SessionTarget.launches_of_none fresh completed

theorem attempts_after (runner : Runner ThreadTarget) (input : List UInt8) :
    (runner.after input).target.attempts =
      if runner.holds then runner.target.attempts else runner.target.attempts + 1 := by
  rw [after_of_recycle ThreadTarget.attempts (fun _ => rfl)]
  exact ThreadTarget.attempts_execute _ _ _ _

/-- A run leaves a record, and it leaves a context exactly if it was not a fault. So from a
runner without a context on, one that is met by an input has been started for an earlier
input, and has completed that one and all inputs since. A process that an input meets is
the one that serves it, and so is a worker; where there is none another one is started. -/
theorem holds_iff_completed :
    (∀ (runner : Runner (SessionTarget ⊕ WorkerTarget ⊕ ThreadTarget))
      (inputs : List (List UInt8)) (input : List UInt8),
      ∃ record, ((runner.afterAll inputs).run input).1 = .ok record ∧
        ((runner.afterAll (inputs ++ [input])).holds = true ↔ record.outcome.fault? = none)) ∧
    (∀ (origin : Runner (SessionTarget ⊕ WorkerTarget ⊕ ThreadTarget))
      (inputs : List (List UInt8)), origin.holds = false →
      (origin.afterAll inputs).holds = true →
      ∃ earlier served, inputs = earlier ++ served ∧ Tenure origin earlier served) ∧
    (∀ (runner : Runner SessionTarget) (input : List UInt8),
      (runner.holds = true → (runner.after input).target.launches = runner.target.launches) ∧
        (runner.holds = false → runner.Completes input →
          (runner.after input).target.launches = runner.target.launches + 1)) ∧
    ∀ (runner : Runner ThreadTarget) (input : List UInt8),
      (runner.after input).target.attempts =
        if runner.holds then runner.target.attempts else runner.target.attempts + 1 := by
  refine ⟨fun runner inputs input => ?_, fun origin inputs fresh held => exists_tenure fresh held,
    launches_after, attempts_after⟩
  rw [afterAll_append]
  exact (runner.afterAll inputs).holds_of_run input

section Answering

/-- A process that answers a number of times, each time after a while. -/
def answering : Nat → Process
  | 0 => .exit (.code 3)
  | count + 1 =>
    .write Stream.out.handle (Text.Utf8.encode "t_0000000000000000:0\n".toList) fun _ =>
      .pause (Duration.ofMillis 30) fun _ => answering count

/-- The place of the script. -/
def scriptPlace : Place := ["tmp", "divergent-inputT7hB2x.sql"]

/-- The files while a process waits. -/
def waitingFiles : FileTree := ⟨[(["tmp"], .directory), (scriptPlace, .file [] false)]⟩

/-- A version whose processes answer twice. -/
def twice : SessionTarget where
  settings := { SessionSettings.listMode "v" ["engine"] with sentinel := "t" }
  launcher := fun _ _ _ => .ok (answering 2)
  nonces := fun _ => 0
  tree := ⟨[(["tmp"], .directory)]⟩

/-- A runner of this version. -/
def speaking : Runner SessionTarget where
  target := twice
  sink := (echo "v").sink
  timeout := Duration.ofMillis 100

/-- A runner whose worker completes empty inputs and unwinds over all others. -/
def fussy : Runner (SessionTarget ⊕ WorkerTarget ⊕ ThreadTarget) where
  target := .inr (.inl {
    version := "w"
    harness := fun _ input => ⟨[], if input = [] then .output (.changes 0) else .unwound .other⟩ })
  sink := (echo "v").sink
  timeout := 1

/-- The script is found where the files are temporary. -/
theorem locate_script {tree : FileTree} (directory : tree.node? ["tmp"] = some .directory)
    (plain : ∀ target, tree.node? scriptPlace ≠ some (.link target)) :
    tree.locate [] SessionTarget.scriptPath = .ok scriptPlace := by
  have path : Path.ofText SessionTarget.scriptPath = ⟨true, scriptPlace⟩ := by decide +kernel
  unfold FileTree.locate
  rw [if_neg (by decide +kernel), if_neg (by decide +kernel), if_neg (by decide +kernel), path]
  have down : tree.walk FileTree.maxLinks [] scriptPlace = tree.walk FileTree.maxLinks ["tmp"]
      ["divergent-inputT7hB2x.sql"] :=
    FileTree.walk_name rfl (by decide +kernel) (by simp [directory])
  dsimp only
  rw [ite_self, down, FileTree.walk_name directory (by decide +kernel) plain, FileTree.walk]
  rfl

/-- A process that has been launched and has said nothing yet. -/
def launched : Session where
  system := System.ofProcess (answering 2) waitingFiles 0

/-- The process after its first answer. -/
def greeted : Session :=
  (launched.exchange twice.settings 0 SessionTarget.startPatience twice.token
    (twice.settings.setupLines twice.token)).2

/-- The process when an input is staged. -/
def waiting : Session :=
  ((greeted.idle (Duration.ofMillis 10)).clearCoverage CoverageMap.minCapacity).withTree
    waitingFiles

theorem launch_twice (capacity : Nat) : twice.launch capacity = .ok launched := by
  have written : twice.tree.write [] SessionTarget.scriptPath [] = .ok waitingFiles := by
    unfold FileTree.write FileTree.update
    rw [locate_script rfl (by rintro _ ⟨⟩)]
    decide +kernel
  unfold SessionTarget.launch
  simp only [twice, SessionSettings.listMode] at written ⊢
  simp [Except.mapError, written]
  rfl

theorem start_twice (capacity : Nat) : twice.start capacity =
    (.ok greeted, { twice with
      launches := 1, exchanges := 1, tree := greeted.tree, clock := Duration.ofMillis 10 }) := by
  have heard : (launched.exchange twice.settings 0 SessionTarget.startPatience twice.token
      (twice.settings.setupLines twice.token)).1 = .complete {} (Duration.ofMillis 10) := by
    decide +kernel
  have now : twice.clock = 0 := rfl
  unfold SessionTarget.start
  simp only [launch_twice, now, heard]
  rfl

/-- The first input of this runner is answered. -/
theorem completes_speaking : speaking.Completes [] := by
  have kept : ((greeted.idle (Duration.ofMillis 10)).clearCoverage CoverageMap.minCapacity).tree =
      waitingFiles := by decide +kernel
  have staged : waitingFiles.write [] SessionTarget.scriptPath [] = .ok waitingFiles := by
    unfold FileTree.write FileTree.update
    rw [locate_script rfl (by rintro _ ⟨⟩), if_neg (by decide +kernel)]
    rfl
  have reading : waiting.system.isReading = true := by decide +kernel
  have heard : (waiting.exchange twice.settings (Duration.ofMillis 10) speaking.timeout
      twice.token (twice.settings.inputLines SessionTarget.scriptPath twice.token)).1 =
        .complete {} (Duration.ofMillis 40) := by decide +kernel
  have fresh : twice.session = none := rfl
  rw [completes_iff]
  refine ⟨.changes 0, ?_⟩
  change (SessionTarget.execute twice speaking.sink.reset [] speaking.timeout).ending = _
  unfold SessionTarget.execute
  simp only [fresh, start_twice]
  unfold SessionTarget.stage
  simp only [show speaking.sink.reset.map.capacity = CoverageMap.minCapacity from rfl, kept, staged]
  exact congrArg Ending.answered
    ((Session.outcome_serve_of_complete reading heard).trans (by decide +kernel))

/-- A worker that unwound is replaced, and a process that has answered serves on. -/
theorem holds_iff_completed_answering :
    (∃ earlier served, [[], [0], [], []] = earlier ++ served ∧ Tenure fussy earlier served) ∧
      (speaking.after []).target.launches = 1 ∧
      ((speaking.after []).after [0]).target.launches = 1 := by
  obtain ⟨_, tenures, launched, _⟩ := holds_iff_completed
  have once : (speaking.after []).target.launches = 1 :=
    (launched speaking []).2 rfl completes_speaking
  have held : (speaking.after []).holds = true :=
    (speaking.holds_after_iff []).mpr completes_speaking
  exact ⟨tenures fussy _ rfl (by decide +kernel), once,
    ((launched (speaking.after []) [0]).1 held).trans once⟩

end Answering

end Runner

end Crosscheck
