import Mathlib
import Crosscheck.Proofs.Reporter.Lines

/-!
# Reporters in turn

A reporter of several passes a finding from member to member, up to the first that refuses
it. Nesting makes no difference to that (`findingAll_leaves`): what counts is the row of
those reporters inside that are not made of others, its leaves. A finding comes to a leaf
exactly if no leaf before it refuses, and a leaf that is passed over is not called again
later. So a leaf with a writer that takes everything still misses whatever another one
refuses (`lines_of_receives`).
-/

namespace Crosscheck

/-- A writer that refuses nothing, whatever it holds. -/
def Writer.IsWilling (writer : Writer) : Prop :=
  ∀ held, writer.refusesWrite held = none ∧ writer.refusesFlush held = none

namespace Reporter

mutual

/-- The reporters inside a reporter that are not made of others, in order of appearance. -/
def leaves : Reporter → List Reporter
  | .log => [.log]
  | .lines writer => [.lines writer]
  | .all members => leavesAll members

/-- The leaves of several reporters. -/
def leavesAll : List Reporter → List Reporter
  | [] => []
  | first :: rest => leaves first ++ leavesAll rest

end

/-- Whether a call with a finding succeeds. -/
def accepts (report : Finding) (reporter : Reporter) : Bool :=
  match (reporter.finding report).result with
  | .ok () => true
  | .error _ => false

theorem accepts_iff {report : Finding} {reporter : Reporter} :
    reporter.accepts report = true ↔ (reporter.finding report).result = .ok () := by
  unfold accepts
  cases (reporter.finding report).result <;> simp

section Row

variable (report : Finding)

/-- A row of reporters goes on behind another one if nobody in that one refuses. -/
theorem findingAll_append (first rest : List Reporter) :
    findingAll report (first ++ rest) =
      match findingAll report first with
      | (first, events, .error failure) => (first ++ rest, events, .error failure)
      | (first, events, .ok ()) =>
        ((first ++ (findingAll report rest).1), events ++ (findingAll report rest).2.1,
          (findingAll report rest).2.2) := by
  induction first with
  | nil => simp [findingAll]
  | cons member first inductionHypothesis =>
      rw [List.cons_append, findingAll, findingAll, inductionHypothesis]
      cases (finding report member).result with
      | error failure => rfl
      | ok =>
          rcases findingAll report first with ⟨after, events, _ | _⟩ <;>
            simp

mutual

/-- A reporter does what the row of its leaves does. -/
theorem findingAll_leaves : (reporter : Reporter) → findingAll report reporter.leaves =
    ((finding report reporter).reporter.leaves, (finding report reporter).events,
      (finding report reporter).result)
  | .log => by simp [leaves, findingAll, finding]
  | .lines writer => by
      rcases refused : (writeLine writer report).2 with failure | ⟨⟩ <;>
        simp [leaves, findingAll, finding, refused]
  | .all members => findingAll_leavesAll members

/-- Several reporters do what the row of all their leaves does. -/
theorem findingAll_leavesAll : (members : List Reporter) →
    findingAll report (leavesAll members) =
      (leavesAll (findingAll report members).1, (findingAll report members).2)
  | [] => rfl
  | first :: rest => by
      rw [leavesAll, findingAll_append, findingAll_leaves first, findingAll_leavesAll rest,
        findingAll]
      cases (finding report first).result <;> rfl

end

/-- The first that refuses ends the call with its refusal. -/
theorem result_findingAll_eq_error_iff {members : List Reporter} {failure : Failure} :
    (findingAll report members).2.2 = .error failure ↔
      ∃ earlier member later, members = earlier ++ member :: later ∧
        earlier.all (accepts report) = true ∧
        (finding report member).result = .error failure := by
  constructor
  · induction members with
    | nil => simp [findingAll]
    | cons first rest inductionHypothesis =>
        intro refused
        rw [findingAll] at refused
        cases ended : (finding report first).result with
        | error cause =>
            simp only [ended, Except.error.injEq] at refused
            exact ⟨[], first, rest, rfl, rfl, refused ▸ ended⟩
        | ok =>
            simp only [ended] at refused
            obtain ⟨earlier, member, later, rfl, accepted, refusal⟩ := inductionHypothesis refused
            exact ⟨first :: earlier, member, later, rfl,
              by simp [accepts_iff.mpr ended, accepted], refusal⟩
  · rintro ⟨earlier, member, later, rfl, accepted, refused⟩
    induction earlier with
    | nil => simp [findingAll, refused]
    | cons first earlier inductionHypothesis =>
        rw [List.all_cons, Bool.and_eq_true, accepts_iff] at accepted
        rw [List.cons_append, findingAll, accepted.1]
        exact inductionHypothesis accepted.2

/-- A call that succeeds is accepted by everybody. -/
theorem accepts_of_result_findingAll {members : List Reporter}
    (succeeded : (findingAll report members).2.2 = .ok ()) :
    ∀ member ∈ members, member.accepts report = true := by
  induction members with
  | nil => simp
  | cons first rest inductionHypothesis =>
      rw [findingAll] at succeeded
      cases ended : (finding report first).result with
      | error failure => simp [ended] at succeeded
      | ok =>
          simp only [ended] at succeeded
          rw [List.forall_mem_cons]
          exact ⟨accepts_iff.mpr ended, inductionHypothesis succeeded⟩

/-- The member of a number is called if all before it accept, and is left alone if not. -/
theorem getElem?_findingAll (members : List Reporter) (number : Nat) :
    (findingAll report members).1[number]? = members[number]?.map fun member =>
      if (members.take number).all (accepts report) then (finding report member).reporter
      else member := by
  induction members generalizing number with
  | nil => simp [findingAll]
  | cons first rest inductionHypothesis =>
      rw [findingAll]
      cases ended : (finding report first).result with
      | error failure =>
          have refuses : first.accepts report = false := by simp [accepts, ended]
          cases number <;> simp [refuses]
      | ok =>
          have accepted : first.accepts report = true := accepts_iff.mpr ended
          cases number with
          | zero => simp
          | succ number => simp [inductionHypothesis, accepted]

end Row

/-- A call with a finding, and the reporter to which it was made. -/
structure Call where
  reporter : Reporter
  report : Finding

/-- Whether the finding comes to the leaf of a number: no leaf before it refuses. -/
def Call.reaches (call : Call) (number : Nat) : Bool :=
  (call.reporter.leaves.take number).all (accepts call.report)

/-- Whether the leaf of a number would accept the finding, should it come to it. -/
def Call.suits (call : Call) (number : Nat) : Bool :=
  call.reporter.leaves[number]?.all (accepts call.report)

/-- The text of the finding. -/
def Call.text (call : Call) : List Char := call.report.toJson.print

/-- The same leaf after some time. It holds what it held, and what it will refuse may have
changed: disks fill and are cleared. -/
inductive Lasting : Reporter → Reporter → Prop where
  | log : Lasting .log .log
  | lines {writer later : Writer} (held : later.held = writer.held) :
      Lasting (.lines writer) (.lines later)

/-- Calls with findings, whatever comes of them, at any time, and what they leave of the
reporter. -/
inductive Receives : Reporter → List Call → Reporter → Prop where
  | refl {reporter} : Receives reporter [] reporter
  | call {before calls after} (earlier : Receives before calls after) (report : Finding) :
      Receives before (calls ++ [⟨after, report⟩]) (after.finding report).reporter
  | pause {before calls after later} (earlier : Receives before calls after)
      (lasting : List.Forall₂ Lasting after.leaves later.leaves) :
      Receives before calls later

/-- After a call a leaf is as a call of its own leaves it, if the finding comes to it. -/
theorem getElem?_leaves_finding (call : Call) (number : Nat) :
    (call.reporter.finding call.report).reporter.leaves[number]? =
      call.reporter.leaves[number]?.map fun leaf =>
        if call.reaches number then (leaf.finding call.report).reporter else leaf := by
  have row : (call.reporter.finding call.report).reporter.leaves =
      (findingAll call.report call.reporter.leaves).1 := by rw [findingAll_leaves]
  rw [row, getElem?_findingAll]
  rfl

/-- A call fails with the refusal of the first leaf that refuses. -/
theorem result_finding_eq_error_iff {reporter : Reporter} {report : Finding}
    {failure : Failure} :
    (reporter.finding report).result = .error failure ↔
      ∃ earlier leaf later, reporter.leaves = earlier ++ leaf :: later ∧
        earlier.all (accepts report) = true ∧
        (leaf.finding report).result = .error failure := by
  rw [← result_findingAll_eq_error_iff, findingAll_leaves]

/-- What succeeds has come to every leaf. -/
theorem reaches_of_succeeded {call : Call}
    (succeeded : (call.reporter.finding call.report).result = .ok ()) (number : Nat) :
    call.reaches number = true := by
  have ended : (findingAll call.report call.reporter.leaves).2.2 = .ok () := by
    rw [findingAll_leaves, succeeded]
  have accepted := accepts_of_result_findingAll call.report ended
  rw [Call.reaches, List.all_eq_true]
  exact fun leaf member => accepted leaf (List.mem_of_mem_take member)

/-- A leaf is still there after some time. -/
theorem exists_lasting {leaves later : List Reporter} {number : Nat} {leaf : Reporter}
    (lasting : List.Forall₂ Lasting leaves later) (found : leaves[number]? = some leaf) :
    ∃ kept, later[number]? = some kept ∧ Lasting leaf kept := by
  obtain ⟨bound, rfl⟩ := List.getElem?_eq_some_iff.mp found
  have bound' : number < later.length := lasting.length_eq ▸ bound
  exact ⟨later[number], List.getElem?_eq_getElem bound', lasting.get bound bound'⟩

/-- A leaf that accepts whatever comes to it holds a line for each finding that has come to
it, in the order of the calls. -/
theorem Receives.held {before after : Reporter} {calls : List Call} {number : Nat}
    {writer : Writer} (receives : Receives before calls after)
    (found : before.leaves[number]? = some (.lines writer))
    (willing : ∀ call ∈ calls, call.suits number = true) :
    ∃ written, after.leaves[number]? = some (.lines written) ∧
      written.held = writer.held ++
        ((calls.filter (·.reaches number)).map Call.text).flatMap (· ++ ['\n']) := by
  induction receives with
  | refl => exact ⟨writer, found, by simp⟩
  | @call calls after earlier report inductionHypothesis =>
      rw [List.forall_mem_append, List.forall_mem_singleton] at willing
      obtain ⟨written, here, held⟩ := inductionHypothesis willing.1
      let call : Call := ⟨after, report⟩
      have accepted : ((lines written).finding report).result = .ok () := by
        simpa [Call.suits, here, accepts_iff] using willing.2
      rw [getElem?_leaves_finding call, show call.reporter.leaves[number]? = _ from here,
        Option.map_some, List.filter_append, List.filter_singleton]
      cases reached : call.reaches number with
      | false => exact ⟨written, by simp, by simp [held]⟩
      | true =>
          refine ⟨_, congrArg some (congrArg lines (eq_of_writeLine accepted)), ?_⟩
          simp [held, call, Call.text]
  | @pause calls after later earlier lasting inductionHypothesis =>
      obtain ⟨written, here, held⟩ := inductionHypothesis willing
      obtain ⟨leaf, there, same⟩ := exists_lasting lasting here
      cases same with
      | lines kept => exact ⟨_, there, kept.trans held⟩

/-- A leaf of lines that accepts whatever comes to it, and started with nothing, holds a line
for each finding that no leaf before it refused, in the order of the calls, and no other
line. It holds a line for every call exactly if no leaf before it ever refused, as is the
case when all calls succeeded. For a call goes on to the members behind a reporter only if
that one accepts, and fails with what the first leaf says that refuses, at whatever depth. -/
theorem lines_of_receives {before after : Reporter} {calls : List Call} {number : Nat}
    {writer : Writer} (receives : Receives before calls after)
    (found : before.leaves[number]? = some (.lines writer)) (blank : writer.held = [])
    (willing : ∀ call ∈ calls, call.suits number = true) :
    (∃ written, after.leaves[number]? = some (.lines written) ∧
      written.completeLines =
        (calls.filter (·.reaches number)).map (fun call => call.report.toJson.compact) ∧
      (written.completeLines = calls.map (fun call => call.report.toJson.compact) ↔
        ∀ call ∈ calls, call.reaches number = true) ∧
      ((∀ call ∈ calls, (call.reporter.finding call.report).result = .ok ()) →
        written.completeLines = calls.map fun call => call.report.toJson.compact)) ∧
    ∀ call ∈ calls, ∀ failure, (call.reporter.finding call.report).result = .error failure ↔
      ∃ earlier leaf later, call.reporter.leaves = earlier ++ leaf :: later ∧
        earlier.all (accepts call.report) = true ∧
        (leaf.finding call.report).result = .error failure := by
  obtain ⟨written, there, held⟩ := receives.held found willing
  rw [blank, List.nil_append] at held
  have free : ∀ line ∈ (calls.filter (·.reaches number)).map Call.text, '\n' ∉ line := by
    intro line member
    obtain ⟨call, _, rfl⟩ := List.mem_map.mp member
    exact call.report.newline_notMem_print
  have holds : written.completeLines =
      (calls.filter (·.reaches number)).map fun call => call.report.toJson.compact := by
    rw [Writer.completeLines_eq held free, List.map_map]
    rfl
  have complete : written.completeLines = calls.map (fun call => call.report.toJson.compact) ↔
      ∀ call ∈ calls, call.reaches number = true := by
    rw [holds, ← List.filter_eq_self]
    refine ⟨fun same => ?_, fun same => by rw [same]⟩
    have count := congrArg List.length same
    rw [List.length_map, List.length_map] at count
    exact List.filter_sublist.eq_of_length count
  have whole : (∀ call ∈ calls, (call.reporter.finding call.report).result = .ok ()) →
      ∀ call ∈ calls, call.reaches number = true := fun succeeded call member =>
    reaches_of_succeeded (succeeded call member) number
  exact ⟨⟨written, there, holds, complete, fun succeeded => complete.mpr (whole succeeded)⟩,
    fun _ _ _ => result_finding_eq_error_iff⟩

/-- A finding of which nothing is known but the verdict. -/
def bare (verdict : Verdict) : Finding := ⟨[], "", [], verdict⟩

/-- A writer that is full after one line, before another one and at a greater depth. -/
def cramped : Reporter := all [all [log, lines (.limited 1 "disk full")], lines {}]

/-- Both writers hold one line, and neither is full. -/
def cleared : Reporter :=
  let writer : Writer := { held := (bare .agree).toJson.print ++ ['\n'] }
  all [all [log, lines writer], lines writer]

/-- Three calls. Before the last one the full writer is cleared. -/
def cascade : List Call :=
  [⟨cramped, bare .agree⟩, ⟨(cramped.finding (bare .agree)).reporter, bare (.sharedFault .crash)⟩,
    ⟨cleared, bare (.fault [])⟩]

/-- The second of three findings is refused by a writer that is full at the time, and does
not come to the one behind it. -/
theorem lines_of_receives_cleared :
    Receives cramped cascade (cleared.finding (bare (.fault []))).reporter ∧
      ∃ written, (cleared.finding (bare (.fault []))).reporter.leaves[2]? =
          some (.lines written) ∧
        written.completeLines =
          [(bare .agree).toJson.compact, (bare (.fault [])).toJson.compact] := by
  let full := (cramped.finding (bare .agree)).reporter
  have lasting : List.Forall₂ Lasting
      (full.finding (bare (.sharedFault .crash))).reporter.leaves cleared.leaves :=
    .cons .log (.cons (.lines rfl) (.cons (.lines rfl) .nil))
  have receives : Receives cramped cascade (cleared.finding (bare (.fault []))).reporter :=
    .call (.pause (.call (.call .refl _) _) lasting) _
  have found : cramped.leaves[2]? = some (.lines {}) := rfl
  obtain ⟨⟨written, there, holds, _⟩, _⟩ :=
    lines_of_receives receives found rfl (by decide +kernel)
  have reached : cascade.map (·.reaches 2) = [true, false, true] := by decide +kernel
  refine ⟨receives, written, there, holds.trans ?_⟩
  simp only [cascade, List.map_cons, List.cons.injEq] at reached
  simp [cascade, reached]

/-- Not every writer that refuses nothing holds a line for each call: a writer that is full
stands before it, so the call ends there and the finding is lost to both. -/
theorem not_line_for_each_call :
    let reporter := all [lines (.limited 0 "disk full"), lines {}]
    let after := reporter.finding (bare .agree)
    after.result = .error (.because "disk full") ∧
      after.reporter.writers.map Writer.completeLines = [[], []] ∧
      ¬ ∀ (before after : Reporter) (calls : List Call) (number : Nat) (writer : Writer),
        Receives before calls after → before.leaves[number]? = some (.lines writer) →
        writer.held = [] →
        (∀ call ∈ calls, ∃ present, call.reporter.leaves[number]? = some (.lines present) ∧
          present.IsWilling) →
        ∃ written, after.leaves[number]? = some (.lines written) ∧
          written.completeLines = calls.map fun call => call.report.toJson.compact := by
  intro reporter after
  refine ⟨rfl, rfl, fun fansOut => ?_⟩
  obtain ⟨written, there, line⟩ := fansOut reporter after.reporter [⟨reporter, bare .agree⟩] 1 {}
    (.call .refl _) rfl rfl
    (by simpa using ⟨{}, rfl, fun _ => ⟨rfl, rfl⟩⟩)
  cases there
  exact absurd (congrArg List.length line) (by decide)

end Reporter

end Crosscheck
