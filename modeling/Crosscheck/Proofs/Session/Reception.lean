import Mathlib
import Crosscheck.Session.Reception

/-!
# Two streams in one reception

The lines of two streams come to a reception as they were shuffled: each stream keeps its
order, and nothing else is fixed. Since the transcript keeps the streams apart, the shuffle
leaves no trace in it. Before the sentinel this is so because a line is only added to its
own stream (`take?`), and the sentinel of a shuffle is the first one of its stream
whatever comes between (`attend_shuffles`).
-/

namespace Crosscheck

/-- A line and the time at which it comes. -/
structure Arrival where
  time : Nat
  line : Line
  deriving DecidableEq, Repr

/-- The lines of two streams, none of which ends, in some order that keeps that of each. -/
inductive Shuffles : List Arrival → List String → List String → Prop where
  | nil : Shuffles [] [] []
  | out {arrivals out err} (time : Nat) (text : String) (later : Shuffles arrivals out err) :
      Shuffles (⟨time, .out text⟩ :: arrivals) (text :: out) err
  | err {arrivals out err} (time : Nat) (text : String) (later : Shuffles arrivals out err) :
      Shuffles (⟨time, .err text⟩ :: arrivals) out (text :: err)

namespace Reception

/-- The reception after something has come. What comes too late, or when nobody listens, is
lost. -/
def receive (reception : Reception) (arrival : Arrival) : Reception :=
  if reception.limit < arrival.time then reception
  else (reception.take? arrival.time arrival.line).getD reception

/-- The reception after several lines. -/
def attend (reception : Reception) (arrivals : List Arrival) : Reception :=
  arrivals.foldl receive reception

/-- Nothing comes too late: each line comes within the limit that holds when it comes. -/
def InTime : Reception → List Arrival → Prop
  | _, [] => True
  | reception, arrival :: later =>
    arrival.time ≤ reception.limit ∧ InTime (reception.receive arrival) later

instance decidableInTime : (reception : Reception) → (arrivals : List Arrival) →
    Decidable (reception.InTime arrivals)
  | _, [] => inferInstanceAs (Decidable True)
  | reception, arrival :: later =>
    have := decidableInTime (reception.receive arrival) later
    inferInstanceAs (Decidable (_ ∧ _))

variable {reception : Reception} {arrival : Arrival} {arrivals later : List Arrival}

theorem attend_cons : reception.attend (arrival :: arrivals) =
    (reception.receive arrival).attend arrivals := rfl

theorem attend_append : reception.attend (arrivals ++ later) =
    (reception.attend arrivals).attend later := List.foldl_append

theorem inTime_append : reception.InTime (arrivals ++ later) ↔
    reception.InTime arrivals ∧ (reception.attend arrivals).InTime later := by
  induction arrivals generalizing reception with
  | nil => simp [InTime, attend]
  | cons arrival arrivals inductionHypothesis =>
      rw [List.cons_append, InTime, InTime, inductionHypothesis, and_assoc, attend_cons]

theorem receive_of_le (inTime : arrival.time ≤ reception.limit) :
    reception.receive arrival = (reception.take? arrival.time arrival.line).getD reception :=
  if_neg inTime.not_gt

section Received

variable {time last deadline : Nat} {text : String}

theorem receive_of_settling {line : Line} (soon : time ≤ reception.limit)
    (settling : reception.phase = .settling last) (goesOn : line ≠ .closed) :
    reception.receive ⟨time, line⟩ = { reception with
      transcript := Transcript.add reception.transcript line, phase := .settling time } := by
  rw [receive_of_le soon]
  unfold take?
  cases line <;> simp_all

theorem receive_err_of_awaiting (soon : time ≤ reception.limit)
    (awaiting : reception.phase = .awaiting deadline) :
    reception.receive ⟨time, .err text⟩ = { reception with
      transcript := Transcript.add reception.transcript (.err text) } := by
  rw [receive_of_le soon]
  unfold take?
  simp [awaiting]

theorem receive_out_of_awaiting (soon : time ≤ reception.limit)
    (awaiting : reception.phase = .awaiting deadline)
    (plain : Sentinel.parse? text reception.token = none) :
    reception.receive ⟨time, .out text⟩ = { reception with
      transcript := Transcript.add reception.transcript (.out text) } := by
  rw [receive_of_le soon]
  unfold take?
  simp [awaiting, plain]

theorem receive_sentinel (soon : time ≤ reception.limit)
    (awaiting : reception.phase = .awaiting deadline) {count : UInt64}
    (counted : Sentinel.parse? text reception.token = some count) :
    reception.receive ⟨time, .out text⟩ = { reception with
      transcript := { reception.transcript with changes := count }, phase := .settling time } := by
  rw [receive_of_le soon]
  unfold take?
  simp [awaiting, counted]

/-- What has come at a time leaves the limit no earlier than that. -/
theorem le_limit_receive (soon : arrival.time ≤ reception.limit) :
    arrival.time ≤ (reception.receive arrival).limit := by
  rw [receive_of_le soon]
  unfold take?
  cases phase : reception.phase with
  | absent time => exact soon
  | ended time complete => exact soon
  | settling last => cases arrival.line <;> simp [limit]
  | awaiting deadline =>
      have soon : arrival.time ≤ deadline := by simpa [limit, phase] using soon
      cases arrival.line with
      | closed => simp [limit]
      | err text => simpa [limit] using soon
      | out text =>
          cases counted : Sentinel.parse? text reception.token with
          | none => simpa [counted, limit] using soon
          | some count => simp [counted, limit]

end Received

/-- A reception that awaits its sentinel goes on to do so while lines come that are not it. -/
theorem attend_awaiting {deadline : Nat}
    (awaiting : reception.phase = .awaiting deadline)
    (others : ∀ arrival ∈ arrivals, arrival.line ≠ .closed ∧
      ∀ text, arrival.line = .out text → Sentinel.parse? text reception.token = none) :
    (reception.attend arrivals).phase = .awaiting deadline := by
  induction arrivals generalizing reception with
  | nil => exact awaiting
  | cons arrival later inductionHypothesis =>
      obtain ⟨time, line⟩ := arrival
      rw [List.forall_mem_cons] at others
      obtain ⟨⟨goesOn, plain⟩, others⟩ := others
      rw [attend_cons]
      rcases Nat.lt_or_ge reception.limit time with late | soon
      · rw [receive, if_pos late]
        exact inductionHypothesis awaiting others
      · cases line with
        | closed => exact absurd rfl goesOn
        | err text =>
            rw [receive_err_of_awaiting soon awaiting]
            exact inductionHypothesis awaiting others
        | out text =>
            rw [receive_out_of_awaiting soon awaiting (plain text rfl)]
            exact inductionHypothesis awaiting others

/-- After the sentinel every line is added to its stream. -/
theorem attend_settling {out err : List String} (shuffles : Shuffles arrivals out err)
    (inTime : reception.InTime arrivals) {last : Nat}
    (settling : reception.phase = .settling last) :
    ∃ last, reception.attend arrivals =
      { reception with
        transcript := { reception.transcript with
          out := reception.transcript.out ++ out, err := reception.transcript.err ++ err }
        phase := .settling last } := by
  induction shuffles generalizing reception last with
  | nil => exact ⟨last, by simp [attend, ← settling]⟩
  | out time text later inductionHypothesis =>
      obtain ⟨soon, inTime⟩ := inTime
      rw [attend_cons]
      rw [receive_of_settling soon settling (by simp)] at inTime ⊢
      obtain ⟨last, attended⟩ := inductionHypothesis inTime rfl
      exact ⟨last, attended.trans (by simp [Transcript.add])⟩
  | err time text later inductionHypothesis =>
      obtain ⟨soon, inTime⟩ := inTime
      rw [attend_cons]
      rw [receive_of_settling soon settling (by simp)] at inTime ⊢
      obtain ⟨last, attended⟩ := inductionHypothesis inTime rfl
      exact ⟨last, attended.trans (by simp [Transcript.add])⟩

/-- A shuffle whose one stream has a sentinel leaves that stream without its first sentinel,
the other stream, and the count. -/
theorem attend_shuffles {before after err : List String} {sentinel : String} {count : UInt64}
    (shuffles : Shuffles arrivals (before ++ sentinel :: after) err)
    (inTime : reception.InTime arrivals) {deadline : Nat}
    (awaiting : reception.phase = .awaiting deadline)
    (first : ∀ line ∈ before, Sentinel.parse? line reception.token = none)
    (counted : Sentinel.parse? sentinel reception.token = some count) :
    ∃ last, reception.attend arrivals =
      { reception with
        transcript :=
          { out := reception.transcript.out ++ (before ++ after)
            err := reception.transcript.err ++ err
            changes := count }
        phase := .settling last } := by
  generalize divided : before ++ sentinel :: after = out at shuffles
  induction shuffles generalizing reception before with
  | nil => simp at divided
  | out time text later inductionHypothesis =>
      obtain ⟨soon, inTime⟩ := inTime
      rw [attend_cons]
      cases before with
      | nil =>
          obtain ⟨rfl, rfl⟩ := List.cons.inj divided
          rw [receive_sentinel soon awaiting counted] at inTime ⊢
          obtain ⟨last, attended⟩ := attend_settling later inTime rfl
          exact ⟨last, attended.trans (by simp)⟩
      | cons line before =>
          obtain ⟨rfl, rfl⟩ := List.cons.inj divided
          rw [List.forall_mem_cons] at first
          rw [receive_out_of_awaiting soon awaiting first.1] at inTime ⊢
          obtain ⟨last, attended⟩ := inductionHypothesis inTime awaiting first.2 counted rfl
          exact ⟨last, attended.trans (by simp [Transcript.add])⟩
  | err time text later inductionHypothesis =>
      obtain ⟨soon, inTime⟩ := inTime
      rw [attend_cons]
      rw [receive_err_of_awaiting soon awaiting] at inTime ⊢
      obtain ⟨last, attended⟩ := inductionHypothesis inTime awaiting first counted divided
      exact ⟨last, attended.trans (by simp [Transcript.add])⟩

/-- The lines of a stream without its first sentinel. -/
def withoutSentinel (token : String) (out : List String) : List String :=
  out.eraseP fun line => (Sentinel.parse? line token).isSome

/-- Of all that comes to a new reception only the streams matter that it shuffles. -/
theorem attend_new {settle deadline : Nat} {token : String} {out err : List String}
    {count : UInt64}
    (inTime : InTime { token, settle, phase := .awaiting deadline } arrivals)
    (shuffles : Shuffles arrivals out err)
    (counted : out.findSome? (Sentinel.parse? · token) = some count) :
    ∃ last, attend { token, settle, phase := .awaiting deadline } arrivals =
      ⟨token, settle, ⟨withoutSentinel token out, err, count⟩, .settling last⟩ := by
  obtain ⟨before, sentinel, after, rfl, parsed, first⟩ := List.findSome?_eq_some_iff.mp counted
  have left : withoutSentinel token (before ++ sentinel :: after) = before ++ after := by
    rw [withoutSentinel, List.eraseP_append_right _ (by simpa using first),
      List.eraseP_cons_of_pos (by simp [parsed])]
  rw [left]
  exact attend_shuffles shuffles inTime rfl first parsed

end Reception

end Crosscheck
