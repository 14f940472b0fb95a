import Mathlib
import Crosscheck.Proofs.Process.Hearing
import Crosscheck.Proofs.Runner

/-!
# Exchanges do not depend on how the streams race

During an exchange lines of both streams arrive as the engine, the system and the pipes have
it. Each exchange hears some sequence of lines (`exists_hears`), and of that sequence only
the two streams matter: all sequences that shuffle the same streams leave the same
transcript, so the outcome of an input is the same for all of them.
-/

namespace Crosscheck

namespace Session

open Reception (withoutSentinel)

variable {settings : SessionSettings} {now deadline : Nat} {token text : String}
  {session : Session} {arrivals : List Arrival} {out err : List String} {count : UInt64}

/-- The system at the start of an exchange: the text is written, and the sentinel is awaited
up to the deadline. -/
def opening (session : Session) (settings : SessionSettings) (now deadline : Nat)
    (token text : String) : System :=
  { session.system.supply now (Text.Utf8.octets text) with
    reception := { token, settle := settings.settle, phase := .awaiting (now + deadline) } }

/-- These lines come during an exchange, in this order. -/
def Hears (session : Session) (settings : SessionSettings) (now deadline : Nat)
    (token text : String) (arrivals : List Arrival) : Prop :=
  (session.opening settings now deadline token text).Hears arrivals
    (session.exchange settings now deadline token text).2.system

/-- An exchange hears lines one after another, unless its deadline has passed before it. -/
theorem exists_hears (session : Session) (settings : SessionSettings) (now deadline : Nat)
    (token text : String) (inTime : session.system.time ≤ now + deadline) :
    ∃ arrivals, session.Hears settings now deadline token text arrivals :=
  System.leads_run System.plenty _ (max_le inTime (Nat.le_add_right now deadline))

theorem heard_of_settling {transcript : Transcript} {settle last : Nat}
    (received : session.system.reception = ⟨token, settle, transcript, .settling last⟩)
    (now : Nat) : ∃ time, session.heard now = .complete transcript time := by
  unfold heard
  simp only [received]
  exact ⟨_, rfl⟩

/-- Of a sequence of lines only the streams matter that it shuffles. -/
theorem heard_of_hears (hears : session.Hears settings now deadline token text arrivals)
    (shuffles : Shuffles arrivals out err)
    (counted : out.findSome? (Sentinel.parse? · token) = some count) :
    ∃ time, (session.exchange settings now deadline token text).1 =
      .complete ⟨withoutSentinel token out, err, count⟩ time := by
  obtain ⟨_, attended⟩ := Reception.attend_new hears.inTime shuffles counted
  exact heard_of_settling (hears.reception.trans attended) now

/-- The outcome of an input that is read is that of the transcript. -/
theorem outcome_serve_of_complete {target : SessionTarget} {sink : Sink}
    {transcript : Transcript} {time : Nat} (reading : session.system.isReading = true)
    (complete : (session.exchange target.settings target.clock deadline target.token
      (target.settings.inputLines SessionTarget.scriptPath target.token)).1 =
        .complete transcript time) :
    (target.serve session sink deadline).1 = transcript.outcome target.settings.separator := by
  unfold SessionTarget.serve
  simp only [reading, if_true, complete, SessionTarget.conclude]

/-- So it is that of the streams. -/
theorem outcome_serve_of_hears {target : SessionTarget} {sink : Sink}
    (reading : session.system.isReading = true)
    (hears : session.Hears target.settings target.clock deadline target.token
      (target.settings.inputLines SessionTarget.scriptPath target.token) arrivals)
    (shuffles : Shuffles arrivals out err)
    (counted : out.findSome? (Sentinel.parse? · target.token) = some count) :
    (target.serve session sink deadline).1 = Transcript.outcome target.settings.separator
      ⟨withoutSentinel target.token out, err, count⟩ := by
  obtain ⟨_, complete⟩ := heard_of_hears hears shuffles counted
  exact outcome_serve_of_complete reading complete

/-- If no stream ends, one of them has a sentinel, and every line comes in time, then whatever
the order of the lines is the transcript holds that stream without its first sentinel, the
other stream as it is, and the count of that sentinel. Every exchange hears lines in some
order, each of them in time; so its transcript, and the outcome of an input that a process
reads, do not depend on how the streams race. -/
theorem complete_of_shuffles :
    (∀ (token : String) (settle deadline : Nat) (arrivals : List Arrival)
      (out err : List String) (count : UInt64),
      Reception.InTime { token, settle, phase := .awaiting deadline } arrivals →
      Shuffles arrivals out err → out.findSome? (Sentinel.parse? · token) = some count →
      ∃ last, Reception.attend { token, settle, phase := .awaiting deadline } arrivals =
        ⟨token, settle, ⟨withoutSentinel token out, err, count⟩, .settling last⟩) ∧
    (∀ (session : Session) (settings : SessionSettings) (now deadline : Nat)
      (token text : String), session.system.time ≤ now + deadline →
      ∃ arrivals, session.Hears settings now deadline token text arrivals) ∧
    (∀ (session : Session) (settings : SessionSettings) (now deadline : Nat)
      (token text : String) (arrivals : List Arrival) (out err : List String) (count : UInt64),
      session.Hears settings now deadline token text arrivals → Shuffles arrivals out err →
      out.findSome? (Sentinel.parse? · token) = some count →
      ∃ time, (session.exchange settings now deadline token text).1 =
        .complete ⟨withoutSentinel token out, err, count⟩ time) ∧
    ∀ (target : SessionTarget) (session : Session) (sink : Sink) (deadline : Nat)
      (arrivals : List Arrival) (out err : List String) (count : UInt64),
      session.system.isReading = true →
      session.Hears target.settings target.clock deadline target.token
        (target.settings.inputLines SessionTarget.scriptPath target.token) arrivals →
      Shuffles arrivals out err →
      out.findSome? (Sentinel.parse? · target.token) = some count →
      (target.serve session sink deadline).1 = Transcript.outcome target.settings.separator
        ⟨withoutSentinel target.token out, err, count⟩ :=
  ⟨fun _ _ _ _ _ _ _ inTime shuffles counted =>
      Reception.attend_new inTime shuffles counted,
    exists_hears,
    fun _ _ _ _ _ _ _ _ _ _ hears shuffles counted =>
      heard_of_hears hears shuffles counted,
    fun _ _ _ _ _ _ _ _ reading hears shuffles counted =>
      outcome_serve_of_hears reading hears shuffles counted⟩

section Racing

/-- A process that writes lines to its streams, each after some time, and then sleeps. -/
def speak : List (Nat × Stream × String) → Process
  | [] => .pause (Duration.ofMillis 1000) fun _ => .exit (.code 0)
  | (nanos, stream, text) :: rest =>
    .pause nanos fun _ =>
      .write stream.handle (Text.Utf8.encode (text.toList ++ ['\n'])) fun _ => speak rest

/-- The lines of a process that speaks, as they come. -/
def spoken (time : Nat) : List (Nat × Stream × String) → List Arrival
  | [] => []
  | (nanos, stream, text) :: rest =>
    ⟨time + nanos, stream.line (some text)⟩ :: spoken (time + nanos) rest

/-- A version whose token is the same for each input. -/
def steady : SessionTarget where
  settings := { SessionSettings.listMode "v" ["engine"] with sentinel := "t" }
  launcher := fun _ _ _ => .error .malformedWord
  nonces := fun _ => 0
  tree := ⟨[]⟩

/-- Errors before the rows, and a row after the sentinel. -/
def hasty : List (Nat × Stream × String) :=
  [(5, .err, "no such table"), (0, .err, "near x"), (2, .out, "1|2"),
    (0, .out, "t_0000000000000000:7"), (1, .out, "t_0000000000000000:8")]

/-- The same lines in their streams, with errors that are overtaken by the sentinel. -/
def tardy : List (Nat × Stream × String) :=
  [(0, .out, "1|2"), (3, .err, "no such table"), (4, .out, "t_0000000000000000:7"),
    (9, .err, "near x"), (1, .out, "t_0000000000000000:8")]

/-- A session with a process that speaks. -/
def speaking (lines : List (Nat × Stream × String)) : Session where
  system := System.ofProcess (speak lines) ⟨[]⟩ 0

/-- Two processes whose streams race in different ways leave the same outcome. -/
theorem complete_of_shuffles_racing :
    (steady.serve (speaking hasty) (Runner.echo "v").sink 1000).1 =
        (steady.serve (speaking tardy) (Runner.echo "v").sink 1000).1 ∧
      ∃ time, ((speaking tardy).exchange steady.settings 0 1000 steady.token
          (steady.settings.inputLines SessionTarget.scriptPath steady.token)).1 =
        .complete ⟨["1|2", "t_0000000000000000:8"], ["no such table", "near x"], 7⟩ time := by
  have first : (speaking hasty).Hears steady.settings 0 1000 steady.token
      (steady.settings.inputLines SessionTarget.scriptPath steady.token) (spoken 0 hasty) := by
    unfold Hears
    decide +kernel
  have second : (speaking tardy).Hears steady.settings 0 1000 steady.token
      (steady.settings.inputLines SessionTarget.scriptPath steady.token) (spoken 0 tardy) := by
    unfold Hears
    decide +kernel
  have hastily : Shuffles (spoken 0 hasty)
      ["1|2", "t_0000000000000000:7", "t_0000000000000000:8"] ["no such table", "near x"] :=
    .err _ _ (.err _ _ (.out _ _ (.out _ _ (.out _ _ .nil))))
  have tardily : Shuffles (spoken 0 tardy)
      ["1|2", "t_0000000000000000:7", "t_0000000000000000:8"] ["no such table", "near x"] :=
    .out _ _ (.err _ _ (.out _ _ (.err _ _ (.out _ _ .nil))))
  have counted : ["1|2", "t_0000000000000000:7", "t_0000000000000000:8"].findSome?
      (Sentinel.parse? · steady.token) = some 7 := by decide +kernel
  obtain ⟨_, _, heard, served⟩ := complete_of_shuffles
  refine ⟨?_, ?_⟩
  · rw [served steady (speaking hasty) _ 1000 _ _ _ 7 rfl first hastily counted,
      served steady (speaking tardy) _ 1000 _ _ _ 7 rfl second tardily counted]
  · have left : withoutSentinel steady.token
        ["1|2", "t_0000000000000000:7", "t_0000000000000000:8"] =
          ["1|2", "t_0000000000000000:8"] := by decide +kernel
    rw [← left]
    exact heard _ _ _ _ _ _ _ _ _ _ second tardily counted

end Racing

end Session

end Crosscheck
