import Mathlib
import Crosscheck.Process.System
import Crosscheck.Proofs.Session.Reception

/-!
# What is heard of a system

Whatever the processes of a system do, whoever listens gets to know of it by lines that
come one after another, each within the limit that holds when it comes (`leads_run`). Most
of what a process asks for is quiet: it takes no time and nothing is heard of it. Lines come
when it writes to a stream, and when a stream ends because nobody holds it any more. Time
passes only up to the limit.
-/

namespace Crosscheck

namespace System

/-- What is heard of a system in the course of some time: these lines in turn, at no other
time, and nothing too late. -/
structure Hears (before : System) (arrivals : List Arrival) (after : System) : Prop where
  inTime : before.reception.InTime arrivals
  reception : after.reception = before.reception.attend arrivals
  elapsed : before.time ≤ after.time
  between : ∀ arrival ∈ arrivals, before.time ≤ arrival.time ∧ arrival.time ≤ after.time
  ordered : arrivals.Pairwise fun earlier later => earlier.time ≤ later.time
  punctual : after.time ≤ after.reception.limit

instance (before after : System) (arrivals : List Arrival) :
    Decidable (Hears before arrivals after) :=
  decidable_of_iff (before.reception.InTime arrivals ∧
      after.reception = before.reception.attend arrivals ∧ before.time ≤ after.time ∧
      (∀ arrival ∈ arrivals, before.time ≤ arrival.time ∧ arrival.time ≤ after.time) ∧
      arrivals.Pairwise (fun earlier later => earlier.time ≤ later.time) ∧
      after.time ≤ after.reception.limit)
    ⟨fun all => ⟨all.1, all.2.1, all.2.2.1, all.2.2.2.1, all.2.2.2.2.1, all.2.2.2.2.2⟩,
      fun hears => ⟨hears.inTime, hears.reception, hears.elapsed, hears.between, hears.ordered,
        hears.punctual⟩⟩

/-- As long as the limit is not passed, all that is heard are lines that come in turn. -/
def Leads (before after : System) : Prop :=
  before.time ≤ before.reception.limit → ∃ arrivals, Hears before arrivals after

/-- Nothing is heard, and it takes no time. -/
structure Quiet (before after : System) : Prop where
  time : after.time = before.time
  reception : after.reception = before.reception

variable {before middle after : System}

theorem Hears.trans {arrivals later : List Arrival} (first : Hears before arrivals middle)
    (second : Hears middle later after) : Hears before (arrivals ++ later) after where
  inTime := Reception.inTime_append.mpr ⟨first.inTime, first.reception ▸ second.inTime⟩
  reception := by rw [second.reception, first.reception, Reception.attend_append]
  elapsed := first.elapsed.trans second.elapsed
  between := by
    rw [List.forall_mem_append]
    exact ⟨fun arrival member => ⟨(first.between arrival member).1,
        (first.between arrival member).2.trans second.elapsed⟩,
      fun arrival member => ⟨first.elapsed.trans (second.between arrival member).1,
        (second.between arrival member).2⟩⟩
  ordered := List.pairwise_append.mpr ⟨first.ordered, second.ordered,
    fun earlier here later there =>
      (first.between earlier here).2.trans (second.between later there).1⟩
  punctual := second.punctual

theorem Leads.trans (first : Leads before middle) (second : Leads middle after) :
    Leads before after := by
  intro punctual
  obtain ⟨arrivals, heard⟩ := first punctual
  obtain ⟨later, further⟩ := second heard.punctual
  exact ⟨_, heard.trans further⟩

theorem Quiet.trans (first : Quiet before middle) (second : Quiet middle after) :
    Quiet before after :=
  ⟨second.time.trans first.time, second.reception.trans first.reception⟩

/-- Where nothing is heard, no line comes. -/
theorem Quiet.leads (quiet : Quiet before after) : Leads before after := fun punctual =>
  ⟨[], trivial, quiet.reception, quiet.time.ge, by simp, .nil,
    by rw [quiet.time, quiet.reception]; exact punctual⟩

theorem Leads.refl (system : System) : Leads system system := Quiet.leads ⟨rfl, rfl⟩

/-- Time that passes up to the limit is not heard. -/
theorem leads_time {system : System} {time : Nat} (forward : system.time ≤ time)
    (soon : time ≤ system.reception.limit) : Leads system { system with time } := fun _ =>
  ⟨[], trivial, rfl, forward, by simp, .nil, soon⟩

section Streams

theorem deliver_cons {system : System} (punctual : system.time ≤ system.reception.limit)
    (stream : Stream) (text : Option String) (lines : List (Option String)) :
    system.deliver stream (text :: lines) =
      ({ system with
        reception := system.reception.receive ⟨system.time, stream.line text⟩ }).deliver
          stream lines := by
  unfold deliver
  rw [List.foldl_cons, Reception.receive_of_le punctual]
  cases system.reception.take? system.time (stream.line text) <;> rfl

/-- Lines of one stream come one after another. -/
theorem leads_deliver (stream : Stream) (system : System) (lines : List (Option String)) :
    Leads system (system.deliver stream lines) := by
  induction lines generalizing system with
  | nil => exact .refl system
  | cons text lines inductionHypothesis =>
      intro punctual
      rw [deliver_cons punctual]
      let arrival : Arrival := ⟨system.time, stream.line text⟩
      have later : arrival.time ≤ (system.reception.receive arrival).limit :=
        Reception.le_limit_receive punctual
      refine Leads.trans (fun _ => ⟨[arrival], ?_⟩) (inductionHypothesis _) punctual
      exact ⟨⟨punctual, trivial⟩, rfl, le_rfl, by simp [arrival],
        List.pairwise_singleton _ _, later⟩

theorem quiet_setReader (system : System) (stream : Stream) (reader : LineReader) :
    Quiet system (system.setReader stream reader) := by
  cases stream <;> exact ⟨rfl, rfl⟩

theorem leads_accept (system : System) (stream : Stream) (octets : List UInt8) :
    Leads system (system.accept stream octets) :=
  (quiet_setReader system stream _).leads.trans (leads_deliver stream _ _)

theorem leads_closeStream (system : System) (stream : Stream) :
    Leads system (system.closeStream stream) :=
  (quiet_setReader system stream _).leads.trans (leads_deliver stream _ _)

theorem quiet_forgetNameless (system : System) : Quiet system system.forgetNameless := by
  unfold forgetNameless
  dsimp only
  split <;> exact ⟨rfl, rfl⟩

/-- Streams that nobody holds any more end. -/
theorem leads_settle (system : System) : Leads system system.settle := by
  have closed : ∀ (streams : List Stream) (system : System), Leads system
      (streams.foldl (fun system stream =>
        if (system.reader stream).isOpen && !system.isHeld (.stream stream) then
          system.closeStream stream
        else system) system) := by
    intro streams
    induction streams with
    | nil => exact .refl
    | cons stream streams inductionHypothesis =>
        intro system
        rw [List.foldl_cons]
        refine Leads.trans ?_ (inductionHypothesis _)
        split
        · exact leads_closeStream system stream
        · exact .refl system
  have forgotten : ∀ channels, Quiet system (forgetNameless { system with channels }) := by
    intro channels
    have quiet := quiet_forgetNameless { system with channels }
    exact ⟨quiet.time, quiet.reception⟩
  unfold settle
  refine Leads.trans ?_ (closed _ _)
  exact Quiet.leads ⟨(forgotten _).time, (forgotten _).reception⟩

end Streams

section Files

theorem quiet_followReplaced (system : System) (former : FileTree) (handle : Handle) :
    Quiet system (system.followReplaced former handle) := by
  unfold followReplaced
  split
  · exact ⟨rfl, rfl⟩
  · split
    · dsimp only
      split <;> exact ⟨rfl, rfl⟩
    · exact ⟨rfl, rfl⟩

theorem quiet_followMoved (system : System) (former : FileTree) (handle : Handle) :
    Quiet system (system.followMoved former handle) := by
  unfold followMoved
  split
  · exact ⟨rfl, rfl⟩
  · split
    · dsimp only
      split <;> exact ⟨rfl, rfl⟩
    · exact ⟨rfl, rfl⟩

theorem quiet_foldl {α : Type} {step : System → α → System}
    (quiet : ∀ system item, Quiet system (step system item)) (items : List α)
    (system : System) : Quiet system (items.foldl step system) := by
  induction items generalizing system with
  | nil => exact ⟨rfl, rfl⟩
  | cons item items inductionHypothesis =>
      exact (quiet system item).trans (inductionHypothesis (step system item))

theorem quiet_follow (system : System) (former : FileTree) :
    Quiet system (system.follow former) :=
  (quiet_foldl (fun system handle => quiet_followReplaced system former handle) _ system).trans
    (quiet_foldl (fun system handle => quiet_followMoved system former handle) _ _)

/-- Reading changes what waits to be read and nothing else. -/
theorem quiet_receive? {system received : System} {handle : Handle} {cut : Cut}
    {answer : Except FileError (List UInt8)}
    (given : system.receive? handle cut = some (answer, received)) : Quiet system received := by
  -- An answer takes as much as is cut off, or leaves the system as it is.
  have taken : ∀ {octets : List UInt8} {ended : Bool} {took : Nat → System}
      {answers : Nat → Except FileError (List UInt8)},
      (cut octets ended >>= fun count => pure (answers count, took count)) =
        some (answer, received) →
      (∀ count, Quiet system (took count)) → Quiet system received := by
    intro octets ended took answers given quiet
    obtain ⟨count, _, same⟩ := Option.bind_eq_some_iff.mp given
    exact (Prod.mk.inj (Option.some.inj same)).2 ▸ quiet count
  have left : ∀ {unasked : Except FileError (List UInt8)},
      some (unasked, system) = some (answer, received) → Quiet system received := by
    intro unasked given
    exact (Prod.mk.inj (Option.some.inj given)).2 ▸ ⟨rfl, rfl⟩
  unfold receive? at given
  split at given
  · exact taken given fun _ => ⟨rfl, rfl⟩
  · exact taken given fun _ => ⟨rfl, rfl⟩
  · split at given
    · exact left given
    · split at given
      · exact taken given fun _ => ⟨rfl, rfl⟩
      · exact left given
      · split at given
        · exact left given
        · exact taken given fun _ => ⟨rfl, rfl⟩
      · exact left given
  · exact left given

/-- Only what is written to a stream is heard. -/
theorem leads_transmit {system sent : System} {handle : Handle} {octets : List UInt8}
    (taken : system.transmit handle octets = .taken sent) : Leads system sent := by
  unfold transmit at taken
  split at taken
  · split at taken <;> cases taken
    exact leads_accept system _ octets
  · split at taken
    · dsimp only at taken
      split at taken <;> cases taken
      exact Quiet.leads ⟨rfl, rfl⟩
    · cases taken
  · split at taken
    · cases taken
    · split at taken <;> cases taken
      · exact Quiet.leads ⟨rfl, rfl⟩
      · exact .refl system
  · cases taken

/-- What is taken in part is not heard. -/
theorem quiet_transmit {system sent : System} {handle : Handle} {octets rest : List UInt8}
    (taken : system.transmit handle octets = .partly rest sent) : Quiet system sent := by
  unfold transmit at taken
  split at taken
  · split at taken <;> cases taken
  · split at taken
    · dsimp only at taken
      split at taken <;> cases taken
      exact ⟨rfl, rfl⟩
    · cases taken
  · split at taken
    · cases taken
    · split at taken <;> cases taken
  · cases taken

theorem quiet_giveBack (system : System) (handle : Handle) (count : Nat) :
    Quiet system (system.giveBack handle count) := by
  unfold giveBack
  split <;> exact ⟨rfl, rfl⟩

end Files

section Endings

theorem leads_finish (system : System) (number : Nat) (status : ExitStatus) :
    Leads system (system.finish number status) := by
  unfold finish
  split
  · exact .refl system
  · dsimp only
    refine Leads.trans ?_ (leads_settle _)
    exact Quiet.leads ⟨rfl, rfl⟩

theorem leads_signal (system : System) (signal receiver : Nat) :
    Leads system (system.signal signal receiver) := by
  unfold System.signal
  split
  · exact .refl system
  next task found =>
    have proceeds : Quiet system (if signal = Signal.proceed then
        system.update receiver fun task => { task with stopped := false } else system) := by
      split <;> exact ⟨rfl, rfl⟩
    dsimp only
    generalize (if signal = Signal.proceed then
      system.update receiver fun task => { task with stopped := false } else system) =
      proceeding at proceeds
    refine proceeds.leads.trans ?_
    split
    · exact .refl _
    · exact Quiet.leads ⟨rfl, rfl⟩
    · split
      · exact .refl _
      · exact .refl _
      · exact Quiet.leads ⟨rfl, rfl⟩
      · exact leads_finish _ receiver _

end Endings

/-- Whatever a process does up to its next wait or its end, it is heard only line by line. -/
theorem leads_process (number : Nat) (process : Process) (system : System) :
    Leads system (process.run number system) := by
  induction process generalizing system with
  | exit status => exact leads_finish system number status
  | write handle octets next inductionHypothesis =>
      rw [Process.run]
      split
      · exact inductionHypothesis none system
      · split
        next taken => exact (leads_transmit taken).trans (inductionHypothesis none _)
        next taken => exact (quiet_transmit taken).leads.trans (Quiet.leads ⟨rfl, rfl⟩)
        next error refused =>
          split
          · dsimp only
            split
            · exact (leads_signal system _ number).trans (inductionHypothesis _ _)
            · exact leads_signal system _ number
          · exact inductionHypothesis _ system
  | readLine handle next inductionHypothesis =>
      rw [Process.run]
      split
      next given => exact (quiet_receive? given).leads.trans (inductionHypothesis _ _)
      next =>
        split
        · exact inductionHypothesis _ system
        · exact Quiet.leads ⟨rfl, rfl⟩
  | readSome handle count next inductionHypothesis =>
      rw [Process.run]
      split
      next given => exact (quiet_receive? given).leads.trans (inductionHypothesis _ _)
      next => exact Quiet.leads ⟨rfl, rfl⟩
  | giveBack handle count next inductionHypothesis =>
      exact (quiet_giveBack system handle count).leads.trans (inductionHypothesis () _)
  | measure handle next inductionHypothesis => exact inductionHypothesis _ system
  | openFile place mode next inductionHypothesis =>
      refine Leads.trans ?_ (inductionHypothesis _ _)
      exact Quiet.leads ⟨rfl, rfl⟩
  | openPipe next inductionHypothesis =>
      refine Leads.trans ?_ (inductionHypothesis _ _ _)
      exact Quiet.leads ⟨rfl, rfl⟩
  | release handles next inductionHypothesis =>
      refine Leads.trans ?_ ((leads_settle _).trans (inductionHypothesis () _))
      exact Quiet.leads ⟨rfl, rfl⟩
  | fork child next _ inductionHypothesis =>
      refine Leads.trans ?_ (inductionHypothesis _ _)
      exact Quiet.leads ⟨rfl, rfl⟩
  | await child patience next inductionHypothesis =>
      rw [Process.run]
      split
      next ending _ =>
        refine Leads.trans ?_ (inductionHypothesis _ _)
        exact Quiet.leads ⟨rfl, rfl⟩
      next =>
        dsimp only
        split
        · exact Quiet.leads ⟨rfl, rfl⟩
        · exact inductionHypothesis none system
  | send signal receiver next inductionHypothesis =>
      rw [Process.run]
      refine (leads_signal system signal receiver).trans ?_
      split
      · exact .refl _
      · split
        · exact Quiet.leads ⟨rfl, rfl⟩
        · exact inductionHypothesis _ _
  | provide signal provision next inductionHypothesis =>
      refine Leads.trans ?_ (inductionHypothesis () _)
      exact Quiet.leads ⟨rfl, rfl⟩
  | noted next inductionHypothesis =>
      refine Leads.trans ?_ (inductionHypothesis _ _)
      exact Quiet.leads ⟨rfl, rfl⟩
  | pause nanos next inductionHypothesis =>
      rw [Process.run]
      split
      · exact inductionHypothesis () system
      · exact Quiet.leads ⟨rfl, rfl⟩
  | look next inductionHypothesis => exact inductionHypothesis _ system
  | edit change next inductionHypothesis =>
      have edited : Quiet system { system with tree := change system.tree } := ⟨rfl, rfl⟩
      exact (edited.trans (quiet_follow _ system.tree)).leads.trans (inductionHypothesis () _)

theorem lt_of_nextWake {system : System} {time : Nat} (next : system.nextWake? = some time) :
    system.time < time := by
  obtain ⟨task, member, rfl⟩ := List.mem_map.mp (List.min?_mem next)
  have waits := (List.mem_filter.mp member).2
  simp only [Bool.and_eq_true, decide_eq_true_eq] at waits
  exact waits.2

/-- However long processes go on side by side, they are heard line by line. -/
theorem leads_run (fuel : Nat) (system : System) : Leads system (run fuel system) := by
  induction fuel generalizing system with
  | zero => exact .refl system
  | succ fuel inductionHypothesis =>
      rw [run]
      split
      next task _ =>
        exact (leads_process task.number task.process system).trans (inductionHypothesis _)
      next =>
        split
        · exact .refl system
        next time next =>
          split
          next soon =>
            exact (leads_time (lt_of_nextWake next).le soon.le).trans (inductionHypothesis _)
          next => exact .refl system

end System

end Crosscheck
