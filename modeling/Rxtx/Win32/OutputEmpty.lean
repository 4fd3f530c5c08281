import Mathlib.Logic.Function.Basic
import Rxtx.Library.Fair

open Runs

namespace Rxtx.Win32

inductive LsrStage where
  | testEvent | clearErrors | testTx | clearTx | sendEvent
  deriving DecidableEq, Repr

/-- Where a thread stands in `serial_write`, `tcflush` or `nativeDrain`: before an assignment of
    `tx_happened`, before the `PurgeComm` calls, in `tcdrain`, or before the event of its own. -/
inductive TxStage where
  | outside | marking | flushing | purging | draining | notifying
  deriving DecidableEq, Repr

/-- The driver's output queue, the port's `tx_happened` and the threads; from `marks` on, what an
    observer records: the assignments of `tx_happened`, the events of the event loop, whether one
    of these was sent while the queue was not empty, and the events that `nativeDrain` sent. -/
structure TxPort (T : Type) where
  queue : Nat
  txHappened : Bool
  outputBufferEmpty : Bool
  eventLoop : LsrStage
  call : T → TxStage
  marks : Nat
  events : Nat
  premature : Bool
  drainEvents : Nat

inductive TxLabel (T : Type) where
  | transmit (count : Nat)
  | writeFile (thread : T) (count : Nat)
  | tcflush (thread : T)
  | nativeDrain (thread : T)
  | advance (thread : T) (passes : Bool)
  | notify (enable : Bool)
  | eventLoop (answered : Bool)

variable {T : Type} [DecidableEq T]

def TxPort.goto (s : TxPort T) (thread : T) (stage : TxStage) : TxPort T :=
  { s with call := Function.update s.call thread stage }

def TxPort.mark (s : TxPort T) : TxPort T := { s with txHappened := true, marks := s.marks + 1 }

/-- `tcflush` sets `tx_happened` on its way in and, where no `PurgeComm` fails and it knows its
    selector, on its way out. A write sets it also where `WriteFile` has failed. Unless it was told
    that the monitor thread is interrupted, `nativeDrain` sends an event that is wanted whatever
    `tcdrain` gave, with no look at `tx_happened`. -/
def runTx (thread : T) (passes : Bool) (s : TxPort T) : Option (TxPort T) :=
  match s.call thread with
  | .outside => none
  | .marking => some (s.mark.goto thread .outside)
  | .flushing => some (s.mark.goto thread .purging)
  | .purging => some (s.goto thread (if passes then .marking else .outside))
  | .draining =>
    some (s.goto thread (if passes && s.outputBufferEmpty then .notifying else .outside))
  | .notifying => some { s.goto thread .outside with drainEvents := s.drainEvents + 1 }

/-- One access at a time; `answered` says that neither `fstat` nor `ClearCommError` fails. -/
def runLsr (answered : Bool) (s : TxPort T) : TxPort T :=
  match s.eventLoop with
  | .testEvent => if s.outputBufferEmpty then { s with eventLoop := .clearErrors } else s
  | .clearErrors =>
    { s with eventLoop := if answered ∧ s.queue = 0 then .testTx else .testEvent }
  | .testTx => { s with eventLoop := if s.txHappened then .clearTx else .testEvent }
  | .clearTx => { s with txHappened := false, eventLoop := .sendEvent }
  | .sendEvent =>
    { s with
      events := s.events + 1
      premature := s.premature || s.queue ≠ 0
      eventLoop := .testEvent }

def txStep (label : TxLabel T) (s : TxPort T) : Option (TxPort T) :=
  match label with
  | .transmit count => if count ≤ s.queue then some { s with queue := s.queue - count } else none
  | .writeFile thread count =>
    if s.call thread = .outside then
      some { s.goto thread .marking with queue := s.queue + count }
    else none
  | .tcflush thread =>
    if s.call thread = .outside then some (s.goto thread .flushing) else none
  | .nativeDrain thread =>
    if s.call thread = .outside then some (s.goto thread .draining) else none
  | .advance thread passes => runTx thread passes s
  | .notify enable => some { s with outputBufferEmpty := enable }
  | .eventLoop answered => some (runLsr answered s)

structure TxPort.Fresh (s : TxPort T) : Prop where
  txHappened : s.txHappened = false
  eventLoop : s.eventLoop = .testEvent
  marks : s.marks = 0
  events : s.events = 0
  premature : s.premature = false

inductive TxMoves (s : TxPort T) : TxPort T → Prop
  | transmit (count : Nat) (queued : count ≤ s.queue) :
      TxMoves s { s with queue := s.queue - count }
  | call (thread : T) (stage : TxStage) (count : Nat) :
      TxMoves s { s.goto thread stage with queue := s.queue + count }
  | mark (thread : T) (stage : TxStage) : TxMoves s (s.mark.goto thread stage)
  | drained (thread : T) :
      TxMoves s { s.goto thread .outside with drainEvents := s.drainEvents + 1 }
  | notify (enable : Bool) : TxMoves s { s with outputBufferEmpty := enable }
  | loopStays (at_ : s.eventLoop = .testEvent) : TxMoves s s
  | loopTests (at_ : s.eventLoop = .testEvent) : TxMoves s { s with eventLoop := .clearErrors }
  | loopLeaves (at_ : s.eventLoop = .clearErrors ∨ s.eventLoop = .testTx ∧ s.txHappened = false) :
      TxMoves s { s with eventLoop := .testEvent }
  | loopSamples (at_ : s.eventLoop = .clearErrors) (empty : s.queue = 0) :
      TxMoves s { s with eventLoop := .testTx }
  | loopFinds (at_ : s.eventLoop = .testTx) (tx : s.txHappened = true) :
      TxMoves s { s with eventLoop := .clearTx }
  | loopClears (at_ : s.eventLoop = .clearTx) :
      TxMoves s { s with txHappened := false, eventLoop := .sendEvent }
  | loopSends (at_ : s.eventLoop = .sendEvent) :
      TxMoves s { s with
        events := s.events + 1
        premature := s.premature || s.queue ≠ 0
        eventLoop := .testEvent }

theorem runLsr_moves (answered : Bool) (s : TxPort T) :
    TxMoves s (runLsr answered s) := by
  cases at_ : s.eventLoop <;> simp only [runLsr, at_]
  case testEvent =>
    split
    · exact .loopTests at_
    · exact .loopStays at_
  case clearErrors =>
    split
    next passes => exact .loopSamples at_ passes.2
    · exact .loopLeaves (.inl at_)
  case testTx =>
    split
    next tx => exact .loopFinds at_ tx
    next tx => exact .loopLeaves (.inr ⟨at_, by simpa using tx⟩)
  case clearTx => exact .loopClears at_
  case sendEvent => exact .loopSends at_

theorem txStep_moves {label : TxLabel T} {s s' : TxPort T} (taken : txStep label s = some s') :
    TxMoves s s' := by
  cases label with
  | transmit count =>
    simp only [txStep] at taken
    split_ifs at taken with queued
    cases taken
    exact .transmit count queued
  | writeFile thread count =>
    simp only [txStep] at taken
    split_ifs at taken
    cases taken
    exact .call thread .marking count
  | tcflush thread =>
    simp only [txStep] at taken
    split_ifs at taken
    cases taken
    exact .call thread .flushing 0
  | nativeDrain thread =>
    simp only [txStep] at taken
    split_ifs at taken
    cases taken
    exact .call thread .draining 0
  | advance thread passes =>
    cases at_ : s.call thread <;> simp only [txStep, runTx, at_] at taken
    case outside => cases taken
    case marking =>
      cases taken
      exact .mark thread .outside
    case flushing =>
      cases taken
      exact .mark thread .purging
    case purging | draining =>
      cases taken
      exact .call thread _ 0
    case notifying =>
      cases taken
      exact .drained thread
  | notify enable =>
    cases taken
    exact .notify enable
  | eventLoop answered =>
    cases taken
    exact runLsr_moves answered s

def TxPort.pending (s : TxPort T) : Nat :=
  (match s.eventLoop with | .sendEvent => 1 | _ => 0) + s.txHappened.toNat

def Clearing (s : TxPort T) : Prop := s.eventLoop = .clearTx → s.txHappened = true

def Paid (s₀ s : TxPort T) : Prop :=
  s.events + s.pending + s₀.marks ≤ s₀.events + s₀.pending + s.marks

theorem Clearing.step {s s' : TxPort T} (clearing : Clearing s) (moves : TxMoves s s') :
    Clearing s' := by
  cases moves with
  | transmit | notify | call | drained | loopStays => exact clearing
  | mark => exact fun _ => rfl
  | loopFinds at_ tx => exact fun _ => tx
  | loopTests | loopLeaves | loopSamples | loopClears | loopSends => exact nofun

theorem Paid.step {s₀ s s' : TxPort T} (paid : Paid s₀ s) (clearing : Clearing s)
    (moves : TxMoves s s') : Paid s₀ s' := by
  have stays {s' : TxPort T} (events : s'.events = s.events) (pending : s'.pending = s.pending)
      (marks : s'.marks = s.marks) : Paid s₀ s' := by
    rw [Paid, events, pending, marks]
    exact paid
  unfold Paid TxPort.pending at paid
  cases moves with
  | transmit | notify | call | drained | loopStays => exact stays rfl rfl rfl
  | mark thread stage =>
    have bound := s.txHappened.toNat_le
    simp only [Paid, TxPort.pending, TxPort.mark, TxPort.goto, Bool.toNat_true] at paid ⊢
    omega
  | loopTests at_ | loopSamples at_ | loopFinds at_ =>
    refine stays rfl ?_ rfl
    simp [TxPort.pending, at_]
  | loopLeaves at_ =>
    refine stays rfl ?_ rfl
    rcases at_ with at_ | ⟨at_, -⟩ <;> simp [TxPort.pending, at_]
  | loopClears at_ =>
    refine stays rfl ?_ rfl
    simp [TxPort.pending, at_, clearing at_]
  | loopSends at_ =>
    simp only [at_, Paid, TxPort.pending] at paid ⊢
    omega

def LsrStage.sampled : LsrStage → Bool
  | .testTx | .clearTx | .sendEvent => true
  | _ => false

/-- No write reaches the driver between the request's look at the queue and its event. -/
def KeepsSample (s : TxPort T) : TxLabel T → Prop
  | .writeFile _ count => s.eventLoop.sampled = true → count = 0
  | _ => True

structure Timely (s : TxPort T) : Prop where
  empty : s.eventLoop.sampled = true → s.queue = 0
  timely : s.premature = false

omit [DecidableEq T] in
theorem Timely.runLsr {s : TxPort T} (timely : Timely s) (answered : Bool) :
    Timely (runLsr answered s) := by
  rcases timely with ⟨empty, timely⟩
  cases at_ : s.eventLoop <;> simp only [Win32.runLsr, at_]
  case testEvent =>
    split
    · exact ⟨nofun, timely⟩
    · exact ⟨empty, timely⟩
  case clearErrors =>
    split
    next passes => exact ⟨fun _ => passes.2, timely⟩
    · exact ⟨nofun, timely⟩
  case testTx =>
    have none := empty (by rw [at_]; rfl)
    exact ⟨fun _ => none, timely⟩
  case clearTx =>
    have none := empty (by rw [at_]; rfl)
    exact ⟨fun _ => none, timely⟩
  case sendEvent =>
    have none := empty (by rw [at_]; rfl)
    exact ⟨nofun, by simp [timely, none]⟩

theorem Timely.step {s s' : TxPort T} {label : TxLabel T} (timely : Timely s)
    (keeps : KeepsSample s label) (taken : txStep label s = some s') : Timely s' := by
  cases label with
  | transmit count =>
    simp only [txStep] at taken
    split_ifs at taken
    cases taken
    exact ⟨fun sampled => by simp [timely.empty sampled], timely.timely⟩
  | writeFile thread count =>
    simp only [txStep] at taken
    split_ifs at taken
    cases taken
    refine ⟨?_, timely.timely⟩
    intro sampled
    simp [timely.empty sampled, keeps sampled]
  | tcflush thread | nativeDrain thread =>
    simp only [txStep] at taken
    split_ifs at taken
    cases taken
    exact ⟨timely.empty, timely.timely⟩
  | advance thread passes =>
    cases at_ : s.call thread <;> simp only [txStep, runTx, at_] at taken <;> cases taken <;>
      exact ⟨timely.empty, timely.timely⟩
  | notify enable =>
    cases taken
    exact ⟨timely.empty, timely.timely⟩
  | eventLoop answered =>
    cases taken
    exact timely.runLsr answered

/-- Over any stretch of any run the events of the event loop are no more than the writes and
    flushes that set `tx_happened`, but for those pending at its start; and where no write reaches
    the driver between a request's look at the queue and its event, every such event is sent with
    the queue empty. -/
theorem events_are_paid_and_timely {s₀ s s' : TxPort T} (fresh : s₀.Fresh)
    {first rest : List (TxLabel T)} (start : Path (Takes txStep) s₀ first s)
    (path : Path (Takes txStep) s rest s') :
    s'.events + s'.pending + s.marks ≤ s.events + s.pending + s'.marks ∧
    (Path (Guarded KeepsSample (Takes txStep)) s₀ (first ++ rest) s' → s'.premature = false) := by
  have clearing : Clearing s := by
    apply start.invariant Clearing
      (fun _ _ _ clearing taken => clearing.step (txStep_moves taken))
    rw [Clearing, fresh.eventLoop]
    exact nofun
  constructor
  · have kept := path.invariant (fun s' => Clearing s' ∧ Paid s s')
      (fun _ _ _ before taken =>
        ⟨before.1.step (txStep_moves taken), before.2.step before.1 (txStep_moves taken)⟩)
      ⟨clearing, Nat.le_refl _⟩
    exact kept.2
  · intro guarded
    have begins : Timely s₀ := by
      refine ⟨?_, fresh.premature⟩
      rw [fresh.eventLoop]
      exact nofun
    exact (guarded.invariant Timely (fun _ _ _ timely taken => timely.step taken.1 taken.2)
      begins).timely

theorem events_are_paid_and_timely_once :
    ∃ s s' : TxPort Unit,
      Path (Takes txStep) ⟨0, false, true, .testEvent, fun _ => .outside, 0, 0, false, 0⟩
        [.writeFile () 4, .advance () true, .transmit 4] s ∧
      Path (Takes txStep) s (List.replicate 5 (.eventLoop true)) s' ∧
      s'.events = 1 ∧ s'.events + s'.pending + s.marks ≤ s.events + s.pending + s'.marks := by
  let s₀ : TxPort Unit := ⟨0, false, true, .testEvent, fun _ => .outside, 0, 0, false, 0⟩
  have run : ∃ s s', follow txStep [.writeFile () 4, .advance () true, .transmit 4] s₀ = some s ∧
      follow txStep (List.replicate 5 (.eventLoop true)) s = some s' ∧ s'.events = 1 :=
    ⟨_, _, rfl, rfl, rfl⟩
  rcases run with ⟨s, s', first, rest, one⟩
  have paid := events_are_paid_and_timely ⟨rfl, rfl, rfl, rfl, rfl⟩ (follow_path first)
    (follow_path rest)
  exact ⟨s, s', follow_path first, follow_path rest, one, paid.1⟩

def TxLabel.isEventLoop : TxLabel T → Bool
  | .eventLoop _ => true
  | _ => false

def LsrStage.rank : LsrStage → Nat
  | .testEvent => 4
  | .clearErrors => 3
  | .testTx => 2
  | .clearTx => 1
  | .sendEvent => 0

/-- An event is due, the queue is empty and the event wanted. -/
structure Due (s : TxPort T) : Prop where
  due : 0 < s.pending
  empty : s.queue = 0
  wanted : s.outputBufferEmpty = true

omit [DecidableEq T] in
theorem Due.runLsr {s : TxPort T} (due : Due s) :
    s.events < (runLsr true s).events ∨
      (0 < (runLsr true s).pending ∧ (runLsr true s).events = s.events ∧
        (runLsr true s).eventLoop.rank < s.eventLoop.rank) := by
  rcases due with ⟨pending, empty, wanted⟩
  have tx : s.eventLoop ≠ .sendEvent → s.txHappened = true := by
    intro before
    unfold TxPort.pending at pending
    cases set : s.txHappened with
    | true => rfl
    | false => cases at_ : s.eventLoop <;> simp [at_, set] at pending before
  cases at_ : s.eventLoop <;> simp only [Win32.runLsr, at_]
  case testEvent =>
    have set := tx (by simp [at_])
    rw [if_pos wanted]
    exact .inr ⟨by simp [TxPort.pending, set], rfl, by simp [LsrStage.rank]⟩
  case clearErrors =>
    have set := tx (by simp [at_])
    simp only [empty, and_self, if_true]
    exact .inr ⟨by simp [TxPort.pending, set], trivial, by simp [LsrStage.rank]⟩
  case testTx =>
    have set := tx (by simp [at_])
    rw [if_pos set]
    exact .inr ⟨by simp [TxPort.pending, set], trivial, by simp [LsrStage.rank]⟩
  case clearTx => exact .inr ⟨by simp [TxPort.pending], trivial, by simp [LsrStage.rank]⟩
  case sendEvent => exact .inl (Nat.lt_succ_self _)

theorem txStep_others {label : TxLabel T} {s s' : TxPort T} (taken : txStep label s = some s')
    (others : label.isEventLoop = false) :
    s'.eventLoop = s.eventLoop ∧ s'.events = s.events ∧ s.pending ≤ s'.pending := by
  cases label with
  | eventLoop => cases others
  | transmit | writeFile | tcflush | nativeDrain =>
    simp only [txStep] at taken
    split_ifs at taken
    cases taken
    exact ⟨rfl, rfl, Nat.le_refl _⟩
  | advance thread passes =>
    have marked (stage : TxStage) : s.pending ≤ (s.mark.goto thread stage).pending := by
      apply Nat.add_le_add_left
      exact s.txHappened.toNat_le
    cases at_ : s.call thread <;> simp only [txStep, runTx, at_] at taken <;> cases taken
    · exact ⟨rfl, rfl, marked .outside⟩
    · exact ⟨rfl, rfl, marked .purging⟩
    all_goals exact ⟨rfl, rfl, Nat.le_refl _⟩
  | notify enable =>
    cases taken
    exact ⟨rfl, rfl, Nat.le_refl _⟩

/-- However the threads run on, a write or flush that has set `tx_happened` is followed by an event
    where from then on the queue is empty, the event wanted and no `ClearCommError` fails, as long
    as the event loop keeps running. -/
theorem write_is_reported (run : Endless (Takes (txStep (T := T))))
    (written : (run.state 0).txHappened = true) (empty : ∀ m, (run.state m).queue = 0)
    (wanted : ∀ m, (run.state m).outputBufferEmpty = true)
    (answered : ∀ m, run.label m ≠ .eventLoop false)
    (runs : ∀ m, ∃ k, m ≤ k ∧ (run.label k).isEventLoop = true) :
    ∃ m, (run.state 0).events < (run.state m).events := by
  let P (s : TxPort T) : Prop := 0 < s.pending ∧ s.events = (run.state 0).events
  let Q (s : TxPort T) : Prop := (run.state 0).events < s.events
  have start : P (run.state 0) := by
    refine ⟨?_, rfl⟩
    simp [TxPort.pending, written]
  have moves : ∀ m, P (run.state m) → Q (run.state (m + 1)) ∨ P (run.state (m + 1)) ∧
      ((run.state (m + 1)).eventLoop.rank < (run.state m).eventLoop.rank ∨
        (run.state (m + 1)).eventLoop.rank = (run.state m).eventLoop.rank ∧ true = true ∧
          (run.label m).isEventLoop ≠ true) := by
    intro m before
    have taken := run.takes m
    by_cases others : (run.label m).isEventLoop = true
    · obtain ⟨reply, looped⟩ : ∃ reply, run.label m = .eventLoop reply := by
        cases label : run.label m with
        | eventLoop reply => exact ⟨reply, rfl⟩
        | _ => simp [label, TxLabel.isEventLoop] at others
      cases reply with
      | false => exact absurd looped (answered m)
      | true =>
        rw [looped] at taken
        have after : runLsr true (run.state m) = run.state (m + 1) := Option.some.inj taken
        have due : Due (run.state m) := ⟨before.1, empty m, wanted m⟩
        rcases due.runLsr with sent | ⟨pending, same, nearer⟩
        · rw [after, before.2] at sent
          exact .inl sent
        · rw [after] at pending same nearer
          exact .inr ⟨⟨pending, same.trans before.2⟩, .inl nearer⟩
    · obtain ⟨stage, events, pending⟩ := txStep_others taken (by simpa using others)
      exact .inr ⟨⟨lt_of_lt_of_le before.1 pending, events.trans before.2⟩,
        .inr ⟨by rw [stage], rfl, others⟩⟩
  obtain ⟨m, -, sent⟩ := run.eventually TxLabel.isEventLoop (fun _ => true)
    (fun s => s.eventLoop.rank) P Q (fun m _ => runs m) moves start
  exact ⟨m, sent⟩

def loopAlone (s : TxPort T) : Endless (Takes (txStep (T := T))) where
  state n := (runLsr true)^[n] s
  label _ := .eventLoop true
  takes n := by
    rw [Function.iterate_succ_apply']
    rfl

omit [DecidableEq T] in
theorem loopAlone_kept (s : TxPort T) (n : Nat) :
    ((runLsr true)^[n] s).queue = s.queue ∧
      ((runLsr true)^[n] s).outputBufferEmpty = s.outputBufferEmpty := by
  have kept (s : TxPort T) : (runLsr true s).queue = s.queue ∧
      (runLsr true s).outputBufferEmpty = s.outputBufferEmpty := by
    cases at_ : s.eventLoop <;> simp only [runLsr, at_]
    case testEvent => split <;> exact ⟨rfl, rfl⟩
    all_goals exact ⟨trivial, trivial⟩
  induction n with
  | zero => exact ⟨rfl, rfl⟩
  | succ n ih =>
    rw [Function.iterate_succ_apply']
    exact ⟨(kept _).1.trans ih.1, (kept _).2.trans ih.2⟩

theorem write_is_reported_alone :
    let s : TxPort Unit := ⟨0, true, true, .testEvent, fun _ => .outside, 1, 0, false, 0⟩
    ∃ m, 0 < ((loopAlone s).state m).events := by
  intro s
  exact write_is_reported (loopAlone s) rfl (fun m => (loopAlone_kept s m).1)
    (fun m => (loopAlone_kept s m).2) nofun fun m => ⟨m, Nat.le_refl m, rfl⟩

end Rxtx.Win32
