import Rxtx.Library.Runs
import Rxtx.Library.SaveRestore
import Rxtx.RXTXPort.LifeCycle
import Rxtx.SerialImp.EventInfo
import Rxtx.SerialImp.ReadByteArray

open Runs SaveRestore Rxtx.RXTXPort

namespace Rxtx.SerialImp

/-- A call of `read_byte_array` under way: its variable `flag`, the tries that `count` leaves and
    what it is about to return. -/
structure NativeRead where
  request : ReadRequest
  flag : Bool
  tries : Nat
  state : ReadState
  result : Option Int

/-- `last` is the argument of the last `notifyOnDataAvailable`, and `since` what it was when the
    read began. -/
structure Subscription where
  eis : EventInfo
  monThread : MonitorThread
  reading : Option NativeRead
  finished : Option ReadRun
  last : Bool
  since : Bool

inductive SubscriptionLabel where
  | enter (request : ReadRequest)
  | turn (turn : ReadTurn)
  | leave
  | notifyOnDataAvailable (enable : Bool)

def Subscription.entered (s : Subscription) (request : ReadRequest) : Subscription :=
  { s with
    eis := nativeSetEventFlag .dataAvailable false s.eis
    reading := some ⟨request, s.eis.eventflags .dataAvailable, 20, ⟨0, request.length, []⟩, none⟩
    since := s.last }

def enterReadByteArray (request : ReadRequest) (s : Subscription) : Option Subscription :=
  match s.reading with
  | some _ => none -- the stream is synchronized
  | none => some (s.entered request)

def turnReadByteArray (turn : ReadTurn) (s : Subscription) : Option Subscription :=
  match s.reading with
  | some ⟨request, flag, tries + 1, state, none⟩ =>
    if state.bytes < request.length then
      let (result, state) := readTurn request turn state
      some { s with reading := some ⟨request, flag, tries, state, result⟩ }
    else none
  | _ => none

def NativeRead.ending (read : NativeRead) : Option Int :=
  match read.result with
  | some result => some result
  | none =>
    if read.tries = 0 ∨ ¬ read.state.bytes < read.request.length then some read.state.bytes
    else none

/-- Each of the returns puts `flag` back first. -/
def leaveReadByteArray (s : Subscription) : Option Subscription := do
  let read ← s.reading
  let result ← read.ending
  return { s with
    eis := nativeSetEventFlag .dataAvailable read.flag s.eis
    reading := none
    finished := some ⟨result, read.state.stores, if read.flag then 1 else 0⟩ }

def notifyOnDataAvailable (enable : Bool) (s : Subscription) : Subscription :=
  { s with
    eis := nativeSetEventFlag .dataAvailable enable s.eis
    monThread := s.monThread.setEnabled .dataAvailable enable
    last := enable }

def subscriptionStep (label : SubscriptionLabel) (s : Subscription) : Option Subscription :=
  match label with
  | .enter request => enterReadByteArray request s
  | .turn turn => turnReadByteArray turn s
  | .leave => leaveReadByteArray s
  | .notifyOnDataAvailable enable => some (notifyOnDataAvailable enable s)

structure Subscription.Fresh (s : Subscription) : Prop where
  flag : s.eis.eventflags .dataAvailable = false
  data : s.monThread.enabled .dataAvailable = false
  last : s.last = false
  idle : s.reading = none

def Subscription.Agrees (s : Subscription) : Prop :=
  s.reading = none → s.eis.eventflags .dataAvailable = s.last ∧
    s.eis.eventflags .dataAvailable = s.monThread.enabled .dataAvailable

def Subscription.cell (s : Subscription) : Cell Bool :=
  ⟨s.eis.eventflags .dataAvailable, s.reading.map NativeRead.flag, s.last, s.since⟩

@[simp] theorem nativeSetEventFlag_same (event : EventType) (flag : Bool) (eis : EventInfo) :
    (nativeSetEventFlag event flag eis).eventflags event = flag := by
  simp [nativeSetEventFlag]

@[simp] theorem setEnabled_same (thread : MonitorThread) (event : EventType) (enable : Bool) :
    (thread.setEnabled event enable).enabled event = enable := by
  simp [MonitorThread.setEnabled]

inductive FlagMoves (s s' : Subscription) : SubscriptionLabel → Prop
  | enter (request : ReadRequest) (idle : s.cell.saved = none)
      (cell : s'.cell = s.cell.borrow fun _ => false) (data : s'.monThread = s.monThread) :
      FlagMoves s s' (.enter request)
  | turn (turn : ReadTurn) (cell : s'.cell = s.cell) (data : s'.monThread = s.monThread) :
      FlagMoves s s' (.turn turn)
  | leave (busy : s.cell.saved ≠ none) (cell : s'.cell = s.cell.restore)
      (data : s'.monThread = s.monThread) : FlagMoves s s' .leave
  | notify (enable : Bool) (cell : s'.cell = s.cell.set enable)
      (data : s'.monThread.enabled .dataAvailable = enable) :
      FlagMoves s s' (.notifyOnDataAvailable enable)

theorem subscriptionStep_moves {label : SubscriptionLabel} {s s' : Subscription}
    (taken : subscriptionStep label s = some s') : FlagMoves s s' label := by
  cases label with
  | enter request =>
    simp only [subscriptionStep, enterReadByteArray] at taken
    split at taken
    · cases taken
    next idle =>
      cases taken
      apply FlagMoves.enter
      · simp [Subscription.cell, idle]
      · simp [Subscription.cell, Cell.borrow, Subscription.entered]
      · rfl
  | turn turn =>
    simp only [subscriptionStep, turnReadByteArray] at taken
    split at taken
    next request flag tries state reads =>
      split_ifs at taken
      cases taken
      apply FlagMoves.turn
      · simp [Subscription.cell, reads]
      · rfl
    · cases taken
  | leave =>
    simp only [subscriptionStep, leaveReadByteArray, Option.bind_eq_bind] at taken
    obtain ⟨read, reads, rest⟩ := Option.bind_eq_some_iff.mp taken
    obtain ⟨result, -, left⟩ := Option.bind_eq_some_iff.mp rest
    cases left
    apply FlagMoves.leave
    · simp [Subscription.cell, reads]
    · simp [Subscription.cell, Cell.restore, reads]
    · rfl
  | notifyOnDataAvailable enable =>
    cases taken
    apply FlagMoves.notify
    · simp [Subscription.cell, Cell.set, notifyOnDataAvailable]
    · simp [notifyOnDataAvailable]

theorem turns_readLoop (turns : Nat → ReadTurn) (request : ReadRequest) (flag : Bool)
    (tries : Nat) {state : ReadState} {s : Subscription}
    (reads : s.reading = some ⟨request, flag, tries, state, none⟩) :
    ∃ labels, follow subscriptionStep (labels ++ [.leave]) s = some { s with
      eis := nativeSetEventFlag .dataAvailable flag s.eis
      reading := none
      finished := some ⟨(readLoop request turns tries state).1,
        (readLoop request turns tries state).2.stores, if flag then 1 else 0⟩ } := by
  induction tries generalizing state s with
  | zero =>
    refine ⟨[], ?_⟩
    simp [follow, subscriptionStep, leaveReadByteArray, reads, NativeRead.ending, readLoop]
  | succ tries ih =>
    rw [readLoop]
    generalize turns (20 - (tries + 1)) = turn
    by_cases more : state.bytes < request.length
    · rw [if_pos more]
      rcases turned : readTurn request turn state with ⟨_ | result, after⟩
      · have step : subscriptionStep (.turn turn) s =
            some { s with reading := some ⟨request, flag, tries, after, none⟩ } := by
          simp [subscriptionStep, turnReadByteArray, reads, more, turned]
        obtain ⟨labels, followed⟩ :=
          ih (s := { s with reading := some ⟨request, flag, tries, after, none⟩ }) rfl
        refine ⟨.turn turn :: labels, ?_⟩
        simp only [List.cons_append, follow, step, Option.bind_some, followed]
      · have step : subscriptionStep (.turn turn) s =
            some { s with reading := some ⟨request, flag, tries, after, some result⟩ } := by
          simp [subscriptionStep, turnReadByteArray, reads, more, turned]
        refine ⟨[.turn turn], ?_⟩
        simp only [List.cons_append, List.nil_append, follow, step, Option.bind_some]
        simp [subscriptionStep, leaveReadByteArray, NativeRead.ending]
    · rw [if_neg more]
      refine ⟨[], ?_⟩
      simp [follow, subscriptionStep, leaveReadByteArray, reads, NativeRead.ending,
        Int.not_lt.mp more]

theorem steps_readByteArray (request : ReadRequest) (turns : Nat → ReadTurn) {s : Subscription}
    (idle : s.reading = none) :
    ∃ labels s', follow subscriptionStep (.enter request :: labels ++ [.leave]) s = some s' ∧
      s'.finished = some (readByteArray request
        (if s.eis.eventflags .dataAvailable then 1 else 0) turns) ∧
      s'.eis.eventflags = s.eis.eventflags := by
  have entered : subscriptionStep (.enter request) s = some (s.entered request) := by
    simp [subscriptionStep, enterReadByteArray, idle]
  have reads : (s.entered request).reading = some ⟨request, s.eis.eventflags .dataAvailable, 20,
      ⟨0, request.length, []⟩, none⟩ := rfl
  obtain ⟨labels, followed⟩ :=
    turns_readLoop turns request (s.eis.eventflags .dataAvailable) 20 reads
  have whole : follow subscriptionStep (.enter request :: labels ++ [.leave]) s =
      follow subscriptionStep (labels ++ [.leave]) (s.entered request) := by
    rw [List.cons_append, follow, entered, Option.bind_some]
  exact ⟨labels, _, whole.trans followed, rfl, by simp [nativeSetEventFlag, Subscription.entered]⟩

/-- A read ends under the subscription it began with. -/
def KeepsSubscription (s : Subscription) (label : SubscriptionLabel) : Prop :=
  match label with
  | .leave => s.last = s.since
  | _ => True

structure SubscriptionKept (s : Subscription) : Prop where
  sound : s.cell.Sound
  data : s.monThread.enabled .dataAvailable = s.last

theorem Subscription.Fresh.kept {s : Subscription} (fresh : s.Fresh) : SubscriptionKept s := by
  constructor
  · simp [Cell.Sound, Subscription.cell, fresh.idle, fresh.flag, fresh.last]
  · rw [fresh.data, fresh.last]

theorem SubscriptionKept.agrees {s : Subscription} (kept : SubscriptionKept s) : s.Agrees := by
  intro idle
  have same := kept.sound.agrees (by simp [Subscription.cell, idle])
  exact ⟨same, Eq.trans same kept.data.symm⟩

theorem FlagMoves.kept {s s' : Subscription} {label : SubscriptionLabel}
    (moves : FlagMoves s s' label) (kept : SubscriptionKept s)
    (keeps : KeepsSubscription s label) : SubscriptionKept s' := by
  cases moves with
  | enter request idle cell data =>
    have sound : s'.cell.Sound := by
      rw [cell]
      exact kept.sound.borrow idle _
    have last : s'.last = s.last := congrArg Cell.last cell
    exact ⟨sound, by rw [data, last, kept.data]⟩
  | turn turn cell data =>
    have last : s'.last = s.last := congrArg Cell.last cell
    exact ⟨cell ▸ kept.sound, by rw [data, last, kept.data]⟩
  | leave busy cell data =>
    have sound : s'.cell.Sound := by
      rw [cell]
      exact (kept.sound.restore_sound_iff busy).mpr keeps
    have last : s'.last = s.last := (congrArg Cell.last cell).trans (Cell.restore_last _)
    exact ⟨sound, by rw [data, last, kept.data]⟩
  | notify enable cell data =>
    have sound : s'.cell.Sound := by
      rw [cell]
      exact kept.sound.set enable
    have last : s'.last = enable := congrArg Cell.last cell
    exact ⟨sound, by rw [data, last]⟩

/-- Where every read ends under the subscription it began with, the native flag is the last one
    asked for whenever no read is under way; the first read that does not loses it. -/
theorem subscription_kept {start s : Subscription} {labels : List SubscriptionLabel}
    (fresh : start.Fresh)
    (path : Path (Guarded KeepsSubscription (Takes subscriptionStep)) start labels s) :
    s.Agrees ∧
    ∀ s', subscriptionStep .leave s = some s' → (s'.Agrees ↔ KeepsSubscription s .leave) := by
  have kept := path.invariant SubscriptionKept
    (fun _ _ _ before step => (subscriptionStep_moves step.2).kept before step.1) fresh.kept
  constructor
  · exact kept.agrees
  · intro s' left
    cases subscriptionStep_moves left with
    | leave busy cell data =>
      have last : s'.last = s.last := (congrArg Cell.last cell).trans (Cell.restore_last _)
      have same : s'.monThread.enabled .dataAvailable = s'.last := by rw [data, last, kept.data]
      have idle : s'.cell.saved = none := by rw [cell, Cell.restore_saved]
      have reads : s'.reading = none := by simpa [Subscription.cell] using idle
      calc s'.Agrees
          ↔ s'.eis.eventflags .dataAvailable = s'.last := by simp [Subscription.Agrees, reads, same]
        _ ↔ s'.cell.Sound := (Cell.sound_iff idle).symm
        _ ↔ KeepsSubscription s .leave := by
          rw [cell]
          exact kept.sound.restore_sound_iff busy

theorem subscription_kept_over_a_read :
    let eis : EventInfo :=
      ⟨5, fun _ => false, true, 0, 0, 0, true, true, 0, true, false, false, false, .zero, [], []⟩
    let start : Subscription := ⟨eis, ⟨some 0, fun _ => false⟩, none, none, false, false⟩
    ∃ s, Path (Guarded KeepsSubscription (Takes subscriptionStep)) start
        [.notifyOnDataAvailable true, .enter ⟨0, 1, -1, 0⟩, .turn ⟨0, 1, .gives [65]⟩, .leave] s ∧
      s.Agrees ∧ s.eis.eventflags .dataAvailable = true := by
  intro eis start
  let turned : Subscription :=
    { (notifyOnDataAvailable true start).entered ⟨0, 1, -1, 0⟩ with
      reading := some ⟨⟨0, 1, -1, 0⟩, true, 19, ⟨1, 0, [⟨0, [65]⟩]⟩, none⟩ }
  have turn : subscriptionStep (.turn ⟨0, 1, .gives [65]⟩)
      ((notifyOnDataAvailable true start).entered ⟨0, 1, -1, 0⟩) = some turned := rfl
  obtain ⟨s, path, flag⟩ : ∃ s, Path (Guarded KeepsSubscription (Takes subscriptionStep)) start
      [.notifyOnDataAvailable true, .enter ⟨0, 1, -1, 0⟩, .turn ⟨0, 1, .gives [65]⟩, .leave] s ∧
      s.eis.eventflags .dataAvailable = true :=
    ⟨_, .cons ⟨trivial, rfl⟩ (.cons ⟨trivial, rfl⟩ (.cons ⟨trivial, turn⟩ (.cons ⟨rfl, rfl⟩
      (.nil _)))), rfl⟩
  exact ⟨s, path, (subscription_kept ⟨rfl, rfl, rfl, rfl⟩ path).1, flag⟩

theorem subscription_lost_to_a_read :
    let eis : EventInfo :=
      ⟨5, fun _ => false, true, 0, 0, 0, true, true, 0, true, false, false, false, .zero, [], []⟩
    let start : Subscription := ⟨eis, ⟨some 0, fun _ => false⟩, none, none, false, false⟩
    ∃ s, start.Fresh ∧ Path (Takes subscriptionStep) start
        [.enter ⟨0, 1, -1, 0⟩, .notifyOnDataAvailable true, .turn ⟨0, 1, .gives [65]⟩, .leave] s ∧
      s.reading = none ∧ s.last = true ∧ s.eis.eventflags .dataAvailable = false ∧
      s.monThread.enabled .dataAvailable = true ∧ ¬ s.Agrees := by
  intro eis start
  let turned : Subscription :=
    { notifyOnDataAvailable true (start.entered ⟨0, 1, -1, 0⟩) with
      reading := some ⟨⟨0, 1, -1, 0⟩, false, 19, ⟨1, 0, [⟨0, [65]⟩]⟩, none⟩ }
  have turn : subscriptionStep (.turn ⟨0, 1, .gives [65]⟩)
      (notifyOnDataAvailable true (start.entered ⟨0, 1, -1, 0⟩)) = some turned := rfl
  refine ⟨_, ⟨rfl, rfl, rfl, rfl⟩, .cons rfl (.cons rfl (.cons turn (.cons rfl (.nil _)))), rfl,
    rfl, rfl, rfl, ?_⟩
  intro agrees
  have lost := (agrees rfl).1
  contradiction

end Rxtx.SerialImp
