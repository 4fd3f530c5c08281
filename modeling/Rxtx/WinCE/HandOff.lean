import Rxtx.Library.Fair
import Rxtx.WinCE.LineState

open Runs
open Rxtx.RXTXPort (EventType)

namespace Rxtx.WinCE

/-- Where `CommEventThread` stands: before its next call or access to `EventInfo`. -/
inductive CommThread where
  | starts
  | ready
  | waits
  | stored
  | masked
  | spins
  | returned
  deriving DecidableEq, Repr

/-- Where `eventLoop` stands, with the local variable `dwEvent` while it is still to be used. -/
inductive LoopThread where
  | top
  | checksReady
  | acknowledges
  | waits
  | woken
  | read (dwEvent : BitVec 32)
  | cleared (dwEvent : BitVec 32)
  | returned
  deriving DecidableEq, Repr

/-- `signal` is the state of the auto-reset event. `stored` are the masks that `WaitCommEvent` gave,
    `sent` those that `SendEvents` was called with. -/
structure HandOff where
  port : EventPort
  freed : Bool
  signal : Bool
  comm : CommThread
  loop : LoopThread
  stored : List (BitVec 32)
  sent : List (BitVec 32)

def HandOff.event (s : HandOff) : BitVec 32 := s.port.eis.event

def HandOff.setEvent (s : HandOff) (event : BitVec 32) : HandOff :=
  { s with port := { s.port with eis := { s.port.eis with event } } }

def HandOff.setReady (s : HandOff) (eventThreadReady : Bool) : HandOff :=
  { s with port := { s.port with eis := { s.port.eis with eventThreadReady } } }

inductive WaitCommResult where
  | completes (mask : BitVec 32)
  | invalidParameter
  | invalidHandle
  | fails
  deriving DecidableEq, Repr

inductive SetEventResult where
  | succeeds
  | invalidHandle
  | fails
  deriving DecidableEq, Repr

inductive WaitResult where
  | object
  | timeout
  | failed
  deriving DecidableEq, Repr

inductive Move where
  | setCommMask (accepted : Bool)
  | announces
  | waitCommEvent (result : WaitCommResult)
  | setEvent (result : SetEventResult)
  | testsEvent
  | readsInterrupted (interrupted : Bool)
  | readsReady
  | acknowledges
  | waitForSingleObject (result : WaitResult)
  | readsEvent
  | clearsEvent
  | sendEvents (comm : Option (BitVec 32 × ComStat)) (reply : EventType → Bool)
  | nativeSetEventFlag (event : EventType) (flag accepted : Bool)

def commStep (s : HandOff) : CommThread → Move → Option HandOff
  | .starts, .setCommMask accepted =>
    some { s with
      port := setCommMask accepted s.port
      comm := if accepted then .ready else .returned }
  | .ready, .announces => some { s.setReady true with comm := .waits }
  | .waits, .waitCommEvent (.completes mask) =>
    some { s.setEvent mask with comm := .stored, stored := s.stored ++ [mask] }
  | .waits, .waitCommEvent .invalidParameter => some s
  | .waits, .waitCommEvent .invalidHandle => some { s with comm := .returned, freed := true }
  | .waits, .waitCommEvent .fails => some { s with comm := .returned }
  | .stored, .setCommMask accepted =>
    some { s with
      port := setCommMask accepted s.port
      comm := if accepted then .masked else .returned }
  | .masked, .setEvent .succeeds => some { s with comm := .spins, signal := true }
  | .masked, .setEvent .invalidHandle => some { s with comm := .returned, freed := true }
  | .masked, .setEvent .fails => some { s with comm := .returned }
  | .spins, .testsEvent => some { s with comm := if s.event ≠ 0 then .spins else .waits }
  | _, _ => none

/-- A wait for a signalled object does not time out. -/
def loopStep (s : HandOff) : LoopThread → Move → Option HandOff
  | .top, .readsInterrupted interrupted =>
    some { s with loop := if interrupted then .returned else .checksReady }
  | .checksReady, .readsReady =>
    some { s with loop := if s.port.eis.eventThreadReady then .acknowledges else .waits }
  | .acknowledges, .acknowledges => some { s.setReady false with loop := .waits }
  | .waits, .waitForSingleObject .object =>
    if s.signal then some { s with signal := false, loop := .woken } else none
  | .waits, .waitForSingleObject .timeout => if s.signal then none else some { s with loop := .top }
  | .waits, .waitForSingleObject .failed => some { s with loop := .returned }
  | .woken, .readsEvent => some { s with loop := .read s.event }
  | .read dwEvent, .clearsEvent => some { s.setEvent 0 with loop := .cleared dwEvent }
  | .cleared dwEvent, .sendEvents comm reply =>
    some { s with
      sent := s.sent ++ [dwEvent]
      loop := if (sendEvents dwEvent comm reply s.port.eis).1 ≠ 0 then .returned else .top }
  | _, _ => none

inductive Thread where
  | comm
  | loop
  | java
  deriving DecidableEq, Repr

def Move.thread : Move → Thread
  | .setCommMask _ | .announces | .waitCommEvent _ | .setEvent _ | .testsEvent => .comm
  | .readsInterrupted _ | .readsReady | .acknowledges | .waitForSingleObject _ | .readsEvent
  | .clearsEvent | .sendEvents _ _ => .loop
  | .nativeSetEventFlag _ _ _ => .java

/-- What the other threads find in `EventInfo` after `free` is not modelled: nothing moves then. -/
def handOffStep (move : Move) (s : HandOff) : Option HandOff :=
  if s.freed then none
  else match move with
    | .nativeSetEventFlag event flag accepted =>
      some { s with port := nativeSetEventFlag event flag accepted s.port }
    | move => if move.thread = .comm then commStep s s.comm move else loopStep s s.loop move

def HandOff.initial (ef commMask : BitVec 32) : HandOff where
  port := ⟨⟨ef, 0, false⟩, commMask⟩
  freed := false
  signal := false
  comm := .starts
  loop := .top
  stored := []
  sent := []

def nonzero (masks : List (BitVec 32)) : List (BitVec 32) := masks.filter fun mask => mask ≠ 0

/-- The loop keeps running, and so does the other thread when it has a mask to signal. -/
structure Fair {step : HandOff → Move → HandOff → Prop} (run : Endless step) : Prop where
  loop : ∀ n, ∃ m, n ≤ m ∧ (run.label m).thread = .loop
  comm : ∀ n, (run.state n).comm = .stored ∨ (run.state n).comm = .masked →
    ∃ m, n ≤ m ∧ (run.label m).thread = .comm

/-- The masks that were passed are, in their order, those that were stored, and each that is stored
    comes to be passed. -/
def PassedOnce {step : HandOff → Move → HandOff → Prop} (run : Endless step) : Prop :=
  ∀ n, nonzero (run.state n).sent <+: nonzero (run.state n).stored ∧
    ∃ m, n ≤ m ∧ nonzero (run.state n).stored <+: nonzero (run.state m).sent

/-- The loop is going to read the word: it was signalled, or woken, or has read it just now. -/
def HandOff.Noticed (s : HandOff) : Prop :=
  s.signal = true ∨ s.loop = .woken ∨ ∃ dwEvent, s.loop = .read dwEvent

/-- No mask but 0 is stored between the loop's read and its clearing of the word, and the thread
    does not give up with a mask that the loop does not notice. -/
def KeepsMask (s : HandOff) : Move → Prop
  | .waitCommEvent (.completes mask) => mask = 0 ∨ ∀ dwEvent, s.loop ≠ .read dwEvent
  | .setCommMask false | .setEvent .invalidHandle | .setEvent .fails => s.event = 0 ∨ s.Noticed
  | _ => True

def HandOff.pending (s : HandOff) : List (BitVec 32) :=
  match s.loop with
  | .read dwEvent => nonzero [dwEvent]
  | .cleared dwEvent => nonzero [dwEvent, s.event]
  | _ => nonzero [s.event]

def CommThread.HasNone : CommThread → Prop
  | .starts | .ready | .waits => True
  | _ => False

def CommThread.HasSignalled : CommThread → Prop
  | .spins | .returned => True
  | _ => False

structure Accounted (s : HandOff) : Prop where
  masks : nonzero s.sent ++ s.pending = nonzero s.stored
  read : ∀ dwEvent, s.loop = .read dwEvent → s.event = dwEvent
  none : s.comm.HasNone → s.event = 0
  noticed : s.comm.HasSignalled → s.event = 0 ∨ s.Noticed

theorem initial_accounted (ef commMask : BitVec 32) : Accounted (.initial ef commMask) where
  masks := rfl
  read dwEvent reads := by cases reads
  none _ := rfl
  noticed signalled := by cases signalled

theorem setCommMask_eis (accepted : Bool) (port : EventPort) :
    (setCommMask accepted port).eis = port.eis := by
  cases accepted <;> rfl

theorem nativeSetEventFlag_event (event : EventType) (flag accepted : Bool) (port : EventPort) :
    (nativeSetEventFlag event flag accepted port).eis.event = port.eis.event := by
  cases accepted <;> rfl

theorem handOffStep_cases {s s' : HandOff} {move : Move} (taken : handOffStep move s = some s') :
    (move.thread = .comm ∧ commStep s s.comm move = some s') ∨
    (move.thread = .loop ∧ loopStep s s.loop move = some s') ∨
    move.thread = .java ∧ ∃ port, port.eis.event = s.event ∧ s' = { s with port } := by
  unfold handOffStep at taken
  by_cases freed : s.freed = true
  · rw [if_pos freed] at taken
    cases taken
  · rw [if_neg freed] at taken
    cases move with
    | nativeSetEventFlag event flag accepted =>
      exact .inr (.inr ⟨rfl, _, nativeSetEventFlag_event event flag accepted s.port,
        (Option.some.inj taken).symm⟩)
    | setCommMask | announces | waitCommEvent | setEvent | testsEvent => exact .inl ⟨rfl, taken⟩
    | readsInterrupted | readsReady | acknowledges | waitForSingleObject | readsEvent
    | clearsEvent | sendEvents => exact .inr (.inl ⟨rfl, taken⟩)

inductive CommMoves (s s' : HandOff) : Prop where
  | quiet (none : s.comm.HasNone) (event : s'.event = s.event) (stored : s'.stored = s.stored)
  | stores (mask : BitVec 32) (waits : s.comm = .waits) (place : s'.comm = .stored)
    (event : s'.event = mask) (stored : s'.stored = s.stored ++ [mask])
    (apart : mask = 0 ∨ ∀ dwEvent, s.loop ≠ .read dwEvent)
  | masks (place : s.comm = .stored) (place' : s'.comm = .masked) (event : s'.event = s.event)
    (stored : s'.stored = s.stored)
  | givesUp (place : s.comm = .stored ∨ s.comm = .masked) (place' : s'.comm = .returned)
    (event : s'.event = s.event) (stored : s'.stored = s.stored) (signal : s'.signal = s.signal)
    (noticed : s.event = 0 ∨ s.Noticed)
  | signals (place : s.comm = .masked) (place' : s'.comm = .spins) (event : s'.event = s.event)
    (stored : s'.stored = s.stored) (signal : s'.signal = true)
  | spins (place : s.comm = .spins) (same : s' = s)
  | passes (place : s.comm = .spins) (event : s'.event = s.event)
    (stored : s'.stored = s.stored) (zero : s.event = 0)

theorem commStep_moves {s s' : HandOff} {move : Move} (taken : commStep s s.comm move = some s')
    (keeps : KeepsMask s move) : s'.loop = s.loop ∧ s'.sent = s.sent ∧ CommMoves s s' := by
  cases place : s.comm with
  | starts =>
    have none : s.comm.HasNone := by rw [place]; trivial
    cases move with
    | setCommMask accepted =>
      rw [place] at taken
      obtain rfl := Option.some.inj taken
      exact ⟨rfl, rfl, .quiet none
        (congrArg EventInfoStruct.event (setCommMask_eis accepted s.port)) rfl⟩
    | _ => simp [place, commStep] at taken
  | ready =>
    have none : s.comm.HasNone := by rw [place]; trivial
    cases move with
    | announces =>
      rw [place] at taken
      obtain rfl := Option.some.inj taken
      exact ⟨rfl, rfl, .quiet none rfl rfl⟩
    | _ => simp [place, commStep] at taken
  | waits =>
    have none : s.comm.HasNone := by rw [place]; trivial
    cases move with
    | waitCommEvent result =>
      rw [place] at taken
      cases result with
      | completes mask =>
        obtain rfl := Option.some.inj taken
        exact ⟨rfl, rfl, .stores mask place rfl rfl rfl keeps⟩
      | _ =>
        obtain rfl := Option.some.inj taken
        exact ⟨rfl, rfl, .quiet none rfl rfl⟩
    | _ => simp [place, commStep] at taken
  | stored =>
    cases move with
    | setCommMask accepted =>
      rw [place] at taken
      obtain rfl := Option.some.inj taken
      have event := congrArg EventInfoStruct.event (setCommMask_eis accepted s.port)
      cases accepted with
      | true => exact ⟨rfl, rfl, .masks place rfl event rfl⟩
      | false => exact ⟨rfl, rfl, .givesUp (.inl place) rfl event rfl rfl keeps⟩
    | _ => simp [place, commStep] at taken
  | masked =>
    cases move with
    | setEvent result =>
      rw [place] at taken
      cases result with
      | succeeds =>
        obtain rfl := Option.some.inj taken
        exact ⟨rfl, rfl, .signals place rfl rfl rfl rfl⟩
      | _ =>
        obtain rfl := Option.some.inj taken
        exact ⟨rfl, rfl, .givesUp (.inr place) rfl rfl rfl rfl keeps⟩
    | _ => simp [place, commStep] at taken
  | spins =>
    cases move with
    | testsEvent =>
      rw [place] at taken
      obtain rfl := Option.some.inj taken
      by_cases zero : s.event = 0
      · exact ⟨rfl, rfl, .passes place rfl rfl zero⟩
      · refine ⟨rfl, rfl, .spins place ?_⟩
        rw [if_pos zero, ← place]
    | _ => simp [place, commStep] at taken
  | returned => cases move <;> simp [place, commStep] at taken

def LoopThread.Roams : LoopThread → Prop
  | .read _ | .cleared _ => False
  | _ => True

def LoopThread.distance : LoopThread → Nat
  | .cleared _ => 9
  | .top => 8
  | .checksReady => 7
  | .acknowledges => 6
  | .waits => 5
  | .woken => 4
  | .read _ => 3
  | .returned => 0

inductive LoopMoves (s s' : HandOff) : Prop where
  | strolls (place : s.loop = .top ∨ s.loop = .checksReady ∨ s.loop = .acknowledges)
    (roams : s'.loop.Roams) (forward : s'.loop.distance < s.loop.distance)
    (event : s'.event = s.event) (sent : s'.sent = s.sent) (signal : s'.signal = s.signal)
  | timesOut (place : s.loop = .waits) (place' : s'.loop = .top) (event : s'.event = s.event)
    (sent : s'.sent = s.sent) (silent : s.signal = false)
  | returns (place : s.loop = .top ∨ s.loop = .waits) (place' : s'.loop = .returned)
    (event : s'.event = s.event) (sent : s'.sent = s.sent) (signal : s'.signal = s.signal)
  | wakes (place : s.loop = .waits) (place' : s'.loop = .woken) (event : s'.event = s.event)
    (sent : s'.sent = s.sent)
  | reads (place : s.loop = .woken) (place' : s'.loop = .read s.event) (event : s'.event = s.event)
    (sent : s'.sent = s.sent)
  | clears (dwEvent : BitVec 32) (place : s.loop = .read dwEvent)
    (place' : s'.loop = .cleared dwEvent) (event : s'.event = 0) (sent : s'.sent = s.sent)
  | sends (dwEvent : BitVec 32) (place : s.loop = .cleared dwEvent)
    (place' : s'.loop = .top ∨ s'.loop = .returned) (event : s'.event = s.event)
    (sent : s'.sent = s.sent ++ [dwEvent]) (signal : s'.signal = s.signal)

theorem loopStep_moves {s s' : HandOff} {move : Move} (taken : loopStep s s.loop move = some s') :
    s'.comm = s.comm ∧ s'.stored = s.stored ∧ LoopMoves s s' := by
  cases place : s.loop with
  | top =>
    cases move with
    | readsInterrupted interrupted =>
      rw [place] at taken
      obtain rfl := Option.some.inj taken
      cases interrupted with
      | true => exact ⟨rfl, rfl, .returns (.inl place) rfl rfl rfl rfl⟩
      | false =>
        have forward : LoopThread.distance .checksReady < s.loop.distance := by
          rw [place]
          decide
        exact ⟨rfl, rfl, .strolls (.inl place) trivial forward rfl rfl rfl⟩
    | _ => simp [place, loopStep] at taken
  | checksReady =>
    cases move with
    | readsReady =>
      rw [place] at taken
      obtain rfl := Option.some.inj taken
      refine ⟨rfl, rfl, .strolls (.inr (.inl place)) ?_ ?_ rfl rfl rfl⟩
      · cases s.port.eis.eventThreadReady <;> trivial
      · have forward : ∀ ready : Bool, LoopThread.distance
            (if ready then .acknowledges else .waits) < LoopThread.distance .checksReady := by
          decide
        rw [place]
        exact forward _
    | _ => simp [place, loopStep] at taken
  | acknowledges =>
    cases move with
    | acknowledges =>
      rw [place] at taken
      obtain rfl := Option.some.inj taken
      have forward : LoopThread.distance .waits < s.loop.distance := by
        rw [place]
        decide
      exact ⟨rfl, rfl, .strolls (.inr (.inr place)) trivial forward rfl rfl rfl⟩
    | _ => simp [place, loopStep] at taken
  | waits =>
    cases move with
    | waitForSingleObject result =>
      rw [place] at taken
      cases result with
      | object =>
        obtain ⟨-, same⟩ := Option.ite_none_right_eq_some.mp taken
        obtain rfl := Option.some.inj same
        exact ⟨rfl, rfl, .wakes place rfl rfl rfl⟩
      | timeout =>
        obtain ⟨silent, same⟩ := Option.ite_none_left_eq_some.mp taken
        obtain rfl := Option.some.inj same
        exact ⟨rfl, rfl, .timesOut place rfl rfl rfl (by simpa using silent)⟩
      | failed =>
        obtain rfl := Option.some.inj taken
        exact ⟨rfl, rfl, .returns (.inr place) rfl rfl rfl rfl⟩
    | _ => simp [place, loopStep] at taken
  | woken =>
    cases move with
    | readsEvent =>
      rw [place] at taken
      obtain rfl := Option.some.inj taken
      exact ⟨rfl, rfl, .reads place rfl rfl rfl⟩
    | _ => simp [place, loopStep] at taken
  | read dwEvent =>
    cases move with
    | clearsEvent =>
      rw [place] at taken
      obtain rfl := Option.some.inj taken
      exact ⟨rfl, rfl, .clears dwEvent place rfl rfl rfl⟩
    | _ => simp [place, loopStep] at taken
  | cleared dwEvent =>
    cases move with
    | sendEvents comm reply =>
      rw [place] at taken
      obtain rfl := Option.some.inj taken
      refine ⟨rfl, rfl, .sends dwEvent place ?_ rfl rfl rfl⟩
      exact (ite_eq_or_eq _ _ _).symm
    | _ => simp [place, loopStep] at taken
  | returned => cases move <;> simp [place, loopStep] at taken

@[simp] theorem nonzero_append (left right : List (BitVec 32)) :
    nonzero (left ++ right) = nonzero left ++ nonzero right :=
  List.filter_append ..

theorem nonzero_cons (mask : BitVec 32) (masks : List (BitVec 32)) :
    nonzero (mask :: masks) = nonzero [mask] ++ nonzero masks :=
  nonzero_append [mask] masks

@[simp] theorem nonzero_zero : nonzero [0#32] = [] := rfl

theorem nonzero_single {mask : BitVec 32} (some : mask ≠ 0) : nonzero [mask] = [mask] :=
  List.filter_eq_self.mpr (by simpa using some)

theorem nonzero_before_zero (mask : BitVec 32) : nonzero [mask, 0#32] = nonzero [mask] := by
  rw [nonzero_cons, nonzero_zero, List.append_nil]

theorem pending_roams {s : HandOff} (roams : s.loop.Roams) : s.pending = nonzero [s.event] := by
  unfold HandOff.pending
  cases place : s.loop with
  | read dwEvent => rw [place] at roams; cases roams
  | cleared dwEvent => rw [place] at roams; cases roams
  | _ => rfl

theorem unread_of_roams {loop : LoopThread} (roams : loop.Roams) (dwEvent : BitVec 32) :
    loop ≠ .read dwEvent := by
  intro reads
  rw [reads] at roams
  cases roams

theorem pending_congr {s s' : HandOff} (loop : s'.loop = s.loop) (event : s'.event = s.event) :
    s'.pending = s.pending := by
  unfold HandOff.pending
  rw [loop, event]

theorem pending_stores {s s' : HandOff} {mask : BitVec 32} (zero : s.event = 0)
    (loop : s'.loop = s.loop) (event : s'.event = mask)
    (apart : mask = 0 ∨ ∀ dwEvent, s.loop ≠ .read dwEvent) :
    s'.pending = s.pending ++ nonzero [mask] := by
  unfold HandOff.pending
  rw [loop, event, zero]
  cases place : s.loop with
  | read dwEvent =>
    rcases apart with rfl | apart
    · simp
    · exact absurd place (apart dwEvent)
  | cleared dwEvent =>
    show nonzero [dwEvent, mask] = nonzero [dwEvent, 0#32] ++ nonzero [mask]
    rw [nonzero_before_zero, nonzero_cons]
  | _ => simp

theorem HandOff.Noticed.congr {s s' : HandOff} (noticed : s.Noticed) (loop : s'.loop = s.loop)
    (signal : s'.signal = s.signal) : s'.Noticed := by
  unfold HandOff.Noticed at noticed ⊢
  rw [loop, signal]
  exact noticed

theorem HandOff.Noticed.raised {s : HandOff} (noticed : s.Noticed) (asleep : s.loop ≠ .woken)
    (unread : ∀ dwEvent, s.loop ≠ .read dwEvent) : s.signal = true := by
  rcases noticed with raised | woken | ⟨dwEvent, reads⟩
  · exact raised
  · exact absurd woken asleep
  · exact absurd reads (unread dwEvent)

theorem Accounted.comm {s s' : HandOff} (inv : Accounted s) (loop : s'.loop = s.loop)
    (sent : s'.sent = s.sent) (moves : CommMoves s s') : Accounted s' := by
  have unchanged (event : s'.event = s.event) (stored : s'.stored = s.stored) :
      nonzero s'.sent ++ s'.pending = nonzero s'.stored ∧
        ∀ dwEvent, s'.loop = .read dwEvent → s'.event = dwEvent := by
    rw [sent, stored, pending_congr loop event, event, loop]
    exact ⟨inv.masks, inv.read⟩
  cases moves with
  | quiet none event stored =>
    obtain ⟨masks, read⟩ := unchanged event stored
    have zero := event.trans (inv.none none)
    exact ⟨masks, read, fun _ => zero, fun _ => .inl zero⟩
  | stores mask waits place event stored apart =>
    have zero := inv.none (by rw [waits]; trivial)
    refine ⟨?_, ?_, ?_, ?_⟩
    · rw [sent, stored, pending_stores zero loop event apart, ← List.append_assoc, inv.masks,
        nonzero_append]
    · intro dwEvent reads
      rw [loop] at reads
      rcases apart with rfl | apart
      · rw [event, ← inv.read dwEvent reads, zero]
      · exact absurd reads (apart dwEvent)
    · intro none
      rw [place] at none
      cases none
    · intro signalled
      rw [place] at signalled
      cases signalled
  | masks place place' event stored =>
    obtain ⟨masks, read⟩ := unchanged event stored
    exact ⟨masks, read, by rw [place']; exact False.elim, by rw [place']; exact False.elim⟩
  | givesUp place place' event stored signal noticed =>
    obtain ⟨masks, read⟩ := unchanged event stored
    refine ⟨masks, read, by rw [place']; exact False.elim, fun _ => ?_⟩
    rw [event]
    exact noticed.imp_right fun seen => seen.congr loop signal
  | signals place place' event stored signal =>
    obtain ⟨masks, read⟩ := unchanged event stored
    exact ⟨masks, read, by rw [place']; exact False.elim, fun _ => .inr (.inl signal)⟩
  | spins place same => exact same ▸ inv
  | passes place event stored zero =>
    obtain ⟨masks, read⟩ := unchanged event stored
    have still := event.trans zero
    exact ⟨masks, read, fun _ => still, fun _ => .inl still⟩

theorem Accounted.loop {s s' : HandOff} (inv : Accounted s) (comm : s'.comm = s.comm)
    (stored : s'.stored = s.stored) (moves : LoopMoves s s') : Accounted s' := by
  have roaming (before : s.loop.Roams) (after : s'.loop.Roams) (event : s'.event = s.event)
      (sent : s'.sent = s.sent) (noticed : s.Noticed → s.event = 0 ∨ s'.Noticed) :
      Accounted s' := by
    refine ⟨?_, ?_, ?_, ?_⟩
    · rw [sent, stored, pending_roams after, event, ← pending_roams before, inv.masks]
    · intro dwEvent reads
      exact absurd reads (unread_of_roams after dwEvent)
    · rw [comm, event]
      exact inv.none
    · rw [comm, event]
      intro signalled
      rcases inv.noticed signalled with zero | seen
      · exact .inl zero
      · exact noticed seen
  cases moves with
  | strolls place roams forward event sent signal =>
    have before : s.loop.Roams ∧ s.loop ≠ .woken := by
      rcases place with place | place | place <;> rw [place] <;> exact ⟨trivial, by decide⟩
    refine roaming before.1 roams event sent fun seen => .inr (.inl ?_)
    rw [signal]
    exact seen.raised before.2 (unread_of_roams before.1)
  | timesOut place place' event sent silent =>
    refine roaming (by rw [place]; trivial) (by rw [place']; trivial) event sent fun seen => ?_
    have raised := seen.raised (by simp [place]) (by simp [place])
    rw [silent] at raised
    cases raised
  | returns place place' event sent signal =>
    have before : s.loop.Roams ∧ s.loop ≠ .woken := by
      rcases place with place | place <;> rw [place] <;> exact ⟨trivial, by decide⟩
    refine roaming before.1 (by rw [place']; trivial) event sent fun seen => .inr (.inl ?_)
    rw [signal]
    exact seen.raised before.2 (unread_of_roams before.1)
  | wakes place place' event sent =>
    exact roaming (by rw [place]; trivial) (by rw [place']; trivial) event sent fun _ =>
      .inr (.inr (.inl place'))
  | reads place place' event sent =>
    refine ⟨?_, ?_, ?_, fun _ => .inr (.inr (.inr ⟨_, place'⟩))⟩
    · have before : s.loop.Roams := by rw [place]; trivial
      have held : s'.pending = s.pending := by
        rw [pending_roams before, HandOff.pending, place']
      rw [sent, stored, held, inv.masks]
    · intro dwEvent reads
      rw [place'] at reads
      rw [event, LoopThread.read.inj reads]
    · rw [comm, event]
      exact inv.none
  | clears dwEvent place place' event sent =>
    refine ⟨?_, ?_, fun _ => event, fun _ => .inl event⟩
    · have held : s'.pending = s.pending := by
        rw [HandOff.pending, HandOff.pending, place, place', event]
        exact nonzero_before_zero dwEvent
      rw [sent, stored, held, inv.masks]
    · intro other reads
      rw [place'] at reads
      cases reads
  | sends dwEvent place place' event sent signal =>
    have after : s'.loop.Roams := by rcases place' with place | place <;> rw [place] <;> trivial
    refine ⟨?_, ?_, ?_, ?_⟩
    · have held : s.pending = nonzero [dwEvent, s.event] := by rw [HandOff.pending, place]
      rw [sent, stored, pending_roams after, event, ← inv.masks, held, nonzero_cons dwEvent,
        nonzero_append, List.append_assoc]
    · intro other reads
      exact absurd reads (unread_of_roams after other)
    · rw [comm, event]
      exact inv.none
    · rw [comm, event]
      intro signalled
      rcases inv.noticed signalled with zero | seen
      · exact .inl zero
      · exact .inr (.inl (signal.trans (seen.raised (by simp [place]) (by simp [place]))))

theorem Accounted.java {s s' : HandOff} (inv : Accounted s) {port : EventPort}
    (event : port.eis.event = s.event) (same : s' = { s with port }) : Accounted s' := by
  subst same
  have word : HandOff.event { s with port } = s.event := event
  have held : HandOff.pending { s with port } = s.pending := pending_congr rfl word
  refine ⟨?_, ?_, ?_, ?_⟩
  · rw [held]
    exact inv.masks
  · rw [word]
    exact inv.read
  · rw [word]
    exact inv.none
  · rw [word]
    exact inv.noticed

theorem Accounted.step (s : HandOff) (move : Move) (s' : HandOff) (inv : Accounted s)
    (guarded : Guarded KeepsMask (Takes handOffStep) s move s') : Accounted s' := by
  rcases guarded with ⟨keeps, taken⟩
  rcases handOffStep_cases taken with ⟨-, step⟩ | ⟨-, step⟩ | ⟨-, port, event, same⟩
  · obtain ⟨loop, sent, moves⟩ := commStep_moves step keeps
    exact inv.comm loop sent moves
  · obtain ⟨comm, stored, moves⟩ := loopStep_moves step
    exact inv.loop comm stored moves
  · exact inv.java event same

def LoopThread.holds : LoopThread → Bool
  | .read dwEvent | .cleared dwEvent => dwEvent ≠ 0
  | _ => false

/-- Whose step brings the oldest pending mask nearer to `SendEvents`. -/
def HandOff.helper (s : HandOff) : Thread :=
  if s.loop.holds then .loop
  else match s.comm with
    | .stored | .masked => .comm
    | _ => .loop

def HandOff.distance (s : HandOff) : Nat :=
  if s.loop.holds then
    match s.loop with
    | .read _ => 2
    | _ => 1
  else match s.comm with
    | .stored => 11
    | .masked => 10
    | _ => s.loop.distance

def Nears (thread : Thread) (s s' : HandOff) : Prop :=
  s'.distance < s.distance ∨
    s'.distance = s.distance ∧ s'.helper = s.helper ∧ thread ≠ s.helper

theorem loop_distance_le (loop : LoopThread) : loop.distance ≤ 9 := by
  cases loop with
  | read dwEvent => exact (by decide : 3 ≤ 9)
  | cleared dwEvent => exact Nat.le_refl 9
  | _ => decide

theorem distance_lt (s : HandOff) : s.distance < 12 := by
  have roaming := loop_distance_le s.loop
  unfold HandOff.distance
  split
  · split <;> omega
  · split <;> omega

theorem event_of_pending {s : HandOff} (owes : s.pending ≠ []) (empty : s.loop.holds = false)
    (inv : Accounted s) : s.event ≠ 0 := by
  intro zero
  apply owes
  cases place : s.loop with
  | read dwEvent =>
    have same := inv.read dwEvent place
    rw [HandOff.pending, place, ← same, zero]
    rfl
  | cleared dwEvent =>
    have none : dwEvent = 0 := by simpa [place, LoopThread.holds] using empty
    rw [HandOff.pending, place, none, zero]
    rfl
  | _ =>
    rw [HandOff.pending, place, zero]
    rfl

theorem distance_read {s : HandOff} {dwEvent : BitVec 32} (place : s.loop = .read dwEvent)
    (some : dwEvent ≠ 0) : s.distance = 2 := by
  have holds : s.loop.holds = true := by
    rw [place]
    exact decide_eq_true some
  rw [HandOff.distance, if_pos holds, place]

theorem distance_cleared {s : HandOff} {dwEvent : BitVec 32} (place : s.loop = .cleared dwEvent)
    (some : dwEvent ≠ 0) : s.distance = 1 := by
  have holds : s.loop.holds = true := by
    rw [place]
    exact decide_eq_true some
  rw [HandOff.distance, if_pos holds, place]

theorem nears_of_holds {s s' : HandOff} {thread : Thread} (holds : s.loop.holds = true)
    (loop : s'.loop = s.loop) (other : thread ≠ .loop) : Nears thread s s' := by
  have helper : s.helper = .loop := by rw [HandOff.helper, if_pos holds]
  refine .inr ⟨?_, ?_, by rw [helper]; exact other⟩
  · rw [HandOff.distance, HandOff.distance, loop, if_pos holds, if_pos holds]
  · rw [helper, HandOff.helper, loop, if_pos holds]

theorem Accounted.comm_nears {s s' : HandOff} (inv : Accounted s) (owes : s.pending ≠ [])
    (loop : s'.loop = s.loop) (moves : CommMoves s s') : Nears .comm s s' := by
  cases empty : s.loop.holds with
  | true => exact nears_of_holds empty loop (by decide)
  | false =>
    have event := event_of_pending owes empty inv
    have roaming := loop_distance_le s.loop
    cases moves with
    | quiet none _ _ => exact absurd (inv.none none) event
    | stores mask waits _ _ _ _ => exact absurd (inv.none (by rw [waits]; trivial)) event
    | masks place place' _ _ =>
      exact .inl (by simp [HandOff.distance, loop, empty, place, place'])
    | givesUp place place' _ _ _ _ =>
      refine .inl ?_
      rcases place with place | place <;>
        simp [HandOff.distance, loop, empty, place, place'] <;> omega
    | signals place place' _ _ _ =>
      refine .inl ?_
      simp [HandOff.distance, loop, empty, place, place']
      omega
    | spins place same =>
      subst same
      exact .inr ⟨rfl, rfl, by simp [HandOff.helper, empty, place]⟩
    | passes _ _ _ zero => exact absurd zero event

theorem nears_of_forward {s s' : HandOff} (empty : s.loop.holds = false)
    (empty' : s'.loop.holds = false) (comm : s'.comm = s.comm)
    (forward : (s.comm ≠ .stored ∧ s.comm ≠ .masked) → s'.loop.distance < s.loop.distance) :
    Nears .loop s s' := by
  by_cases place : s.comm = .stored
  · exact .inr (by simp [HandOff.distance, HandOff.helper, empty, empty', comm, place])
  · by_cases masked : s.comm = .masked
    · exact .inr (by simp [HandOff.distance, HandOff.helper, empty, empty', comm, masked])
    · have nearer := forward ⟨place, masked⟩
      refine .inl ?_
      cases other : s.comm <;> simp_all [HandOff.distance]

theorem holds_of_roams {loop : LoopThread} (roams : loop.Roams) : loop.holds = false := by
  cases loop with
  | read dwEvent => cases roams
  | cleared dwEvent => cases roams
  | _ => rfl

theorem Accounted.loop_nears {s s' : HandOff} (inv : Accounted s) (owes : s.pending ≠ [])
    (comm : s'.comm = s.comm) (runs : s'.loop ≠ .returned) (moves : LoopMoves s s') :
    (∃ mask, nonzero s'.sent = nonzero s.sent ++ [mask]) ∨
      nonzero s'.sent = nonzero s.sent ∧ Nears .loop s s' := by
  cases moves with
  | strolls place roams forward event sent signal =>
    have before : s.loop.holds = false := by
      rcases place with place | place | place <;> rw [place] <;> rfl
    exact .inr ⟨by rw [sent], nears_of_forward before (holds_of_roams roams) comm fun _ => forward⟩
  | timesOut place place' event sent silent =>
    have empty : s.loop.holds = false := by rw [place]; rfl
    refine .inr ⟨by rw [sent], nears_of_forward empty (by rw [place']; rfl) comm fun apart => ?_⟩
    have word := event_of_pending owes empty inv
    have unnoticed : ¬ s.Noticed := by
      intro seen
      have raised := seen.raised (by simp [place]) (by simp [place])
      rw [silent] at raised
      cases raised
    exfalso
    cases other : s.comm with
    | starts | ready | waits => exact word (inv.none (by rw [other]; trivial))
    | stored => exact apart.1 other
    | masked => exact apart.2 other
    | spins | returned =>
      rcases inv.noticed (by rw [other]; trivial) with zero | seen
      · exact word zero
      · exact unnoticed seen
  | returns _ place' _ _ _ => exact absurd place' runs
  | wakes place place' event sent =>
    have forward : s'.loop.distance < s.loop.distance := by
      rw [place, place']
      decide
    exact .inr ⟨by rw [sent], nears_of_forward (by rw [place]; rfl) (by rw [place']; rfl) comm
      fun _ => forward⟩
  | reads place place' event sent =>
    have empty : s.loop.holds = false := by rw [place]; rfl
    have word := event_of_pending owes empty inv
    refine .inr ⟨by rw [sent], .inl ?_⟩
    have near : s'.distance = 2 := distance_read place' word
    have far : 4 ≤ s.distance := by
      rw [HandOff.distance, if_neg (by simp [empty]), place]
      split <;> decide
    omega
  | clears dwEvent place place' event sent =>
    refine .inr ⟨by rw [sent], .inl ?_⟩
    by_cases none : dwEvent = 0
    · have empty : s.loop.holds = false := by simp [place, none, LoopThread.holds]
      exact absurd ((inv.read dwEvent place).trans none) (event_of_pending owes empty inv)
    · rw [distance_read place none, distance_cleared place' none]
      decide
  | sends dwEvent place place' event sent signal =>
    by_cases none : dwEvent = 0
    · have back : s'.loop = .top := place'.resolve_right runs
      have forward : s'.loop.distance < s.loop.distance := by
        rw [place, back]
        exact (by decide : 8 < 9)
      refine .inr ⟨by simp [sent, none], nears_of_forward ?_ (by rw [back]; rfl) comm
        fun _ => forward⟩
      simp [place, none, LoopThread.holds]
    · exact .inl ⟨dwEvent, by rw [sent, nonzero_append, nonzero_single none]⟩

theorem handOff_grows {s s' : HandOff} {move : Move} (taken : handOffStep move s = some s')
    (keeps : KeepsMask s move) : s.stored <+: s'.stored := by
  rcases handOffStep_cases taken with ⟨-, step⟩ | ⟨-, step⟩ | ⟨-, port, -, rfl⟩
  · obtain ⟨-, -, moves⟩ := commStep_moves step keeps
    cases moves with
    | stores mask _ _ _ stored _ => exact stored ▸ List.prefix_append ..
    | quiet _ _ stored | masks _ _ _ stored | givesUp _ _ _ stored _ _ | signals _ _ _ stored _
    | passes _ _ stored _ => exact stored ▸ List.prefix_rfl
    | spins _ same => exact same ▸ List.prefix_rfl
  · exact (loopStep_moves step).2.1 ▸ List.prefix_rfl
  · exact List.prefix_rfl

theorem returned_stays {s s' : HandOff} {move : Move} (taken : handOffStep move s = some s')
    (keeps : KeepsMask s move) (place : s.loop = .returned) :
    s'.loop = .returned ∧ move.thread ≠ .loop := by
  rcases handOffStep_cases taken with ⟨thread, step⟩ | ⟨-, step⟩ | ⟨thread, port, -, rfl⟩
  · exact ⟨(commStep_moves step keeps).1.trans place, by rw [thread]; decide⟩
  · rw [place] at step
    cases move <;> cases step
  · exact ⟨place, by rw [thread]; decide⟩

theorem Fair.runs {run : Endless (Guarded KeepsMask (Takes handOffStep))} (fair : Fair run)
    (n : Nat) : (run.state n).loop ≠ .returned := by
  intro place
  obtain ⟨m, later, thread⟩ := fair.loop n
  have still := run.stays (fun s => s.loop = .returned)
    (fun s move s' place taken => (returned_stays taken.2 taken.1 place).1) later place
  exact (returned_stays (run.takes m).2 (run.takes m).1 still).2 thread

theorem Fair.helps {step : HandOff → Move → HandOff → Prop} {run : Endless step} (fair : Fair run)
    (n : Nat) : ∃ m, n ≤ m ∧ (run.label m).thread = (run.state n).helper := by
  unfold HandOff.helper
  split
  · exact fair.loop n
  · split
    · exact fair.comm n (.inl ‹_›)
    · exact fair.comm n (.inr ‹_›)
    · exact fair.loop n

theorem Accounted.nears {s s' : HandOff} {move : Move} (inv : Accounted s) (owes : s.pending ≠ [])
    (taken : handOffStep move s = some s') (keeps : KeepsMask s move) (runs : s'.loop ≠ .returned) :
    (∃ mask, nonzero s'.sent = nonzero s.sent ++ [mask]) ∨
      nonzero s'.sent = nonzero s.sent ∧ Nears move.thread s s' := by
  rcases handOffStep_cases taken with ⟨thread, step⟩ | ⟨thread, step⟩ | ⟨thread, port, -, rfl⟩
  · obtain ⟨loop, sent, moves⟩ := commStep_moves step keeps
    rw [thread]
    exact .inr ⟨by rw [sent], inv.comm_nears owes loop moves⟩
  · obtain ⟨comm, -, moves⟩ := loopStep_moves step
    rw [thread]
    exact inv.loop_nears owes comm runs moves
  · refine .inr ⟨rfl, .inr ⟨rfl, rfl, ?_⟩⟩
    rw [thread, HandOff.helper]
    split
    · decide
    · split <;> decide

structure Owes (due : List (BitVec 32)) (s : HandOff) : Prop where
  inv : Accounted s
  stored : due <+: nonzero s.stored
  unpassed : ¬ due <+: nonzero s.sent

theorem Owes.pending {due : List (BitVec 32)} {s : HandOff} (owes : Owes due s) :
    s.pending ≠ [] := by
  intro none
  have all := owes.inv.masks
  rw [none, List.append_nil] at all
  exact owes.unpassed (all ▸ owes.stored)

theorem Owes.short {due : List (BitVec 32)} {s : HandOff} (owes : Owes due s) :
    (nonzero s.sent).length < due.length := by
  by_contra long
  have passed : nonzero s.sent <+: nonzero s.stored := owes.inv.masks ▸ List.prefix_append ..
  exact owes.unpassed (List.prefix_of_prefix_length_le owes.stored passed (not_lt.mp long))

def toPass (due : List (BitVec 32)) (s : HandOff) : Nat :=
  (due.length - (nonzero s.sent).length) * 12 + s.distance

theorem Owes.moves {due : List (BitVec 32)} {s s' : HandOff} {move : Move} (owes : Owes due s)
    (taken : handOffStep move s = some s') (keeps : KeepsMask s move) (runs : s'.loop ≠ .returned) :
    due <+: nonzero s'.sent ∨ Owes due s' ∧ (toPass due s' < toPass due s ∨
      toPass due s' = toPass due s ∧ s'.helper = s.helper ∧ move.thread ≠ s.helper) := by
  by_cases passed : due <+: nonzero s'.sent
  · exact .inl passed
  · have grows : nonzero s.stored <+: nonzero s'.stored := (handOff_grows taken keeps).filter _
    have still : Owes due s' :=
      ⟨owes.inv.step s move s' ⟨keeps, taken⟩, owes.stored.trans grows, passed⟩
    refine .inr ⟨still, ?_⟩
    have short := owes.short
    have near := distance_lt s'
    unfold toPass
    rcases owes.inv.nears owes.pending taken keeps runs with
      ⟨mask, sent⟩ | ⟨sent, nearer | ⟨same, helper, other⟩⟩
    · have length : (nonzero s'.sent).length = (nonzero s.sent).length + 1 := by simp [sent]
      exact .inl (by omega)
    · exact .inl (by rw [sent]; omega)
    · exact .inr ⟨by rw [sent, same], helper, other⟩

/-- In every run that keeps its masks, each mask that is stored is passed to `SendEvents` once. -/
theorem masks_passed_once (ef commMask : BitVec 32) (moves : List Move)
    (run : Endless (Guarded KeepsMask (Takes handOffStep)))
    (reached : Path (Guarded KeepsMask (Takes handOffStep)) (.initial ef commMask) moves
      (run.state 0))
    (fair : Fair run) : PassedOnce run := by
  have start := reached.invariant Accounted Accounted.step (initial_accounted ef commMask)
  have inv := run.invariant Accounted Accounted.step start
  intro n
  refine ⟨(inv n).masks ▸ List.prefix_append .., ?_⟩
  by_cases passed : nonzero (run.state n).stored <+: nonzero (run.state n).sent
  · exact ⟨n, Nat.le_refl n, passed⟩
  · have owes : Owes (nonzero (run.state n).stored) (run.state n) :=
      ⟨inv n, List.prefix_rfl, passed⟩
    apply run.eventually Move.thread HandOff.helper (toPass (nonzero (run.state n).stored))
      (Owes (nonzero (run.state n).stored))
      (fun s => nonzero (run.state n).stored <+: nonzero s.sent) (fun k _ => fair.helps k) _ owes
    intro k still
    exact still.moves (run.takes k).2 (run.takes k).1 (fair.runs (k + 1))

structure HandOff.Idle (s : HandOff) : Prop where
  live : s.freed = false
  silent : s.signal = false
  known : s.port.eis.eventThreadReady = false
  place : s.comm = .waits
  top : s.loop = .top

def idleLoop (n : Nat) : LoopThread :=
  match n % 3 with
  | 0 => .top
  | 1 => .checksReady
  | _ => .waits

def idleMove (n : Nat) : Move :=
  match n % 3 with
  | 0 => .readsInterrupted false
  | 1 => .readsReady
  | _ => .waitForSingleObject .timeout

theorem idle_takes {s : HandOff} (idle : s.Idle) (n : Nat) :
    Guarded KeepsMask (Takes handOffStep) { s with loop := idleLoop n } (idleMove n)
      { s with loop := idleLoop (n + 1) } := by
  have live : ¬ s.freed = true := by simp [idle.live]
  have phases : n % 3 = 0 ∧ (n + 1) % 3 = 1 ∨ n % 3 = 1 ∧ (n + 1) % 3 = 2 ∨
      n % 3 = 2 ∧ (n + 1) % 3 = 0 := by omega
  rcases phases with ⟨now, next⟩ | ⟨now, next⟩ | ⟨now, next⟩
  · refine ⟨by simp [idleMove, now, KeepsMask], ?_⟩
    simp [Takes, handOffStep, idleMove, idleLoop, now, next, live, Move.thread, loopStep]
  · refine ⟨by simp [idleMove, now, KeepsMask], ?_⟩
    simp [Takes, handOffStep, idleMove, idleLoop, now, next, live, Move.thread, loopStep,
      idle.known]
  · refine ⟨by simp [idleMove, now, KeepsMask], ?_⟩
    simp [Takes, handOffStep, idleMove, idleLoop, now, next, live, Move.thread, loopStep,
      idle.silent]

def idleRun {s : HandOff} (idle : s.Idle) : Endless (Guarded KeepsMask (Takes handOffStep)) where
  state n := { s with loop := idleLoop n }
  label := idleMove
  takes := idle_takes idle

theorem idleRun_start {s : HandOff} (idle : s.Idle) : (idleRun idle).state 0 = s := by
  show { s with loop := .top } = s
  rw [← idle.top]

theorem idleRun_fair {s : HandOff} (idle : s.Idle) : Fair (idleRun idle) where
  loop n := by
    refine ⟨n, Nat.le_refl n, ?_⟩
    show (idleMove n).thread = .loop
    unfold idleMove
    split <;> rfl
  comm n place := by
    have waits : ((idleRun idle).state n).comm = .waits := idle.place
    rw [waits] at place
    simp at place

def sendsOn : Move := .sendEvents (some (0, ⟨false, false, false⟩)) fun _ => false

def handsOver : List Move :=
  [.setCommMask true, .announces, .readsInterrupted false, .readsReady, .acknowledges,
    .waitCommEvent (.completes evRxchar), .setCommMask true, .setEvent .succeeds,
    .waitForSingleObject .object, .readsEvent, .clearsEvent, sendsOn, .testsEvent]

theorem masks_passed_once_received :
    ∃ run : Endless (Guarded KeepsMask (Takes handOffStep)),
      Path (Guarded KeepsMask (Takes handOffStep)) (.initial evRxchar 0) handsOver (run.state 0) ∧
        nonzero (run.state 0).stored = [evRxchar] ∧ PassedOnce run := by
  obtain ⟨s, path, idle, stored⟩ : ∃ s, Path (Guarded KeepsMask (Takes handOffStep))
      (.initial evRxchar 0) handsOver s ∧ s.Idle ∧ nonzero s.stored = [evRxchar] :=
    ⟨_, .cons ⟨trivial, rfl⟩ (.cons ⟨trivial, rfl⟩ (.cons ⟨trivial, rfl⟩ (.cons ⟨trivial, rfl⟩
      (.cons ⟨trivial, rfl⟩ (.cons ⟨.inr (by simp), rfl⟩ (.cons ⟨trivial, rfl⟩
      (.cons ⟨trivial, rfl⟩ (.cons ⟨trivial, rfl⟩ (.cons ⟨trivial, rfl⟩ (.cons ⟨trivial, rfl⟩
      (.cons ⟨trivial, rfl⟩ (.cons ⟨trivial, rfl⟩ (.nil _))))))))))))),
      ⟨rfl, rfl, rfl, rfl, rfl⟩, rfl⟩
  rw [← idleRun_start idle] at path stored
  exact ⟨idleRun idle, path, stored,
    masks_passed_once evRxchar 0 handsOver (idleRun idle) path (idleRun_fair idle)⟩

/-- A wait ends with mask 0, which the loop reads; a mask is stored before the loop clears the word,
    and is lost. -/
def losesMask : List Move :=
  [.setCommMask true, .announces, .readsInterrupted false, .readsReady, .acknowledges,
    .waitCommEvent (.completes 0), .setCommMask true, .setEvent .succeeds, .testsEvent,
    .waitForSingleObject .object, .readsEvent, .waitCommEvent (.completes evRxchar), .clearsEvent,
    sendsOn, .setCommMask true, .setEvent .succeeds, .testsEvent, .readsInterrupted false,
    .readsReady, .waitForSingleObject .object, .readsEvent, .clearsEvent, sendsOn]

theorem mask_not_passed :
    ¬ ∀ (ef commMask : BitVec 32) (moves : List Move) (run : Endless (Takes handOffStep)),
      Path (Takes handOffStep) (.initial ef commMask) moves (run.state 0) → Fair run →
      PassedOnce run := by
  intro passes
  obtain ⟨s, followed, idle, stored, sent⟩ : ∃ s,
      follow handOffStep losesMask (.initial evRxchar 0) = some s ∧ s.Idle ∧
        nonzero s.stored = [evRxchar] ∧ nonzero s.sent = [] :=
    ⟨_, rfl, ⟨rfl, rfl, rfl, rfl, rfl⟩, rfl, rfl⟩
  have path : Path (Takes handOffStep) (.initial evRxchar 0) losesMask
      ((idleRun idle).unguarded.state 0) := by
    show Path _ _ _ ((idleRun idle).state 0)
    rw [idleRun_start idle]
    exact follow_path followed
  have fair : Fair (idleRun idle).unguarded := ⟨(idleRun_fair idle).loop, (idleRun_fair idle).comm⟩
  obtain ⟨-, m, -, passed⟩ := passes evRxchar 0 losesMask (idleRun idle).unguarded path fair 0
  have lost : nonzero s.stored <+: nonzero s.sent := passed
  rw [stored, sent] at lost
  exact absurd lost (by decide)

end Rxtx.WinCE
