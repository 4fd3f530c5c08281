import Rxtx.WinCE.HandOff

open Runs
open Rxtx.RXTXPort (EventType)

namespace Rxtx.WinCE

/-- Each monitor thread runs one `eventLoop`, which creates one `CommEventThread`; there is neither
    before that. `passed` are the masks that `SendEvents` was called with, and by whose loop. -/
structure EventLoops (I : Type) where
  port : EventPort
  signal : Bool
  handleOpen : Bool
  portOpen : Bool
  freed : Bool
  faulted : Bool
  monThreadisInterrupted : Bool
  comm : I → Option CommThread
  loop : I → Option LoopThread
  passed : List (I × BitVec 32)

/-- `starts` is `MonitorThread.run` up to the `CreateThread` of its `eventLoop`; a loop whose thread
    cannot be created has not begun. -/
inductive LoopsMove (I : Type) where
  | starts (monThread : I)
  | moves (monThread : I) (move : Move)
  | setsEventFlag (event : EventType) (flag accepted : Bool)
  | interrupts
  | closesPort

section

variable {I : Type} [DecidableEq I]

def EventLoops.opened (commMask : BitVec 32) : EventLoops I where
  port := ⟨initialiseEventInfoStruct, commMask⟩
  signal := false
  handleOpen := true
  portOpen := true
  freed := false
  faulted := false
  monThreadisInterrupted := true
  comm _ := none
  loop _ := none
  passed := []

/-- What the system can answer. No other object gets the value of a handle that was closed, and a
    wait for one fails, be it under way already. -/
def EventLoops.answers (s : EventLoops I) : Move → Bool
  | .readsInterrupted interrupted => interrupted = s.monThreadisInterrupted
  | .setCommMask accepted | .nativeSetEventFlag _ _ accepted => !accepted || s.portOpen
  | .waitCommEvent (.completes _) | .waitCommEvent .invalidParameter => s.portOpen
  | .waitCommEvent .invalidHandle => !s.portOpen
  | .setEvent .invalidHandle => !s.handleOpen
  | .setEvent .succeeds | .setEvent .fails => s.handleOpen
  | .waitForSingleObject .object | .waitForSingleObject .timeout => s.handleOpen
  | .sendEvents comm _ => comm.isNone || s.portOpen
  | _ => true

def Move.usesEventInfo : Move → Bool
  | .readsInterrupted interrupted => interrupted -- CloseHandle(EventInfo->eventHandle)
  | _ => true

def EventLoops.handOff (s : EventLoops I) (comm : CommThread) (loop : LoopThread) : HandOff :=
  ⟨s.port, s.freed, s.signal, comm, loop, [], []⟩

def EventLoops.runComm (s : EventLoops I) (monThread : I) (move : Move) : Option (EventLoops I) := do
  let place ← s.comm monThread
  let after ← commStep (s.handOff place .top) place move
  return { s with
    port := after.port
    signal := after.signal
    freed := after.freed
    comm := Function.update s.comm monThread (some after.comm) }

/-- Each way to return has closed the event handle before. -/
def EventLoops.runLoop (s : EventLoops I) (monThread : I) (move : Move) : Option (EventLoops I) := do
  let place ← s.loop monThread
  let after ← loopStep (s.handOff .starts place) place move
  return { s with
    port := after.port
    signal := after.signal
    handleOpen := s.handleOpen && after.loop ≠ .returned
    loop := Function.update s.loop monThread (some after.loop)
    passed := s.passed ++ after.sent.map (monThread, ·) }

def EventLoops.run (s : EventLoops I) (monThread : I) (move : Move) : Option (EventLoops I) :=
  match move.thread with
  | .comm => s.runComm monThread move
  | .loop => s.runLoop monThread move
  | .java => none

/-- What an access finds in memory that was freed is not modelled: nothing moves then. -/
def loopsStep (label : LoopsMove I) (s : EventLoops I) : Option (EventLoops I) :=
  if s.faulted then none
  else match label with
    | .starts monThread =>
      if (s.loop monThread).isSome then none
      else some { s with
        monThreadisInterrupted := false
        comm := Function.update s.comm monThread (some .starts)
        loop := Function.update s.loop monThread (some .top) }
    | .moves monThread move =>
      if s.answers move then
        (s.run monThread move).map fun s' =>
          { s' with faulted := s.freed && move.usesEventInfo }
      else none
    | .setsEventFlag event flag accepted =>
      if s.answers (.nativeSetEventFlag event flag accepted) then
        some { s with
          port := nativeSetEventFlag event flag accepted s.port
          faulted := s.freed }
      else none
    | .interrupts => some { s with monThreadisInterrupted := true }
    | .closesPort => some { s with portOpen := false }

/-- The steps that a loop can still take; the wait fails. -/
def stepsLeft : Option LoopThread → Nat
  | some .returned => 0
  | some .waits => 1
  | some .acknowledges => 2
  | some .checksReady => 3
  | none | some .top => 4
  | some (.cleared _) => 5
  | some (.read _) => 6
  | some .woken => 7

/-- The masks that it can still pass: it was woken before. -/
def passesLeft : Option LoopThread → Nat
  | some .woken | some (.read _) | some (.cleared _) => 1
  | _ => 0

def Move.steps (move : Move) : Nat := if move.thread = .loop then 1 else 0

def Move.passes : Move → Nat
  | .sendEvents _ _ => 1
  | _ => 0

def LoopsMove.counts (count : Move → Nat) (monThread : I) : LoopsMove I → Nat
  | .moves other move => if other = monThread then count move else 0
  | _ => 0

theorem loopStep_left {h h' : HandOff} {place : LoopThread} {move : Move}
    (taken : loopStep h place move = some h')
    (fails : ∀ result, move = .waitForSingleObject result → result = .failed) :
    1 + stepsLeft (some h'.loop) ≤ stepsLeft (some place) ∧
      move.passes + passesLeft (some h'.loop) ≤ passesLeft (some place) := by
  unfold loopStep at taken
  split at taken
  next interrupted =>
    cases taken
    cases interrupted <;> simp [stepsLeft, passesLeft, Move.passes]
  next =>
    cases taken
    cases h.port.eis.eventThreadReady <;> simp [stepsLeft, passesLeft, Move.passes]
  next =>
    cases taken
    simp [stepsLeft, passesLeft, Move.passes]
  next => exact absurd (fails _ rfl) (by simp)
  next => exact absurd (fails _ rfl) (by simp)
  next =>
    cases taken
    simp [stepsLeft, passesLeft, Move.passes]
  next =>
    cases taken
    simp [stepsLeft, passesLeft, Move.passes]
  next =>
    cases taken
    simp [stepsLeft, passesLeft, Move.passes]
  next dwEvent comm reply =>
    cases taken
    simp only [Move.passes]
    split_ifs <;> simp [stepsLeft, passesLeft]
  next => cases taken

theorem runLoop_some {s r : EventLoops I} {monThread : I} {move : Move}
    (ran : s.runLoop monThread move = some r) :
    ∃ place after, s.loop monThread = some place ∧
      loopStep (s.handOff .starts place) place move = some after ∧ r = { s with
        port := after.port
        signal := after.signal
        handleOpen := s.handleOpen && after.loop ≠ .returned
        loop := Function.update s.loop monThread (some after.loop)
        passed := s.passed ++ after.sent.map (monThread, ·) } := by
  obtain ⟨place, here, ran⟩ := Option.bind_eq_some_iff.mp ran
  obtain ⟨after, taken, ran⟩ := Option.bind_eq_some_iff.mp ran
  exact ⟨place, after, here, taken, (Option.some.inj ran).symm⟩

theorem runComm_some {s r : EventLoops I} {monThread : I} {move : Move}
    (ran : s.runComm monThread move = some r) :
    ∃ place after, s.comm monThread = some place ∧
      commStep (s.handOff place .top) place move = some after ∧ r = { s with
        port := after.port
        signal := after.signal
        freed := after.freed
        comm := Function.update s.comm monThread (some after.comm) } := by
  obtain ⟨place, here, ran⟩ := Option.bind_eq_some_iff.mp ran
  obtain ⟨after, taken, ran⟩ := Option.bind_eq_some_iff.mp ran
  exact ⟨place, after, here, taken, (Option.some.inj ran).symm⟩

theorem moves_some {s s' : EventLoops I} {monThread : I} {move : Move}
    (taken : loopsStep (.moves monThread move) s = some s') :
    s.answers move = true ∧ s.faulted = false ∧ ∃ r,
      (move.thread = .comm ∧ s.runComm monThread move = some r ∨
        move.thread = .loop ∧ s.runLoop monThread move = some r) ∧
      s' = { r with faulted := s.freed && move.usesEventInfo } := by
  simp only [loopsStep] at taken
  split_ifs at taken with faulted answers
  obtain ⟨r, ran, after⟩ := Option.map_eq_some_iff.mp taken
  refine ⟨answers, Bool.eq_false_iff.mpr faulted, r, ?_, after.symm⟩
  unfold EventLoops.run at ran
  split at ran
  next comm => exact .inl ⟨comm, ran⟩
  next loop => exact .inr ⟨loop, ran⟩
  next => cases ran

structure EventLoops.Sound (s : EventLoops I) : Prop where
  alive : s.handleOpen = true → s.portOpen = true → s.freed = false
  faulted : s.faulted = true → s.freed = true
  closed : s.handleOpen = false ↔ ∃ monThread, s.loop monThread = some .returned

theorem commStep_freed {h after : HandOff} {place : CommThread} {move : Move}
    (taken : commStep h place move = some after) :
    after.freed = h.freed ∨ after.freed = true ∧
      (move = .waitCommEvent .invalidHandle ∨ move = .setEvent .invalidHandle) := by
  unfold commStep at taken
  split at taken <;> cases taken <;>
    first
      | exact .inl rfl
      | exact .inr ⟨rfl, .inl rfl⟩
      | exact .inr ⟨rfl, .inr rfl⟩

theorem runComm_freed {s r : EventLoops I} {monThread : I} {move : Move}
    (ran : s.runComm monThread move = some r) (answers : s.answers move = true) :
    (s.freed = true → r.freed = true) ∧
      (s.handleOpen = true → s.portOpen = true → r.freed = s.freed) := by
  obtain ⟨place, after, -, taken, rfl⟩ := runComm_some ran
  rcases commStep_freed taken with kept | ⟨freed, rfl | rfl⟩
  · exact ⟨fun before => kept.trans before, fun _ _ => kept⟩
  · refine ⟨fun _ => freed, fun handle port => ?_⟩
    simp [EventLoops.answers, port] at answers
  · refine ⟨fun _ => freed, fun handle port => ?_⟩
    simp [EventLoops.answers, handle] at answers

theorem loopStep_runs {h after : HandOff} {place : LoopThread} {move : Move}
    (taken : loopStep h place move = some after) : place ≠ .returned := by
  rintro rfl
  cases taken

theorem closed_update {loop : I → Option LoopThread} {monThread : I}
    (runs : loop monThread ≠ some .returned) (after : LoopThread) {handleOpen : Bool}
    (closed : handleOpen = false ↔ ∃ other, loop other = some .returned) :
    (handleOpen && after ≠ .returned) = false ↔
      ∃ other, Function.update loop monThread (some after) other = some .returned := by
  have others {other : I} : other ≠ monThread →
      Function.update loop monThread (some after) other = loop other :=
    fun apart => Function.update_of_ne apart ..
  rw [Bool.and_eq_false_iff, closed, decide_eq_false_iff_not, not_not]
  constructor
  · intro ended
    rcases ended with ⟨other, returned⟩ | rfl
    · refine ⟨other, ?_⟩
      rw [others (by rintro rfl; exact runs returned), returned]
    · exact ⟨monThread, Function.update_self ..⟩
  · intro ended
    obtain ⟨other, returned⟩ := ended
    by_cases same : other = monThread
    · rw [same, Function.update_self] at returned
      exact .inr (Option.some.inj returned)
    · rw [others same] at returned
      exact .inl ⟨other, returned⟩

theorem loopsStep_sound {s s' : EventLoops I} {label : LoopsMove I} (sound : s.Sound)
    (taken : loopsStep label s = some s') : s'.Sound := by
  cases label with
  | starts monThread =>
    simp only [loopsStep] at taken
    split_ifs at taken with faulted begun
    cases taken
    refine ⟨sound.alive, sound.faulted, ?_⟩
    have fresh : s.loop monThread ≠ some .returned := fun returned => begun (by simp [returned])
    simpa using closed_update fresh .top sound.closed
  | moves monThread move =>
    obtain ⟨answers, faulted, r, ran | ran, rfl⟩ := moves_some taken
    · obtain ⟨kept, alive⟩ := runComm_freed ran.2 answers
      obtain ⟨place, after, -, -, rfl⟩ := runComm_some ran.2
      refine ⟨?_, ?_, sound.closed⟩
      · intro handle port
        exact (alive handle port).trans (sound.alive handle port)
      · intro used
        exact kept (Bool.and_eq_true_iff.mp used).1
    · obtain ⟨place, after, here, step, rfl⟩ := runLoop_some ran.2
      have runs : s.loop monThread ≠ some .returned := by
        rw [here]
        exact fun returned => loopStep_runs step (Option.some.inj returned)
      refine ⟨?_, ?_, closed_update runs after.loop sound.closed⟩
      · intro handle
        exact sound.alive (Bool.and_eq_true_iff.mp handle).1
      · intro used
        exact (Bool.and_eq_true_iff.mp used).1
  | setsEventFlag event flag accepted =>
    simp only [loopsStep] at taken
    split_ifs at taken
    cases taken
    exact ⟨sound.alive, fun faulted => faulted, sound.closed⟩
  | interrupts =>
    simp only [loopsStep] at taken
    split_ifs at taken
    cases taken
    exact ⟨sound.alive, sound.faulted, sound.closed⟩
  | closesPort =>
    simp only [loopsStep] at taken
    split_ifs at taken
    cases taken
    refine ⟨?_, sound.faulted, sound.closed⟩
    intro handle port
    cases port

theorem loopsStep_pays {s s' : EventLoops I} {label : LoopsMove I}
    (closed : s.handleOpen = false) (taken : loopsStep label s = some s') (monThread : I) :
    s'.handleOpen = false ∧
      label.counts Move.steps monThread + stepsLeft (s'.loop monThread) ≤
        stepsLeft (s.loop monThread) ∧
      label.counts Move.passes monThread + passesLeft (s'.loop monThread) ≤
        passesLeft (s.loop monThread) := by
  cases label with
  | starts other =>
    simp only [loopsStep] at taken
    split_ifs at taken with faulted begun
    cases taken
    have fresh : s.loop other = none := by simpa using begun
    refine ⟨closed, ?_⟩
    by_cases same : monThread = other
    · subst same
      simp [LoopsMove.counts, fresh, stepsLeft, passesLeft]
    · simp [LoopsMove.counts, Function.update_of_ne same]
  | moves other move =>
    obtain ⟨answers, faulted, r, ran | ran, rfl⟩ := moves_some taken
    · obtain ⟨place, after, -, -, rfl⟩ := runComm_some ran.2
      have none : move.passes = 0 := by
        cases move <;> first | rfl | cases ran.1
      simp [LoopsMove.counts, Move.steps, ran.1, none, closed]
    · obtain ⟨place, after, here, step, rfl⟩ := runLoop_some ran.2
      have fails : ∀ result, move = .waitForSingleObject result → result = .failed := by
        rintro result rfl
        cases result <;> simp [EventLoops.answers, closed] at answers ⊢
      obtain ⟨steps, passes⟩ := loopStep_left step fails
      refine ⟨by simp [closed], ?_⟩
      by_cases same : monThread = other
      · subst same
        simp only [LoopsMove.counts, if_true, Move.steps, ran.1, Function.update_self, here]
        exact ⟨steps, passes⟩
      · simp [LoopsMove.counts, Ne.symm same, Function.update_of_ne same]
  | setsEventFlag event flag accepted =>
    simp only [loopsStep] at taken
    split_ifs at taken
    cases taken
    simp [LoopsMove.counts, closed]
  | interrupts =>
    simp only [loopsStep] at taken
    split_ifs at taken
    cases taken
    simp [LoopsMove.counts, closed]
  | closesPort =>
    simp only [loopsStep] at taken
    split_ifs at taken
    cases taken
    simp [LoopsMove.counts, closed]

theorem loop_progress {s : EventLoops I} (running : s.faulted = false) {monThread : I}
    {place : LoopThread} (here : s.loop monThread = some place) (runs : place ≠ .returned) :
    ∃ move s', move.thread = .loop ∧ loopsStep (.moves monThread move) s = some s' := by
  have takes (move : Move) {after : HandOff} (thread : move.thread = .loop)
      (answers : s.answers move = true)
      (step : loopStep (s.handOff .starts place) place move = some after) :
      ∃ move s', move.thread = .loop ∧ loopsStep (.moves monThread move) s = some s' := by
    refine ⟨move, ?_⟩
    have taken : (loopsStep (.moves monThread move) s).isSome = true := by
      simp only [loopsStep, running, Bool.false_eq_true, if_false, answers, if_true,
        EventLoops.run, thread, EventLoops.runLoop, here, Option.bind_eq_bind, Option.bind_some,
        step, Option.pure_def, Option.map_some, Option.isSome_some]
    obtain ⟨s', taken⟩ := Option.isSome_iff_exists.mp taken
    exact ⟨s', thread, taken⟩
  cases place with
  | top =>
    exact takes (.readsInterrupted s.monThreadisInterrupted) rfl (decide_eq_true rfl) rfl
  | checksReady => exact takes .readsReady rfl rfl rfl
  | acknowledges => exact takes .acknowledges rfl rfl rfl
  | waits => exact takes (.waitForSingleObject .failed) rfl rfl rfl
  | woken => exact takes .readsEvent rfl rfl rfl
  | read dwEvent => exact takes .clearsEvent rfl rfl rfl
  | cleared dwEvent => exact takes (.sendEvents none fun _ => false) rfl rfl rfl
  | returned => exact absurd rfl runs

omit [DecidableEq I] in
theorem opened_sound (commMask : BitVec 32) : (EventLoops.opened commMask : EventLoops I).Sound where
  alive _ _ := rfl
  faulted used := by cases used
  closed := iff_of_false (by simp [EventLoops.opened]) (by simp [EventLoops.opened])

def removedListener : List (LoopsMove Bool) :=
  [.starts false, .moves false (.setCommMask true), .moves false .announces, .interrupts,
    .moves false (.readsInterrupted true)]

/-- An event that comes after the listener was removed frees the struct, and `notifyOnCTS` of the
    next listener uses it. -/
example : (follow loopsStep (removedListener ++ [.moves false (.waitCommEvent (.completes evPower)),
    .moves false (.setCommMask true), .moves false (.setEvent .invalidHandle), .starts true,
    .setsEventFlag .cts true true]) (.opened 0)).map EventLoops.faulted = some true := by decide

end

end Rxtx.WinCE
