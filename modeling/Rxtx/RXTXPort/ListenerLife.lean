import Rxtx.RXTXPort.LifeCycle

open Runs

namespace Rxtx.RXTXPort

/-- The monitor thread is not interrupted, its event loop has not been told to stop, and unless its
    start has got stuck it is running. -/
structure Attended (w : World) : Prop where
  uninterrupted : w.port.monThreadisInterrupted = false
  untold : ∃ thread, w.port.monThread = some thread ∧
    ∀ loop ∈ w.loops, thread.loop = some loop.id → loop.closing = false
  running : w.port.monitorThreadLock = false → w.monThreadAlive = true

/-- A join is interrupted only where no listener is registered, and none is registered afterwards:
    one that `MonitorThreadAlive` spares a thread finds the latest running. No `drain_loop` fails
    under a listener. -/
def KeepsAttended (w : World) : Label → Prop
  | .addEventListener _ _ => w.port.spEventListener = false → w.port.monitorThreadAlive = true →
      w.port.monThreadisInterrupted = false ∧ w.latest.closing = false
  | .removeEventListener .interrupted => w.port.spEventListener = true →
      w.port.monThreadisInterrupted = false → w.monThreadAlive = false
  | .drainLoopFails id => w.port.spEventListener = true → w.port.monitorThreadLock = false →
      id ≠ w.latest.id
  | _ => True

instance (w : World) : (label : Label) → Decidable (KeepsAttended w label)
  | .addEventListener _ _ => inferInstanceAs (Decidable (_ → _ → _ ∧ _))
  | .removeEventListener .interrupted => inferInstanceAs (Decidable (_ → _ → _))
  | .drainLoopFails _ => inferInstanceAs (Decidable (_ → _ → _ ≠ _))
  | .removeEventListener .finished | .removeEventListener .timedOut | .notifyOn _ _ | .read
  | .readArray _ _ _ _ | .returnFromRead | .write _ _ | .loopReturns _ =>
    inferInstanceAs (Decidable True)

structure Attending (w : World) : Prop where
  numbered : w.Numbered
  told : w.latest.returned = true → w.latest.closing = true
  alive : w.port.monitorThreadAlive = true → w.port.monThreadisInterrupted = false →
    w.port.monitorThreadLock = false ∧
      ∃ thread, w.port.monThread = some thread ∧ thread.loop = some w.latest.id
  listens : w.port.spEventListener = true → w.port.monThreadisInterrupted = false ∧
    ∃ thread, w.port.monThread = some thread ∧
      (thread.loop = none ∧ w.port.monitorThreadLock = true ∨
        thread.loop = some w.latest.id ∧ w.latest.closing = false ∧
          w.port.monitorThreadLock = false)

theorem construct_attending (fd : Int32) (address : BitVec 64) :
    Attending (construct fd address) where
  numbered := ⟨rfl, by simp [construct]⟩
  told := by simp [construct, EventLoop.start]
  alive := fun _ _ => ⟨rfl, ⟨some 0, fun _ => false⟩, rfl, rfl⟩
  listens := by simp [construct, Port.monitored, Port.declared]

theorem Attending.attended {w : World} (attending : Attending w)
    (listens : w.port.spEventListener = true) : Attended w := by
  obtain ⟨running, thread, monitors, standing⟩ := attending.listens listens
  constructor
  · exact running
  · refine ⟨thread, monitors, ?_⟩
    intro loop member named
    rcases standing with ⟨none, -⟩ | ⟨latest, untold, -⟩
    · rw [none] at named
      cases named
    · have same : loop.id = w.latest.id := Option.some.inj (named.symm.trans latest)
      rw [attending.numbered.latest_of_id member same]
      exact untold
  · intro unlocked
    rcases standing with ⟨-, locked⟩ | ⟨latest, untold, -⟩
    · rw [locked] at unlocked
      cases unlocked
    · have here : w.latest.returned = false := by
        cases returned : w.latest.returned with
        | false => rfl
        | true =>
          rw [attending.told returned] at untold
          cases untold
      simp [World.monThreadAlive, monitors, latest, World.loops, here]

theorem Attending.updateLoop {w : World} (attending : Attending w) (id : Nat)
    (f : EventLoop → EventLoop) (keepsId : ∀ loop, (f loop).id = loop.id)
    (told : w.latest.id = id → (f w.latest).returned = true → (f w.latest).closing = true)
    (untold : w.latest.id = id → w.port.spEventListener = true →
      w.port.monitorThreadLock = false → w.latest.closing = false →
      (f w.latest).closing = false) : Attending (w.updateLoop id f) := by
  have same : (w.updateLoop id f).latest.id = w.latest.id := by
    rw [World.updateLoop_latest]
    split
    · exact keepsId _
    · rfl
  constructor
  · exact attending.numbered.updateLoop id keepsId
  · rw [World.updateLoop_latest]
    split
    next latest => exact told latest
    next => exact attending.told
  · rw [same]
    exact attending.alive
  · intro listens
    obtain ⟨running, thread, monitors, standing⟩ := attending.listens listens
    refine ⟨running, thread, monitors, ?_⟩
    rcases standing with stuck | ⟨latest, open_, unlocked⟩
    · exact .inl stuck
    · refine .inr ⟨by rw [same, latest], ?_, unlocked⟩
      rw [World.updateLoop_latest]
      split
      next here => exact untold here listens unlocked open_
      next => exact open_

theorem Attending.returns {w : World} (attending : Attending w) {id : Nat}
    (told : (w.loops.any fun loop => loop.id = id && loop.closing) = true) :
    Attending (w.updateLoop id fun loop => { loop with returned := true }) := by
  apply attending.updateLoop
  · exact fun _ => rfl
  · exact fun same _ => attending.numbered.told told same
  · exact fun _ _ _ untold => untold

theorem Attending.idle {w : World} (numbered : w.Numbered)
    (told : w.latest.returned = true → w.latest.closing = true) (p : Port)
    (unheard : p.spEventListener = false)
    (stopped : p.monitorThreadAlive = false ∨ p.monThreadisInterrupted = true) :
    Attending { w with port := p } where
  numbered := numbered
  told := told
  alive := by
    intro alive running
    rcases stopped with dead | interrupted
    · exact absurd alive (by simp [dead])
    · exact absurd running (by simp [interrupted])
  listens := fun listens => absurd listens (by simp [unheard])

theorem Attending.forgetThread {w : World} (numbered : w.Numbered)
    (told : w.latest.returned = true → w.latest.closing = true) : Attending w.forgetThread :=
  .idle numbered told _ rfl (.inl rfl)

theorem Attending.tells {w : World} (attending : Attending w) (id : Nat) :
    let stopped := w.interrupt.updateLoop id fun loop => { loop with closing := true }
    stopped.Numbered ∧ (stopped.latest.returned = true → stopped.latest.closing = true) := by
  constructor
  · have numbered : w.interrupt.Numbered := attending.numbered
    exact numbered.updateLoop id fun _ => rfl
  · rw [World.updateLoop_latest]
    split
    · exact fun _ => rfl
    · exact attending.told

theorem addEventListener_attending {address : BitVec 64} {initialised : Bool} {w w' : World}
    (attending : Attending w)
    (keeps : w.port.spEventListener = false → w.port.monitorThreadAlive = true →
      w.port.monThreadisInterrupted = false ∧ w.latest.closing = false)
    (taken : addEventListener address initialised w = some w') : Attending w' := by
  cases addEventListener_added taken with
  | refused listens => exact attending
  | served alive =>
    cases listens : w.port.spEventListener with
    | true => exact ⟨attending.numbered, attending.told, attending.alive,
        fun _ => attending.listens listens⟩
    | false =>
      obtain ⟨running, untold⟩ := keeps listens alive
      obtain ⟨unlocked, thread, monitors, latest⟩ := attending.alive alive running
      exact ⟨attending.numbered, attending.told, attending.alive,
        fun _ => ⟨running, thread, monitors, .inr ⟨latest, untold, unlocked⟩⟩⟩
  | started fresh =>
    constructor
    · exact attending.numbered.start _ address
    · simp [EventLoop.start]
    · exact fun _ _ => ⟨rfl, ⟨some (w.older.length + 1), fun _ => false⟩, rfl, rfl⟩
    · exact fun _ => ⟨rfl, ⟨some (w.older.length + 1), fun _ => false⟩, rfl, .inr ⟨rfl, rfl, rfl⟩⟩
  | stuck idle =>
    constructor
    · exact attending.numbered
    · exact attending.told
    · exact fun alive => absurd alive (by simp [idle])
    · exact fun _ => ⟨rfl, ⟨none, fun _ => false⟩, rfl, .inl ⟨rfl, rfl⟩⟩

theorem removeEventListener_attending {join : Join} {w w' : World} (attending : Attending w)
    (keeps : KeepsAttended w (.removeEventListener join))
    (taken : removeEventListener join w = some w') : Attending w' := by
  cases removeEventListener_removed taken with
  | again interrupted => exact .idle attending.numbered attending.told _ rfl (.inr interrupted)
  | interrupted id joins running alive =>
    rcases joins with rfl
    have unheard : w.port.spEventListener = false := by
      cases listens : w.port.spEventListener with
      | false => rfl
      | true =>
        rw [keeps listens running] at alive
        cases alive
    obtain ⟨numbered, told⟩ := attending.tells id
    exact .idle numbered told _ unheard (.inr rfl)
  | timedOut id =>
    obtain ⟨numbered, told⟩ := attending.tells id
    exact .forgetThread numbered told
  | finished id ended ends =>
    obtain ⟨last, stopped, rfl⟩ := World.threadEnds_some ends
    obtain ⟨numbered, told⟩ := attending.tells id
    have forgotten : Attending _ := .forgetThread numbered told
    exact forgotten.returns stopped
  | gone => exact .forgetThread attending.numbered attending.told

theorem step_attending {tiocsergetlsr : Bool} {w w' : World} {label : Label}
    (attending : Attending w) (keeps : KeepsAttended w label)
    (stepped : step tiocsergetlsr label w = some w') : Attending w' := by
  rcases attending with ⟨numbered, told, alive, listens⟩
  cases step_taken stepped with
  | addEventListener address initialised idle taken =>
    exact addEventListener_attending ⟨numbered, told, alive, listens⟩ keeps taken
  | removeEventListener join idle taken =>
    exact removeEventListener_attending ⟨numbered, told, alive, listens⟩ keeps taken
  | notifyOn event enable taken =>
    rcases notifyOn_some taken with ⟨none, rfl⟩ | ⟨thread, monitors, rfl⟩
    · refine ⟨numbered, told, ?_, ?_⟩
      · intro started running
        obtain ⟨-, thread, monitors, -⟩ := alive started running
        rw [none] at monitors
        cases monitors
      · intro registered
        obtain ⟨-, thread, monitors, -⟩ := listens registered
        rw [none] at monitors
        cases monitors
    · refine ⟨numbered, told, ?_, ?_⟩
      · intro started running
        obtain ⟨unlocked, same, named, latest⟩ := alive started running
        obtain rfl : thread = same := Option.some.inj (monitors.symm.trans named)
        exact ⟨unlocked, _, rfl, latest⟩
      · intro registered
        obtain ⟨running, same, named, standing⟩ := listens registered
        obtain rfl : thread = same := Option.some.inj (monitors.symm.trans named)
        exact ⟨running, _, rfl, standing⟩
  | read taken =>
    rcases readByte_some taken with rfl | ⟨-, rfl⟩
    · exact ⟨numbered, told, alive, listens⟩
    · exact ⟨numbered, told, alive, listens⟩
  | readArray device b off len taken =>
    rcases readBytes_some taken with rfl | ⟨call, -, -, rfl⟩
    · exact ⟨numbered, told, alive, listens⟩
    · exact ⟨numbered, told, alive, listens⟩
  | returnFromRead taken =>
    obtain ⟨eis, -, rfl⟩ := Option.map_eq_some_iff.mp taken
    exact ⟨numbered, told, alive, listens⟩
  | write native args same =>
    rw [same]
    exact ⟨numbered, told, alive, listens⟩
  | loopReturns id taken =>
    obtain ⟨stopped, rfl⟩ := loopReturns_some taken
    exact Attending.returns ⟨numbered, told, alive, listens⟩ stopped
  | drainLoopFails id taken =>
    obtain rfl := drainLoopFails_some taken
    apply Attending.updateLoop ⟨numbered, told, alive, listens⟩
    · exact fun _ => rfl
    · exact fun _ _ => rfl
    · exact fun same registered unlocked _ => absurd same.symm (keeps registered unlocked)

/-- After every step of such a run a registered listener is attended, so that an `addEventListener`
    that returns without an exception leaves a running monitor thread. -/
theorem listener_attended (tiocsergetlsr : Bool) (fd : Int32) (address : BitVec 64)
    (labels : List Label) (w : World)
    (path : Path (Guarded KeepsAttended (Takes (step tiocsergetlsr))) (construct fd address) labels
      w) (registered : w.port.spEventListener = true) : Attended w := by
  have attending := path.invariant Attending
    (fun _ _ _ attending taken => step_attending attending taken.1 taken.2)
    (construct_attending fd address)
  exact attending.attended registered

theorem listener_attended_again :
    ∃ w, Path (Guarded KeepsAttended (Takes (step true))) (construct 3 0x1000)
        [.addEventListener 0x2000 true, .removeEventListener .timedOut,
          .addEventListener 0x3000 true] w ∧ w.port.spEventListener = true ∧ Attended w := by
  have run : ∃ w, follow (checked KeepsAttended (step true)) [.addEventListener 0x2000 true,
      .removeEventListener .timedOut, .addEventListener 0x3000 true] (construct 3 0x1000) = some w ∧
      w.port.spEventListener = true := ⟨_, rfl, rfl⟩
  rcases run with ⟨w, followed, registered⟩
  have path := follow_checked followed
  exact ⟨w, path, registered, listener_attended true 3 0x1000 _ w path registered⟩

/-- An interrupted join leaves the listener with a thread that was told to stop; the next listener
    gets no thread at all. -/
theorem listener_unattended :
    ∃ w w', Path (Takes (step true)) (construct 3 0x1000)
        [.addEventListener 0x2000 true, .removeEventListener .interrupted] w ∧
      w.port.spEventListener = true ∧ w.port.monThreadisInterrupted = true ∧
      Path (Takes (step true)) w
        [.removeEventListener .finished, .addEventListener 0x2000 true] w' ∧
      w'.port.spEventListener = true ∧ w'.port.monThread.isNone = true ∧ ¬ Attended w' := by
  have first : ∃ w, follow (step true) [.addEventListener 0x2000 true,
      .removeEventListener .interrupted] (construct 3 0x1000) = some w ∧
      w.port.spEventListener = true ∧ w.port.monThreadisInterrupted = true ∧
      ∃ w', follow (step true) [.removeEventListener .finished, .addEventListener 0x2000 true] w =
        some w' ∧ w'.port.spEventListener = true ∧ w'.port.monThread.isNone = true :=
    ⟨_, rfl, rfl, rfl, _, rfl, rfl, rfl⟩
  rcases first with ⟨w, followed, listens, interrupted, w', again, registered, gone⟩
  refine ⟨w, w', follow_path followed, listens, interrupted, follow_path again, registered, gone,
    ?_⟩
  intro attended
  obtain ⟨thread, monitors, -⟩ := attended.untold
  rw [monitors] at gone
  cases gone

end Rxtx.RXTXPort
