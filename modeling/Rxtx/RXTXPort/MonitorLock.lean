import Rxtx.RXTXPort.LifeCycle

open Runs

namespace Rxtx.RXTXPort

/-- The constructor. Where the struct of the event loop cannot be initialised, the loop bails out,
    and the constructor waits for the lock that it has set. -/
def newPort (fd : Int32) (address : BitVec 64) (initialised : Bool) : World :=
  if initialised then construct fd address
  else
    { construct fd address with
      port := { Port.declared fd with
        monThread := some ⟨none, fun _ => false⟩
        monThreadisInterrupted := false }
      latest := { EventLoop.start 0 address with returned := true } }

def World.Released (w : World) : Prop := w.port.monitorThreadLock = false

/-- An event loop that is started has its struct initialised, and there is a monitor thread where
    an event is enabled or disabled. -/
def KeepsReleased (w : World) : Label → Prop
  | .addEventListener _ initialised => w.port.spEventListener = true ∨
      w.port.monitorThreadAlive = true ∨ initialised = true
  | .notifyOn _ _ => w.port.monThread.isSome = true
  | _ => True

instance (w : World) : (label : Label) → Decidable (KeepsReleased w label)
  | .addEventListener _ _ => inferInstanceAs (Decidable (_ ∨ _ ∨ _))
  | .notifyOn _ _ => inferInstanceAs (Decidable (_ = true))
  | .removeEventListener _ | .read | .readArray _ _ _ _ | .returnFromRead | .write _ _
  | .loopReturns _ | .drainLoopFails _ => inferInstanceAs (Decidable True)

theorem World.released_iff (w : World) : w.Released ↔ w.unlocked = some w := by
  simp [World.Released, World.unlocked]

theorem newPort_released (fd : Int32) (address : BitVec 64) (initialised : Bool) :
    (newPort fd address initialised).Released ↔ initialised = true := by
  cases initialised <;> simp [newPort, World.Released, construct, Port.monitored, Port.declared]

theorem addEventListener_released {address : BitVec 64} {initialised : Bool} {w w' : World}
    (released : w.Released) (taken : addEventListener address initialised w = some w') :
    w'.Released ↔ w.port.spEventListener = true ∨ w.port.monitorThreadAlive = true ∨
      initialised = true := by
  unfold addEventListener at taken
  simp only [] at taken
  split_ifs at taken with listens alive live initialised
  · cases taken
    exact iff_of_true released (.inl listens)
  · cases taken
    exact iff_of_true released (.inr (.inl alive))
  · cases taken
    exact iff_of_true rfl (.inr (.inr initialised))
  · cases taken
    exact iff_of_false (by simp [World.Released]) (by simp [listens, alive, initialised])

theorem removeEventListener_released {join : Join} {w w' : World} (released : w.Released)
    (taken : removeEventListener join w = some w') : w'.Released := by
  cases removeEventListener_removed taken with
  | again => exact released
  | interrupted id => exact released
  | timedOut => rfl
  | finished => rfl
  | gone => rfl

theorem notifyOn_released {event : EventType} {enable : Bool} {w w' : World}
    (released : w.Released) (taken : notifyOn event enable w = some w') :
    w'.Released ↔ w.port.monThread.isSome = true := by
  rcases notifyOn_some taken with ⟨gone, rfl⟩ | ⟨thread, monitors, rfl⟩
  · exact iff_of_false (by simp [World.Released]) (by simp [gone])
  · exact iff_of_true released (by simp [monitors])

theorem step_released {tiocsergetlsr : Bool} {w w' : World} {label : Label}
    (released : w.Released) (stepped : step tiocsergetlsr label w = some w') :
    w'.Released ↔ KeepsReleased w label := by
  cases step_taken stepped with
  | addEventListener address initialised idle taken =>
    exact addEventListener_released released taken
  | removeEventListener join idle taken =>
    exact iff_of_true (removeEventListener_released released taken) trivial
  | notifyOn event enable taken => exact notifyOn_released released taken
  | read taken =>
    rcases readByte_some taken with rfl | ⟨-, rfl⟩
    · exact iff_of_true released trivial
    · exact iff_of_true released trivial
  | readArray device b off len taken =>
    rcases readBytes_some taken with rfl | ⟨call, -, -, rfl⟩
    · exact iff_of_true released trivial
    · exact iff_of_true released trivial
  | returnFromRead taken =>
    obtain ⟨eis, -, rfl⟩ := Option.map_eq_some_iff.mp taken
    exact iff_of_true released trivial
  | write native args same =>
    rw [same]
    exact iff_of_true released trivial
  | loopReturns id taken =>
    obtain ⟨-, rfl⟩ := loopReturns_some taken
    exact iff_of_true released trivial
  | drainLoopFails id taken =>
    obtain rfl := drainLoopFails_some taken
    exact iff_of_true released trivial

/-- The lock is free after the constructor exactly where its event loop could be initialised, and
    stays free in every run whose steps keep it so; no other step does. -/
theorem monitorThreadLock_released_iff (tiocsergetlsr : Bool) (fd : Int32) (address : BitVec 64)
    (initialised : Bool) (labels : List Label) (w : World)
    (path : Path (Guarded KeepsReleased (Takes (step tiocsergetlsr)))
      (newPort fd address initialised) labels w) :
    ((newPort fd address initialised).Released ↔ initialised = true) ∧
      (initialised = true → w.Released ∧ w.unlocked = some w ∧
        ∀ label w', step tiocsergetlsr label w = some w' →
          (w'.Released ↔ KeepsReleased w label)) := by
  refine ⟨newPort_released fd address initialised, ?_⟩
  intro up
  have released : w.Released := by
    apply path.invariant World.Released ?_ ((newPort_released fd address initialised).mpr up)
    intro s label s' before guarded
    exact (step_released before guarded.2).mpr guarded.1
  refine ⟨released, w.released_iff.mp released, ?_⟩
  intro label w' taken
  exact step_released released taken

theorem monitorThreadLock_released_removed :
    ∃ w, Path (Guarded KeepsReleased (Takes (step true))) (newPort 3 0x1000 true)
        [.addEventListener 0x2000 true, .notifyOn .dataAvailable true,
          .removeEventListener .finished] w ∧ w.Released := by
  have run : ∃ w, follow (checked KeepsReleased (step true)) [.addEventListener 0x2000 true,
      .notifyOn .dataAvailable true, .removeEventListener .finished] (newPort 3 0x1000 true) =
        some w := ⟨_, rfl⟩
  rcases run with ⟨w, followed⟩
  have path := follow_checked followed
  exact ⟨w, path,
    ((monitorThreadLock_released_iff true 3 0x1000 true _ w path).2 rfl).1⟩

/-- An event is enabled after the listener was removed, and its monitor thread with it. -/
theorem monitorThreadLock_kept :
    ¬ ∀ (tiocsergetlsr : Bool) (fd : Int32) (address : BitVec 64) (initialised : Bool)
      (labels : List Label) (w : World),
      Path (Takes (step tiocsergetlsr)) (newPort fd address initialised) labels w →
      w.Released := by
  intro releases
  obtain ⟨w, followed, locked⟩ : ∃ w, follow (step true) [.removeEventListener .finished,
      .notifyOn .dataAvailable true] (newPort 3 0x1000 true) = some w ∧
        w.port.monitorThreadLock = true := ⟨_, rfl, rfl⟩
  have released := releases true 3 0x1000 true _ w (follow_path followed)
  rw [World.Released, locked] at released
  cases released

end Rxtx.RXTXPort
