import Rxtx.RXTXPort.LifeCycle

open Runs

namespace Rxtx.RXTXPort

theorem addEventListener_port {address : BitVec 64} {initialised : Bool} {w w' : World}
    (taken : addEventListener address initialised w = some w') :
    w'.port.fd = w.port.fd ∧ w'.port.speed = w.port.speed ∧
      (w.port.monThreadisInterrupted = false → w'.port.monThreadisInterrupted = false) := by
  cases addEventListener_added taken with
  | refused listens => exact ⟨rfl, rfl, fun running => running⟩
  | served alive => exact ⟨rfl, rfl, fun running => running⟩
  | started fresh => exact ⟨rfl, rfl, fun _ => rfl⟩
  | stuck idle => exact ⟨rfl, rfl, fun _ => rfl⟩

theorem removeEventListener_port {join : Join} {w w' : World}
    (taken : removeEventListener join w = some w') :
    w'.port.fd = w.port.fd ∧ w'.port.speed = w.port.speed := by
  cases removeEventListener_removed taken with
  | again interrupted => exact ⟨rfl, rfl⟩
  | interrupted id joins running alive => exact ⟨rfl, rfl⟩
  | timedOut id => exact ⟨rfl, rfl⟩
  | finished id ended ends =>
    obtain ⟨last, -, rfl⟩ := World.threadEnds_some ends
    exact ⟨rfl, rfl⟩
  | gone => exact ⟨rfl, rfl⟩

theorem notifyOn_port {event : EventType} {enable : Bool} {w w' : World}
    (taken : notifyOn event enable w = some w') :
    w'.port.fd = w.port.fd ∧ w'.port.speed = w.port.speed ∧
      w'.port.monThreadisInterrupted = w.port.monThreadisInterrupted := by
  rcases notifyOn_some taken with ⟨-, rfl⟩ | ⟨thread, -, rfl⟩
  · exact ⟨rfl, rfl, rfl⟩
  · exact ⟨rfl, rfl, rfl⟩

theorem readByte_port {w w' : World} (taken : readByte w = some w') : w'.port = w.port := by
  rcases readByte_some taken with rfl | ⟨-, rfl⟩
  · rfl
  · rfl

theorem readBytes_port {device : ReadDevice} {b : Option JByteArray} {off len : Int32}
    {w w' : World} (taken : readBytes device b off len w = some w') : w'.port = w.port := by
  rcases readBytes_some taken with rfl | ⟨call, -, -, rfl⟩
  · rfl
  · rfl

theorem step_port {tiocsergetlsr : Bool} {w w' : World} {label : Label}
    (stepped : step tiocsergetlsr label w = some w') :
    w'.port.fd = w.port.fd ∧ w'.port.speed = w.port.speed ∧
      ((∀ join, label ≠ .removeEventListener join) →
        w.port.monThreadisInterrupted = false → w'.port.monThreadisInterrupted = false) := by
  have unchanged : w'.port = w.port → w'.port.fd = w.port.fd ∧ w'.port.speed = w.port.speed ∧
      ((∀ join, label ≠ .removeEventListener join) →
        w.port.monThreadisInterrupted = false → w'.port.monThreadisInterrupted = false) := by
    intro same
    rw [same]
    exact ⟨rfl, rfl, fun _ running => running⟩
  cases step_taken stepped with
  | addEventListener address initialised idle taken =>
    obtain ⟨fd, speed, running⟩ := addEventListener_port taken
    exact ⟨fd, speed, fun _ => running⟩
  | removeEventListener join idle taken =>
    obtain ⟨fd, speed⟩ := removeEventListener_port taken
    exact ⟨fd, speed, fun other => absurd rfl (other join)⟩
  | notifyOn event enable taken =>
    obtain ⟨fd, speed, same⟩ := notifyOn_port taken
    exact ⟨fd, speed, fun _ running => same.trans running⟩
  | read taken => exact unchanged (readByte_port taken)
  | readArray device b off len taken => exact unchanged (readBytes_port taken)
  | returnFromRead taken =>
    obtain ⟨eis, -, rfl⟩ := Option.map_eq_some_iff.mp taken
    exact unchanged rfl
  | write native args same =>
    rw [same] at unchanged ⊢
    exact unchanged rfl
  | loopReturns id taken =>
    obtain ⟨-, rfl⟩ := loopReturns_some taken
    exact unchanged rfl
  | drainLoopFails id taken =>
    obtain rfl := drainLoopFails_some taken
    exact unchanged rfl

theorem path_port {tiocsergetlsr : Bool} {w w' : World} {labels : List Label}
    (path : Path (Takes (step tiocsergetlsr)) w labels w') :
    w'.port.fd = w.port.fd ∧ w'.port.speed = w.port.speed ∧
      ((∀ join, .removeEventListener join ∉ labels) →
        w.port.monThreadisInterrupted = false → w'.port.monThreadisInterrupted = false) := by
  induction path with
  | nil w => exact ⟨rfl, rfl, fun _ running => running⟩
  | cons taken _ ih =>
    obtain ⟨fd, speed, running⟩ := step_port taken
    rcases ih with ⟨fd', speed', running'⟩
    refine ⟨fd'.trans fd, speed'.trans speed, ?_⟩
    intro never before
    apply running' fun join later => never join (List.mem_cons_of_mem _ later)
    apply running _ before
    intro join same
    subst same
    exact never join (by simp)

/-- In every state of an open port a write that returns has passed all its bytes, unless the monitor
    thread was interrupted, and it never is before the first `removeEventListener`. -/
theorem write_passes_unless_interrupted (tiocsergetlsr : Bool) (fd : Int32) (address : BitVec 64)
    (isOpen : fd ≠ 0) (labels : List Label) (w : World)
    (path : Path (Takes (step tiocsergetlsr)) (construct fd address) labels w) :
    (∀ native (args : WriteArgs) call, args.Valid → write w.port native args = some call →
      call.ending = .ok () →
      call.passed = if w.port.monThreadisInterrupted then [] else args.given) ∧
    ((∀ join, .removeEventListener join ∉ labels) → w.port.monThreadisInterrupted = false) := by
  obtain ⟨sameFd, sameSpeed, running⟩ := path_port path
  have stillOpen : w.port.fd ≠ 0 := by
    rw [sameFd]
    exact isOpen
  have speed : w.port.speed ≠ 0 := by
    rw [sameSpeed]
    show (9600 : Int32) ≠ 0
    decide
  constructor
  · intro native args call valid made returned
    exact write_passed stillOpen speed valid made returned
  · exact fun never => running never rfl

theorem write_passes_unless_interrupted_removed :
    ∃ w : World, w.port.monThreadisInterrupted = true ∧
      (∀ native (args : WriteArgs) call, args.Valid → write w.port native args = some call →
        call.ending = .ok () →
        call.passed = if w.port.monThreadisInterrupted then [] else args.given) := by
  obtain ⟨w, followed, interrupted⟩ : ∃ w, follow (step true)
      [.addEventListener 0x2000 true, .removeEventListener .finished] (construct 3 0x1000) =
        some w ∧ w.port.monThreadisInterrupted = true := ⟨_, rfl, rfl⟩
  have passes := write_passes_unless_interrupted true 3 0x1000 (by decide) _ w
    (follow_path followed)
  exact ⟨w, interrupted, passes.1⟩

/-- A listener added and taken off again: the next byte is dropped. -/
theorem write_drops :
    ¬ ∀ (tiocsergetlsr : Bool) (fd : Int32) (address : BitVec 64) (labels : List Label) (w : World)
      (native : Except JavaException Unit) (args : WriteArgs) (call : WriteCall),
      fd ≠ 0 → Path (Takes (step tiocsergetlsr)) (construct fd address) labels w → args.Valid →
      write w.port native args = some call → call.ending = .ok () → call.passed = args.given := by
  intro passes
  have followed : ∃ w, follow (step true)
      [.addEventListener 0x2000 true, .removeEventListener .finished] (construct 3 0x1000) =
        some w ∧
      write w.port (.ok ()) (.int 65) = some ⟨[], .ok ()⟩ := ⟨_, rfl, rfl⟩
  rcases followed with ⟨w, followed, dropped⟩
  have passed := passes true 3 0x1000 _ w (.ok ()) (.int 65) _ (by decide) (follow_path followed)
    trivial dropped rfl
  cases passed

end Rxtx.RXTXPort
