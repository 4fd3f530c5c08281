import Rxtx.RXTXPort.LifeCycle

open Runs

namespace Rxtx.RXTXPort

theorem survives_iff (address : BitVec 64) :
    Survives address ↔ address.toNat < 2 ^ 31 ∨ 2 ^ 64 - 2 ^ 31 ≤ address.toNat := by
  have below := address.isLt
  unfold Survives
  rw [← BitVec.toInt_inj, BitVec.toInt_signExtend_of_le (by decide), BitVec.toInt_setWidth,
    BitVec.toInt_eq_toNat_bmod, Int.bmod_def, Int.bmod_def]
  split <;> split <;> omega

/-- Only an address in the lowest or the highest 2 GB comes back from the field. -/
theorem event_pointer_survives_iff (field address : BitVec 64) :
    getJavaVar (setIntField field address) = address ↔
      address.toNat < 2 ^ 31 ∨ 2 ^ 64 - 2 ^ 31 ≤ address.toNat := by
  rw [getJavaVar_stored]
  exact survives_iff address

/-- The stack of a thread at 0x7f0012345678. -/
theorem event_pointer_not_survives :
    ¬ ∀ field address : BitVec 64, getJavaVar (setIntField field address) = address := by
  intro survives
  exact absurd (survives 0 0x7f0012345678) (by decide)

/-- While the object is unlocked and the monitor thread is not interrupted, the latest event loop
    has not been told to stop, unless by its `drain_loop`. -/
structure Inv (w : World) : Prop where
  numbered : w.latest.id = w.older.length ∧ ∀ loop ∈ w.older, loop.id < w.older.length
  apart : ∀ loop ∈ w.older, loop.returned = false → loop.address ≠ w.latest.address
  published : getJavaVar w.port.eis = w.latest.address
  told : w.latest.returned = true → w.latest.closing = true
  quiet : w.port.monitorThreadLock = false → w.port.monThreadisInterrupted = false →
    w.latest.drainFailed = false → w.latest.closing = false
  underway : ∀ eis, w.reading = some eis → eis = w.latest.address ∧ w.latest.closing = false
  sound : w.dangled = false

/-- What a caller has to see to: struct addresses that survive the way through the field, no
    `read()` once the latest event loop has been told to stop, and no failing `drain_loop` under a
    read. -/
def Careful (w : World) : Label → Prop
  | .addEventListener address _ => Survives address
  | .read => w.latest.closing = false
  | .readArray _ _ _ _ => w.port.monThreadisInterrupted = true ∨ w.latest.drainFailed = false
  | .drainLoopFails id => w.reading = none ∨ id ≠ w.latest.id
  | _ => True

theorem construct_inv (fd : Int32) {address : BitVec 64} (survives : Survives address) :
    Inv (construct fd address) where
  numbered := ⟨rfl, by simp [construct]⟩
  apart := by simp [construct]
  published := getJavaVar_setIntField survives
  told := by simp [construct, EventLoop.start]
  quiet := by simp [construct, EventLoop.start]
  underway := by simp [construct]
  sound := rfl

theorem Inv.setPort {w : World} (inv : Inv w) (p : Port) (eis : p.eis = w.port.eis)
    (quiet : p.monitorThreadLock = false → p.monThreadisInterrupted = false →
      w.port.monitorThreadLock = false ∧ w.port.monThreadisInterrupted = false) :
    Inv { w with port := p } where
  numbered := inv.numbered
  apart := inv.apart
  published := by
    show getJavaVar p.eis = w.latest.address
    rw [eis]
    exact inv.published
  told := inv.told
  quiet := by
    intro unlocked running
    have before := quiet unlocked running
    exact inv.quiet before.1 before.2
  underway := inv.underway
  sound := inv.sound

theorem Inv.updateLoop {w : World} (inv : Inv w) (id : Nat) (f : EventLoop → EventLoop)
    (keepsId : ∀ loop, (f loop).id = loop.id) (address : ∀ loop, (f loop).address = loop.address)
    (stays : ∀ loop, (f loop).returned = false → loop.returned = false)
    (told : w.latest.id = id → (f w.latest).returned = true → (f w.latest).closing = true)
    (quiet : w.latest.id = id → w.port.monitorThreadLock = false →
      w.port.monThreadisInterrupted = false → (f w.latest).drainFailed = false →
      (f w.latest).closing = false)
    (underway : w.latest.id = id → ∀ eis, w.reading = some eis → (f w.latest).closing = false) :
    Inv (w.updateLoop id f) where
  numbered := World.Numbered.updateLoop inv.numbered id keepsId
  apart := by
    have sameAddress : (w.updateLoop id f).latest.address = w.latest.address := by
      rw [World.updateLoop_latest]
      split
      · exact address _
      · rfl
    intro loop member running
    rw [sameAddress]
    obtain ⟨before, inside, rfl⟩ := List.mem_map.mp member
    by_cases same : before.id = id
    · rw [if_pos same] at running ⊢
      rw [address]
      exact inv.apart before inside (stays before running)
    · rw [if_neg same] at running ⊢
      exact inv.apart before inside running
  published := by
    rw [World.updateLoop_latest]
    split
    · rw [address]
      exact inv.published
    · exact inv.published
  told := by
    rw [World.updateLoop_latest]
    split
    next same => exact told same
    next => exact inv.told
  quiet := by
    rw [World.updateLoop_latest]
    split
    next same => exact quiet same
    next => exact inv.quiet
  underway := by
    intro eis reading
    obtain ⟨pointer, open_⟩ := inv.underway eis reading
    rw [World.updateLoop_latest]
    split
    next same => exact ⟨by rw [address, pointer], underway same eis reading⟩
    next => exact ⟨pointer, open_⟩
  sound := inv.sound

theorem Inv.returns {w : World} (inv : Inv w) {id : Nat}
    (told : (w.loops.any fun loop => loop.id = id && loop.closing) = true) :
    Inv (w.updateLoop id fun loop => { loop with returned := true }) := by
  apply inv.updateLoop
  · exact fun _ => rfl
  · exact fun _ => rfl
  · intro _ stopped
    cases stopped
  · exact fun same _ => World.Numbered.told inv.numbered told same
  · exact fun _ => inv.quiet
  · exact fun _ eis reading => (inv.underway eis reading).2

theorem Inv.threadEnds {w w' : World} (inv : Inv w) (ends : w.threadEnds = some w') : Inv w' := by
  obtain ⟨id, told, rfl⟩ := World.threadEnds_some ends
  exact inv.returns told

theorem addEventListener_inv {address : BitVec 64} {initialised : Bool} {w w' : World}
    (inv : Inv w) (idle : w.reading = none) (survives : Survives address)
    (taken : addEventListener address initialised w = some w') : Inv w' := by
  cases addEventListener_added taken with
  | refused listens => exact inv
  | served alive => exact inv.setPort _ rfl fun unlocked running => ⟨unlocked, running⟩
  | started fresh =>
    refine ⟨World.Numbered.start inv.numbered _ address, ?_, getJavaVar_setIntField survives, ?_,
      ?_, ?_, inv.sound⟩
    · exact fun loop member running same => fresh ⟨loop, member, running, same⟩
    · simp [EventLoop.start]
    · simp [EventLoop.start]
    · intro eis reading
      simp [idle] at reading
  | stuck idle => exact inv.setPort _ rfl fun unlocked _ => by simp at unlocked

theorem Inv.forgetThread {w : World} (inv : Inv w) : Inv w.forgetThread :=
  inv.setPort _ rfl fun _ running => by simp at running

theorem Inv.interrupted {w : World} (inv : Inv w) (idle : w.reading = none) (id : Nat) :
    Inv (w.interrupt.updateLoop id fun loop => { loop with closing := true }) := by
  have marked : Inv w.interrupt := inv.setPort _ rfl fun _ running => by simp at running
  apply marked.updateLoop
  · exact fun _ => rfl
  · exact fun _ => rfl
  · exact fun _ running => running
  · exact fun _ _ => rfl
  · intro _ _ running
    simp [World.interrupt] at running
  · intro _ eis reading
    simp [World.interrupt, idle] at reading

theorem removeEventListener_inv {join : Join} {w w' : World} (inv : Inv w)
    (idle : w.reading = none) (taken : removeEventListener join w = some w') : Inv w' := by
  cases removeEventListener_removed taken with
  | again interrupted => exact inv.setPort _ rfl fun unlocked running => ⟨unlocked, running⟩
  | interrupted id joins running alive => exact inv.interrupted idle id
  | timedOut id => exact (inv.interrupted idle id).forgetThread
  | finished id ended ends => exact ((inv.interrupted idle id).threadEnds ends).forgetThread
  | gone => exact inv.forgetThread

theorem notifyOn_inv {event : EventType} {enable : Bool} {w w' : World} (inv : Inv w)
    (taken : notifyOn event enable w = some w') : Inv w' := by
  rcases notifyOn_some taken with ⟨-, rfl⟩ | ⟨thread, -, rfl⟩
  · exact inv.setPort _ rfl fun unlocked _ => by simp at unlocked
  · exact inv.setPort _ rfl fun unlocked running => ⟨unlocked, running⟩

theorem Inv.live {w : World} (inv : Inv w) (notTold : w.latest.closing = false) :
    w.Live w.latest.address := by
  refine ⟨w.latest, by simp [World.loops], ?_, rfl⟩
  cases returned : w.latest.returned with
  | false => rfl
  | true => rw [inv.told returned] at notTold; cases notTold

theorem Inv.dereference {w : World} (inv : Inv w) (notTold : w.latest.closing = false) :
    w.dereference w.latest.address = w := by
  have live := inv.live notTold
  simp [World.dereference, live]

theorem enterRead_inv {w : World} (inv : Inv w) (notTold : w.latest.closing = false) :
    Inv (enterRead w) := by
  have entered : enterRead w = { w with reading := some w.latest.address } := by
    unfold enterRead
    simp only [inv.published, inv.dereference notTold]
  rw [entered]
  refine ⟨inv.numbered, inv.apart, inv.published, inv.told, inv.quiet, ?_, inv.sound⟩
  intro eis reading
  exact ⟨(Option.some.inj reading).symm, notTold⟩

theorem readByte_inv {w w' : World} (inv : Inv w) (notTold : w.latest.closing = false)
    (taken : readByte w = some w') : Inv w' := by
  rcases readByte_some taken with rfl | ⟨-, rfl⟩
  · exact inv
  · exact enterRead_inv inv notTold

theorem read_uninterrupted {p : ReadFields} {device : ReadDevice} {b : Option JByteArray}
    {off len : Int32} {call : Int32 × Int32}
    (made : (read p device b off len).readArray = some call) :
    p.monThreadisInterrupted = false := by
  cases interrupted : p.monThreadisInterrupted with
  | false => rfl
  | true =>
    unfold read at made
    cases b with
    | none =>
      split_ifs at made <;> cases made
    | some b =>
      simp only [interrupted, if_true] at made
      split_ifs at made
      · cases made
      · cases made
      · cases made
      · split at made <;> cases made
      · cases made

theorem readBytes_inv {device : ReadDevice} {b : Option JByteArray} {off len : Int32}
    {w w' : World} (inv : Inv w)
    (careful : w.port.monThreadisInterrupted = true ∨ w.latest.drainFailed = false)
    (taken : readBytes device b off len w = some w') : Inv w' := by
  rcases readBytes_some taken with rfl | ⟨call, made, unlocked, rfl⟩
  · exact inv
  · have running : w.port.monThreadisInterrupted = false := read_uninterrupted made
    have drains := careful.resolve_left (by simp [running])
    exact enterRead_inv inv (inv.quiet unlocked running drains)

theorem returnFromRead_inv {w w' : World} (inv : Inv w) (taken : returnFromRead w = some w') :
    Inv w' := by
  unfold returnFromRead at taken
  obtain ⟨eis, reading, rfl⟩ := Option.map_eq_some_iff.mp taken
  obtain ⟨rfl, notTold⟩ := inv.underway eis reading
  rw [inv.dereference notTold]
  exact ⟨inv.numbered, inv.apart, inv.published, inv.told, inv.quiet, by simp, inv.sound⟩

theorem loopReturns_inv {id : Nat} {w w' : World} (inv : Inv w)
    (taken : loopReturns id w = some w') : Inv w' := by
  obtain ⟨told, rfl⟩ := loopReturns_some taken
  exact inv.returns told

theorem drainLoopFails_inv {tiocsergetlsr : Bool} {id : Nat} {w w' : World} (inv : Inv w)
    (careful : w.reading = none ∨ id ≠ w.latest.id)
    (taken : drainLoopFails tiocsergetlsr id w = some w') : Inv w' := by
  obtain rfl := drainLoopFails_some taken
  apply inv.updateLoop
  · exact fun _ => rfl
  · exact fun _ => rfl
  · exact fun _ running => running
  · exact fun _ _ => rfl
  · intro _ _ _ drains
    cases drains
  · intro same eis reading
    rcases careful with idle | other
    · simp [idle] at reading
    · exact absurd same.symm other

theorem step_inv {tiocsergetlsr : Bool} {w w' : World} {label : Label} (inv : Inv w)
    (careful : Careful w label) (stepped : step tiocsergetlsr label w = some w') : Inv w' := by
  cases step_taken stepped with
  | addEventListener address initialised idle taken =>
    exact addEventListener_inv inv idle careful taken
  | removeEventListener join idle taken => exact removeEventListener_inv inv idle taken
  | notifyOn event enable taken => exact notifyOn_inv inv taken
  | read taken => exact readByte_inv inv careful taken
  | readArray device b off len taken => exact readBytes_inv inv careful taken
  | returnFromRead taken => exact returnFromRead_inv inv taken
  | write native args same =>
    rw [same]
    exact inv
  | loopReturns id taken => exact loopReturns_inv inv taken
  | drainLoopFails id taken => exact drainLoopFails_inv inv careful taken

/-- In a run of careful steps no native read has dereferenced a dangling pointer. -/
theorem eis_not_dangling (tiocsergetlsr : Bool) (fd : Int32) (address : BitVec 64)
    (survives : Survives address) (labels : List Label) (w : World)
    (path : Path (Guarded Careful (Takes (step tiocsergetlsr))) (construct fd address) labels w) :
    w.dangled = false := by
  have inv := path.invariant Inv
    (fun _ _ _ inv taken => step_inv inv taken.1 taken.2) (construct_inv fd survives)
  exact inv.sound

theorem returned_read_dangles (tiocsergetlsr : Bool) {w : World} (inv : Inv w)
    (idle : w.reading = none) (unlocked : w.port.monitorThreadLock = false)
    (isOpen : w.port.fd ≠ 0) (returned : w.latest.returned = true) :
    step tiocsergetlsr .read w = some (enterRead w) ∧ (enterRead w).dangled = true := by
  have dead : ¬ w.Live w.latest.address := by
    intro live
    rcases live with ⟨loop, member, running, same⟩
    rcases List.mem_cons.mp member with rfl | older
    · rw [returned] at running
      cases running
    · exact inv.apart loop older running same
  constructor
  · simp [step, idle, readByte, World.unlocked, isOpen, unlocked]
  · simp [enterRead, World.dereference, inv.published, dead]

/-- A `read()` made after the latest loop has been told to stop can find its struct gone. -/
theorem told_read_dangles (tiocsergetlsr : Bool) {w : World} (inv : Inv w) (idle : w.reading = none)
    (unlocked : w.port.monitorThreadLock = false) (isOpen : w.port.fd ≠ 0)
    (told : w.latest.closing = true) :
    ∃ labels w', Path (Takes (step tiocsergetlsr)) w labels w' ∧ w'.dangled = true := by
  cases returned : w.latest.returned with
  | true =>
    obtain ⟨taken, dangles⟩ := returned_read_dangles tiocsergetlsr inv idle unlocked isOpen returned
    exact ⟨[.read], enterRead w, .cons taken (.nil _), dangles⟩
  | false =>
    obtain ⟨after, after_eq⟩ : ∃ after, after =
      w.updateLoop w.latest.id fun loop => { loop with returned := true } := ⟨_, rfl⟩
    have mayReturn : loopReturns w.latest.id w = some after := by
      simp [loopReturns, World.loops, told, returned, after_eq]
    have afterInv : Inv after := loopReturns_inv inv mayReturn
    have stopped : after.latest.returned = true := by
      rw [after_eq, World.updateLoop_latest, if_pos rfl]
    have same : after.port = w.port ∧ after.reading = w.reading := by
      rw [after_eq]
      exact ⟨rfl, rfl⟩
    obtain ⟨taken, dangles⟩ := returned_read_dangles tiocsergetlsr afterInv (by rw [same.2, idle])
      (by rw [same.1, unlocked]) (by rw [same.1]; exact isOpen) stopped
    exact ⟨[.loopReturns w.latest.id, .read], enterRead after,
      .cons mayReturn (.cons taken (.nil _)), dangles⟩

/-- A port at a low address, a listener taken off, then a read of one byte. -/
theorem eis_dangles :
    ¬ ∀ (tiocsergetlsr : Bool) (fd : Int32) (address : BitVec 64) (labels : List Label) (w : World),
      Survives address → Path (Takes (step tiocsergetlsr)) (construct fd address) labels w →
      w.dangled = false := by
  intro sound
  have followed : ∃ w, follow (step true)
      [.addEventListener 0x2000 true, .removeEventListener .finished, .read]
      (construct 3 0x1000) = some w ∧ w.dangled = true := ⟨_, rfl, rfl⟩
  rcases followed with ⟨w, followed, dangled⟩
  have kept := sound true 3 0x1000 _ w (by decide) (follow_path followed)
  rw [dangled] at kept
  cases kept

theorem eis_not_dangling_read : ∃ w : World, w.reading = some 0x1000 ∧ w.dangled = false := by
  have path : Path (Guarded Careful (Takes (step true))) (construct 3 0x1000)
      [.addEventListener 0x2000 true, .read] (enterRead { construct 3 0x1000 with
        port := { (construct 3 0x1000).port with spEventListener := true } }) :=
    .cons ⟨by unfold Careful; decide, rfl⟩ (.cons ⟨rfl, rfl⟩ (.nil _))
  exact ⟨_, rfl, eis_not_dangling true 3 0x1000 (by decide) _ _ path⟩

end Rxtx.RXTXPort
