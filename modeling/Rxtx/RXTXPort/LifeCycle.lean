import Rxtx.Library.Runs
import Rxtx.RXTXPort.InputStream
import Rxtx.RXTXPort.OutputStream

open Runs

namespace Rxtx.RXTXPort

/-- One native `eventLoop` and its stack variable `eis` at `address`. `drainFailed` says that its
    `drain_loop` has ended because `tcdrain` failed. -/
structure EventLoop where
  id : Nat
  address : BitVec 64
  closing : Bool
  drainFailed : Bool
  returned : Bool
  deriving DecidableEq, Repr

def Port.readFields (p : Port) : ReadFields :=
  ⟨p.fd, p.threshold, p.timeout, p.monThreadisInterrupted⟩

/-- `SetIntField` on a `long` field transfers the low half of the value. -/
def setIntField (field value : BitVec 64) : BitVec 64 :=
  (field >>> 32) <<< 32 ||| (value.setWidth 32).setWidth 64

/-- `get_java_var` reads an `int` from the field and returns it as `size_t`. -/
def getJavaVar (field : BitVec 64) : BitVec 64 := (field.setWidth 32).signExtend 64

def Survives (address : BitVec 64) : Prop := (address.setWidth 32).signExtend 64 = address

instance (address : BitVec 64) : Decidable (Survives address) :=
  inferInstanceAs (Decidable ((address.setWidth 32).signExtend 64 = address))

theorem getJavaVar_stored (field address : BitVec 64) :
    getJavaVar (setIntField field address) = (address.setWidth 32).signExtend 64 := by
  have low : (setIntField field address).setWidth 32 = address.setWidth 32 := by
    apply BitVec.eq_of_getLsbD_eq
    intro i inside
    simp [setIntField, inside]
  rw [getJavaVar, low]

theorem getJavaVar_setIntField {field address : BitVec 64} (survives : Survives address) :
    getJavaVar (setIntField field address) = address :=
  (getJavaVar_stored field address).trans survives

/-- The object, the event loops that were started for it, the latest one and the ones before it
    newest first, the pointer `eis` that a native read under way holds, and whether one has been
    dereferenced that was dangling. -/
structure World where
  port : Port
  latest : EventLoop
  older : List EventLoop
  reading : Option (BitVec 64)
  dangled : Bool

def World.loops (w : World) : List EventLoop := w.latest :: w.older

def World.Live (w : World) (address : BitVec 64) : Prop :=
  ∃ loop ∈ w.loops, loop.returned = false ∧ loop.address = address

instance (w : World) (address : BitVec 64) : Decidable (w.Live address) :=
  inferInstanceAs (Decidable (∃ loop ∈ w.loops, loop.returned = false ∧ loop.address = address))

def EventLoop.start (id : Nat) (address : BitVec 64) : EventLoop :=
  ⟨id, address, false, false, false⟩

/-- A monitor thread has started, its event loop has published `eis` and unlocked the object. -/
def Port.monitored (p : Port) (id : Nat) (address : BitVec 64) : Port :=
  { p with
    eis := setIntField p.eis address
    monThread := some ⟨some id, fun _ => false⟩
    monThreadisInterrupted := false
    monitorThreadLock := false
    monitorThreadAlive := true }

def construct (fd : Int32) (address : BitVec 64) : World where
  port := { (Port.declared fd).monitored 0 address with timeout := -1 }
  latest := .start 0 address
  older := []
  reading := none
  dangled := false

inductive Join where
  | finished | timedOut | interrupted
  deriving DecidableEq, Repr

inductive Label where
  | addEventListener (address : BitVec 64) (initialised : Bool)
  | removeEventListener (join : Join)
  | notifyOn (event : EventType) (enable : Bool)
  | read
  | readArray (device : ReadDevice) (b : Option JByteArray) (off len : Int32)
  | returnFromRead
  | write (native : Except JavaException Unit) (args : WriteArgs)
  | loopReturns (id : Nat)
  | drainLoopFails (id : Nat)

def World.updateLoop (w : World) (id : Nat) (f : EventLoop → EventLoop) : World :=
  { w with
    latest := if w.latest.id = id then f w.latest else w.latest
    older := w.older.map fun loop => if loop.id = id then f loop else loop }

theorem World.updateLoop_latest (w : World) (id : Nat) (f : EventLoop → EventLoop) :
    (w.updateLoop id f).latest = if w.latest.id = id then f w.latest else w.latest := rfl

def World.unlocked (w : World) : Option World := if w.port.monitorThreadLock then none else some w

def addEventListener (address : BitVec 64) (initialised : Bool) (w : World) : Option World :=
  if w.port.spEventListener then some w -- TooManyListenersException
  else
    let w := { w with port := { w.port with spEventListener := true } }
    if w.port.monitorThreadAlive then some w
    else if w.Live address then none -- the stacks of two threads are apart
    else if initialised then
      some { w with
        port := w.port.monitored (w.older.length + 1) address
        latest := .start (w.older.length + 1) address
        older := w.loops }
    else
      -- the event loop bails out and nothing ever unlocks the object
      some { w with port := { w.port with
        monThread := some ⟨none, fun _ => false⟩
        monThreadisInterrupted := false
        monitorThreadLock := true } }

def World.monThreadAlive (w : World) : Bool :=
  match w.port.monThread with
  | none => false
  | some thread => w.loops.any fun loop => thread.loop = some loop.id && !loop.returned

/-- The first struct from `master_index` on is that of the oldest loop that has not returned. -/
def interruptEventLoop (w : World) : Option World :=
  (w.loops.reverse.find? fun loop => !loop.returned).map fun loop =>
    w.updateLoop loop.id fun loop => { loop with closing := true }

def World.forgetThread (w : World) : World :=
  { w with port := { w.port with
    monThread := none
    spEventListener := false
    monitorThreadLock := false
    monitorThreadAlive := false
    monThreadisInterrupted := true } }

def World.threadEnds (w : World) : Option World :=
  match w.port.monThread with
  | some ⟨some id, _⟩ =>
    if w.loops.any fun loop => loop.id = id && loop.closing then
      some (w.updateLoop id fun loop => { loop with returned := true })
    else none
  | _ => none

def removeEventListener (join : Join) (w : World) : Option World := do
  let w ← w.unlocked
  if w.port.monThreadisInterrupted then
    return { w with port := { w.port with monThread := none, spEventListener := false } }
  if w.monThreadAlive then
    let w := { w with port := { w.port with monThreadisInterrupted := true } }
    let w ← interruptEventLoop w
    match join with
    | .interrupted => return w
    | .timedOut => return w.forgetThread
    | .finished =>
      let w ← w.threadEnds
      return w.forgetThread
  else return w.forgetThread

def MonitorThread.setEnabled (thread : MonitorThread) (event : EventType) (enable : Bool) :
    MonitorThread :=
  { thread with enabled := Function.update thread.enabled event enable }

def notifyOn (event : EventType) (enable : Bool) (w : World) : Option World := do
  let w ← w.unlocked
  match w.port.monThread with
  | none => -- NullPointerException
    return { w with port := { w.port with monitorThreadLock := true } }
  | some thread => return { w with port := { w.port with
      monThread := some (thread.setEnabled event enable) } }

def World.dereference (w : World) (address : BitVec 64) : World :=
  { w with dangled := w.dangled || !decide (w.Live address) }

def enterRead (w : World) : World :=
  let eis := getJavaVar w.port.eis
  { w.dereference eis with reading := some eis }

def readByte (w : World) : Option World :=
  if w.port.fd = 0 then some w
  else do
    let w ← w.unlocked
    return enterRead w

def readBytes (device : ReadDevice) (b : Option JByteArray) (off len : Int32) (w : World) :
    Option World :=
  match (RXTXPort.read w.port.readFields device b off len).readArray with
  | none => some w
  | some _ => do
    let w ← w.unlocked
    return enterRead w

/-- Every return path of `read_byte_array` puts the event flag back into the struct. -/
def returnFromRead (w : World) : Option World :=
  w.reading.map fun eis => { w.dereference eis with reading := none }

def loopReturns (id : Nat) (w : World) : Option World :=
  if w.loops.any fun loop => loop.id = id && loop.closing && !loop.returned then
    some (w.updateLoop id fun loop => { loop with returned := true })
  else none

/-- Systems without `TIOCSERGETLSR` run a `drain_loop` beside each event loop. -/
def drainLoopFails (tiocsergetlsr : Bool) (id : Nat) (w : World) : Option World :=
  if tiocsergetlsr then none
  else some (w.updateLoop id fun loop => { loop with closing := true, drainFailed := true })

/-- One call is made at a time; the event loops go on by themselves. -/
def step (tiocsergetlsr : Bool) (label : Label) (w : World) : Option World :=
  match label, w.reading with
  | .loopReturns id, _ => loopReturns id w
  | .drainLoopFails id, _ => drainLoopFails tiocsergetlsr id w
  | .returnFromRead, _ => returnFromRead w
  | .addEventListener address initialised, none => addEventListener address initialised w
  | .removeEventListener join, none => removeEventListener join w
  | .notifyOn event enable, none => notifyOn event enable w
  | .read, none => readByte w
  | .readArray device b off len, none => readBytes device b off len w
  | .write native args, none => (write w.port native args).map fun _ => w
  | _, some _ => none

theorem World.unlocked_some {w w' : World} (passed : w.unlocked = some w') :
    w' = w ∧ w.port.monitorThreadLock = false := by
  unfold World.unlocked at passed
  split_ifs at passed with locked
  exact ⟨(Option.some.inj passed).symm, by simpa using locked⟩

inductive Added (address : BitVec 64) (w : World) : World → Prop
  | refused (listens : w.port.spEventListener = true) : Added address w w
  | served (alive : w.port.monitorThreadAlive = true) :
      Added address w { w with port := { w.port with spEventListener := true } }
  | started (fresh : ¬ w.Live address) :
      Added address w { w with
        port := { w.port with spEventListener := true }.monitored (w.older.length + 1) address
        latest := .start (w.older.length + 1) address
        older := w.loops }
  | stuck (idle : w.port.monitorThreadAlive = false) :
      Added address w { w with port := { w.port with
        spEventListener := true
        monThread := some ⟨none, fun _ => false⟩
        monThreadisInterrupted := false
        monitorThreadLock := true } }

theorem addEventListener_added {address : BitVec 64} {initialised : Bool} {w w' : World}
    (taken : addEventListener address initialised w = some w') : Added address w w' := by
  unfold addEventListener at taken
  simp only [] at taken
  split_ifs at taken with listens alive taken' initialised
  · cases taken
    exact .refused listens
  · cases taken
    exact .served alive
  · cases taken
    exact .started taken'
  · cases taken
    exact .stuck (Bool.eq_false_iff.mpr alive)

def World.interrupt (w : World) : World :=
  { w with port := { w.port with monThreadisInterrupted := true } }

inductive Removed (join : Join) (w : World) : World → Prop
  | again (interrupted : w.port.monThreadisInterrupted = true) :
      Removed join w { w with port := { w.port with monThread := none, spEventListener := false } }
  | interrupted (id : Nat) (joins : join = .interrupted)
      (running : w.port.monThreadisInterrupted = false) (alive : w.monThreadAlive = true) :
      Removed join w (w.interrupt.updateLoop id fun loop => { loop with closing := true })
  | timedOut (id : Nat) :
      Removed join w
        (w.interrupt.updateLoop id fun loop => { loop with closing := true }).forgetThread
  | finished (id : Nat) (ended : World)
      (ends : (w.interrupt.updateLoop id fun loop => { loop with closing := true }).threadEnds =
        some ended) : Removed join w ended.forgetThread
  | gone : Removed join w w.forgetThread

theorem removeEventListener_removed {join : Join} {w w' : World}
    (taken : removeEventListener join w = some w') : Removed join w w' := by
  simp only [removeEventListener, Option.bind_eq_bind, Option.bind_eq_some_iff] at taken
  rcases taken with ⟨entered, passed, taken⟩
  obtain ⟨rfl, -⟩ := World.unlocked_some passed
  split_ifs at taken with interrupted alive
  · cases taken
    exact .again interrupted
  · obtain ⟨closed, closing, taken⟩ := Option.bind_eq_some_iff.mp taken
    unfold interruptEventLoop at closing
    obtain ⟨loop, -, rfl⟩ := Option.map_eq_some_iff.mp closing
    cases join with
    | interrupted =>
      cases taken
      exact .interrupted loop.id rfl (Bool.eq_false_iff.mpr interrupted) alive
    | timedOut =>
      cases taken
      exact .timedOut loop.id
    | finished =>
      obtain ⟨ended, ends, taken⟩ := Option.bind_eq_some_iff.mp taken
      cases taken
      exact .finished loop.id ended ends
  · cases taken
    exact .gone

def World.Numbered (w : World) : Prop :=
  w.latest.id = w.older.length ∧ ∀ loop ∈ w.older, loop.id < w.older.length

theorem World.Numbered.start {w : World} (numbered : w.Numbered) (port : Port)
    (address : BitVec 64) :
    { w with
      port
      latest := .start (w.older.length + 1) address
      older := w.loops : World }.Numbered := by
  constructor
  · rfl
  · intro loop member
    rcases List.mem_cons.mp member with rfl | older
    · simp [World.loops, numbered.1]
    · have bound := numbered.2 loop older
      simp only [World.loops, List.length_cons]
      omega

theorem World.Numbered.updateLoop {w : World} (numbered : w.Numbered) (id : Nat)
    {f : EventLoop → EventLoop} (keepsId : ∀ loop, (f loop).id = loop.id) :
    (w.updateLoop id f).Numbered := by
  have length : (w.updateLoop id f).older.length = w.older.length := by simp [World.updateLoop]
  unfold World.Numbered
  rw [World.updateLoop_latest, length]
  constructor
  · split
    · rw [keepsId]
      exact numbered.1
    · exact numbered.1
  · intro loop member
    obtain ⟨before, inside, rfl⟩ := List.mem_map.mp member
    have bound := numbered.2 before inside
    split
    · rw [keepsId]
      exact bound
    · exact bound

theorem World.Numbered.latest_of_id {w : World} (numbered : w.Numbered) {loop : EventLoop}
    (member : loop ∈ w.loops) (same : loop.id = w.latest.id) : loop = w.latest := by
  rcases List.mem_cons.mp member with latest | older
  · exact latest
  · have before := numbered.2 loop older
    rw [same, numbered.1] at before
    exact absurd before (Nat.lt_irrefl _)

theorem World.Numbered.told {w : World} (numbered : w.Numbered) {id : Nat}
    (told : (w.loops.any fun loop => loop.id = id && loop.closing) = true)
    (same : w.latest.id = id) : w.latest.closing = true := by
  obtain ⟨loop, member, holds⟩ := List.any_eq_true.mp told
  simp only [Bool.and_eq_true, decide_eq_true_eq] at holds
  rw [← numbered.latest_of_id member (holds.1.trans same.symm)]
  exact holds.2

theorem World.threadEnds_some {w w' : World} (ends : w.threadEnds = some w') :
    ∃ id, (w.loops.any fun loop => loop.id = id && loop.closing) = true ∧
      w' = w.updateLoop id fun loop => { loop with returned := true } := by
  unfold World.threadEnds at ends
  split at ends
  next id _ _ =>
    split_ifs at ends with told
    cases ends
    exact ⟨id, told, rfl⟩
  next => cases ends

theorem loopReturns_some {id : Nat} {w w' : World} (taken : loopReturns id w = some w') :
    (w.loops.any fun loop => loop.id = id && loop.closing) = true ∧
      w' = w.updateLoop id fun loop => { loop with returned := true } := by
  unfold loopReturns at taken
  split_ifs at taken with told
  cases taken
  obtain ⟨loop, member, holds⟩ := List.any_eq_true.mp told
  rw [Bool.and_eq_true] at holds
  exact ⟨List.any_eq_true.mpr ⟨loop, member, holds.1⟩, rfl⟩

theorem drainLoopFails_some {tiocsergetlsr : Bool} {id : Nat} {w w' : World}
    (taken : drainLoopFails tiocsergetlsr id w = some w') :
    w' = w.updateLoop id fun loop => { loop with closing := true, drainFailed := true } := by
  unfold drainLoopFails at taken
  split_ifs at taken
  exact (Option.some.inj taken).symm

theorem notifyOn_some {event : EventType} {enable : Bool} {w w' : World}
    (taken : notifyOn event enable w = some w') :
    (w.port.monThread = none ∧ w' = { w with port := { w.port with monitorThreadLock := true } }) ∨
    ∃ thread, w.port.monThread = some thread ∧ w' = { w with port := { w.port with
      monThread := some (thread.setEnabled event enable) } } := by
  simp only [notifyOn, Option.bind_eq_bind, Option.bind_eq_some_iff] at taken
  rcases taken with ⟨entered, passed, taken⟩
  obtain ⟨rfl, -⟩ := World.unlocked_some passed
  split at taken
  next none =>
    cases taken
    exact .inl ⟨none, rfl⟩
  next thread some =>
    cases taken
    exact .inr ⟨thread, some, rfl⟩

theorem readByte_some {w w' : World} (taken : readByte w = some w') :
    w' = w ∨ (w.port.monitorThreadLock = false ∧ w' = enterRead w) := by
  unfold readByte at taken
  split_ifs at taken
  · cases taken
    exact .inl rfl
  · obtain ⟨entered, passed, enters⟩ := Option.bind_eq_some_iff.mp taken
    obtain ⟨rfl, unlocked⟩ := World.unlocked_some passed
    cases enters
    exact .inr ⟨unlocked, rfl⟩

theorem readBytes_some {device : ReadDevice} {b : Option JByteArray} {off len : Int32}
    {w w' : World} (taken : readBytes device b off len w = some w') :
    w' = w ∨ ∃ call, (RXTXPort.read w.port.readFields device b off len).readArray = some call ∧
      w.port.monitorThreadLock = false ∧ w' = enterRead w := by
  unfold readBytes at taken
  split at taken
  · cases taken
    exact .inl rfl
  next call made =>
    obtain ⟨entered, passed, enters⟩ := Option.bind_eq_some_iff.mp taken
    obtain ⟨rfl, unlocked⟩ := World.unlocked_some passed
    cases enters
    exact .inr ⟨call, made, unlocked, rfl⟩

inductive Taken (tiocsergetlsr : Bool) (w w' : World) : Label → Prop
  | addEventListener (address : BitVec 64) (initialised : Bool) (idle : w.reading = none)
      (taken : RXTXPort.addEventListener address initialised w = some w') :
      Taken tiocsergetlsr w w' (.addEventListener address initialised)
  | removeEventListener (join : Join) (idle : w.reading = none)
      (taken : RXTXPort.removeEventListener join w = some w') :
      Taken tiocsergetlsr w w' (.removeEventListener join)
  | notifyOn (event : EventType) (enable : Bool)
      (taken : RXTXPort.notifyOn event enable w = some w') :
      Taken tiocsergetlsr w w' (.notifyOn event enable)
  | read (taken : readByte w = some w') : Taken tiocsergetlsr w w' .read
  | readArray (device : ReadDevice) (b : Option JByteArray) (off len : Int32)
      (taken : readBytes device b off len w = some w') :
      Taken tiocsergetlsr w w' (.readArray device b off len)
  | returnFromRead (taken : RXTXPort.returnFromRead w = some w') :
      Taken tiocsergetlsr w w' .returnFromRead
  | write (native : Except JavaException Unit) (args : WriteArgs) (same : w' = w) :
      Taken tiocsergetlsr w w' (.write native args)
  | loopReturns (id : Nat) (taken : RXTXPort.loopReturns id w = some w') :
      Taken tiocsergetlsr w w' (.loopReturns id)
  | drainLoopFails (id : Nat) (taken : RXTXPort.drainLoopFails tiocsergetlsr id w = some w') :
      Taken tiocsergetlsr w w' (.drainLoopFails id)

theorem step_taken {tiocsergetlsr : Bool} {w w' : World} {label : Label}
    (taken : step tiocsergetlsr label w = some w') : Taken tiocsergetlsr w w' label := by
  unfold step at taken
  split at taken
  · exact .loopReturns _ taken
  · exact .drainLoopFails _ taken
  · exact .returnFromRead taken
  · exact .addEventListener _ _ ‹_› taken
  · exact .removeEventListener _ ‹_› taken
  · exact .notifyOn _ _ taken
  · exact .read taken
  · exact .readArray _ _ _ _ taken
  · obtain ⟨call, -, same⟩ := Option.map_eq_some_iff.mp taken
    exact .write _ _ same.symm
  · cases taken

end Rxtx.RXTXPort
