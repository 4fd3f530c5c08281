import Rxtx.SerialImp.FhsLock

open LinkedHeap Runs

namespace Rxtx.SerialImp

structure PortObject where
  name : CString
  fd : Int
  pid : Int
  deriving DecidableEq, Repr

/-- The lock files, the preopened ports and the descriptors that the process has open. -/
structure PortWorld where
  dir : LockDir
  preopened : Ports
  descriptors : List Int

/-- What the system answers during `open`. `descriptor` is what the last `OPEN` gave, the one that
    was not interrupted, and `strerror` the text that `fail` throws. -/
structure OpenOutcome (proc : Process) where
  lock : LockOutcome proc
  descriptor : Int
  tcgetattr : Bool
  cfsetispeed : Bool
  cfsetospeed : Bool
  tcsetattr : Bool
  strerror : CString

variable {proc : Process}

def configurePort (o : OpenOutcome proc) (fd : Int) : Int :=
  if fd < 0 then 1
  else if !o.tcgetattr then 1
  else if !o.cfsetispeed then 1
  else if !o.cfsetospeed then 1
  else if !o.tcsetattr then 1
  else 0

def lockingFailed (filename : CString) : CString :=
  "open: locking has failed for ".toList ++ filename ++ ['\n']

def lockingWorked (filename : CString) : CString :=
  "open: locking worked for ".toList ++ filename ++ ['\n']

def OpenOutcome.Throws (o : OpenOutcome proc) : Prop :=
  (o.strerror ++ " in open".toList).length < 60 ∨ o.lock.survives = true

instance (o : OpenOutcome proc) : Decidable o.Throws := inferInstanceAs (Decidable (_ ∨ _))

def throwPortInUse (o : OpenOutcome proc) : Except Fault Unit :=
  if o.Throws then return () else .error .overflow

/-- What `open` and the static setters do when they have the lock. There is no descriptor where they
    go to `fail`. -/
def openLocked (o : OpenOutcome proc) (filename : CString) (w : PortWorld) :
    Except Fault (Option Int × PortWorld) := do
  let (fd, preopened) ← findPreopenedPorts filename w.preopened
  let w := { w with preopened }
  if fd ≠ 0 then return (some fd, w)
  let fd := o.descriptor
  let w := if 0 ≤ fd then { w with descriptors := fd :: w.descriptors } else w
  if configurePort o fd ≠ 0 then return (none, w)
  return (some fd, w)

/-- There is no descriptor when `PortInUseException` is thrown. The report of the descriptor always
    fits. -/
def rxtxPortOpen (o : OpenOutcome proc) (filename : CString) (w : PortWorld) :
    Except Fault (Option Int × PortWorld) := do
  let (failed, dir) ← fhsLock o.lock filename w.dir
  let w := { w with dir }
  if failed ≠ 0 then
    sprintf o.lock.survives (lockingFailed filename)
    throwPortInUse o
    return (none, w)
  sprintf o.lock.survives (lockingWorked filename)
  let (fd, w) ← openLocked o filename w
  if fd.isNone then throwPortInUse o
  return (fd, w)

/-- `CLOSE` is repeated while it is interrupted; its result is not looked at. -/
def rxtxPortNativeClose (proc : Process) (o : UnlockOutcome) (port : PortObject) (w : PortWorld) :
    Except Fault PortWorld := do
  if port.pid = 0 then return w
  if port.fd > 0 then
    let w := { w with descriptors := w.descriptors.erase port.fd }
    return { w with dir := ← fhsUnlock proc o port.name port.pid w.dir }
  return w

structure DevicePaths (P : Type) where
  directory : P → CString
  component : P → CString
  plain : ∀ d, '/' ∉ component d
  fits : ∀ d, (component d).length < 65
  distinct : Function.Injective component

variable {P : Type}

def DevicePaths.path (devices : DevicePaths P) (d : P) : CString :=
  devices.directory d ++ '/' :: devices.component d

def DevicePaths.lock (devices : DevicePaths P) (d : P) : CString :=
  lockPrefix ++ devices.component d

/-- An `RXTXPort` that an `open` of `device` succeeded for, and whether it was closed since. -/
structure Opened (P : Type) where
  device : P
  port : PortObject
  closed : Bool

/-- `leaked` are the descriptors that an `open` left open that threw `PortInUseException`. -/
structure PortHistory (P : Type) where
  world : PortWorld
  opened : List (Opened P)
  leaked : List Int

inductive PortCall (P : Type) (proc : Process) where
  | rxtxOpen (device : P) (o : OpenOutcome proc)
  | nativeClose (index : Nat) (o : UnlockOutcome)

/-- One call; `RXTXPort.close` sets `fd` to 0 after `nativeClose`. -/
def portCall (devices : DevicePaths P) : PortCall P proc → PortHistory P → Option (PortHistory P)
  | .rxtxOpen d o, h =>
    match rxtxPortOpen o (devices.path d) h.world with
    | .error _ => none
    | .ok (some fd, w) =>
      some { h with
        world := w
        opened := h.opened ++ [⟨d, ⟨devices.path d, fd, proc.pid⟩, false⟩] }
    | .ok (none, w) =>
      some { h with
        world := w
        leaked := h.leaked ++ w.descriptors.diff h.world.descriptors }
  | .nativeClose index o, h =>
    match h.opened[index]? with
    | none => some h
    | some object =>
      match rxtxPortNativeClose proc o object.port h.world with
      | .error _ => none
      | .ok w =>
        some { h with
          world := w
          opened := h.opened.set index
            { object with port := { object.port with fd := 0 }, closed := true } }

def PortHistory.IsOpen (h : PortHistory P) (d : P) : Prop :=
  ∃ object ∈ h.opened, object.device = d ∧ object.closed = false

def Carries (proc : Process) (content : List Char) : Prop := atolPid content = proc.pid

structure LockHeld (proc : Process) (devices : DevicePaths P) (h : PortHistory P) : Prop where
  held_iff : ∀ d, (∃ content, h.world.dir (devices.lock d) = some content ∧
    Carries proc content) ↔ h.IsOpen d
  returned : h.leaked = []

structure Begins (proc : Process) (h : PortHistory P) : Prop where
  unlocked : ∀ file content, h.world.dir file = some content → ¬ Carries proc content
  preopened : ∃ before entries, h.world.preopened.Lists before entries ∧
    ∀ entry ∈ entries, 0 < entry.fd
  closed : h.opened = []
  returned : h.leaked = []

/-- The path is that of a preopened port that can be taken out of the list, or a positive descriptor
    is obtained for it and configured. -/
def Obtains (o : OpenOutcome proc) (path : CString) (before : Option Addr)
    (entries : List Preopened) : Prop :=
  (∃ entry ∈ entries, entry.filename = path) ∧ NotFirst before entries path ∨
    (∀ entry ∈ entries, entry.filename ≠ path) ∧ 0 < o.descriptor ∧ o.tcgetattr = true ∧
      o.cfsetispeed = true ∧ o.cfsetospeed = true ∧ o.tcsetattr = true

/-- What is reported and thrown fits. A lock that is granted is written and the open does not fail
    after it; lock files of the process can be read and removed. -/
def Meets (devices : DevicePaths P) (h : PortHistory P) : PortCall P proc → Prop
  | .rxtxOpen d o =>
    (h.IsOpen d → o.lock.readable = true) ∧ o.lock.Told (devices.lock d) h.world.dir ∧
    (o.lock.grants (devices.lock d) h.world.dir = false →
      Reported o.lock.survives (lockingFailed (devices.path d)) ∧ o.Throws) ∧
    (o.lock.grants (devices.lock d) h.world.dir = true →
      Reported o.lock.survives (lockingWorked (devices.path d)) ∧ 11 ≤ o.lock.written ∧
        ∀ before entries, h.world.preopened.Lists before entries →
          Obtains o (devices.path d) before entries)
  | .nativeClose _ o => o.readable = true ∧ o.unlinks = true

theorem DevicePaths.lock_injective (devices : DevicePaths P) : Function.Injective devices.lock :=
  fun _ _ same => devices.distinct (List.append_cancel_left same)

theorem DevicePaths.lockFile_path (devices : DevicePaths P) (d : P) :
    lockFile (devices.path d) = .ok (devices.lock d) :=
  lockFile_component _ _ (devices.plain d) (devices.fits d)

theorem carries_lockinfo (proc : Process) : Carries proc (lockinfo proc.pid) := by
  have read := (lockinfo_read proc.pid_small [] 0).2
  have whole : readOver (lockinfo proc.pid) [] = lockinfo proc.pid := by
    rw [readOver, ← (lockinfo_eq proc.pid_digits).2, List.take_length]
    simp
  rw [whole] at read
  exact read

theorem lockinfo_written {written : Nat} (enough : 11 ≤ written) :
    (lockinfo proc.pid).take written = lockinfo proc.pid := by
  apply List.take_of_length_le
  rw [(lockinfo_eq proc.pid_digits).2]
  exact enough

def PortHistory.Holds (h : PortHistory P) (index : Nat) (object : Opened P) : Prop :=
  h.opened[index]? = some object ∧ object.closed = false

theorem isOpen_iff {h : PortHistory P} {d : P} :
    h.IsOpen d ↔ ∃ index object, h.Holds index object ∧ object.device = d := by
  constructor
  · intro isOpen
    rcases isOpen with ⟨object, member, same, opened⟩
    obtain ⟨index, at_index⟩ := List.mem_iff_getElem?.mp member
    exact ⟨index, object, ⟨at_index, opened⟩, same⟩
  · intro held
    rcases held with ⟨index, object, ⟨at_index, opened⟩, same⟩
    exact ⟨object, List.mem_of_getElem? at_index, same, opened⟩

structure PortsSound (proc : Process) (devices : DevicePaths P) (h : PortHistory P) : Prop where
  own : ∀ index object, h.Holds index object →
    h.world.dir (devices.lock object.device) = some (lockinfo proc.pid)
  foreign : ∀ file content, h.world.dir file = some content → Carries proc content →
    ∃ index object, h.Holds index object ∧ devices.lock object.device = file
  port : ∀ index object, h.Holds index object → object.port.name = devices.path object.device ∧
    0 < object.port.fd ∧ object.port.pid = proc.pid
  closed : ∀ object ∈ h.opened, object.closed = true → object.port.fd = 0
  unique : ∀ i j left right, h.Holds i left → h.Holds j right → left.device = right.device → i = j
  preopened : ∃ before entries, h.world.preopened.Lists before entries ∧
    ∀ entry ∈ entries, 0 < entry.fd
  returned : h.leaked = []

theorem Begins.sound {devices : DevicePaths P} {h : PortHistory P} (begins : Begins proc h) :
    PortsSound proc devices h := by
  have none (index : Nat) (object : Opened P) : ¬ h.Holds index object := by
    simp [PortHistory.Holds, begins.closed]
  refine ⟨fun i object holds => absurd holds (none i object), ?_,
    fun i object holds => absurd holds (none i object), ?_,
    fun i j left right holds => absurd holds (none i left), begins.preopened, begins.returned⟩
  · intro file content entry carries
    exact absurd carries (begins.unlocked file content entry)
  · intro object member
    rw [begins.closed] at member
    cases member

theorem PortsSound.lockHeld {devices : DevicePaths P} {h : PortHistory P}
    (sound : PortsSound proc devices h) : LockHeld proc devices h := by
  refine ⟨fun d => ?_, sound.returned⟩
  rw [isOpen_iff]
  constructor
  · intro locked
    rcases locked with ⟨content, entry, carries⟩
    obtain ⟨index, object, holds, same⟩ := sound.foreign _ content entry carries
    exact ⟨index, object, holds, devices.lock_injective same⟩
  · intro held
    rcases held with ⟨index, object, holds, rfl⟩
    exact ⟨_, sound.own index object holds, carries_lockinfo proc⟩

theorem lock_other {devices : DevicePaths P} {h : PortHistory P} {d : P} (unopened : ¬ h.IsOpen d)
    {index : Nat} {object : Opened P} (holds : h.Holds index object) :
    devices.lock object.device ≠ devices.lock d :=
  fun same => unopened (isOpen_iff.mpr ⟨index, object, holds, devices.lock_injective same⟩)

theorem PortsSound.refused {devices : DevicePaths P} {h : PortHistory P}
    (sound : PortsSound proc devices h) {d : P} (unopened : ¬ h.IsOpen d) {dir : LockDir}
    (kept : dir = h.world.dir ∨ dir = Function.update h.world.dir (devices.lock d) none) :
    PortsSound proc devices { h with world := { h.world with dir } } := by
  rcases kept with rfl | rfl
  · exact ⟨sound.own, sound.foreign, sound.port, sound.closed, sound.unique, sound.preopened,
      sound.returned⟩
  · refine ⟨?_, ?_, sound.port, sound.closed, sound.unique, sound.preopened, sound.returned⟩
    · intro index object holds
      exact (Function.update_of_ne (lock_other unopened holds) _ _).trans
        (sound.own index object holds)
    · intro file content entry
      by_cases same : file = devices.lock d
      · subst same
        simp at entry
      · have before : h.world.dir file = some content :=
          (Function.update_of_ne same _ _).symm.trans entry
        exact sound.foreign file content before

theorem holds_append {h h' : PortHistory P} {new : Opened P}
    (appended : h'.opened = h.opened ++ [new])
    {index : Nat} {object : Opened P} (holds : h'.Holds index object) :
    h.Holds index object ∨ index = h.opened.length ∧ object = new := by
  rcases holds with ⟨at_index, opened⟩
  rw [appended] at at_index
  by_cases old : index < h.opened.length
  · rw [List.getElem?_append_left old] at at_index
    exact .inl ⟨at_index, opened⟩
  · rw [List.getElem?_append_right (by omega)] at at_index
    cases offset : index - h.opened.length with
    | zero =>
      rw [offset] at at_index
      exact .inr ⟨by omega, (Option.some.inj at_index).symm⟩
    | succ n =>
      rw [offset] at at_index
      cases at_index

theorem PortsSound.granted {devices : DevicePaths P} {h : PortHistory P}
    (sound : PortsSound proc devices h) {d : P} (unopened : ¬ h.IsOpen d) {fd : Int}
    (positive : 0 < fd) {preopened : Ports} (descriptors : List Int)
    (remaining : ∃ before entries, preopened.Lists before entries ∧
      ∀ entry ∈ entries, 0 < entry.fd) :
    PortsSound proc devices { h with
      world := {
        dir := Function.update h.world.dir (devices.lock d) (some (lockinfo proc.pid))
        preopened := preopened
        descriptors := descriptors }
      opened := h.opened ++ [⟨d, ⟨devices.path d, fd, proc.pid⟩, false⟩] } := by
  have old {index : Nat} {object : Opened P} (holds : h.Holds index object) :
      index < h.opened.length := (List.getElem?_eq_some_iff.mp holds.1).1
  have away {index : Nat} {object : Opened P} (holds : h.Holds index object) :
      object.device ≠ d := fun same => unopened (isOpen_iff.mpr ⟨index, object, holds, same⟩)
  refine ⟨?_, ?_, ?_, ?_, ?_, remaining, sound.returned⟩
  · intro index object holds
    rcases holds_append rfl holds with before | ⟨-, rfl⟩
    · exact (Function.update_of_ne (lock_other unopened before) _ _).trans
        (sound.own index object before)
    · exact Function.update_self ..
  · intro file content entry carries
    by_cases same : file = devices.lock d
    · exact ⟨h.opened.length, _, ⟨List.getElem?_concat_length, rfl⟩, same.symm⟩
    · have before : h.world.dir file = some content :=
        (Function.update_of_ne same _ _).symm.trans entry
      obtain ⟨index, object, holds, named⟩ := sound.foreign file content before carries
      refine ⟨index, object, ⟨?_, holds.2⟩, named⟩
      exact (List.getElem?_append_left (old holds)).trans holds.1
  · intro index object holds
    rcases holds_append rfl holds with before | ⟨-, rfl⟩
    · exact sound.port index object before
    · exact ⟨rfl, positive, rfl⟩
  · intro object member shut
    rcases List.mem_append.mp member with before | new
    · exact sound.closed object before shut
    · rw [List.mem_singleton.mp new] at shut
      cases shut
  · intro i j left right holdsLeft holdsRight same
    rcases holds_append rfl holdsLeft with before | ⟨rfl, rfl⟩
    · rcases holds_append rfl holdsRight with before' | ⟨-, rfl⟩
      · exact sound.unique i j left right before before' same
      · exact absurd same (away before)
    · rcases holds_append rfl holdsRight with before' | ⟨rfl, -⟩
      · exact absurd same.symm (away before')
      · rfl

theorem openLocked_obtains {o : OpenOutcome proc} {path : CString} {w : PortWorld}
    {before : Option Addr} {entries : List Preopened} (lists : w.preopened.Lists before entries)
    (positive : ∀ entry ∈ entries, 0 < entry.fd) (obtains : Obtains o path before entries) :
    ∃ fd preopened descriptors entries', 0 < fd ∧
      openLocked o path w = .ok (some fd, { w with preopened, descriptors }) ∧
      preopened.Lists before entries' ∧ ∀ entry ∈ entries', 0 < entry.fd := by
  rcases lists.find_cases path with
    ⟨absent, misses⟩ | ⟨pre, port, post, rfl, named, -, s', finds, rest, -⟩
  · rcases obtains with ⟨⟨entry, member, named⟩, -⟩ | ⟨-, descriptor, get, input, output, set⟩
    · exact absurd named (absent entry member)
    · have configures : configurePort o o.descriptor = 0 := by
        simp [configurePort, not_lt.mpr descriptor.le, get, input, output, set]
      refine ⟨o.descriptor, w.preopened, o.descriptor :: w.descriptors, entries, descriptor, ?_,
        lists, positive⟩
      simp [openLocked, misses, configures, descriptor.le, Bind.bind, Except.bind, Pure.pure,
        Except.pure]
  · have notFirst : NotFirst before (pre ++ port :: post) path := by
      rcases obtains with ⟨-, notFirst⟩ | ⟨absent, -⟩
      · exact notFirst
      · exact absurd named (absent port (by simp))
    have found := positive port (by simp)
    refine ⟨port.fd, s', w.descriptors, pre ++ post, found, ?_, rest notFirst, ?_⟩
    · simp [openLocked, finds, found.ne', Bind.bind, Except.bind, Pure.pure, Except.pure]
    · intro entry member
      apply positive entry
      simp only [List.mem_append, List.mem_cons] at member ⊢
      tauto

theorem diff_self (descriptors : List Int) : descriptors.diff descriptors = [] := by
  induction descriptors with
  | nil => rfl
  | cons fd rest ih => rw [List.diff_cons, List.erase_cons_head, ih]

theorem throwPortInUse_throws {o : OpenOutcome proc} (throws : o.Throws) :
    throwPortInUse o = .ok () := if_pos throws

theorem portCall_refused {devices : DevicePaths P} {h : PortHistory P} {d : P}
    {o : OpenOutcome proc} {dir : LockDir}
    (locks : fhsLock o.lock (devices.path d) h.world.dir = .ok (1, dir))
    (reported : Reported o.lock.survives (lockingFailed (devices.path d))) (throws : o.Throws) :
    portCall devices (.rxtxOpen d o) h = some { h with world := { h.world with dir } } := by
  simp [portCall, rxtxPortOpen, locks, sprintf_reported reported, throwPortInUse_throws throws,
    diff_self, Bind.bind, Except.bind, Pure.pure, Except.pure]

theorem PortsSound.rxtxOpen {devices : DevicePaths P} {h : PortHistory P}
    (sound : PortsSound proc devices h) {d : P} {o : OpenOutcome proc}
    (meets : Meets devices h (.rxtxOpen d o)) :
    ∃ h', portCall devices (.rxtxOpen d o) h = some h' ∧ PortsSound proc devices h' := by
  rcases meets with ⟨readable, told, refuses, grants⟩
  have named := devices.lockFile_path d
  by_cases opened : h.IsOpen d
  · obtain ⟨index, object, holds, rfl⟩ := isOpen_iff.mp opened
    obtain ⟨refused, locks⟩ :=
      fhsLock_own named told (sound.own index object holds) (readable opened)
    obtain ⟨reported, throws⟩ := refuses refused
    exact ⟨h, portCall_refused locks reported throws, sound⟩
  · cases granted : o.lock.grants (devices.lock d) h.world.dir with
    | false =>
      obtain ⟨dir, locks, kept⟩ := fhsLock_refused named told granted
      obtain ⟨reported, throws⟩ := refuses granted
      exact ⟨_, portCall_refused locks reported throws,
        sound.refused opened (kept.imp_right And.left)⟩
    | true =>
      obtain ⟨reported, enough, obtains⟩ := grants granted
      rcases sound.preopened with ⟨before, entries, lists, positive⟩
      have locks := fhsLock_granted named told granted
      rw [lockinfo_written enough] at locks
      obtain ⟨fd, preopened, descriptors, entries', found, opens, lists', positive'⟩ :=
        openLocked_obtains (w := { h.world with
          dir := Function.update h.world.dir (devices.lock d) (some (lockinfo proc.pid)) })
          lists positive (obtains before entries lists)
      refine ⟨_, ?_, sound.granted opened found descriptors ⟨before, entries', lists', positive'⟩⟩
      simp [portCall, rxtxPortOpen, locks, sprintf_reported reported, opens, Bind.bind, Except.bind,
        Pure.pure, Except.pure]

theorem open_failed_leaks {devices : DevicePaths P} {h : PortHistory P} {d : P}
    (unopened : ¬ h.IsOpen d) {o : OpenOutcome proc}
    (told : o.lock.Told (devices.lock d) h.world.dir)
    (granted : o.lock.grants (devices.lock d) h.world.dir = true) (enough : 11 ≤ o.lock.written)
    (reported : Reported o.lock.survives (lockingWorked (devices.path d))) (throws : o.Throws)
    (missed : findPreopenedPorts (devices.path d) h.world.preopened = .ok (0, h.world.preopened))
    (fails : configurePort o o.descriptor ≠ 0) :
    ∃ h', portCall devices (.rxtxOpen d o) h = some h' ∧ ¬ LockHeld proc devices h' := by
  have locks := fhsLock_granted (devices.lockFile_path d) told granted
  rw [lockinfo_written enough] at locks
  obtain ⟨after, opens, entry⟩ : ∃ after, rxtxPortOpen o (devices.path d) h.world =
      .ok (none, after) ∧ after.dir (devices.lock d) = some (lockinfo proc.pid) := by
    by_cases descriptor : 0 ≤ o.descriptor
    · refine ⟨{ h.world with
        dir := Function.update h.world.dir (devices.lock d) (some (lockinfo proc.pid))
        descriptors := o.descriptor :: h.world.descriptors }, ?_, Function.update_self ..⟩
      simp [rxtxPortOpen, openLocked, locks, sprintf_reported reported, throwPortInUse_throws throws,
        missed, fails, descriptor, Bind.bind, Except.bind, Pure.pure, Except.pure]
    · refine ⟨{ h.world with
        dir := Function.update h.world.dir (devices.lock d) (some (lockinfo proc.pid)) }, ?_,
        Function.update_self ..⟩
      simp [rxtxPortOpen, openLocked, locks, sprintf_reported reported, throwPortInUse_throws throws,
        missed, fails, descriptor, Bind.bind, Except.bind, Pure.pure, Except.pure]
  refine ⟨{ h with
    world := after
    leaked := h.leaked ++ after.descriptors.diff h.world.descriptors }, ?_, ?_⟩
  · simp only [portCall, opens]
  · intro held
    exact unopened ((held.held_iff d).mp ⟨_, entry, carries_lockinfo proc⟩)

theorem holds_set {h h' : PortHistory P} {index : Nat} {new : Opened P}
    (replaced : h'.opened = h.opened.set index new) (shut : new.closed = true) {j : Nat}
    {object : Opened P} : h'.Holds j object ↔ j ≠ index ∧ h.Holds j object := by
  unfold PortHistory.Holds
  rw [replaced]
  by_cases same : j = index
  · subst same
    rw [List.getElem?_set_self']
    constructor
    · intro held
      rcases held with ⟨at_index, opened⟩
      cases entry : h.opened[j]? with
      | none => simp [entry] at at_index
      | some old =>
        rw [entry] at at_index
        obtain rfl : new = object := Option.some.inj at_index
        rw [shut] at opened
        cases opened
    · intro held
      rcases held with ⟨other, -⟩
      exact absurd rfl other
  · rw [List.getElem?_set_ne (Ne.symm same)]
    simp [same]

theorem portCall_closes {devices : DevicePaths P} {h : PortHistory P} {index : Nat}
    {object : Opened P} (entry : h.opened[index]? = some object) {o : UnlockOutcome} {w : PortWorld}
    (closes : rxtxPortNativeClose proc o object.port h.world = .ok w) :
    portCall devices (.nativeClose index o : PortCall P proc) h = some { h with
      world := w
      opened := h.opened.set index
        { object with port := { object.port with fd := 0 }, closed := true } } := by
  simp only [portCall, entry, closes]

theorem PortsSound.nativeClose {devices : DevicePaths P} {h : PortHistory P}
    (sound : PortsSound proc devices h) {index : Nat} {o : UnlockOutcome}
    (readable : o.readable = true) (unlinks : o.unlinks = true) :
    ∃ h', portCall devices (.nativeClose index o : PortCall P proc) h = some h' ∧
      PortsSound proc devices h' := by
  cases entry : h.opened[index]? with
  | none => exact ⟨h, by simp only [portCall, entry], sound⟩
  | some object =>
    cases shut : object.closed with
    | true =>
      have zero := sound.closed object (List.mem_of_getElem? entry) shut
      have closes : rxtxPortNativeClose proc o object.port h.world = .ok h.world := by
        simp [rxtxPortNativeClose, zero, Pure.pure, Except.pure]
      have same :
          { object with port := { object.port with fd := 0 }, closed := true } = object := by
        rw [← zero, ← shut]
      refine ⟨_, portCall_closes entry closes, ?_⟩
      obtain ⟨inside, rfl⟩ := List.getElem?_eq_some_iff.mp entry
      rw [same, List.set_getElem_self]
      exact sound
    | false =>
      have holds : h.Holds index object := ⟨entry, shut⟩
      obtain ⟨named, positive, owner⟩ := sound.port index object holds
      have number : proc.pid ≠ 0 := proc.pid_pos.ne'
      have unlocks := fhsUnlock_own (devices.lockFile_path object.device)
        (sound.own index object holds) readable unlinks proc.pid
      have closes : rxtxPortNativeClose proc o object.port h.world = .ok { h.world with
          dir := Function.update h.world.dir (devices.lock object.device) none
          descriptors := h.world.descriptors.erase object.port.fd } := by
        simp [rxtxPortNativeClose, named, owner, number, positive, unlocks, Bind.bind, Except.bind,
          Pure.pure, Except.pure]
      have others {j : Nat} {other : Opened P} (different : j ≠ index) (held : h.Holds j other) :
          devices.lock other.device ≠ devices.lock object.device := fun same =>
        different (sound.unique j index other object held holds (devices.lock_injective same))
      refine ⟨_, portCall_closes entry closes, ?_, ?_, ?_, ?_, ?_, sound.preopened,
        sound.returned⟩
      · intro j other held
        obtain ⟨different, before⟩ := (holds_set rfl rfl).mp held
        exact (Function.update_of_ne (others different before) _ _).trans
          (sound.own j other before)
      · intro file content entry carries
        by_cases same : file = devices.lock object.device
        · subst same
          simp at entry
        · have before : h.world.dir file = some content :=
            (Function.update_of_ne same _ _).symm.trans entry
          obtain ⟨j, other, held, rfl⟩ := sound.foreign file content before carries
          have different : j ≠ index := by
            intro same
            rcases same with rfl
            rw [Option.some.inj (held.1.symm.trans holds.1)] at same
            exact same rfl
          exact ⟨j, other, (holds_set rfl rfl).mpr ⟨different, held⟩, rfl⟩
      · intro j other held
        exact sound.port j other ((holds_set rfl rfl).mp held).2
      · intro other member isShut
        rcases List.mem_or_eq_of_mem_set member with old | new
        · exact sound.closed other old isShut
        · rw [new]
      · intro i j left right holdsLeft holdsRight same
        exact sound.unique i j left right ((holds_set rfl rfl).mp holdsLeft).2
          ((holds_set rfl rfl).mp holdsRight).2 same

def ttyS0 : DevicePaths Unit where
  directory _ := ['/', 'd', 'e', 'v']
  component _ := ['t', 't', 'y', 'S', '0']
  plain _ := by decide
  fits _ := by decide
  distinct := Function.injective_of_subsingleton _

def process7 : Process := ⟨7, 1, by decide, by decide⟩

def noneOpen : PortHistory Unit := ⟨⟨fun _ => none, Ports.none, []⟩, [], []⟩

theorem noneOpen_begins : Begins process7 noneOpen where
  unlocked := by
    intro file content entry
    cases entry
  preopened := ⟨none, [], lists_none, by simp⟩
  closed := rfl
  returned := rfl

def opensAs3 (tcgetattr : Bool) : OpenOutcome process7 where
  lock := ⟨.ok true, true, [], 0, fun _ => false, rfl, true, true, [], 11, false⟩
  descriptor := 3
  tcgetattr := tcgetattr
  cfsetispeed := true
  cfsetospeed := true
  tcsetattr := true
  strerror := "Input/output error".toList

end Rxtx.SerialImp
