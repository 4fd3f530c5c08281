import Rxtx.SerialImp.StaticQueries

open FlagWord LinkedHeap

namespace Rxtx.SerialImp

inductive DeviceRequest where
  | tiocmset (fd : Int) (word : BitVec 32)
  | tiocsserial (fd customDivisor : Int)
  | tcsetattr (fd : Int) (ttyset : TtySet)

structure StaticWorld where
  ports : PortWorld
  requests : List DeviceRequest

/-- What the system answers during a static setter: the calls that `open` makes too, the ones of
    `fhs_unlock`, and those that set the line or the parameters. `result` and `baudBase` are in
    variables that were not initialised. -/
structure SetterOutcome (proc : Process) where
  opening : OpenOutcome proc
  unlock : UnlockOutcome
  tiocmget : Option (BitVec 32)
  result : BitVec 32
  tcgetattr : Option TtySet
  cfsetispeed : Int → TtySet → Bool × TtySet
  cfsetospeed : Int → TtySet → Bool × TtySet
  hangsUp : ∀ ttyset, (cfsetispeed 0 ttyset).1 = true ∧ (cfsetospeed 0 ttyset).1 = true
  baudBase : Int
  tiocsserial : Bool
  tcsetattr : Bool
  strerror : String

structure UnsupportedCommOperation where
  method : String
  message : String
  deriving DecidableEq, Repr

variable {proc : Process}

def TermiosHeader.translateSpeed (header : TermiosHeader) (speed : Int) : Int :=
  match header.speeds.find? fun pair => pair.2 = speed with
  | some pair => pair.1.toInt
  | none => if speed ≥ 0 then speed else -1

def SetterOutcome.setSpeed (o : SetterOutcome proc) (cspeed : Int) (ttyset : TtySet) :
    Bool × TtySet :=
  let (set, ttyset) := o.cfsetispeed cspeed ttyset
  if set then o.cfsetospeed cspeed ttyset else (false, ttyset)

def setPortParams (header : TermiosHeader) (o : SetterOutcome proc)
    (fd cspeed dataBits stopBits parity : Int) : Int × List DeviceRequest :=
  let apply (requests : List DeviceRequest) (ttyset : TtySet) :=
    (if o.tcsetattr then 0 else 1, requests ++ [.tcsetattr fd ttyset])
  match o.tcgetattr with
  | none => (1, [])
  | some ttyset =>
    match translateLineParams header.masks ttyset.cCflag dataBits stopBits parity with
    | none => (1, [])
    | some cflag =>
      let requests := if cspeed = 0 then
        [.tiocmset fd (clear (o.tiocmget.getD 0) tiocmDtr)] else []
      let (set, ttyset) := o.setSpeed cspeed { ttyset with cCflag := cflag }
      if set then apply requests ttyset
      else
        -- cspeed is not 0 here, as B0 can always be set
        let customDivisor := o.baudBase.tdiv cspeed
        let (set, ttyset) := o.setSpeed (header.translateSpeed 38400) ttyset
        if !set then (1, requests)
        else if o.baudBase < 1 then (1, requests)
        else
          let requests := requests ++ [.tiocsserial fd customDivisor]
          if o.tiocsserial then apply requests ttyset else (1, requests)

/-- The lock, the lookup and otherwise `OPEN` and `configure_port`: as in `open`, without its
    reports. -/
def staticOpen (o : OpenOutcome proc) (filename : CString) (w : PortWorld) :
    Except Fault (Option Int × PortWorld) := do
  let (failed, dir) ← fhsLock o.lock filename w.dir
  let w := { w with dir }
  if failed ≠ 0 then return (none, w)
  openLocked o filename w

/-- The four setters. `failed` is what label `fail` returns, `negative` what a descriptor below 0
    gives; `body` makes the requests and says what the call returns if it ends there. -/
def nativeStaticSet {R : Type} (allocator : Allocator Preopened) (o : SetterOutcome proc)
    (filename : CString) (failed negative done : R)
    (body : Int → List DeviceRequest × Option R) (w : StaticWorld) :
    Except Fault (R × StaticWorld) := do
  let (fd, ports) ← staticOpen o.opening filename w.ports
  let w := { w with ports }
  match fd with
  | none => return (failed, w)
  | some fd =>
    if fd < 0 then return (negative, w)
    let w := { w with requests := w.requests ++ (body fd).1 }
    match (body fd).2 with
    | some thrown => return (thrown, w)
    | none =>
      let dir ← fhsUnlock proc o.unlock filename proc.pid w.ports.dir
      let preopened ← staticAddFilename allocator filename fd w.ports.preopened
      return (done, { w with ports := { w.ports with dir, preopened } })

def setLineBody (o : SetterOutcome proc) (mask : BitVec 32) (flag : Bool) (fd : Int) :
    List DeviceRequest × Option Bool :=
  ([.tiocmset fd (assign (o.tiocmget.getD o.result) mask flag)], none)

def nativeStaticSetLine (mask : BitVec 32) (allocator : Allocator Preopened)
    (o : SetterOutcome proc) (filename : CString) (flag : Bool) (w : StaticWorld) :
    Except Fault (Bool × StaticWorld) :=
  nativeStaticSet allocator o filename false false true (setLineBody o mask flag) w

def nativeStaticSetDSR (allocator : Allocator Preopened) (o : SetterOutcome proc) :=
  nativeStaticSetLine tiocmDsr allocator o

def nativeStaticSetRTS (allocator : Allocator Preopened) (o : SetterOutcome proc) :=
  nativeStaticSetLine tiocmRts allocator o

def nativeStaticSetDTR (allocator : Allocator Preopened) (o : SetterOutcome proc) :=
  nativeStaticSetLine tiocmDtr allocator o

def setParamsBody (header : TermiosHeader) (o : SetterOutcome proc)
    (baudrate dataBits stopBits parity fd : Int) :
    List DeviceRequest × Option (Option UnsupportedCommOperation) :=
  let cspeed := header.translateSpeed baudrate
  if cspeed = -1 then ([], some (some ⟨"", "BaudRate could not be set to the specified value"⟩))
  else
    let (failed, requests) := setPortParams header o fd cspeed dataBits stopBits parity
    (requests,
      if failed ≠ 0 then some (some ⟨"nativeStaticSetSerialPortParams", o.strerror⟩) else none)

def nativeStaticSetSerialPortParams (header : TermiosHeader) (allocator : Allocator Preopened)
    (o : SetterOutcome proc) (filename : CString) (baudrate dataBits stopBits parity : Int)
    (w : StaticWorld) : Except Fault (Option UnsupportedCommOperation × StaticWorld) :=
  nativeStaticSet allocator o filename none
    (some ⟨"nativeStaticSetSerialPortParams", o.strerror⟩) none
    (setParamsBody header o baudrate dataBits stopBits parity) w

inductive StaticSetter where
  | dsr (flag : Bool)
  | rts (flag : Bool)
  | dtr (flag : Bool)
  | serialPortParams (baudrate dataBits stopBits parity : Int)
  deriving DecidableEq, Repr

def staticSet (header : TermiosHeader) (allocator : Allocator Preopened) (o : SetterOutcome proc)
    (setter : StaticSetter) (filename : CString) (w : StaticWorld) : Except Fault StaticWorld :=
  match setter with
  | .dsr flag => (nativeStaticSetDSR allocator o filename flag w).map Prod.snd
  | .rts flag => (nativeStaticSetRTS allocator o filename flag w).map Prod.snd
  | .dtr flag => (nativeStaticSetDTR allocator o filename flag w).map Prod.snd
  | .serialPortParams baudrate dataBits stopBits parity =>
    (nativeStaticSetSerialPortParams header allocator o filename baudrate dataBits stopBits parity
      w).map Prod.snd

def PortWorld.IsPreopened (w : PortWorld) (fd : Int) : Prop :=
  ∃ entry, w.preopened.heap.Reaches w.preopened.preopenedPort entry ∧ entry.fd = fd

structure Released (o : LockOutcome proc) (filename : CString) (before after : PortWorld) :
    Prop where
  lock : ∀ file, lockFile filename = .ok file → o.grants file before.dir = true →
    after.dir file = none
  preset : ∀ fd, before.IsPreopened fd → after.IsPreopened fd
  opened : ∀ fd ∈ after.descriptors, fd ∈ before.descriptors ∨ after.IsPreopened fd

/-- The lock file as the call wrote it can be read, names the process or its parent, and can be
    removed. -/
structure SetterOutcome.Unlocks (o : SetterOutcome proc) : Prop where
  readable : o.unlock.readable = true
  own : atolPid (readOver ((lockinfo proc.pid).take o.opening.lock.written) o.unlock.pidBuffer) ∈
    [(proc.pid : Int), (proc.ppid : Int)]
  unlinks : o.unlock.unlinks = true

/-- The preset descriptor, or the one of an `OPEN` whose device was configured. -/
def SetterOutcome.obtained (o : SetterOutcome proc) (entries : List Preopened)
    (filename : CString) : Option Int :=
  if presetFd entries filename ≠ 0 then some (presetFd entries filename)
  else if configurePort o.opening o.opening.descriptor = 0 then some o.opening.descriptor
  else none

def others (entries : List Preopened) (filename : CString) : List Preopened :=
  entries.filter fun entry => entry.filename ≠ filename

def StaticSetter.Accepted (header : TermiosHeader) (o : SetterOutcome proc) (fd : Int) :
    StaticSetter → Prop
  | .dsr _ | .rts _ | .dtr _ => True
  | .serialPortParams baudrate dataBits stopBits parity =>
    header.translateSpeed baudrate ≠ -1 ∧
      (setPortParams header o fd (header.translateSpeed baudrate) dataBits stopBits parity).1 = 0

/-- The call comes to the unlock with `fd`, can remove the lock file and can put the port back:
    each preopened descriptor is `fd` or that of the last other port. -/
structure Completes (header : TermiosHeader) (o : SetterOutcome proc) (setter : StaticSetter)
    (filename : CString) (before : Option Addr) (entries : List Preopened) (fd : Int) : Prop where
  obtained : o.obtained entries filename = some fd
  valid : 0 ≤ fd
  accepted : setter.Accepted header o fd
  unlocks : o.Unlocks
  short : filename.length < filenameSize
  notFirst : NotFirst before entries filename
  kept : ∀ entry ∈ entries, entry.fd = fd ∨
    ∃ last, (others entries filename).getLast? = some last ∧ entry.fd = last.fd

theorem nativeStaticSet_leaves {R : Type} (allocator : Allocator Preopened) {o : SetterOutcome proc}
    {filename : CString} (failed negative done : R) {body : Int → List DeviceRequest × Option R}
    {w : StaticWorld} {obtained : Option Int} {ports : PortWorld}
    (opens : staticOpen o.opening filename w.ports = .ok (obtained, ports))
    (leaves : ∀ fd, obtained = some fd → 0 ≤ fd → (body fd).2 ≠ none) :
    ∃ result requests, nativeStaticSet allocator o filename failed negative done body w =
      .ok (result, ⟨ports, requests⟩) := by
  cases obtained with
  | none =>
    exact ⟨failed, w.requests, by
      simp [nativeStaticSet, opens, Bind.bind, Except.bind, Pure.pure, Except.pure]⟩
  | some fd =>
    by_cases below : fd < 0
    · exact ⟨negative, w.requests, by
        simp [nativeStaticSet, opens, below, Bind.bind, Except.bind, Pure.pure, Except.pure]⟩
    · obtain ⟨thrown, ends⟩ := Option.ne_none_iff_exists'.mp (leaves fd rfl (not_lt.mp below))
      exact ⟨thrown, w.requests ++ (body fd).1, by
        simp [nativeStaticSet, opens, below, ends, Bind.bind, Except.bind, Pure.pure, Except.pure]⟩

theorem nativeStaticSet_goes {R : Type} (allocator : Allocator Preopened) {o : SetterOutcome proc}
    {filename : CString} (failed negative done : R) {body : Int → List DeviceRequest × Option R}
    {w : StaticWorld} {fd : Int} {ports : PortWorld}
    (opens : staticOpen o.opening filename w.ports = .ok (some fd, ports)) (valid : 0 ≤ fd)
    (goes : (body fd).2 = none) :
    nativeStaticSet allocator o filename failed negative done body w = (do
      let dir ← fhsUnlock proc o.unlock filename proc.pid ports.dir
      let preopened ← staticAddFilename allocator filename fd ports.preopened
      return (done, ⟨{ ports with dir, preopened }, w.requests ++ (body fd).1⟩)) := by
  simp [nativeStaticSet, opens, not_lt.mpr valid, goes, Bind.bind, Except.bind]

theorem setParamsBody_none (header : TermiosHeader) (o : SetterOutcome proc)
    (baudrate dataBits stopBits parity fd : Int) :
    (setParamsBody header o baudrate dataBits stopBits parity fd).2 = none ↔
      (StaticSetter.serialPortParams baudrate dataBits stopBits parity).Accepted header o fd := by
  by_cases speed : header.translateSpeed baudrate = -1 <;>
    simp [setParamsBody, StaticSetter.Accepted, speed]

theorem staticSet_body (header : TermiosHeader) (allocator : Allocator Preopened)
    (o : SetterOutcome proc) (setter : StaticSetter) (filename : CString) (w : StaticWorld) :
    ∃ (R : Type) (failed negative done : R) (body : Int → List DeviceRequest × Option R),
      staticSet header allocator o setter filename w =
        (nativeStaticSet allocator o filename failed negative done body w).map Prod.snd ∧
      ∀ fd, (body fd).2 = none ↔ setter.Accepted header o fd := by
  have line (mask : BitVec 32) (flag : Bool) (fd : Int) :
      (setLineBody o mask flag fd).2 = none ↔ True := iff_of_true rfl trivial
  cases setter with
  | dsr flag => exact ⟨Bool, false, false, true, setLineBody o tiocmDsr flag, rfl, line _ flag⟩
  | rts flag => exact ⟨Bool, false, false, true, setLineBody o tiocmRts flag, rfl, line _ flag⟩
  | dtr flag => exact ⟨Bool, false, false, true, setLineBody o tiocmDtr flag, rfl, line _ flag⟩
  | serialPortParams baudrate dataBits stopBits parity =>
    exact ⟨Option UnsupportedCommOperation, none, _, none, _, rfl,
      setParamsBody_none header o baudrate dataBits stopBits parity⟩

theorem staticSet_leaves (header : TermiosHeader) (allocator : Allocator Preopened)
    {o : SetterOutcome proc} {setter : StaticSetter} {filename : CString} {w : StaticWorld}
    {obtained : Option Int} {ports : PortWorld}
    (opens : staticOpen o.opening filename w.ports = .ok (obtained, ports))
    (leaves : ∀ fd, obtained = some fd → 0 ≤ fd → ¬ setter.Accepted header o fd) :
    ∃ requests, staticSet header allocator o setter filename w = .ok ⟨ports, requests⟩ := by
  obtain ⟨R, failed, negative, done, body, run, accepted⟩ :=
    staticSet_body header allocator o setter filename w
  obtain ⟨result, requests, ends⟩ := nativeStaticSet_leaves allocator failed negative done opens
    fun fd same valid none => leaves fd same valid ((accepted fd).mp none)
  exact ⟨requests, by rw [run, ends]; rfl⟩

theorem staticSet_goes (header : TermiosHeader) (allocator : Allocator Preopened)
    {o : SetterOutcome proc} {setter : StaticSetter} {filename : CString} {w : StaticWorld}
    {fd : Int} {ports : PortWorld}
    (opens : staticOpen o.opening filename w.ports = .ok (some fd, ports)) (valid : 0 ≤ fd)
    (goes : setter.Accepted header o fd) :
    ∃ requests, staticSet header allocator o setter filename w = (do
      let dir ← fhsUnlock proc o.unlock filename proc.pid ports.dir
      let preopened ← staticAddFilename allocator filename fd ports.preopened
      return ⟨{ ports with dir, preopened }, requests⟩) := by
  obtain ⟨R, failed, negative, done, body, run, accepted⟩ :=
    staticSet_body header allocator o setter filename w
  refine ⟨w.requests ++ (body fd).1, ?_⟩
  rw [run, nativeStaticSet_goes allocator failed negative done opens valid ((accepted fd).mpr goes)]
  cases fhsUnlock proc o.unlock filename proc.pid ports.dir with
  | error fault => rfl
  | ok dir =>
    simp only [Bind.bind, Except.bind]
    cases staticAddFilename allocator filename fd ports.preopened <;> rfl

theorem openLocked_eq {o : OpenOutcome proc} {filename : CString} {w : PortWorld} {fd : Int}
    {preopened : Ports} (finds : findPreopenedPorts filename w.preopened = .ok (fd, preopened)) :
    openLocked o filename w = .ok
      (if fd ≠ 0 then some fd else if configurePort o o.descriptor = 0 then some o.descriptor
        else none,
        ⟨w.dir, preopened,
          if fd = 0 ∧ 0 ≤ o.descriptor then o.descriptor :: w.descriptors
            else w.descriptors⟩) := by
  by_cases found : fd = 0
  · by_cases descriptor : 0 ≤ o.descriptor
    · by_cases configures : configurePort o o.descriptor = 0 <;>
        simp [openLocked, finds, found, descriptor, configures, Bind.bind, Except.bind, Pure.pure,
          Except.pure]
    · by_cases configures : configurePort o o.descriptor = 0 <;>
        simp [openLocked, finds, found, descriptor, configures, Bind.bind, Except.bind, Pure.pure,
          Except.pure]
  · simp [openLocked, finds, found, Bind.bind, Except.bind, Pure.pure, Except.pure]

theorem staticOpen_granted {o : OpenOutcome proc} {filename file : CString} {w : PortWorld}
    {fd : Int} {preopened : Ports} (named : lockFile filename = .ok file)
    (told : o.lock.Told file w.dir) (granted : o.lock.grants file w.dir = true)
    (finds : findPreopenedPorts filename w.preopened = .ok (fd, preopened)) :
    staticOpen o filename w = .ok
      (if fd ≠ 0 then some fd else if configurePort o o.descriptor = 0 then some o.descriptor
        else none,
        ⟨Function.update w.dir file (some ((lockinfo proc.pid).take o.lock.written)), preopened,
          if fd = 0 ∧ 0 ≤ o.descriptor then o.descriptor :: w.descriptors
            else w.descriptors⟩) := by
  have locks := fhsLock_granted named told granted
  have opens := openLocked_eq (o := o) (w := { w with
    dir := Function.update w.dir file (some ((lockinfo proc.pid).take o.lock.written)) }) finds
  simp only [staticOpen, locks, opens, Bind.bind, Except.bind, ne_eq, not_true_eq_false, if_false]

theorem staticOpen_refused {o : OpenOutcome proc} {filename file : CString} {w : PortWorld}
    (named : lockFile filename = .ok file) (told : o.lock.Told file w.dir)
    (refused : o.lock.grants file w.dir = false) :
    ∃ dir, staticOpen o filename w = .ok (none, { w with dir }) := by
  obtain ⟨dir, locks, -⟩ := fhsLock_refused named told refused
  exact ⟨dir, by simp [staticOpen, locks, Bind.bind, Except.bind, Pure.pure, Except.pure]⟩

theorem SetterOutcome.unlocks_iff {o : SetterOutcome proc} :
    o.unlock.removes proc ((lockinfo proc.pid).take o.opening.lock.written) proc.pid = true ↔
      o.Unlocks := by
  rw [UnlockOutcome.removes, Bool.and_eq_true, Bool.and_eq_true, Bool.not_eq_true', foreign_own]
  constructor
  · rintro ⟨⟨readable, own⟩, unlinks⟩
    exact ⟨readable, own, unlinks⟩
  · intro unlocks
    exact ⟨⟨unlocks.readable, unlocks.own⟩, unlocks.unlinks⟩

theorem SetterOutcome.Unlocks.told {o : SetterOutcome proc} (unlocks : o.Unlocks) :
    o.unlock.Told proc ((lockinfo proc.pid).take o.opening.lock.written) proc.pid := by
  intro _ foreign
  rw [foreign_own.mpr unlocks.own] at foreign
  cases foreign

theorem fhsUnlock_written {o : SetterOutcome proc} {filename file : CString} {dir dir' : LockDir}
    (named : lockFile filename = .ok file)
    (written : dir file = some ((lockinfo proc.pid).take o.opening.lock.written))
    (unlocked : fhsUnlock proc o.unlock filename proc.pid dir = .ok dir') :
    dir' file = none ↔ o.Unlocks := by
  rw [fhsUnlock_eq named written (fhsUnlock_told named written unlocked)] at unlocked
  rw [← Except.ok.inj unlocked, ← o.unlocks_iff]
  split_ifs with goes
  · exact iff_of_true (Function.update_self ..) goes
  · exact iff_of_false (by simp [written]) goes

theorem others_absent (entries : List Preopened) (filename : CString) :
    ∀ entry ∈ others entries filename, entry.filename ≠ filename := by
  intro entry member
  simpa [others] using (List.mem_filter.mp member).2

theorem others_of_absent {entries : List Preopened} {filename : CString}
    (absent : ∀ entry ∈ entries, entry.filename ≠ filename) :
    others entries filename = entries := by
  rw [others, List.filter_eq_self]
  simpa using absent

theorem others_split {pre post : List Preopened} {port : Preopened}
    (distinct : ((pre ++ port :: post).map Preopened.filename).Nodup) :
    others (pre ++ port :: post) port.filename = pre ++ post := by
  rw [List.map_append, List.map_cons, List.nodup_middle, List.nodup_cons] at distinct
  have absent : ∀ entry ∈ pre ++ post, entry.filename ≠ port.filename := by
    intro entry member same
    apply distinct.1
    rw [← List.map_append, ← same]
    exact List.mem_map_of_mem member
  have kept := others_of_absent absent
  simp only [others, List.filter_append] at kept ⊢
  rw [List.filter_cons_of_neg (by simp), kept]

theorem findPreopenedPorts_others {s : Ports} {before : Option Addr} {entries : List Preopened}
    (lists : s.Lists before entries) (distinct : (entries.map Preopened.filename).Nodup)
    (filename : CString) :
    ∃ s', findPreopenedPorts filename s = .ok (presetFd entries filename, s') ∧
      (NotFirst before entries filename → s'.Lists before (others entries filename)) ∧
      (¬ NotFirst before entries filename → s'.Dangles) := by
  rcases lists.find_cases filename with
    ⟨absent, finds⟩ | ⟨pre, port, post, rfl, rfl, skipped, s', finds, rest, dangles⟩
  · rw [presetFd_absent absent, others_of_absent absent]
    refine ⟨s, finds, fun _ => lists, fun first => absurd ?_ first⟩
    intro first rest split named
    exact absurd named (absent first (by simp [split]))
  · rw [presetFd_split skipped, others_split distinct]
    exact ⟨s', finds, rest, dangles⟩

theorem Ports.Lists.reaches_iff {s : Ports} {before : Option Addr} {entries : List Preopened}
    (lists : s.Lists before entries) {entry : Preopened} :
    s.heap.Reaches s.preopenedPort entry ↔ entry ∈ entries := by
  rcases lists with ⟨nodes, linked, rfl, -⟩
  rw [linked.head_eq]
  exact linked.segment.reaches_iff

theorem Ports.Lists.add (allocator : Allocator Preopened) {s : Ports} {before : Option Addr}
    {entries : List Preopened} (lists : s.Lists before entries) {filename : CString} (fd : Int)
    (short : filename.length < filenameSize)
    (absent : ∀ entry ∈ entries, entry.filename ≠ filename) :
    ∃ s', staticAddFilename allocator filename fd s = .ok s' ∧
      ∀ entry, s'.heap.Reaches s'.preopenedPort entry ↔
        entry = ⟨filename, fd⟩ ∨ entries.getLast? = some entry := by
  rcases lists with ⟨nodes, linked, rfl, -⟩
  rcases List.eq_nil_or_concat nodes with rfl | ⟨pre, last, rfl⟩
  · obtain ⟨heap, head, adds, linked'⟩ :=
      staticAddFilename_empty allocator filename fd short linked.head_eq
    have lists' : (⟨heap, head⟩ : Ports).Lists .none [⟨filename, fd⟩] :=
      ⟨_, linked', rfl, by simp⟩
    refine ⟨⟨heap, head⟩, adds, ?_⟩
    intro entry
    rw [lists'.reaches_iff]
    simp
  · rcases last with ⟨t, v⟩
    rw [List.concat_eq_append] at linked absent ⊢
    obtain ⟨heap, adds, linked'⟩ := staticAddFilename_absent allocator linked fd short (by
      intro node member
      exact absent node.2 (List.mem_map_of_mem member))
    have tail := linked'.segment
    rw [List.append_assoc, segment_append] at tail
    refine ⟨⟨heap, some t⟩, adds, ?_⟩
    intro entry
    have reaches := tail.2.reaches_iff (v := entry)
    simp only [List.cons_append, List.nil_append, firstOr, List.map_cons, List.map_nil,
      List.mem_cons, List.not_mem_nil, or_false] at reaches
    rw [reaches]
    simp [or_comm, eq_comm]

theorem staticAddFilename_long (allocator : Allocator Preopened) {s : Ports} {filename : CString}
    (fd : Int) (long : ¬ filename.length < filenameSize) :
    staticAddFilename allocator filename fd s = .error .overflow := by
  simp [staticAddFilename, strcpy, long, Bind.bind, Except.bind]

theorem Ports.Dangles.add {s : Ports} (dangles : s.Dangles) (filename : CString) (fd : Int) :
    ∃ allocator fault, staticAddFilename allocator filename fd s = .error fault := by
  rcases dangles with ⟨a, head, gone⟩
  refine ⟨.beyond a, ?_⟩
  by_cases short : filename.length < filenameSize
  · have still : (s.heap.alloc ((Allocator.beyond a).malloc s.heap)
        ⟨⟨filename, fd⟩, .none, .none⟩).cells a = .none := by
      rw [Heap.alloc_other _ _ (Allocator.beyond_ne a s.heap), gone]
    obtain ⟨fault, search⟩ := Heap.search_freed still (Preopened.named filename)
    exact ⟨fault, by
      simp [staticAddFilename, strcpy, short, head, search, Bind.bind, Except.bind]⟩
  · exact ⟨_, staticAddFilename_long _ fd short⟩

theorem staticSet_told {header : TermiosHeader} {allocator : Allocator Preopened}
    {o : SetterOutcome proc} {setter : StaticSetter} {filename : CString} {w w' : StaticWorld}
    (run : staticSet header allocator o setter filename w = .ok w') :
    ∃ file, lockFile filename = .ok file ∧ o.opening.lock.Told file w.ports.dir := by
  obtain ⟨R, failed, negative, done, body, same, -⟩ :=
    staticSet_body header allocator o setter filename w
  cases locks : fhsLock o.opening.lock filename w.ports.dir with
  | error fault =>
    have overflows : staticOpen o.opening filename w.ports = .error fault := by
      simp [staticOpen, locks, Bind.bind, Except.bind]
    simp [same, nativeStaticSet, overflows, Bind.bind, Except.bind, Except.map] at run
  | ok result =>
    obtain ⟨file, named, -⟩ := bind_eq_ok.mp locks
    exact ⟨file, named, fhsLock_told named locks⟩

theorem staticSet_refused (header : TermiosHeader) (allocator : Allocator Preopened)
    {o : SetterOutcome proc} (setter : StaticSetter) {filename file : CString} {w : StaticWorld}
    (named : lockFile filename = .ok file) (told : o.opening.lock.Told file w.ports.dir)
    (refused : o.opening.lock.grants file w.ports.dir = false) :
    ∃ w', staticSet header allocator o setter filename w = .ok w' ∧
      Released o.opening.lock filename w.ports w'.ports := by
  obtain ⟨dir, opens⟩ := staticOpen_refused named told refused
  have leaves : ∀ fd, none = some fd → 0 ≤ fd → ¬ setter.Accepted header o fd := by simp
  obtain ⟨requests, run⟩ := staticSet_leaves header allocator opens leaves
  refine ⟨_, run, ?_, fun fd before => before, fun fd member => .inl member⟩
  intro other same granted
  obtain rfl : file = other := Except.ok.inj (named.symm.trans same)
  rw [refused] at granted
  cases granted

theorem staticOpen_obtained {o : SetterOutcome proc} {filename file : CString}
    {before : Option Addr} {entries : List Preopened} {w : StaticWorld}
    (lists : w.ports.preopened.Lists before entries)
    (distinct : (entries.map Preopened.filename).Nodup)
    (named : lockFile filename = .ok file) (told : o.opening.lock.Told file w.ports.dir)
    (granted : o.opening.lock.grants file w.ports.dir = true) :
    ∃ ports, staticOpen o.opening filename w.ports = .ok (o.obtained entries filename, ports) ∧
      ports.dir file = some ((lockinfo proc.pid).take o.opening.lock.written) ∧
      (NotFirst before entries filename → ports.preopened.Lists before (others entries filename)) ∧
      (¬ NotFirst before entries filename → ports.preopened.Dangles) ∧
      ∀ fd ∈ ports.descriptors, fd ∈ w.ports.descriptors ∨
        o.obtained entries filename = some fd ∨ o.obtained entries filename = none := by
  obtain ⟨preopened, finds, listed, dangles⟩ := findPreopenedPorts_others lists distinct filename
  refine ⟨_, staticOpen_granted named told granted finds, Function.update_self .., listed, dangles,
    ?_⟩
  intro fd member
  by_cases opened : presetFd entries filename = 0 ∧ 0 ≤ o.opening.descriptor
  · rw [if_pos opened] at member
    rcases List.mem_cons.mp member with rfl | before
    · by_cases configures : configurePort o.opening o.opening.descriptor = 0 <;>
        simp [SetterOutcome.obtained, opened.1, configures]
    · exact .inl before
  · rw [if_neg opened] at member
    exact .inl member

theorem completes_of_released {header : TermiosHeader} {o : SetterOutcome proc}
    {setter : StaticSetter} {filename file : CString} {before : Option Addr}
    {entries : List Preopened} {w : StaticWorld} (lists : w.ports.preopened.Lists before entries)
    (distinct : (entries.map Preopened.filename).Nodup)
    (named : lockFile filename = .ok file) (told : o.opening.lock.Told file w.ports.dir)
    (granted : o.opening.lock.grants file w.ports.dir = true)
    (releases : ∀ allocator, ∃ w', staticSet header allocator o setter filename w = .ok w' ∧
      Released o.opening.lock filename w.ports w'.ports) :
    ∃ fd, Completes header o setter filename before entries fd := by
  obtain ⟨ports, opens, written, listed, dangles, -⟩ :=
    staticOpen_obtained lists distinct named told granted
  have goes : ∃ fd, o.obtained entries filename = some fd ∧ 0 ≤ fd ∧
      setter.Accepted header o fd := by
    by_contra stops
    obtain ⟨requests, ends⟩ := staticSet_leaves header .bump opens fun fd same valid accepted =>
      stops ⟨fd, same, valid, accepted⟩
    obtain ⟨w', run, released⟩ := releases .bump
    obtain rfl := Except.ok.inj (ends.symm.trans run)
    have freed := released.lock file named granted
    simp [written] at freed
  rcases goes with ⟨fd, obtained, valid, accepted⟩
  rw [obtained] at opens
  have adds (allocator : Allocator Preopened) : ∃ dir preopened,
      fhsUnlock proc o.unlock filename proc.pid ports.dir = .ok dir ∧
      staticAddFilename allocator filename fd ports.preopened = .ok preopened ∧
      Released o.opening.lock filename w.ports { ports with dir, preopened } := by
    obtain ⟨w', run, released⟩ := releases allocator
    obtain ⟨requests, through⟩ := staticSet_goes header allocator opens valid accepted
    rw [through] at run
    obtain ⟨dir, unlocked, rest⟩ := bind_eq_ok.mp run
    obtain ⟨preopened, added, same⟩ := bind_eq_ok.mp rest
    obtain rfl := Except.ok.inj same
    exact ⟨dir, preopened, unlocked, added, released⟩
  obtain ⟨dir, preopened, unlocked, added, released⟩ := adds .bump
  have removed := fhsUnlock_written named written unlocked
  have short : filename.length < filenameSize := by
    by_contra long
    rw [staticAddFilename_long .bump fd long] at added
    cases added
  have notFirst : NotFirst before entries filename := by
    by_contra first
    obtain ⟨allocator, fault, fails⟩ := (dangles first).add filename fd
    obtain ⟨-, _, -, succeeds, -⟩ := adds allocator
    rw [fails] at succeeds
    cases succeeds
  refine ⟨fd, obtained, valid, accepted, removed.mp (released.lock file named granted), short,
    notFirst, ?_⟩
  intro entry member
  obtain ⟨s', adds', reaches⟩ := (listed notFirst).add .bump fd short (others_absent _ _)
  obtain rfl : preopened = s' := Except.ok.inj (added.symm.trans adds')
  obtain ⟨still, met, same⟩ := released.preset entry.fd ⟨entry, lists.reaches_iff.mpr member, rfl⟩
  rcases (reaches still).mp met with rfl | last
  · exact .inl same.symm
  · exact .inr ⟨still, last, same.symm⟩

theorem released_of_completes {header : TermiosHeader} {o : SetterOutcome proc}
    {setter : StaticSetter} {filename file : CString} {before : Option Addr}
    {entries : List Preopened} {w : StaticWorld} (lists : w.ports.preopened.Lists before entries)
    (distinct : (entries.map Preopened.filename).Nodup)
    (named : lockFile filename = .ok file) (told : o.opening.lock.Told file w.ports.dir)
    (granted : o.opening.lock.grants file w.ports.dir = true) {fd : Int}
    (completes : Completes header o setter filename before entries fd)
    (allocator : Allocator Preopened) :
    ∃ w', staticSet header allocator o setter filename w = .ok w' ∧
      Released o.opening.lock filename w.ports w'.ports := by
  obtain ⟨ports, opens, written, listed, -, descriptors⟩ :=
    staticOpen_obtained lists distinct named told granted
  rcases completes with ⟨obtained, valid, accepted, removes, short, notFirst, kept⟩
  rw [obtained] at opens
  obtain ⟨requests, through⟩ := staticSet_goes header allocator opens valid accepted
  obtain ⟨dir, unlocks⟩ : ∃ dir, fhsUnlock proc o.unlock filename proc.pid ports.dir = .ok dir :=
    ⟨_, fhsUnlock_eq named written removes.told⟩
  have removed := fhsUnlock_written named written unlocks
  obtain ⟨preopened, added, reaches⟩ :=
    (listed notFirst).add allocator fd short (others_absent _ _)
  have new : ({ ports with dir, preopened } : PortWorld).IsPreopened fd :=
    ⟨⟨filename, fd⟩, (reaches _).mpr (.inl rfl), rfl⟩
  refine ⟨⟨{ ports with dir, preopened }, requests⟩, ?_, ?_, ?_, ?_⟩
  · rw [through, unlocks]
    simp [added, Bind.bind, Except.bind, Pure.pure, Except.pure]
  · intro other same _
    obtain rfl : file = other := Except.ok.inj (named.symm.trans same)
    exact removed.mpr removes
  · intro preset before
    rcases before with ⟨entry, met, rfl⟩
    rcases kept entry (lists.reaches_iff.mp met) with same | ⟨last, final, same⟩
    · rw [same]
      exact new
    · exact ⟨last, (reaches last).mpr (.inr final), same.symm⟩
  · intro opened member
    rcases descriptors opened member with before | same | stopped
    · exact .inl before
    · obtain rfl : fd = opened := Option.some.inj (obtained.symm.trans same)
      exact .inr new
    · rw [obtained] at stopped
      cases stopped

theorem granted_released_iff {header : TermiosHeader} {o : SetterOutcome proc}
    {setter : StaticSetter} {filename file : CString} {before : Option Addr}
    {entries : List Preopened} {w : StaticWorld} (lists : w.ports.preopened.Lists before entries)
    (distinct : (entries.map Preopened.filename).Nodup)
    (named : lockFile filename = .ok file) (told : o.opening.lock.Told file w.ports.dir)
    (granted : o.opening.lock.grants file w.ports.dir = true) :
    (∀ allocator, ∃ w', staticSet header allocator o setter filename w = .ok w' ∧
        Released o.opening.lock filename w.ports w'.ports) ↔
      ∃ fd, Completes header o setter filename before entries fd := by
  constructor
  · intro releases
    exact completes_of_released lists distinct named told granted releases
  · rintro ⟨fd, completes⟩ allocator
    exact released_of_completes lists distinct named told granted completes allocator

def setsAs3 : SetterOutcome process7 where
  opening := opensAs3 true
  unlock := ⟨true, [], true, false⟩
  tiocmget := some tiocmDtr
  result := 0
  tcgetattr := some ⟨0o2275, 0o15, 0o15⟩
  cfsetispeed _ ttyset := (true, ttyset)
  cfsetospeed _ ttyset := (true, ttyset)
  hangsUp _ := ⟨rfl, rfl⟩
  baudBase := 115200
  tiocsserial := true
  tcsetattr := true
  strerror := "Success"

theorem setsAs3_completes :
    Completes .linux setsAs3 (.dtr false) preset5.filename none [preset5] 5 where
  obtained := rfl
  valid := by decide
  accepted := trivial
  unlocks := by
    have written : (lockinfo process7.pid).take 11 = lockinfo process7.pid :=
      lockinfo_written (Nat.le_refl 11)
    have own := (lockinfo_read process7.pid_small [] 0).2
    refine ⟨rfl, ?_, rfl⟩
    show atolPid (readOver ((lockinfo process7.pid).take 11) []) ∈ _
    rw [written, own]
    exact List.mem_cons_self
  short := by decide
  notFirst := by
    intro first rest split _
    cases split
    exact ⟨rfl, rfl⟩
  kept := by
    intro entry member
    rw [List.mem_singleton.mp member]
    exact .inl rfl

theorem setsAs3_told (file : CString) : setsAs3.opening.lock.Told file fun _ => none :=
  ⟨⟨true, rfl⟩, fun _ stale => (by cases stale), fun _ collides => (by cases collides)⟩

end Rxtx.SerialImp
