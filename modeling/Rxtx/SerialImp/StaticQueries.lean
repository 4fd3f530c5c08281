import Rxtx.SerialImp.LineParams
import Rxtx.SerialImp.OpenClose

open LinkedHeap Runs

namespace Rxtx.SerialImp

def tiocmDtr : BitVec 32 := 0x002
def tiocmRts : BitVec 32 := 0x004
def tiocmCts : BitVec 32 := 0x020
def tiocmCd : BitVec 32 := 0x040
def tiocmRi : BitVec 32 := 0x080
def tiocmDsr : BitVec 32 := 0x100

structure TtySet where
  cCflag : TcFlag
  ispeed : TcFlag
  ospeed : TcFlag

/-- The headers of the system. `speeds` has the constants it defines, in the order of the `case`s;
    `cbaud` is what `#if defined(CBAUD)` tests. -/
structure TermiosHeader where
  masks : CFlagMasks
  speeds : List (TcFlag × Int)
  cbaud : Option TcFlag

structure Ttys where
  tiocmget : Int → Option (BitVec 32)
  tcgetattr : Int → Option TtySet

def getJavaBaudrate (speeds : List (TcFlag × Int)) (nativeSpeed : TcFlag) : Int :=
  (speeds.lookup nativeSpeed).getD (-1)

def TermiosHeader.baudrate (header : TermiosHeader) (ttyset : TtySet) : Int :=
  match header.cbaud with
  | some cbaud => getJavaBaudrate header.speeds (ttyset.cCflag &&& cbaud)
  | none =>
    if ttyset.ispeed ≠ ttyset.ospeed then -1 else getJavaBaudrate header.speeds ttyset.ispeed

/-- `result` stays 0 where the `ioctl` fails. -/
def nativeStaticIs (mask : BitVec 32) (ttys : Ttys) (filename : CString) (s : Ports) :
    Except Fault (Bool × Ports) := do
  let (fd, s) ← findPreopenedPorts filename s
  if fd = 0 then return (false, s)
  let result := (ttys.tiocmget fd).getD 0
  return (result &&& mask ≠ 0, s)

def nativeStaticIsRTS := nativeStaticIs tiocmRts
def nativeStaticIsDSR := nativeStaticIs tiocmDsr
def nativeStaticIsDTR := nativeStaticIs tiocmDtr
def nativeStaticIsCD := nativeStaticIs tiocmCd
def nativeStaticIsCTS := nativeStaticIs tiocmCts
def nativeStaticIsRI := nativeStaticIs tiocmRi

variable (header : TermiosHeader)

def nativeStaticGetBaudRate (ttys : Ttys) (filename : CString) (s : Ports) :
    Except Fault (Int × Ports) := do
  let (fd, s) ← findPreopenedPorts filename s
  if fd = 0 then return (-1, s)
  match ttys.tcgetattr fd with
  | none => return (-1, s)
  | some ttyset => return (header.baudrate ttyset, s)

def Ttys.cCflag (ttys : Ttys) (fd : Int) : Option TcFlag := (ttys.tcgetattr fd).map TtySet.cCflag

inductive StaticQuery where
  | isRTS
  | isDSR
  | isDTR
  | isCD
  | isCTS
  | isRI
  | getBaudRate
  | getDataBits
  | getParity
  | getStopBits
  deriving DecidableEq, Repr

inductive StaticAnswer where
  | jboolean (is : Bool)
  | jint (value : Int)
  deriving DecidableEq, Repr

structure QueryCall where
  query : StaticQuery
  filename : CString
  ttys : Ttys

def staticQuery (c : QueryCall) (s : Ports) : Except Fault (StaticAnswer × Ports) :=
  let is (run : Ttys → CString → Ports → Except Fault (Bool × Ports)) :=
    (run c.ttys c.filename s).map (Prod.map .jboolean id)
  let get (result : Except Fault (Int × Ports)) := result.map (Prod.map .jint id)
  match c.query with
  | .isRTS => is nativeStaticIsRTS
  | .isDSR => is nativeStaticIsDSR
  | .isDTR => is nativeStaticIsDTR
  | .isCD => is nativeStaticIsCD
  | .isCTS => is nativeStaticIsCTS
  | .isRI => is nativeStaticIsRI
  | .getBaudRate => get (nativeStaticGetBaudRate header c.ttys c.filename s)
  | .getDataBits => get (nativeStaticGetDataBits header.masks c.ttys.cCflag c.filename s)
  | .getParity => get (nativeStaticGetParity header.masks c.ttys.cCflag c.filename s)
  | .getStopBits => get (nativeStaticGetStopBits header.masks c.ttys.cCflag c.filename s)

def presetFd (entries : List Preopened) (filename : CString) : Int :=
  ((entries.find? (Preopened.named filename)).map Preopened.fd).getD 0

def lineOf (mask : BitVec 32) (ttys : Ttys) (fd : Int) : Bool :=
  fd ≠ 0 ∧ (ttys.tiocmget fd).getD 0 &&& mask ≠ 0

def settingOf (read : TtySet → Int) (ttys : Ttys) (fd : Int) : Int :=
  if fd = 0 then -1 else ((ttys.tcgetattr fd).map read).getD (-1)

/-- The answer that descriptor `fd` gives, or that of a port that was not preopened if it is 0. -/
def StaticQuery.answer (ttys : Ttys) (fd : Int) : StaticQuery → StaticAnswer
  | .isRTS => .jboolean (lineOf tiocmRts ttys fd)
  | .isDSR => .jboolean (lineOf tiocmDsr ttys fd)
  | .isDTR => .jboolean (lineOf tiocmDtr ttys fd)
  | .isCD => .jboolean (lineOf tiocmCd ttys fd)
  | .isCTS => .jboolean (lineOf tiocmCts ttys fd)
  | .isRI => .jboolean (lineOf tiocmRi ttys fd)
  | .getBaudRate => .jint (settingOf header.baudrate ttys fd)
  | .getDataBits => .jint (settingOf (fun t => dataBitsSwitch header.masks t.cCflag) ttys fd)
  | .getParity => .jint (settingOf (fun t => paritySwitch header.masks t.cCflag) ttys fd)
  | .getStopBits => .jint (settingOf (fun t => stopBitsSwitch header.masks t.cCflag) ttys fd)

def QueryCall.due (entries : List Preopened) (c : QueryCall) : StaticAnswer :=
  c.query.answer header c.ttys (presetFd entries c.filename)

/-- The ports are preopened as `entries` says, and an `open` of one of them that gets its lock, and
    whose reports fit, returns the preset descriptor, whatever the device would answer to an `OPEN`
    or a setting. -/
structure Preset (entries : List Preopened) (s : Ports) : Prop where
  lists : ∃ before, s.Lists before entries
  opens : ∀ (proc : Process) (o : OpenOutcome proc) (filename file : CString) (w : PortWorld),
    lockFile filename = .ok file → o.lock.Told file w.dir → o.lock.grants file w.dir = true →
    Reported o.lock.survives (lockingWorked filename) → w.preopened = s →
    presetFd entries filename ≠ 0 → ∃ w',
      rxtxPortOpen o filename w = .ok (some (presetFd entries filename), w') ∧
        w'.descriptors = w.descriptors

theorem nativeStaticIs_found {filename : CString} {s s' : Ports} {fd : Int}
    (found : findPreopenedPorts filename s = .ok (fd, s')) (mask : BitVec 32) (ttys : Ttys) :
    nativeStaticIs mask ttys filename s = .ok (lineOf mask ttys fd, s') := by
  by_cases known : fd = 0 <;>
    simp [nativeStaticIs, lineOf, found, known, Bind.bind, Except.bind, Pure.pure, Except.pure]

theorem nativeStaticGetBaudRate_found {filename : CString} {s s' : Ports} {fd : Int}
    (found : findPreopenedPorts filename s = .ok (fd, s')) (ttys : Ttys) :
    nativeStaticGetBaudRate header ttys filename s =
      .ok (settingOf header.baudrate ttys fd, s') := by
  by_cases known : fd = 0
  · simp [nativeStaticGetBaudRate, settingOf, found, known, Bind.bind, Except.bind, Pure.pure,
      Except.pure]
  · cases settings : ttys.tcgetattr fd <;>
      simp [nativeStaticGetBaudRate, settingOf, found, known, settings, Bind.bind, Except.bind,
        Pure.pure, Except.pure]

theorem nativeStaticGet_found {filename : CString} {s s' : Ports} {fd : Int}
    (found : findPreopenedPorts filename s = .ok (fd, s')) (switch : TcFlag → Int) (ttys : Ttys) :
    nativeStaticGet switch ttys.cCflag filename s =
      .ok (settingOf (fun t => switch t.cCflag) ttys fd, s') := by
  by_cases known : fd = 0
  · simp [nativeStaticGet, settingOf, found, known, Bind.bind, Except.bind, Pure.pure, Except.pure]
  · cases settings : ttys.tcgetattr fd <;>
      simp [nativeStaticGet, settingOf, Ttys.cCflag, found, known, settings, Bind.bind, Except.bind,
        Pure.pure, Except.pure]

theorem staticQuery_found {c : QueryCall} {s s' : Ports} {fd : Int}
    (found : findPreopenedPorts c.filename s = .ok (fd, s')) :
    staticQuery header c s = .ok (c.query.answer header c.ttys fd, s') := by
  have is := nativeStaticIs_found found
  have get := nativeStaticGet_found found
  have baud := nativeStaticGetBaudRate_found header found
  rcases c with ⟨query, filename, ttys⟩
  cases query with
  | isRTS => exact congrArg (Except.map _) (is tiocmRts ttys)
  | isDSR => exact congrArg (Except.map _) (is tiocmDsr ttys)
  | isDTR => exact congrArg (Except.map _) (is tiocmDtr ttys)
  | isCD => exact congrArg (Except.map _) (is tiocmCd ttys)
  | isCTS => exact congrArg (Except.map _) (is tiocmCts ttys)
  | isRI => exact congrArg (Except.map _) (is tiocmRi ttys)
  | getBaudRate => exact congrArg (Except.map _) (baud ttys)
  | getDataBits => exact congrArg (Except.map _) (get (dataBitsSwitch header.masks) ttys)
  | getParity => exact congrArg (Except.map _) (get (paritySwitch header.masks) ttys)
  | getStopBits => exact congrArg (Except.map _) (get (stopBitsSwitch header.masks) ttys)

theorem presetFd_absent {entries : List Preopened} {filename : CString}
    (absent : ∀ entry ∈ entries, entry.filename ≠ filename) : presetFd entries filename = 0 := by
  have nothing : entries.find? (Preopened.named filename) = none := by
    simpa [List.find?_eq_none, Preopened.named] using absent
  simp [presetFd, nothing]

theorem presetFd_split {pre post : List Preopened} {port : Preopened}
    (skipped : ∀ entry ∈ pre, entry.filename ≠ port.filename) :
    presetFd (pre ++ port :: post) port.filename = port.fd := by
  have skip : pre.find? (Preopened.named port.filename) = none := by
    simpa [List.find?_eq_none, Preopened.named] using skipped
  simp [presetFd, List.find?_append, skip, Preopened.named]

theorem Ports.Lists.find {s : Ports} {before : Option Addr} {entries : List Preopened}
    (lists : s.Lists before entries) (filename : CString) :
    ∃ s', findPreopenedPorts filename s = .ok (presetFd entries filename, s') ∧
      ((∃ before', s'.Lists before' entries) ↔ ∀ entry ∈ entries, entry.filename ≠ filename) := by
  rcases lists.find_cases filename with
    ⟨absent, finds⟩ | ⟨pre, port, post, rfl, rfl, skipped, s', finds, rest, dangles⟩
  · refine ⟨s, ?_, iff_of_true ⟨before, lists⟩ absent⟩
    rw [presetFd_absent absent]
    exact finds
  · refine ⟨s', ?_, iff_of_false ?_ ?_⟩
    · rw [presetFd_split skipped]
      exact finds
    · rintro ⟨before', still⟩
      by_cases notFirst : NotFirst before (pre ++ port :: post) port.filename
      · have same := congrArg List.length (still.unique (rest notFirst))
        simp at same
      · exact still.not_dangles (dangles notFirst)
    · intro absent
      exact absent port (by simp) rfl

theorem Ports.Lists.preset {s : Ports} {before : Option Addr} {entries : List Preopened}
    (lists : s.Lists before entries) : Preset entries s := by
  refine ⟨⟨before, lists⟩, ?_⟩
  intro proc o filename file w named told granted reported same known
  obtain ⟨s', finds, -⟩ := lists.find filename
  have locks := fhsLock_granted named told granted
  rw [← same] at finds
  refine ⟨{ w with
    dir := Function.update w.dir file (some ((lockinfo proc.pid).take o.lock.written))
    preopened := s' }, ?_, rfl⟩
  simp [rxtxPortOpen, openLocked, locks, sprintf_reported reported, finds, known, Bind.bind,
    Except.bind, Pure.pure, Except.pure]

/-- Queries leave the preopened ports alone, answer from their descriptors and leave them to `open`
    exactly when none of them asks about a preopened port. -/
theorem static_queries_observe_iff (before : Option Addr) (entries : List Preopened) (s : Ports)
    (lists : s.Lists before entries) (calls : List QueryCall) :
    Observes (staticQuery header) (QueryCall.due header entries) (Preset entries) calls s ↔
      ∀ c ∈ calls, ∀ entry ∈ entries, entry.filename ≠ c.filename := by
  apply observes_iff _ lists.preset
  intro c s preset
  obtain ⟨before, lists⟩ := preset.lists
  obtain ⟨s', finds, kept⟩ := lists.find c.filename
  have answers := staticQuery_found header finds
  rw [← kept]
  constructor
  · intro observes
    rcases observes with ⟨last, called, still⟩
    obtain rfl : s' = last := congrArg Prod.snd (Except.ok.inj (answers.symm.trans called))
    exact still.lists
  · rintro ⟨before, still⟩
    exact ⟨s', answers, still.preset⟩

def linuxSpeeds : List (TcFlag × Int) :=
  [(0, 0), (1, 50), (2, 75), (3, 110), (4, 134), (5, 150), (6, 200), (7, 300), (0o10, 600),
    (0o11, 1200), (0o12, 1800), (0o13, 2400), (0o14, 4800), (0o15, 9600), (0o16, 19200),
    (0o17, 38400), (0o10001, 57600), (0o10002, 115200), (0o10003, 230400), (0o10004, 460800),
    (0o10005, 500000), (0o10006, 576000), (0o10007, 921600), (0o10010, 1000000),
    (0o10011, 1152000), (0o10012, 1500000), (0o10013, 2000000), (0o10014, 2500000),
    (0o10015, 3000000), (0o10016, 3500000), (0o10017, 4000000)]

def TermiosHeader.linux : TermiosHeader := ⟨.win32, linuxSpeeds, some 0o10017⟩

def Ttys.up : Ttys := ⟨fun _ => some 0x1e6, fun _ => some ⟨0o2275, 0o15, 0o15⟩⟩

def preset5 : Preopened := ⟨['/', 'd', 'e', 'v', '/', 'x'], 5⟩

def onePreset : Ports := ⟨Heap.empty.alloc 0 ⟨preset5, none, none⟩, some 0⟩

theorem onePreset_lists : onePreset.Lists none [preset5] :=
  ⟨[(0, preset5)], Linked.singleton (Heap.alloc_same ..) (Nat.le_refl _), rfl, by simp⟩

theorem static_queries_observe_one :
    Observes (staticQuery .linux) (QueryCall.due .linux [preset5]) (Preset [preset5])
      [⟨.isRTS, ['/', 'd', 'e', 'v', '/', 'y'], .up⟩,
        ⟨.getBaudRate, ['/', 'd', 'e', 'v', '/', 'y'], .up⟩] onePreset :=
  (static_queries_observe_iff .linux none [preset5] onePreset onePreset_lists _).mpr (by
    simp [preset5])

/-- Asking about the one preopened port takes it out of the list. -/
theorem static_query_unlists :
    ¬ ∀ (header : TermiosHeader) (before : Option Addr) (entries : List Preopened) (s : Ports)
      (_ : s.Lists before entries) (calls : List QueryCall),
      Observes (staticQuery header) (QueryCall.due header entries) (Preset entries) calls s := by
  intro observes
  have lists := onePreset_lists
  rcases observes .linux _ _ _ lists [⟨.isRTS, preset5.filename, .up⟩] with
    ⟨-, last, called, still⟩
  obtain ⟨s', finds, kept⟩ := lists.find preset5.filename
  have answers := staticQuery_found .linux (c := ⟨.isRTS, preset5.filename, .up⟩) finds
  obtain rfl : s' = last := congrArg Prod.snd (Except.ok.inj (answers.symm.trans called))
  exact kept.mp still.lists preset5 (by simp) rfl

end Rxtx.SerialImp
