import Rxtx.SerialImp.LineParams
import Rxtx.Win32.PortTable

open FlagWord LinkedHeap
open Rxtx.SerialImp (CFlagMasks translateLineParams translateLineParams_apart)

namespace Rxtx.Win32

def tcsanow : Int := 0

/-- The speeds that `translate_speed` knows; `win32termios.h` defines all their constants. -/
def speedCodes : List (BitVec 32 × BitVec 32) :=
  [(0, b0), (50, b50), (75, b75), (110, b110), (134, b134), (150, b150), (200, b200), (300, b300),
    (600, b600), (1200, b1200), (1800, b1800), (2400, b2400), (4800, b4800), (9600, b9600),
    (14400, b14400), (19200, b19200), (28800, b28800), (38400, b38400), (57600, b57600),
    (115200, b115200), (128000, b128000), (230400, b230400), (256000, b256000),
    (460800, b460800), (500000, b500000), (576000, b576000), (921600, b921600),
    (1000000, b1000000), (1152000, b1152000), (1500000, b1500000), (2000000, b2000000),
    (2500000, b2500000), (3000000, b3000000), (3500000, b3500000), (4000000, b4000000)]

def translateSpeed (speed : BitVec 32) : BitVec 32 :=
  switch speedCodes (if 0 ≤ speed.toInt then speed else -1) speed

def cfsetispeed (s : Termios) (speed : BitVec 32) : Bool × Termios := cfsetospeed s speed

/-- `ttyset` is what the local variable holds before `tcgetattr` fills it. -/
def setPortParams (getters setters : CommResults) (fd : Int) (cspeed : BitVec 32)
    (dataBits stopBits parity : Int) (ttyset : Termios) (t : Table) : Except Fault (Int × Table) := do
  let (result, ttyset) ← tcgetattr getters fd ttyset t
  if result < 0 then return (1, t)
  match translateLineParams .win32 ttyset.cCflag dataBits stopBits parity with
  | none => return (1, t)
  | some cflag =>
    let ttyset := { ttyset with cCflag := cflag }
    -- speed 0 drops DTR here, which the table does not hold
    -- the two return 0 or 1 and never less than 0, so no custom divisor is tried
    let ttyset := (cfsetispeed ttyset cspeed).2
    let ttyset := (cfsetospeed ttyset cspeed).2
    let (result, _, t) ← tcsetattr setters fd tcsanow ttyset t
    if result < 0 then return (1, t)
    return (0, t)

def nativeSetSerialPortParams (getters setters : CommResults) (fd : Int) (speed : BitVec 32)
    (dataBits stopBits parity : Int) (ttyset : Termios) (t : Table) :
    Except Fault (Int × Table) := do
  let cspeed := translateSpeed speed
  if cspeed.toInt < 0 then return (1, t)
  let (failed, t) ← setPortParams getters setters fd cspeed dataBits stopBits parity ttyset t
  if failed ≠ 0 then return (1, t)
  return (0, t)

/-- The speed has a constant, and the constant lies in the speed field of `c_cflag`. -/
def Programmable (speed : BitVec 32) : Prop :=
  ∃ pair ∈ speedCodes, pair.1 = speed ∧ Within pair.2 cbaud

instance (speed : BitVec 32) : Decidable (Programmable speed) :=
  inferInstanceAs (Decidable (∃ pair ∈ speedCodes, pair.1 = speed ∧ Within pair.2 cbaud))

theorem switch_inverse {w : Nat} {cases inverse : List (BitVec w × BitVec w)}
    {otherwise value result : BitVec w}
    (listed : ∀ pair ∈ cases, pair.2 ≠ 0 → (pair.2, pair.1) ∈ inverse)
    (decoded : switch cases otherwise value = result) (known : result ≠ otherwise)
    (nonzero : result ≠ 0) : (result, value) ∈ inverse := by
  unfold switch at decoded
  cases found : cases.lookup value with
  | none =>
    rw [found] at decoded
    exact absurd decoded.symm known
  | some code =>
    rw [found] at decoded
    obtain ⟨pre, post, split, -⟩ := List.lookup_eq_some_iff.mp found
    have member : (value, code) ∈ cases := by simp [split]
    have same : code = result := decoded
    rw [same] at member
    exact listed (value, result) member nonzero

theorem bToCbr_code {code speed : BitVec 32} (decoded : bToCbr code = speed)
    (positive : 0 < speed.toInt) : (speed, code) ∈ speedCodes := by
  have known : speed ≠ -1 := by
    intro same
    rw [same] at positive
    exact absurd positive (by decide)
  have nonzero : speed ≠ 0 := by
    intro same
    rw [same] at positive
    exact absurd positive (by decide)
  refine switch_inverse ?_ decoded known nonzero
  simp only [List.forall_mem_cons, List.not_mem_nil, false_implies, implies_true, and_true]
  and_intros <;> decide

theorem speedCodes_round {speed code : BitVec 32} (listed : (speed, code) ∈ speedCodes)
    (within : Within code cbaud) (positive : 0 < speed.toInt) :
    translateSpeed speed = code ∧ code ≠ 0 ∧ bToCbr code = speed := by
  have every : ∀ pair ∈ speedCodes, Within pair.2 cbaud → 0 < pair.1.toInt →
      translateSpeed pair.1 = pair.2 ∧ pair.2 ≠ 0 ∧ bToCbr pair.2 = pair.1 := by
    rw [speedCodes]
    simp only [List.forall_mem_cons, List.not_mem_nil, false_implies, implies_true, and_true]
    and_intros <;> decide
  exact every (speed, code) listed within positive

theorem stopBitsToTermios_apart {other : TcFlag} (apart : Apart cstopb other) (stopBits : BitVec 8)
    (cflag : TcFlag) : stopBitsToTermios stopBits cflag &&& other = cflag &&& other := by
  unfold stopBitsToTermios
  split_ifs
  · exact or_and_apart cflag apart
  · exact clear_and_apart cflag apart
  · rfl

theorem parityToTermios_apart {other : TcFlag} (enabled : Apart parenb other)
    (odd : Apart parodd other) (space : Apart cmspar other) (parity : BitVec 8) (cflag : TcFlag) :
    parityToTermios parity cflag &&& other = cflag &&& other := by
  have base : (clear cflag (parenb ||| parodd ||| cmspar) ||| parenb) &&& other =
      cflag &&& other := by
    rw [or_and_apart _ enabled, clear_and_apart _ ((enabled.or odd).or space)]
  unfold parityToTermios
  simp only []
  split_ifs
  · rw [or_and_apart _ (odd.or space), base]
  · rw [or_and_apart _ space, base]
  · rw [or_and_apart _ odd, base]
  · rw [clear_and_apart _ odd, base]
  · rw [clear_and_apart _ ((odd.or space).or enabled), base]
  · exact base

theorem bytesizeToTermios_within (byteSize : BitVec 8) :
    Within (bytesizeToTermios byteSize) csize := by
  unfold bytesizeToTermios
  split_ifs <;> decide

theorem tcgetattrFlags_cignore (dcb : Dcb) (ttyset : Termios) :
    (tcgetattrFlags dcb ttyset).cCflag &&& cignore = ttyset.cCflag &&& cignore := by
  have size : Apart (bytesizeToTermios dcb.byteSize) cignore :=
    (bytesizeToTermios_within dcb.byteSize).apart (by decide)
  simp only [tcgetattrFlags]
  rw [assign_and_apart (by decide), or_and_apart _ size,
    parityToTermios_apart (by decide) (by decide) (by decide),
    stopBitsToTermios_apart (by decide)]

theorem tcgetattrChars_cignore (dcb : Dcb) (timeouts : CommTimeouts) (s : Termios) :
    (tcgetattrChars dcb timeouts s).cCflag &&& cignore = s.cCflag &&& cignore := by
  have within : Within (cbrToB dcb.baudRate &&& cbaud) cbaud := by
    rw [Within, BitVec.and_assoc, BitVec.and_self]
  exact or_and_apart _ (within.apart (by decide))

theorem cfsetospeed_cignore (s : Termios) (speed : BitVec 32) :
    (cfsetospeed s speed).2.cCflag &&& cignore = s.cCflag &&& cignore := by
  unfold cfsetospeed
  split
  · rfl
  next known =>
    have within := clear_eq_zero.mp (not_not.mp known)
    have stored : Within (if speed ≠ 0 then speed else b9600) cbaud := by
      split
      · exact within
      · decide
    exact put_and_apart _ stored (by decide)

theorem cfsetospeed_code (s : Termios) {speed : BitVec 32} (within : Within speed cbaud)
    (nonzero : speed ≠ 0) : (cfsetospeed s speed).2.cCflag &&& cbaud = speed := by
  have known := clear_eq_zero.mpr within
  simp only [cfsetospeed, known, ne_eq, nonzero, not_false_eq_true, if_true]
  exact put_and_same _ within

theorem tcgetattr_read {results : CommResults} {fd result : Int} {t : Table} {index : Addr}
    {node : Node TermiosList} {s s' : Termios} (opened : findPort fd t = .ok (some index))
    (cell : t.heap.cells index = some node) (read : tcgetattr results fd s t = .ok (result, s'))
    (done : ¬ result < 0) :
    s' = tcgetattrChars (t.comm node.value.hComm).dcb (t.comm node.value.hComm).timeouts
      (tcgetattrFlags (t.comm node.value.hComm).dcb node.value.ttyset) := by
  obtain ⟨positive, -⟩ := findPort_some opened
  unfold tcgetattr at read
  rw [if_neg (not_le.mpr positive), opened] at read
  simp only [Heap.read_of_cell cell, Bind.bind, Except.bind, Pure.pure, Except.pure] at read
  split_ifs at read
  · cases read
    exact absurd (by decide) done
  · cases read
    exact absurd (by decide) done
  · cases read
    rfl

theorem tcsetattrPort_result (results : CommResults) (s : Termios) (port : CommPort) :
    (tcsetattrPort results s port).1 = 0 ∨ (tcsetattrPort results s port).1 = -1 := by
  unfold tcsetattrPort
  split_ifs <;> simp

theorem tcsetattr_result {results : CommResults} {fd action result : Int} {s s' : Termios}
    {t t' : Table} {index : Addr} (opened : findPort fd t = .ok (some index))
    (set : tcsetattr results fd action s t = .ok (result, s', t')) :
    result = 0 ∨ result = -1 := by
  obtain ⟨-, node, cell, -⟩ := findPort_some opened
  have either := tcsetattrPort_result results s (t.comm node.value.hComm)
  rcases sent : tcsetattrPort results s (t.comm node.value.hComm) with ⟨code, sent', port⟩
  rw [sent] at either
  rw [tcsetattr_of_port opened cell sent] at set
  split_ifs at set with refused
  · cases set
    exact either
  · cases set
    exact .inl rfl

theorem tcsetattr_baudRate {results : CommResults} {fd action : Int} {s s' : Termios}
    {t t' : Table} {index : Addr} {node : Node TermiosList}
    (opened : findPort fd t = .ok (some index)) (cell : t.heap.cells index = some node)
    (accepted : tcsetattr results fd action s t = .ok (0, s', t')) :
    (t'.comm node.value.hComm).dcb.baudRate =
      if s.cCflag &&& cignore = 0 then bToCbr (s.cCflag &&& cbaud)
      else (t.comm node.value.hComm).dcb.baudRate := by
  obtain ⟨found, here, port, sent, stored⟩ := tcsetattr_stored opened accepted
  obtain rfl : node = found := Option.some.inj (cell.symm.trans here)
  obtain ⟨-, rfl⟩ := tcsetattrPort_accepted sent
  rw [stored]
  simp only [Function.update_self]
  by_cases set : s.cCflag &&& cignore = 0
  · simp [tcsetattrDcb, set, termiosToDcb]
  · simp only [tcsetattrDcb, if_neg set]

theorem nativeSetSerialPortParams_done {getters setters : CommResults} {fd : Int}
    {speed : BitVec 32} {dataBits stopBits parity : Int} {ttyset : Termios} {t t' : Table}
    {index : Addr} {node : Node TermiosList} (opened : findPort fd t = .ok (some index))
    (cell : t.heap.cells index = some node)
    (done : nativeSetSerialPortParams getters setters fd speed dataBits stopBits parity ttyset t =
      .ok (0, t')) :
    ∃ (s : Termios) (cflag : TcFlag) (s' : Termios),
      s.cCflag &&& cignore = node.value.ttyset.cCflag &&& cignore ∧
      translateLineParams .win32 s.cCflag dataBits stopBits parity = some cflag ∧
      tcsetattr setters fd tcsanow
        (cfsetospeed (cfsetispeed { s with cCflag := cflag } (translateSpeed speed)).2
          (translateSpeed speed)).2 t = .ok (0, s', t') := by
  unfold nativeSetSerialPortParams at done
  simp only [] at done
  split_ifs at done
  · cases done
  obtain ⟨⟨failed, t1⟩, params, rest⟩ := bind_eq_ok.mp done
  split_ifs at rest with refused
  · cases rest
  obtain rfl : failed = 0 := not_not.mp refused
  cases rest
  unfold setPortParams at params
  obtain ⟨⟨result, s⟩, read, params⟩ := bind_eq_ok.mp params
  simp only [] at params
  split_ifs at params with unread
  · cases params
  have flags := tcgetattr_read opened cell read unread
  split at params
  · cases params
  next cflag translated =>
    obtain ⟨⟨result', s', t2⟩, set, params⟩ := bind_eq_ok.mp params
    simp only [] at params
    split_ifs at params with unset
    · cases params
    cases params
    refine ⟨s, cflag, s', ?_, translated, ?_⟩
    · rw [flags, tcgetattrChars_cignore, tcgetattrFlags_cignore]
    · rcases tcsetattr_result opened set with zero | failed
      · rw [← zero]
        exact set
      · exact absurd (by rw [failed]; decide) unset

/-- Success means the requested speed exactly where its constant fits the speed field; where the
    cached settings have `CIGNORE`, exactly where the port had it before. -/
theorem baudRate_programmed {getters setters : CommResults} {fd : Int} {speed : BitVec 32}
    {dataBits stopBits parity : Int} {ttyset : Termios} {t t' : Table} {index : Addr}
    {node : Node TermiosList} (positive : 0 < speed.toInt)
    (opened : findPort fd t = .ok (some index)) (cell : t.heap.cells index = some node)
    (done : nativeSetSerialPortParams getters setters fd speed dataBits stopBits parity ttyset t =
      .ok (0, t')) :
    (t'.comm node.value.hComm).dcb.baudRate = speed ↔
      if node.value.ttyset.cCflag &&& cignore = 0 then Programmable speed
      else (t.comm node.value.hComm).dcb.baudRate = speed := by
  obtain ⟨s, cflag, s', cached, translated, set⟩ := nativeSetSerialPortParams_done opened cell done
  have framed : cflag &&& cignore = s.cCflag &&& cignore :=
    translateLineParams_apart .win32 translated (by decide) (by decide) (by decide)
  have programmed := tcsetattr_baudRate opened cell set
  rw [cfsetospeed_cignore, cfsetispeed, cfsetospeed_cignore, framed, cached] at programmed
  rw [programmed]
  by_cases ignored : node.value.ttyset.cCflag &&& cignore = 0
  · rw [if_pos ignored, if_pos ignored]
    constructor
    · intro decoded
      refine ⟨_, bToCbr_code decoded positive, rfl, ?_⟩
      rw [Within, BitVec.and_assoc, BitVec.and_self]
    · intro programmable
      rcases programmable with ⟨⟨same, code⟩, listed, rfl, within⟩
      obtain ⟨translates, nonzero, decoded⟩ := speedCodes_round listed within positive
      rw [translates, cfsetospeed_code _ within nonzero]
      exact decoded
  · rw [if_neg ignored, if_neg ignored]

def defaultNode : Node TermiosList :=
  ⟨{ TermiosList.zero with hComm := 5, fd := 1, ttyset := initTermios }, none, none⟩

def defaultPort : Table where
  heap := Heap.empty.alloc 0 defaultNode
  firstTl := some 0
  comm := fun _ => ⟨(tcsetattrDcb initTermios default).2, tcsetattrTimeouts initTermios⟩
  closed := []

theorem baudRate_programmed_115200 :
    ∃ t', nativeSetSerialPortParams ⟨true, true, true, true⟩ ⟨true, true, true, true⟩ 1 115200 8 1 0
        Termios.zero defaultPort = .ok (0, t') ∧ (t'.comm 5).dcb.baudRate = 115200 := by
  obtain ⟨t', done⟩ : ∃ t', nativeSetSerialPortParams ⟨true, true, true, true⟩
      ⟨true, true, true, true⟩ 1 115200 8 1 0 Termios.zero defaultPort = .ok (0, t') := ⟨_, rfl⟩
  have programmable : Programmable 115200 := ⟨(115200, b115200), by simp [speedCodes], rfl, rfl⟩
  have cell : defaultPort.heap.cells 0 = some defaultNode := rfl
  have cached : defaultNode.value.ttyset.cCflag &&& cignore = 0 := by decide
  have exactly := baudRate_programmed (by decide) rfl cell done
  rw [if_pos cached] at exactly
  exact ⟨t', done, exactly.mpr programmable⟩

/-- 14400 is accepted and the port stays at 9600; 13 is the code of 9600. -/
theorem baudRate_not_programmed :
    ∃ t t', nativeSetSerialPortParams ⟨true, true, true, true⟩ ⟨true, true, true, true⟩ 1 14400 8 1 0
        Termios.zero defaultPort = .ok (0, t) ∧ (t.comm 5).dcb.baudRate = 9600 ∧
      nativeSetSerialPortParams ⟨true, true, true, true⟩ ⟨true, true, true, true⟩ 1 13 8 1 0
        Termios.zero defaultPort = .ok (0, t') ∧ (t'.comm 5).dcb.baudRate = 9600 :=
  ⟨_, _, rfl, rfl, rfl, rfl⟩

end Rxtx.Win32
