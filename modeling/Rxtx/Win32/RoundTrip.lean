import Rxtx.Win32.PortTable

open FlagWord LinkedHeap

namespace Rxtx.Win32

theorem cbrToB_bToCbr {speed : TcFlag} (known : speed ∈ baudConstants)
    (within : Within speed cbaud) : cbrToB (bToCbr speed) = speed := by
  have every : ∀ b ∈ baudConstants, Within b cbaud → cbrToB (bToCbr b) = b := by
    simp only [baudConstants, List.forall_mem_cons, List.not_mem_nil, false_implies, implies_true,
      and_true]
    and_intros <;> decide
  exact every speed known within

theorem csize_cases (cflag : TcFlag) :
    cflag &&& csize = cs5 ∨ cflag &&& csize = cs6 ∨ cflag &&& csize = cs7 ∨
      cflag &&& csize = cs8 := by
  have low : Single cs6 := ⟨4, rfl⟩
  have high : Single cs7 := ⟨5, rfl⟩
  have halves : cflag &&& csize = (cflag &&& cs6) ||| (cflag &&& cs7) := by
    rw [BitVec.and_comm cflag cs6, BitVec.and_comm cflag cs7, ← BitVec.and_or_distrib_right,
      BitVec.and_comm]
    rfl
  rw [halves]
  rcases low.cases cflag with l | l <;> rcases high.cases cflag with h | h <;> rw [l, h] <;> decide

theorem bytesizeToTermios_own (cflag : TcFlag) :
    bytesizeToTermios (termiosToBytesize cflag) = cflag &&& csize := by
  unfold termiosToBytesize
  rcases csize_cases cflag with size | size | size | size <;> rw [size] <;> decide

theorem stopBitsToTermios_own (cflag : TcFlag) :
    stopBitsToTermios (if cflag &&& cstopb ≠ 0 then twoStopBits else oneStopBit) cflag = cflag := by
  have single : Single cstopb := ⟨6, rfl⟩
  have one : oneStopBit ≠ twoStopBits := by decide
  unfold stopBitsToTermios
  by_cases unset : cflag &&& cstopb = 0
  · rw [if_neg (not_not.mpr unset), if_neg one, if_pos rfl]
    exact clear_of_and unset
  · have set := (single.cases cflag).resolve_left unset
    rw [if_pos unset, if_pos rfl, BitVec.or_comm]
    exact or_eq_iff_within.mpr ((BitVec.and_comm ..).trans set)

def parityMask : TcFlag := parenb ||| parodd ||| cmspar

def parityFlags : List TcFlag :=
  [0, parenb, parenb ||| parodd, parenb ||| cmspar, parenb ||| parodd ||| cmspar]

theorem termiosToParity_field (cflag : TcFlag) :
    termiosToParity cflag = termiosToParity (cflag &&& parityMask) := by
  have inner (flag : TcFlag) (within : parityMask &&& flag = flag) :
      cflag &&& parityMask &&& flag = cflag &&& flag := by
    rw [BitVec.and_assoc, within]
  unfold termiosToParity
  rw [inner parenb (by decide), inner parodd (by decide), inner cmspar (by decide)]

theorem parityToTermios_flags (cflag : TcFlag) {flags : TcFlag} (known : flags ∈ parityFlags) :
    parityToTermios (termiosToParity flags) cflag = clear cflag parityMask ||| flags := by
  have cleared (mask : TcFlag) (within : parityMask ||| mask = parityMask) :
      clear (clear cflag parityMask ||| parenb) mask =
        clear cflag parityMask ||| clear parenb mask := by
    rw [clear_or, clear_clear, within]
  have unset := cleared (parodd ||| cmspar ||| parenb) (by decide)
  have even := cleared parodd (by decide)
  simp only [parityFlags, List.mem_cons, List.not_mem_nil, or_false] at known
  unfold parityToTermios
  rcases known with rfl | rfl | rfl | rfl | rfl
  · exact unset
  · exact even
  · exact BitVec.or_assoc ..
  · exact BitVec.or_assoc ..
  · exact (BitVec.or_assoc ..).trans (by rw [← BitVec.or_assoc parenb]; rfl)

theorem parityToTermios_own {cflag : TcFlag} (known : cflag &&& parityMask ∈ parityFlags) :
    parityToTermios (termiosToParity cflag) cflag = cflag := by
  rw [termiosToParity_field, parityToTermios_flags cflag known, put_own]

theorem handshake_own (cflag : TcFlag) {handshake : Bool}
    (same : handshake = decide (cflag &&& hardwareFlowControl ≠ 0)) :
    assign cflag hardwareFlowControl (handshake ||
      (if handshake then rtsControlHandshake else rtsControlDisable) = rtsControlHandshake) =
        cflag := by
  have single : Single hardwareFlowControl := ⟨31, rfl⟩
  apply assign_own single
  cases handshake <;> simp_all [rtsControlHandshake, rtsControlDisable]

theorem vtime_own (c : Cc) : ((c.setWidth 32 * 100 : DWord) / 100).setWidth 8 = c := by
  have small := c.isLt
  apply BitVec.eq_of_toNat_eq
  simp only [BitVec.toNat_setWidth, BitVec.toNat_udiv, BitVec.toNat_mul, BitVec.ofNat_eq_ofNat,
    BitVec.toNat_ofNat, Nat.reducePow, Nat.reduceMod] at small ⊢
  rw [Nat.mod_eq_of_lt (by omega : c.toNat < 4294967296),
    Nat.mod_eq_of_lt (by omega : c.toNat * 100 < 4294967296)]
  omega

theorem readTotalTimeoutConstant_own (s : Termios) :
    ((tcsetattrTimeouts s).readTotalTimeoutConstant / 100).setWidth 8 = s.cCc vTime := by
  unfold tcsetattrTimeouts
  simp only []
  split
  next immediate =>
    have own := vtime_own (s.cCc vTime)
    rw [immediate.2] at own
    exact own
  next => exact vtime_own _

/-- The settings that the DCB can hold. -/
structure Representable (s : Termios) : Prop where
  raw : s.cLflag &&& icanon = 0
  controls : s.cCflag &&& cignore = 0
  speed : s.cCflag &&& cbaud ∈ baudConstants
  parity : s.cCflag &&& parityMask ∈ parityFlags

structure Reports (s t : Termios) : Prop where
  cIflag : clear t.cIflag (inpck ||| ignpar) = clear s.cIflag (inpck ||| ignpar)
  cOflag : t.cOflag = s.cOflag
  cCflag : t.cCflag = s.cCflag
  cLflag : t.cLflag = s.cLflag
  cCc : t.cCc = s.cCc
  cLine : t.cLine = s.cLine
  cIspeed : t.cIspeed = s.cCflag &&& cbaud
  cOspeed : t.cOspeed = s.cCflag &&& cbaud

theorem tcgetattrFlags_own {s : Termios} (representable : Representable s) (dcb : Dcb) :
    tcgetattrFlags (tcsetattrDcb s dcb).2 (tcsetattrDcb s dcb).1 =
      { s with
        cIflag := clear (s.cIflag ||| inpck) ignpar
        cIspeed := s.cCflag &&& cbaud
        cOspeed := s.cCflag &&& cbaud } := by
  have iflag {flag : TcFlag} (single : Single flag) (check : Apart inpck flag)
      (ignore : Apart ignpar flag) :
      assign (clear (s.cIflag ||| inpck) ignpar) flag (s.cIflag &&& flag ≠ 0) =
        clear (s.cIflag ||| inpck) ignpar := by
    apply assign_own single
    rw [clear_and_apart _ ignore, or_and_apart _ check]
    simp
  have output := iflag (show Single ixon from ⟨10, rfl⟩) rfl rfl
  have input := iflag (show Single ixoff from ⟨12, rfl⟩) rfl rfl
  have any := iflag (show Single ixany from ⟨11, rfl⟩) rfl rfl
  have size : s.cCflag ||| bytesizeToTermios (termiosToBytesize s.cCflag) = s.cCflag := by
    rw [bytesizeToTermios_own, or_own]
  have handshake := handshake_own s.cCflag rfl
  simp only [tcgetattrFlags, tcsetattrDcb, representable.controls, if_true, termiosToDcb,
    stopBitsToTermios_own, parityToTermios_own representable.parity, size, handshake, output,
    input, any]

theorem tcgetattrChars_own {s : Termios} (representable : Representable s) (dcb : Dcb)
    (iflag : TcFlag) :
    tcgetattrChars (tcsetattrDcb s dcb).2 (tcsetattrTimeouts (tcsetattrDcb s dcb).1)
      { s with
        cIflag := iflag
        cIspeed := s.cCflag &&& cbaud
        cOspeed := s.cCflag &&& cbaud } =
      { s with
        cIflag := iflag
        cIspeed := s.cCflag &&& cbaud
        cOspeed := s.cCflag &&& cbaud } := by
  have within : Within (s.cCflag &&& cbaud) cbaud := by
    rw [Within, BitVec.and_assoc, BitVec.and_self]
  have speed := cbrToB_bToCbr representable.speed within
  have chars := readTotalTimeoutConstant_own (tcsetattrDcb s dcb).1
  simp only [tcsetattrDcb, representable.controls, if_true, termiosToDcb] at chars ⊢
  simp only [tcgetattrChars, dcbToTermios, chars, speed, Function.update_eq_self,
    BitVec.and_assoc, BitVec.and_self, or_own]

/-- After a `tcsetattr` that returns 0, a `tcgetattr` of the port reports the settings. -/
theorem tcgetattr_reports (t t' : Table) (fd action : Int) (index : Addr) (s s' prior : Termios)
    (setters getters : CommResults) (opened : findPort fd t = .ok (some index))
    (representable : Representable s)
    (accepted : tcsetattr setters fd action s t = .ok (0, s', t'))
    (state : getters.getCommState = true) (timeouts : getters.getCommTimeouts = true) :
    ∃ reported, tcgetattr getters fd prior t' = .ok (0, reported) ∧ Reports s reported := by
  obtain ⟨node, cell, port, sent, stored⟩ := tcsetattr_stored opened accepted
  obtain ⟨rfl, rfl⟩ := tcsetattrPort_accepted sent
  have found : findPort fd t' = .ok (some index) := by
    rw [stored, ← opened]
    exact findPort_adjust fd t _ index (fun entry => { entry with ttyset := _ }) fun _ => rfl
  have cached : t'.heap.cells index = some { node with value := { node.value with
      ttyset := (tcsetattrDcb s (t.comm node.value.hComm).dcb).1 } } := by
    rw [stored, Heap.adjust_same, cell]
    rfl
  refine ⟨_, tcgetattr_of_port found cached prior state timeouts, ?_⟩
  simp only [stored, Function.update_self, tcgetattrFlags_own representable]
  rw [tcgetattrChars_own representable]
  exact ⟨clear_set_clear .., rfl, rfl, rfl, rfl, rfl, rfl, rfl⟩

def onePort : Table where
  heap := Heap.empty.alloc 0 ⟨{ TermiosList.zero with hComm := 5, fd := 1 }, none, none⟩
  firstTl := some 0
  comm := fun _ => default
  closed := []

theorem tcgetattr_reports_default :
    ∃ s' t', tcsetattr ⟨true, true, true, true⟩ 1 0 initTermios onePort = .ok (0, s', t') ∧
      ∃ reported, tcgetattr ⟨true, true, true, true⟩ 1 Termios.zero t' = .ok (0, reported) ∧
        Reports initTermios reported := by
  obtain ⟨s', t', accepted⟩ : ∃ s' t',
      tcsetattr ⟨true, true, true, true⟩ 1 0 initTermios onePort = .ok (0, s', t') := ⟨_, _, rfl⟩
  have representable : Representable initTermios := by constructor <;> decide
  exact ⟨s', t', accepted, tcgetattr_reports onePort t' 1 0 0 initTermios s' _
    ⟨true, true, true, true⟩ ⟨true, true, true, true⟩ rfl representable accepted rfl rfl⟩

end Rxtx.Win32
