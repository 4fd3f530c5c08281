import Mathlib.Tactic.IntervalCases
import Rxtx.SerialImp.FlowControl
import Rxtx.SerialImp.SetPortParams

open FlagWord

namespace Rxtx.SerialImp

/-- The macros that the calls use. `veof`, `vmin` and `vtime` are places in `c_cc`, of which some
    systems let two be the same. -/
structure SettingsHeader extends SerialHeader where
  macros : FlowMacros
  hardware : HardwareFlowControl
  selected : macros.hardwareFlowControl = some hardware
  iflags : IFlagMasks
  inpck : TcFlag
  cread : TcFlag
  clocal : TcFlag
  veof : Nat
  vmin : Nat
  vtime : Nat
  hardware_apart : ∀ field ∈ [masks.csize, masks.cstopb, masks.parityMask],
    Apart hardware.bits field
  configured_apart : ∀ field ∈ [masks.csize, masks.cstopb, masks.parityMask, hardware.bits],
    Apart (cread ||| clocal) field
  inpck_apart : ∀ mask ∈ [iflags.ixon, iflags.ixoff], Apart inpck mask

def SettingsHeader.fields (header : SettingsHeader) : TcFlag :=
  header.masks.csize ||| header.masks.cstopb ||| header.masks.parityMask ||| header.hardware.bits

/-- The system's functions for speeds. They know the same codes, and leave the other settings in
    `c_cflag` alone, which is where some systems keep the code; `rate` is what it stands for. -/
structure SpeedCalls (header : SettingsHeader) where
  cfsetspeed : Option (Int → TtySet → Bool × TtySet)
  cfsetispeed : Int → TtySet → Bool × TtySet
  cfsetospeed : Int → TtySet → Bool × TtySet
  cfgetospeed : TtySet → Int
  knows : Int → Bool
  rate : Int → Int
  hangsUp : knows 0 = true
  rate_b9600 : rate (header.translateSpeed 9600) = 9600
  rate_b38400 : rate header.b38400 = 38400
  answers : ∀ set ∈ cfsetispeed :: cfsetospeed :: cfsetspeed.toList, ∀ speed ttyset,
    (set speed ttyset).1 = knows speed ∧
      (set speed ttyset).2.cCflag &&& header.fields = ttyset.cCflag &&& header.fields
  stored : ∀ set ∈ cfsetospeed :: cfsetspeed.toList, ∀ speed ttyset, knows speed = true →
    cfgetospeed (set speed ttyset).2 = speed
  elsewhere : ∀ ttyset cCflag, clear cCflag header.fields = clear ttyset.cCflag header.fields →
    cfgetospeed { ttyset with cCflag } = cfgetospeed ttyset

structure ParamAnswers where
  tcgetattr : Bool
  tiocmget : Bool
  tiocmset : Bool
  tiocsserial : Bool
  tcsetattr : Bool

structure SettingsDevice where
  termios : UnixTermios
  serial : SerialStruct
  lines : BitVec 32

def SettingsDevice.ttyset (device : SettingsDevice) : TtySet :=
  ⟨device.termios.cflag, device.termios.ispeed, device.termios.ospeed⟩

def SettingsDevice.serialDevice (device : SettingsDevice) : SerialDevice :=
  ⟨device.ttyset, device.serial, device.lines⟩

def SettingsDevice.withSerialDevice (device : SettingsDevice) (d : SerialDevice) :
    SettingsDevice where
  termios := { device.termios with
    cflag := d.ttyset.cCflag, ispeed := d.ttyset.ispeed, ospeed := d.ttyset.ospeed }
  serial := d.serial
  lines := d.lines

section

variable {header : SettingsHeader} (speeds : SpeedCalls header)

def SpeedCalls.paramCalls (answers : ParamAnswers) : ParamCalls where
  tcgetattr := answers.tcgetattr
  cfsetspeed := speeds.cfsetspeed
  tiocmget := answers.tiocmget
  tiocmset := answers.tiocmset
  cfsetispeed := speeds.cfsetispeed
  cfsetospeed := speeds.cfsetospeed
  tiocsserial := answers.tiocsserial
  tcsetattr := answers.tcsetattr

def SettingsHeader.b9600 (header : SettingsHeader) : Int := header.translateSpeed 9600

def setPlace (cc : Nat → BitVec 8) (place : Nat) (value : BitVec 8) : Nat → BitVec 8 :=
  fun other => if other = place then value else cc other

/-- The local copy of the settings before `configure_port` sets the speed. -/
def SettingsHeader.sane (header : SettingsHeader) (ttyset : UnixTermios) : UnixTermios :=
  { ttyset with
    iflag := header.inpck
    lflag := 0
    oflag := 0
    cflag := header.cread ||| header.masks.cs8 ||| header.clocal
    cc := setPlace (setPlace ttyset.cc header.vmin 0) header.vtime 0 }

def SpeedCalls.setB9600 (ttyset : TtySet) : Bool × TtySet :=
  match speeds.cfsetspeed with
  | some cfsetspeed => cfsetspeed header.b9600 ttyset
  | none =>
    let (set, ttyset) := speeds.cfsetispeed header.b9600 ttyset
    if set then speeds.cfsetospeed header.b9600 ttyset else (false, ttyset)

/-- What `configure_port` gives `tcsetattr`; `none` where the speed is refused. -/
def SettingsDevice.configured (device : SettingsDevice) : Option SettingsDevice :=
  let sane : SettingsDevice := { device with termios := header.sane device.termios }
  let (set, ttyset) := speeds.setB9600 sane.ttyset
  if set then some (sane.withSerialDevice { sane.serialDevice with ttyset }) else none

/-- JNI_TRUE is an error; `none` where `set_port_params` traps. -/
def nativeSetSerialPortParams (answers : ParamAnswers) (sstruct : SerialStruct)
    (speed dataBits stopBits parity : Int) (device : SettingsDevice) :
    Option (Bool × SettingsDevice) :=
  let cspeed := header.translateSpeed speed
  if cspeed < 0 then some (true, device)
  else
    (device.serialDevice.setPortParams header.toSerialHeader (speeds.paramCalls answers) sstruct
      ⟨cspeed, dataBits, stopBits, parity⟩).map fun (result, d) =>
        (result ≠ 0, device.withSerialDevice d)

end

structure SettingRegisters where
  cspeed : Int
  dataBits : Int
  stopBits : Int
  parity : Int
  flow : FlowMode
  eof : BitVec 8
  vmin : BitVec 8
  serial : SerialStruct

def HardwareFlowControl.reports (requested : Bool) : HardwareFlowControl → Bool
  | whole mask => requested && mask ≠ 0
  | pair _ _ => true

/-- The mode as which `flowmode` is read back. -/
def HardwareFlowControl.reported (hardware : HardwareFlowControl) (flowmode : FlowMode) :
    FlowMode :=
  (if hardware.reports (flowmode &&& (flowcontrolRtsctsIn ||| flowcontrolRtsctsOut) ≠ 0) then
    flowcontrolRtsctsIn ||| flowcontrolRtsctsOut
  else 0) ||| (flowmode &&& (flowcontrolXonxoffIn ||| flowcontrolXonxoffOut))

/-- Without `CMSPAR` the flags of the parity are only ever added to. -/
def CFlagMasks.nextParity (masks : CFlagMasks) (standing asked : Int) : Int :=
  if masks.cmspar.isSome then asked
  else if standing = jparityOdd ∨ asked = jparityNone then standing
  else asked

def CFlagMasks.Valid (masks : CFlagMasks) (dataBits stopBits parity : Int) : Prop :=
  dataBits ∈ [jdatabits5, jdatabits6, jdatabits7, jdatabits8] ∧
    stopBits ∈ [stopbits1, stopbits15, stopbits2] ∧ (parityFlags masks parity).isSome

instance (masks : CFlagMasks) (dataBits stopBits parity : Int) :
    Decidable (masks.Valid dataBits stopBits parity) :=
  inferInstanceAs (Decidable (_ ∧ _ ∧ _))

/-- One and a half stop bits are five data bits, with the stop bits that were there. -/
def SettingRegisters.withLine (r : SettingRegisters) (masks : CFlagMasks)
    (cspeed dataBits stopBits parity : Int) : SettingRegisters :=
  { r with
    cspeed
    dataBits := if stopBits = stopbits15 then jdatabits5 else dataBits
    stopBits := if stopBits = stopbits15 then r.stopBits else stopBits
    parity := masks.nextParity r.parity parity }

def SettingRegisters.setSerialPortParams {header : SettingsHeader} (speeds : SpeedCalls header)
    (answers : ParamAnswers) (sstruct : SerialStruct) (speed dataBits stopBits parity : Int)
    (r : SettingRegisters) : Bool × SettingRegisters :=
  let cspeed := header.translateSpeed speed
  if cspeed < 0 ∨ answers.tcgetattr = false ∨ ¬ header.masks.Valid dataBits stopBits parity then
    (true, r)
  else if speeds.knows cspeed then
    if answers.tcsetattr then (false, r.withLine header.masks cspeed dataBits stopBits parity)
    else (true, r)
  else if speeds.cfsetspeed.isSome ∨ header.tiocgserial = false ∨
      speeds.knows header.b38400 = false ∨ sstruct.baudBase < 1 ∨ answers.tiocsserial = false then
    (true, r)
  else
    let r := { r with serial := sstruct.divided cspeed }
    if answers.tcsetattr then
      (false, r.withLine header.masks header.b38400 dataBits stopBits parity)
    else (true, r)

structure SettingsDevice.Encodes {header : SettingsHeader} (speeds : SpeedCalls header)
    (device : SettingsDevice) (r : SettingRegisters) : Prop where
  cspeed : speeds.cfgetospeed device.ttyset = r.cspeed
  dataBits : dataBitsSwitch header.masks device.termios.cflag = r.dataBits
  stopBits : stopBitsSwitch header.masks device.termios.cflag = r.stopBits
  parity : parityFlags header.masks r.parity =
    some (device.termios.cflag &&& header.masks.parityMask)
  flow : ∀ ttyset, nativeGetFlowControlMode header.hardware header.iflags ttyset
    (some device.termios) = r.flow
  eof : device.termios.cc header.veof = r.eof
  vmin : device.termios.cc header.vmin = r.vmin
  serial : device.serial = r.serial

section

variable (masks : CFlagMasks)

theorem parityFlags_none : parityFlags masks jparityNone = some 0 := rfl

theorem parityFlags_odd : parityFlags masks jparityOdd = some (masks.parenb ||| masks.parodd) := rfl

theorem parenb_within {parity : Int} {flags : TcFlag}
    (known : parityFlags masks parity = some flags) (some : parity ≠ jparityNone) :
    Within masks.parenb flags := by
  have enabled := within_self masks.parenb
  unfold parityFlags at known
  rw [if_neg some] at known
  cases defined : masks.cmspar with
  | none =>
    simp only [defined] at known
    split_ifs at known <;> cases known
    · exact enabled
    · exact enabled.left _
  | some cmspar =>
    simp only [defined] at known
    split_ifs at known <;> cases known
    · exact enabled
    · exact enabled.left _
    · exact (enabled.left _).left _
    · exact enabled.left _

theorem within_parenb {parity : Int} {flags : TcFlag} (undefined : masks.cmspar = none)
    (known : parityFlags masks parity = some flags) (below : parity ≠ jparityOdd) :
    Within flags masks.parenb := by
  unfold parityFlags at known
  simp only [undefined] at known
  split_ifs at known <;> cases known
  · exact within_zero _
  · exact within_self _

theorem CFlagMasks.nextParity_flags {standing asked : Int} {before flags : TcFlag}
    (stands : parityFlags masks standing = some before)
    (known : parityFlags masks asked = some flags) :
    parityFlags masks (masks.nextParity standing asked) =
      some (if masks.cmspar.isSome then flags else before ||| flags) := by
  unfold nextParity
  cases defined : masks.cmspar with
  | some cmspar =>
    simp only [Option.isSome_some, if_true]
    exact known
  | none =>
    simp only [Option.isSome_none, Bool.false_eq_true, if_false]
    by_cases odd : standing = jparityOdd
    · rw [if_pos (.inl odd), stands]
      rw [odd, parityFlags_odd] at stands
      obtain rfl := Option.some.inj stands
      have within := parityFlags_within masks known
      simp only [parityMask, defined] at within
      rw [BitVec.or_comm _ flags, or_eq_iff_within.mpr within]
    by_cases none : asked = jparityNone
    · rw [if_pos (.inr none), stands]
      rw [none, parityFlags_none] at known
      obtain rfl := Option.some.inj known
      exact congrArg some (BitVec.or_zero).symm
    · rw [if_neg (by simp [odd, none]), known]
      have below := within_parenb masks defined stands odd
      have enabled := parenb_within masks known none
      rw [or_eq_iff_within.mpr (within_iff.mpr fun i set =>
        within_iff.mp enabled i (within_iff.mp below i set))]

theorem translateDataBits_isSome (cflag : TcFlag) (dataBits : Int) :
    (translateDataBits masks cflag dataBits).isSome ↔
      dataBits ∈ [jdatabits5, jdatabits6, jdatabits7, jdatabits8] := by
  unfold translateDataBits
  simp only [List.mem_cons, List.not_mem_nil, or_false]
  split_ifs <;> simp_all

theorem translateStopBits_isSome (cflag : TcFlag) (stopBits : Int) :
    (translateStopBits masks cflag stopBits).isSome ↔
      stopBits ∈ [stopbits1, stopbits15, stopbits2] := by
  have five : (translateDataBits masks cflag jdatabits5).isSome = true := rfl
  unfold translateStopBits
  simp only [List.mem_cons, List.not_mem_nil, or_false]
  split_ifs <;> simp_all

theorem translateLineParams_isSome (cflag : TcFlag) (dataBits stopBits parity : Int) :
    (translateLineParams masks cflag dataBits stopBits parity).isSome ↔
      masks.Valid dataBits stopBits parity := by
  unfold translateLineParams CFlagMasks.Valid
  simp only [Option.bind_eq_bind, translateParity_eq]
  rw [← translateDataBits_isSome masks cflag]
  cases data : translateDataBits masks cflag dataBits with
  | none => simp
  | some sized =>
    rw [← translateStopBits_isSome masks sized]
    cases stop : translateStopBits masks sized stopBits with
    | none => simp [stop]
    | some stopped => simp [stop]

structure Translated (before after : TcFlag) (dataBits stopBits parity : Int) : Prop where
  dataBits : dataBitsSwitch masks after = if stopBits = stopbits15 then jdatabits5 else dataBits
  stopBits : stopBitsSwitch masks after =
    if stopBits = stopbits15 then stopBitsSwitch masks before else stopBits
  parity : ∀ standing, parityFlags masks standing = some (before &&& masks.parityMask) →
    parityFlags masks (masks.nextParity standing parity) = some (after &&& masks.parityMask)
  others : ∀ other, Apart other masks.csize → Apart other masks.cstopb →
    Apart masks.parityMask other → after &&& other = before &&& other

theorem translateLineParams_translated {before after : TcFlag} {dataBits stopBits parity : Int}
    (accepted : translateLineParams masks before dataBits stopBits parity = some after) :
    Translated masks before after dataBits stopBits parity := by
  obtain ⟨sized, stopped, flags, data, stop, known, rfl⟩ := translateLineParams_cases masks accepted
  have within := parityFlags_within masks known
  refine ⟨?_, ?_, ?_, fun other => translateLineParams_apart masks accepted⟩
  · rw [dataBitsSwitch_field masks (parity_step_apart masks within masks.parityMask_csize)]
    exact dataBitsSwitch_translated masks data stop
  · rw [stopBitsSwitch_field masks (parity_step_apart masks within masks.parityMask_cstopb)]
    split
    next half =>
      rcases translateStopBits_cases masks stop with ⟨one, -⟩ | ⟨two, -⟩ | ⟨-, five⟩
      · rw [half] at one
        cases one
      · rw [half] at two
        cases two
      · apply stopBitsSwitch_field
        rw [translateDataBits_apart masks five masks.cstopb_csize,
          translateDataBits_apart masks data masks.cstopb_csize]
    next whole => exact stopBitsSwitch_translated masks stop whole
  · intro standing stands
    rw [masks.nextParity_flags stands known]
    have kept : stopped &&& masks.parityMask = before &&& masks.parityMask := by
      rw [translateStopBits_apart masks stop masks.parityMask_csize masks.parityMask_cstopb,
        translateDataBits_apart masks data masks.parityMask_csize]
    cases masks.cmspar.isSome with
    | true =>
      simp only [if_true]
      rw [put_and_same stopped within]
    | false =>
      simp only [Bool.false_eq_true, if_false]
      rw [BitVec.and_or_distrib_right, kept, show flags &&& masks.parityMask = flags from within]

end

section

variable {header : SettingsHeader}

theorem SettingsHeader.csize_within (header : SettingsHeader) :
    Within header.masks.csize header.fields :=
  (((within_self _).left _).left _).left _

theorem SettingsHeader.cstopb_within (header : SettingsHeader) :
    Within header.masks.cstopb header.fields :=
  (((within_self _).right _).left _).left _

theorem SettingsHeader.parityMask_within (header : SettingsHeader) :
    Within header.masks.parityMask header.fields :=
  ((within_self _).right _).left _

theorem SettingsHeader.hardware_within (header : SettingsHeader) :
    Within header.hardware.bits header.fields :=
  (within_self _).right _

theorem HardwareFlowControl.test_field (hardware : HardwareFlowControl) {word other : TcFlag}
    (same : word &&& hardware.bits = other &&& hardware.bits) :
    hardware.test word = hardware.test other := by
  cases hardware with
  | whole mask => exact same
  | pair first second =>
    have operand : word &&& first = other &&& first :=
      and_of_within ((within_self first).left second) same
    simp only [test, operand]

theorem nativeGetFlowControlMode_field {before after : UnixTermios}
    (hardware : after.cflag &&& header.hardware.bits = before.cflag &&& header.hardware.bits)
    (iflag : after.iflag = before.iflag) (ttyset : UnixTermios) :
    nativeGetFlowControlMode header.hardware header.iflags ttyset (some after) =
      nativeGetFlowControlMode header.hardware header.iflags ttyset (some before) := by
  have tested := header.hardware.test_field hardware
  simp only [nativeGetFlowControlMode, Option.getD_some, tested, iflag]

variable (speeds : SpeedCalls header) (answers : ParamAnswers)

theorem SpeedCalls.cfsetispeed_answers (speed : Int) (ttyset : TtySet) :
    (speeds.cfsetispeed speed ttyset).1 = speeds.knows speed ∧
      (speeds.cfsetispeed speed ttyset).2.cCflag &&& header.fields =
        ttyset.cCflag &&& header.fields :=
  speeds.answers _ (by simp) speed ttyset

theorem SpeedCalls.cfsetospeed_answers (speed : Int) (ttyset : TtySet) :
    (speeds.cfsetospeed speed ttyset).1 = speeds.knows speed ∧
      (speeds.cfsetospeed speed ttyset).2.cCflag &&& header.fields =
        ttyset.cCflag &&& header.fields :=
  speeds.answers _ (by simp) speed ttyset

theorem SpeedCalls.setSpeeds_knows (speed : Int) (ttyset : TtySet) :
    ((speeds.paramCalls answers).setSpeeds speed ttyset).1 = speeds.knows speed := by
  unfold ParamCalls.setSpeeds
  simp only [paramCalls, (speeds.cfsetispeed_answers speed ttyset).1]
  split
  next => exact (speeds.cfsetospeed_answers speed _).1
  next unknown => exact (Bool.eq_false_iff.mpr unknown).symm

theorem SpeedCalls.setSpeeds_fields (speed : Int) (ttyset : TtySet) :
    ((speeds.paramCalls answers).setSpeeds speed ttyset).2.cCflag &&& header.fields =
      ttyset.cCflag &&& header.fields := by
  obtain ⟨answered, input⟩ := speeds.cfsetispeed_answers speed ttyset
  unfold ParamCalls.setSpeeds
  simp only [paramCalls, answered]
  by_cases known : speeds.knows speed = true
  · rw [if_pos known]
    exact (speeds.cfsetospeed_answers speed _).2.trans input
  · rw [if_neg known]
    exact input

theorem SpeedCalls.setSpeeds_stored {speed : Int} (known : speeds.knows speed = true)
    (ttyset : TtySet) :
    speeds.cfgetospeed ((speeds.paramCalls answers).setSpeeds speed ttyset).2 = speed := by
  unfold ParamCalls.setSpeeds
  simp only [paramCalls, (speeds.cfsetispeed_answers speed ttyset).1, known, if_true]
  exact speeds.stored _ (by simp) speed _ known

def Edited (header : SettingsHeader) (before : TcFlag) (dataBits stopBits parity : Int)
    (ttyset : TtySet) : Prop :=
  ∃ cCflag, Translated header.masks before cCflag dataBits stopBits parity ∧
    ttyset.cCflag &&& header.fields = cCflag &&& header.fields

theorem Edited.setSpeeds {before : TcFlag} {dataBits stopBits parity : Int} {ttyset : TtySet}
    (edited : Edited header before dataBits stopBits parity ttyset) (speed : Int) :
    Edited header before dataBits stopBits parity
      ((speeds.paramCalls answers).setSpeeds speed ttyset).2 := by
  obtain ⟨cCflag, translated, same⟩ := edited
  exact ⟨cCflag, translated, (speeds.setSpeeds_fields answers speed ttyset).trans same⟩

theorem prepare_refused (params : PortParams) (d : SerialDevice)
    (refused : answers.tcgetattr = false ∨
      ¬ header.masks.Valid params.dataBits params.stopBits params.parity ∨
        speeds.cfsetspeed.isSome ∧ speeds.knows params.cspeed = false) :
    prepare header.toSerialHeader (speeds.paramCalls answers) params d = none := by
  unfold prepare
  simp only [SpeedCalls.paramCalls]
  rcases refused with closed | invalid | ⟨single, unknown⟩
  · simp [closed]
  · rw [← translateLineParams_isSome header.masks d.ttyset.cCflag, Option.not_isSome_iff_eq_none]
      at invalid
    simp [invalid]
  · obtain ⟨cfsetspeed, defined⟩ := Option.isSome_iff_exists.mp single
    have answered (ttyset : TtySet) : (cfsetspeed params.cspeed ttyset).1 = false := by
      rw [← unknown]
      exact (speeds.answers cfsetspeed (by simp [defined]) params.cspeed ttyset).1
    simp [defined, answered]

theorem prepare_edited {params : PortParams} (d : SerialDevice)
    (tcgetattr : answers.tcgetattr = true)
    (valid : header.masks.Valid params.dataBits params.stopBits params.parity)
    (known : speeds.cfsetspeed.isSome → speeds.knows params.cspeed = true) :
    ∃ ttyset, prepare header.toSerialHeader (speeds.paramCalls answers) params d = some ttyset ∧
      Edited header d.ttyset.cCflag params.dataBits params.stopBits params.parity ttyset := by
  obtain ⟨cCflag, accepted⟩ := Option.isSome_iff_exists.mp
    ((translateLineParams_isSome header.masks d.ttyset.cCflag _ _ _).mpr valid)
  have translated := translateLineParams_translated header.masks accepted
  unfold prepare
  simp only [SpeedCalls.paramCalls, tcgetattr, guard_true, Option.pure_def, Option.bind_eq_bind,
    Option.bind_some, accepted]
  cases defined : speeds.cfsetspeed with
  | none => exact ⟨_, rfl, cCflag, translated, rfl⟩
  | some cfsetspeed =>
    rw [defined, Option.isSome_some] at known
    have answered := speeds.answers cfsetspeed (by simp [defined]) params.cspeed
      { d.ttyset with cCflag }
    simp only [answered.1, known rfl, if_true]
    exact ⟨_, rfl, cCflag, translated, answered.2⟩

theorem hangUp_lines (d : SerialDevice) (cspeed : Int) :
    ∃ lines, (if cspeed = 0 then d.hangUp header.toSerialHeader (speeds.paramCalls answers) else d) =
      { d with lines } := by
  by_cases zero : cspeed = 0
  · rw [if_pos zero, SerialDevice.hangUp]
    by_cases set : (speeds.paramCalls answers).tiocmset = true
    · simp only [set, if_true]
      exact ⟨_, rfl⟩
    · simp only [set, Bool.false_eq_true, if_false]
      exact ⟨d.lines, rfl⟩
  · rw [if_neg zero]
    exact ⟨d.lines, rfl⟩

theorem setPortParams_known (params : PortParams) (sstruct : SerialStruct) (d : SerialDevice)
    (tcgetattr : answers.tcgetattr = true)
    (valid : header.masks.Valid params.dataBits params.stopBits params.parity)
    (known : speeds.knows params.cspeed = true) :
    ∃ ttyset lines, Edited header d.ttyset.cCflag params.dataBits params.stopBits params.parity
        ttyset ∧ speeds.cfgetospeed ttyset = params.cspeed ∧
      d.setPortParams header.toSerialHeader (speeds.paramCalls answers) sstruct params =
        some (if answers.tcsetattr then (0, { d with ttyset, lines }) else (1, { d with lines })) := by
  obtain ⟨copy, prepared, edited⟩ := prepare_edited speeds answers d tcgetattr valid fun _ => known
  obtain ⟨lines, started⟩ := hangUp_lines speeds answers d params.cspeed
  refine ⟨_, lines, edited.setSpeeds speeds answers params.cspeed,
    speeds.setSpeeds_stored answers known copy, ?_⟩
  unfold SerialDevice.setPortParams
  simp only [prepared, started, speeds.setSpeeds_knows answers, known, if_true]
  rfl

theorem setPortParams_unknown (params : PortParams) (sstruct : SerialStruct) (d : SerialDevice)
    (tcgetattr : answers.tcgetattr = true)
    (valid : header.masks.Valid params.dataBits params.stopBits params.parity)
    (positive : 0 < params.cspeed) (unknown : speeds.knows params.cspeed = false)
    (separate : speeds.cfsetspeed = none) :
    ∃ ttyset, Edited header d.ttyset.cCflag params.dataBits params.stopBits params.parity ttyset ∧
      (speeds.knows header.b38400 = true → speeds.cfgetospeed ttyset = header.b38400) ∧
      d.setPortParams header.toSerialHeader (speeds.paramCalls answers) sstruct params =
        some (if header.tiocgserial = false ∨ speeds.knows header.b38400 = false ∨
            sstruct.baudBase < 1 ∨ answers.tiocsserial = false then (1, d)
          else if answers.tcsetattr then
            (0, { d with ttyset, serial := sstruct.divided params.cspeed })
          else (1, { d with serial := sstruct.divided params.cspeed })) := by
  obtain ⟨copy, prepared, edited⟩ := prepare_edited speeds answers d tcgetattr valid
    (by simp [separate])
  have rejected := edited.setSpeeds speeds answers params.cspeed
  refine ⟨_, rejected.setSpeeds speeds answers header.b38400,
    fun known => speeds.setSpeeds_stored answers known _, ?_⟩
  have divides : intDiv sstruct.baudBase params.cspeed =
      some (sstruct.baudBase.tdiv params.cspeed) := by
    rw [intDiv, if_neg (by omega)]
  unfold SerialDevice.setPortParams
  simp only [prepared, speeds.setSpeeds_knows answers, unknown, Bool.false_eq_true, if_false,
    if_neg (show ¬ params.cspeed = 0 by omega), SerialDevice.customSpeed]
  by_cases defined : header.tiocgserial = true
  · simp only [defined, if_true, divides, Option.bind_eq_bind, Option.bind_some, Option.pure_def,
      Bool.true_eq_false, false_or]
    cases speeds.knows header.b38400 with
    | false => rfl
    | true =>
      simp only [Bool.not_true, Bool.false_eq_true, if_false, Bool.true_eq_false, false_or]
      split_ifs <;> simp_all [SerialDevice.tcsetattr, SpeedCalls.paramCalls, SerialStruct.divided]
  · simp [defined]

variable {speeds} {answers}

theorem SettingsDevice.Encodes.withLines {device : SettingsDevice} {r : SettingRegisters}
    (encodes : device.Encodes speeds r) (lines : BitVec 32) :
    { device with lines }.Encodes speeds r where
  cspeed := encodes.cspeed
  dataBits := encodes.dataBits
  stopBits := encodes.stopBits
  parity := encodes.parity
  flow := encodes.flow
  eof := encodes.eof
  vmin := encodes.vmin
  serial := encodes.serial

theorem SettingsDevice.Encodes.withSerial {device : SettingsDevice} {r : SettingRegisters}
    (encodes : device.Encodes speeds r) (serial : SerialStruct) :
    { device with serial }.Encodes speeds { r with serial } where
  cspeed := encodes.cspeed
  dataBits := encodes.dataBits
  stopBits := encodes.stopBits
  parity := encodes.parity
  flow := encodes.flow
  eof := encodes.eof
  vmin := encodes.vmin
  serial := rfl

theorem SettingsDevice.Encodes.withLine {device : SettingsDevice} {r : SettingRegisters}
    (encodes : device.Encodes speeds r) {cspeed dataBits stopBits parity : Int} {ttyset : TtySet}
    (edited : Edited header device.termios.cflag dataBits stopBits parity ttyset)
    (stored : speeds.cfgetospeed ttyset = cspeed) :
    (device.withSerialDevice { device.serialDevice with ttyset }).Encodes speeds
      (r.withLine header.masks cspeed dataBits stopBits parity) := by
  obtain ⟨cCflag, translated, same⟩ := edited
  have hardware : cCflag &&& header.hardware.bits =
      device.termios.cflag &&& header.hardware.bits :=
    translated.others _ (header.hardware_apart _ (by simp)) (header.hardware_apart _ (by simp))
      (header.hardware_apart _ (by simp)).symm
  refine ⟨stored, ?_, ?_, ?_, ?_, encodes.eof, encodes.vmin, encodes.serial⟩
  · exact (dataBitsSwitch_field _ (and_of_within header.csize_within same)).trans
      translated.dataBits
  · refine (stopBitsSwitch_field _ (and_of_within header.cstopb_within same)).trans ?_
    rw [translated.stopBits, encodes.stopBits]
    rfl
  · refine (translated.parity r.parity encodes.parity).trans ?_
    exact congrArg some (and_of_within header.parityMask_within same).symm
  · intro buffer
    show _ = r.flow
    rw [← encodes.flow buffer]
    apply nativeGetFlowControlMode_field
    · exact (and_of_within header.hardware_within same).trans hardware
    · rfl

theorem nativeSetSerialPortParams_refused {device : SettingsDevice} {sstruct : SerialStruct}
    {speed dataBits stopBits parity : Int} (refused : answers.tcgetattr = false ∨
      ¬ header.masks.Valid dataBits stopBits parity ∨
        speeds.cfsetspeed.isSome ∧ speeds.knows (header.translateSpeed speed) = false) :
    nativeSetSerialPortParams speeds answers sstruct speed dataBits stopBits parity device =
      some (true, device) := by
  have unprepared := prepare_refused speeds answers
    ⟨header.translateSpeed speed, dataBits, stopBits, parity⟩ device.serialDevice refused
  unfold nativeSetSerialPortParams SerialDevice.setPortParams
  simp only [unprepared]
  split <;> rfl

theorem nativeSetSerialPortParams_encodes {device : SettingsDevice} {r : SettingRegisters}
    (encodes : device.Encodes speeds r) (answers : ParamAnswers) (sstruct : SerialStruct)
    (speed dataBits stopBits parity : Int) :
    ∃ device', nativeSetSerialPortParams speeds answers sstruct speed dataBits stopBits parity
        device =
          some ((r.setSerialPortParams speeds answers sstruct speed dataBits stopBits parity).1,
            device') ∧
      device'.Encodes speeds
        (r.setSerialPortParams speeds answers sstruct speed dataBits stopBits parity).2 := by
  by_cases negative : header.translateSpeed speed < 0
  · rw [SettingRegisters.setSerialPortParams, if_pos (.inl negative), nativeSetSerialPortParams,
      if_pos negative]
    exact ⟨device, rfl, encodes⟩
  by_cases closed : answers.tcgetattr = false ∨ ¬ header.masks.Valid dataBits stopBits parity
  · rw [SettingRegisters.setSerialPortParams, if_pos (.inr closed),
      nativeSetSerialPortParams_refused (closed.imp_right .inl)]
    exact ⟨device, rfl, encodes⟩
  rw [SettingRegisters.setSerialPortParams, if_neg (by tauto)]
  rw [not_or, Bool.not_eq_false, not_not] at closed
  rcases closed with ⟨tcgetattr, valid⟩
  cases known : speeds.knows (header.translateSpeed speed) with
  | true =>
    obtain ⟨ttyset, lines, edited, stored, returned⟩ := setPortParams_known speeds answers
      ⟨header.translateSpeed speed, dataBits, stopBits, parity⟩ sstruct device.serialDevice
      tcgetattr valid known
    rw [if_pos rfl, nativeSetSerialPortParams, if_neg negative, returned]
    cases answers.tcsetattr with
    | true => exact ⟨_, rfl, (encodes.withLines lines).withLine edited stored⟩
    | false => exact ⟨_, rfl, encodes.withLines lines⟩
  | false =>
    rw [if_neg Bool.false_ne_true]
    cases separate : speeds.cfsetspeed with
    | some cfsetspeed =>
      rw [if_pos (.inl rfl), nativeSetSerialPortParams_refused
        (.inr (.inr ⟨by simp [separate], known⟩))]
      exact ⟨device, rfl, encodes⟩
    | none =>
      have nonzero : header.translateSpeed speed ≠ 0 := by
        intro zero
        rw [zero, speeds.hangsUp] at known
        cases known
      have positive : 0 < header.translateSpeed speed := by omega
      obtain ⟨ttyset, edited, stored, returned⟩ := setPortParams_unknown speeds answers
        ⟨header.translateSpeed speed, dataBits, stopBits, parity⟩ sstruct device.serialDevice
        tcgetattr valid positive known separate
      rw [nativeSetSerialPortParams, if_neg negative, returned]
      by_cases refused : header.tiocgserial = false ∨ speeds.knows header.b38400 = false ∨
          sstruct.baudBase < 1 ∨ answers.tiocsserial = false
      · rw [if_pos refused, if_pos (.inr refused)]
        exact ⟨device, rfl, encodes⟩
      · have kept : ¬ ((none : Option (Int → TtySet → Bool × TtySet)).isSome ∨
            header.tiocgserial = false ∨ speeds.knows header.b38400 = false ∨
              sstruct.baudBase < 1 ∨ answers.tiocsserial = false) := by
          rw [Option.isSome_none, or_iff_right Bool.false_ne_true]
          exact refused
        rw [if_neg refused, if_neg kept]
        have programmed := encodes.withSerial (sstruct.divided (header.translateSpeed speed))
        cases answers.tcsetattr with
        | true =>
          refine ⟨_, rfl, programmed.withLine edited (stored ?_)⟩
          rw [not_or, not_or, Bool.not_eq_false] at refused
          simpa using refused.2.1
        | false => exact ⟨_, rfl, programmed⟩

theorem HardwareFlowControl.test_reports {macros : FlowMacros} {hardware : HardwareFlowControl}
    (selected : macros.hardwareFlowControl = some hardware) (word : TcFlag) (requested : Prop)
    [Decidable requested] :
    hardware.test (if requested then hardware.set word else hardware.reset word) ≠ 0 ↔
      hardware.reports requested = true := by
  cases hardware with
  | whole mask =>
    by_cases asked : requested
    · have set : test (set word (.whole mask)) (.whole mask) = mask := set_and_same word mask
      simp [asked, set, reports]
    · have reset : test (reset word (.whole mask)) (.whole mask) = 0 := clear_and_same word mask
      simp [asked, reset, reports]
  | pair first second =>
    have operand := (macros.hardwareFlowControl_bits selected (by simp)).2 first second rfl
    exact iff_of_true (fun zero => operand (BitVec.or_eq_zero_iff.mp zero).2) rfl

theorem SettingsDevice.Encodes.withFlow {device : SettingsDevice} {r : SettingRegisters}
    (encodes : device.Encodes speeds r) (flowmode : FlowMode) :
    { device with termios := device.termios.withFlow header.hardware header.iflags flowmode }.Encodes
      speeds { r with flow := header.hardware.reported flowmode } := by
  have outside := (withFlow_flowOnly header.hardware header.iflags device.termios flowmode).cflag
  have kept {field : TcFlag}
      (member : field ∈ [header.masks.csize, header.masks.cstopb, header.masks.parityMask]) :
      (device.termios.withFlow header.hardware header.iflags flowmode).cflag &&& field =
        device.termios.cflag &&& field := by
    have apart := header.hardware_apart field member
    rw [← clear_and_apart _ apart, outside, clear_and_apart _ apart]
  refine ⟨?_, ?_, ?_, ?_, ?_, encodes.eof, encodes.vmin, encodes.serial⟩
  · rw [← encodes.cspeed]
    apply speeds.elsewhere device.ttyset
    rw [SettingsHeader.fields, BitVec.or_comm, ← clear_clear, outside, clear_clear]
    rfl
  · rw [← encodes.dataBits]
    exact dataBitsSwitch_field _ (kept (by simp))
  · rw [← encodes.stopBits]
    exact stopBitsSwitch_field _ (kept (by simp))
  · rw [encodes.parity, ← kept (by simp)]
  · intro buffer
    rw [nativeGetFlowControlMode_withFlow, HardwareFlowControl.reported]
    simp only [UnixTermios.withFlow, HardwareFlowControl.test_reports header.selected]

theorem SettingsDevice.Encodes.withEof {device : SettingsDevice} {r : SettingRegisters}
    (encodes : device.Encodes speeds r) (value : BitVec 8) :
    { device with
      termios := { device.termios with
        cc := setPlace device.termios.cc header.veof value } }.Encodes speeds
      { r with eof := value, vmin := if header.vmin = header.veof then value else r.vmin } := by
  refine ⟨encodes.cspeed, encodes.dataBits, encodes.stopBits, encodes.parity, encodes.flow, ?_, ?_,
    encodes.serial⟩
  · exact if_pos rfl
  · rw [← encodes.vmin]
    rfl

def SettingsDevice.openedRegisters (header : SettingsHeader) (device : SettingsDevice) :
    SettingRegisters where
  cspeed := header.b9600
  dataBits := jdatabits8
  stopBits := stopbits1
  parity := jparityNone
  flow := header.hardware.reported flowcontrolNone
  eof := (header.sane device.termios).cc header.veof
  vmin := 0
  serial := device.serial

theorem SettingsHeader.sane_cflag (header : SettingsHeader) {field : TcFlag}
    (member : field ∈ [header.masks.csize, header.masks.cstopb, header.masks.parityMask,
      header.hardware.bits]) (ttyset : UnixTermios) :
    (header.sane ttyset).cflag &&& field = header.masks.cs8 &&& field := by
  show (header.cread ||| header.masks.cs8 ||| header.clocal) &&& field = _
  rw [BitVec.or_comm header.cread, BitVec.or_assoc]
  exact or_and_apart _ (header.configured_apart field member)

theorem CFlagMasks.cs8_within (masks : CFlagMasks) : Within masks.cs8 masks.csize :=
  masks.sizes_within _ (by simp)

theorem CFlagMasks.cs8_switch (masks : CFlagMasks) :
    dataBitsSwitch masks masks.cs8 = jdatabits8 := by
  obtain ⟨size, within, result, decoded⟩ := translateDataBits_some masks
    (show translateDataBits masks 0 jdatabits8 = some (clear 0 masks.csize ||| masks.cs8) from rfl)
  rw [← decoded]
  apply dataBitsSwitch_field
  rw [← put_and_same 0 masks.cs8_within, result, put_and_same 0 within]

theorem HardwareFlowControl.test_none {macros : FlowMacros} {hardware : HardwareFlowControl}
    (selected : macros.hardwareFlowControl = some hardware) {word : TcFlag}
    (none : word &&& hardware.bits = 0) :
    hardware.test word ≠ 0 ↔ hardware.reports False = true := by
  cases hardware with
  | whole mask => exact iff_of_false (not_not.mpr none) (by simp [reports])
  | pair first second =>
    have operand := (macros.hardwareFlowControl_bits selected (by simp)).2 first second rfl
    exact iff_of_true (fun zero => operand (BitVec.or_eq_zero_iff.mp zero).2) rfl

theorem SpeedCalls.setB9600_stored {ttyset : TtySet} (set : (speeds.setB9600 ttyset).1 = true) :
    (speeds.setB9600 ttyset).2.cCflag &&& header.fields = ttyset.cCflag &&& header.fields ∧
      speeds.cfgetospeed (speeds.setB9600 ttyset).2 = header.b9600 := by
  unfold SpeedCalls.setB9600 at set ⊢
  cases single : speeds.cfsetspeed with
  | some cfsetspeed =>
    have answered := speeds.answers cfsetspeed (by simp [single]) header.b9600 ttyset
    simp only [single] at set ⊢
    exact ⟨answered.2, speeds.stored cfsetspeed (by simp [single]) _ _ (answered.1.symm.trans set)⟩
  | none =>
    have input := speeds.cfsetispeed_answers header.b9600 ttyset
    simp only [single] at set ⊢
    by_cases accepted : (speeds.cfsetispeed header.b9600 ttyset).1 = true
    · rw [if_pos accepted]
      have output := speeds.cfsetospeed_answers header.b9600
        (speeds.cfsetispeed header.b9600 ttyset).2
      exact ⟨output.2.trans input.2, speeds.stored _ (by simp) _ _ (input.1.symm.trans accepted)⟩
    · rw [if_neg accepted] at set
      cases set

theorem SettingsDevice.configured_encodes {device opened : SettingsDevice}
    (configured : device.configured speeds = some opened) :
    opened.Encodes speeds (device.openedRegisters header) := by
  unfold SettingsDevice.configured at configured
  simp only [] at configured
  split_ifs at configured with set
  obtain ⟨fields, stored⟩ := speeds.setB9600_stored set
  obtain rfl := Option.some.inj configured
  generalize (speeds.setB9600 _).2 = ttyset at fields stored
  have kept {field : TcFlag} (within : Within field header.fields)
      (member : field ∈ [header.masks.csize, header.masks.cstopb, header.masks.parityMask,
        header.hardware.bits]) : ttyset.cCflag &&& field = header.masks.cs8 &&& field :=
    (and_of_within within fields).trans (header.sane_cflag member device.termios)
  have empty {field : TcFlag} (within : Within field header.fields)
      (member : field ∈ [header.masks.csize, header.masks.cstopb, header.masks.parityMask,
        header.hardware.bits]) (apart : Apart header.masks.csize field) :
      ttyset.cCflag &&& field = 0 :=
    (kept within member).trans (header.masks.cs8_within.apart apart)
  refine ⟨stored, ?_, ?_, ?_, ?_, rfl, ?_, rfl⟩
  · refine Eq.trans ?_ header.masks.cs8_switch
    exact dataBitsSwitch_field _ (kept header.csize_within (by simp))
  · have zero := empty header.cstopb_within (by simp) header.masks.cstopb_csize.symm
    show stopBitsSwitch header.masks ttyset.cCflag = stopbits1
    rw [stopBitsSwitch, if_pos zero]
  · have zero := empty header.parityMask_within (by simp) header.masks.parityMask_csize.symm
    exact congrArg some zero.symm
  · intro buffer
    have zero := empty header.hardware_within (by simp) (header.hardware_apart _ (by simp)).symm
    have tested := HardwareFlowControl.test_none header.selected zero
    have on : header.inpck &&& header.iflags.ixon = 0 := header.inpck_apart _ (by simp)
    have off : header.inpck &&& header.iflags.ixoff = 0 := header.inpck_apart _ (by simp)
    simp only [nativeGetFlowControlMode, Option.getD_some, SettingsDevice.withSerialDevice,
      SettingsHeader.sane, tested, on, off]
    simp [openedRegisters, HardwareFlowControl.reported, flowcontrolNone]
  · show setPlace (setPlace device.termios.cc header.vmin 0) header.vtime 0 header.vmin = 0
    simp only [setPlace]
    split <;> simp

end

def SettingsHeader.linux : SettingsHeader where
  __ := SerialHeader.linux
  macros := .linux
  hardware := .whole 0o20000000000
  selected := rfl
  iflags := .linux
  inpck := 0o20
  cread := 0o200
  clocal := 0o4000
  veof := 4
  vmin := 6
  vtime := 5
  hardware_apart := by
    intro field member
    simp only [List.mem_cons, List.not_mem_nil, or_false] at member
    rcases member with rfl | rfl | rfl <;> rfl
  configured_apart := by
    intro field member
    simp only [List.mem_cons, List.not_mem_nil, or_false] at member
    rcases member with rfl | rfl | rfl | rfl <;> rfl
  inpck_apart := by simp [Apart, IFlagMasks.linux]

theorem glibc_hangsUp : ParamCalls.glibcKnows 0 = true := rfl

theorem glibcKnows_within {speed : Int} (known : ParamCalls.glibcKnows speed = true) :
    Within (BitVec.ofInt 32 speed) linuxCbaud := by
  simp only [ParamCalls.glibcKnows, decide_eq_true_eq] at known
  rcases known with ⟨low, high⟩ | ⟨low, high⟩ <;> interval_cases speed <;> decide

theorem linuxCbaud_apart : Apart linuxCbaud SettingsHeader.linux.fields := by decide

theorem glibcCFlag_fields {speed : Int} (known : ParamCalls.glibcKnows speed = true)
    (cCflag : TcFlag) :
    glibcCFlag speed cCflag &&& SettingsHeader.linux.fields =
      cCflag &&& SettingsHeader.linux.fields :=
  put_and_apart cCflag (glibcKnows_within known) linuxCbaud_apart

theorem glibc_answers {set : Int → TtySet → Bool × TtySet}
    (member : set ∈ [ParamCalls.glibc.cfsetispeed, ParamCalls.glibc.cfsetospeed]) (speed : Int)
    (ttyset : TtySet) :
    (set speed ttyset).1 = ParamCalls.glibcKnows speed ∧
      (set speed ttyset).2.cCflag &&& SettingsHeader.linux.fields =
        ttyset.cCflag &&& SettingsHeader.linux.fields := by
  simp only [List.mem_cons, List.not_mem_nil, or_false] at member
  cases known : ParamCalls.glibcKnows speed with
  | false => rcases member with rfl | rfl <;> simp [ParamCalls.glibc, known]
  | true =>
    have fields := glibcCFlag_fields known ttyset.cCflag
    rcases member with rfl | rfl <;> simp only [ParamCalls.glibc, known, if_true, true_and]
    · split
      · rfl
      · exact fields
    · exact fields

/-- `cfgetospeed` reads the code from `c_cflag`. -/
def glibcGetospeed (ttyset : TtySet) : Int := (ttyset.cCflag &&& linuxCbaud).toInt

theorem glibc_stored (speed : Int) (ttyset : TtySet) (known : ParamCalls.glibcKnows speed = true) :
    glibcGetospeed (ParamCalls.glibc.cfsetospeed speed ttyset).2 = speed := by
  have stored : glibcCFlag speed ttyset.cCflag &&& linuxCbaud = BitVec.ofInt 32 speed :=
    put_and_same ttyset.cCflag (glibcKnows_within known)
  simp only [ParamCalls.glibc, known, if_true, glibcGetospeed, stored]
  simp only [ParamCalls.glibcKnows, decide_eq_true_eq] at known
  rw [BitVec.toInt_ofInt, Int.bmod_eq_of_le] <;> omega

theorem glibcGetospeed_elsewhere (ttyset : TtySet) (cCflag : TcFlag)
    (same : clear cCflag SettingsHeader.linux.fields =
      clear ttyset.cCflag SettingsHeader.linux.fields) :
    glibcGetospeed { ttyset with cCflag } = glibcGetospeed ttyset := by
  have within : Within linuxCbaud (~~~SettingsHeader.linux.fields) := by decide
  exact congrArg BitVec.toInt (and_of_within within same)

def SpeedCalls.glibc : SpeedCalls .linux where
  cfsetspeed := none
  cfsetispeed := ParamCalls.glibc.cfsetispeed
  cfsetospeed := ParamCalls.glibc.cfsetospeed
  cfgetospeed := glibcGetospeed
  knows := ParamCalls.glibcKnows
  rate code := (linuxSpeeds.lookup (BitVec.ofInt 32 code)).getD 0
  hangsUp := glibc_hangsUp
  rate_b9600 := rfl
  rate_b38400 := rfl
  answers _ member := glibc_answers member
  stored _ member speed ttyset known :=
    List.mem_singleton.mp member ▸ glibc_stored speed ttyset known
  elsewhere := glibcGetospeed_elsewhere

end Rxtx.SerialImp
