import Rxtx.SerialImp.StaticSetters

open FlagWord

namespace Rxtx.SerialImp

structure SerialStruct where
  customDivisor : Int
  baudBase : Int
  closeDelay : BitVec 16
  closingWait : BitVec 16
  iomemRegShift : BitVec 16
  type : Int
  line : Int
  irq : Int
  flags : Int
  xmitFifoSize : Int
  hub6 : Int
  port : BitVec 32
  portHigh : BitVec 32
  ioType : BitVec 8
  iomemBase : Nat
  deriving DecidableEq, Repr

structure SerialDevice where
  ttyset : TtySet
  serial : SerialStruct
  lines : BitVec 32

/-- `tiocgserial` is what `#if defined(TIOCGSERIAL)` and `#if defined(TIOCSSERIAL)` test;
    `outputs` are the lines that `TIOCMSET` can set. -/
structure SerialHeader extends TermiosHeader where
  tiocgserial : Bool
  outputs : BitVec 32
  dtr_output : Within tiocmDtr outputs

/-- Which of the system's calls succeed. The ones that set a speed edit the settings they are given;
    `cfsetspeed` is there on FreeBSD only. -/
structure ParamCalls where
  tcgetattr : Bool
  cfsetspeed : Option (Int → TtySet → Bool × TtySet)
  tiocmget : Bool
  tiocmset : Bool
  cfsetispeed : Int → TtySet → Bool × TtySet
  cfsetospeed : Int → TtySet → Bool × TtySet
  tiocsserial : Bool
  tcsetattr : Bool

structure PortParams where
  cspeed : Int
  dataBits : Int
  stopBits : Int
  parity : Int

/-- `int` division, which traps on a divisor of 0 and on a quotient that does not fit. -/
def intDiv (dividend divisor : Int) : Option Int :=
  if divisor = 0 ∨ dividend = -2^31 ∧ divisor = -1 then none else some (dividend.tdiv divisor)

def ParamCalls.setSpeeds (calls : ParamCalls) (cspeed : Int) (ttyset : TtySet) : Bool × TtySet :=
  let (set, ttyset) := calls.cfsetispeed cspeed ttyset
  if set then calls.cfsetospeed cspeed ttyset else (false, ttyset)

variable (header : SerialHeader) (calls : ParamCalls)

def SerialHeader.b38400 : Int := header.translateSpeed 38400

/-- The local copy of the settings before the speeds are set; `none` where 1 was returned. -/
def prepare (params : PortParams) (d : SerialDevice) : Option TtySet := do
  guard calls.tcgetattr
  let cCflag ← translateLineParams header.masks d.ttyset.cCflag params.dataBits params.stopBits
    params.parity
  let ttyset := { d.ttyset with cCflag }
  match calls.cfsetspeed with
  | none => some ttyset
  | some cfsetspeed =>
    let (set, ttyset) := cfsetspeed params.cspeed ttyset
    if set then some ttyset else none

/-- The speed is 0; `result` stays 0 where `TIOCMGET` fails. -/
def SerialDevice.hangUp (d : SerialDevice) : SerialDevice :=
  let result := clear (if calls.tiocmget then d.lines else 0) tiocmDtr
  if calls.tiocmset then
    { d with lines := clear d.lines header.outputs ||| (result &&& header.outputs) }
  else d

def SerialDevice.tcsetattr (d : SerialDevice) (ttyset : TtySet) : Int × SerialDevice :=
  if calls.tcsetattr then (0, { d with ttyset }) else (1, d)

/-- The speed was rejected. Nothing has stored into `sstruct` yet. -/
def SerialDevice.customSpeed (sstruct : SerialStruct) (cspeed : Int) (ttyset : TtySet)
    (d : SerialDevice) : Option (Int × SerialDevice) :=
  if header.tiocgserial then do
    let customDivisor ← intDiv sstruct.baudBase cspeed
    let (set, ttyset) := calls.setSpeeds header.b38400 ttyset
    if !set then return (1, d)
    if sstruct.baudBase < 1 ∨ calls.tiocsserial = false then return (1, d)
    return { d with serial := { sstruct with customDivisor } }.tcsetattr calls ttyset
  else
    let (set, ttyset) := calls.setSpeeds cspeed ttyset
    if set then some (d.tcsetattr calls ttyset) else some (1, d)

/-- `none` where the division traps. -/
def SerialDevice.setPortParams (sstruct : SerialStruct) (params : PortParams) (d : SerialDevice) :
    Option (Int × SerialDevice) :=
  match prepare header calls params d with
  | none => some (1, d)
  | some ttyset =>
    let d := if params.cspeed = 0 then d.hangUp header calls else d
    let (set, ttyset) := calls.setSpeeds params.cspeed ttyset
    if set then some (d.tcsetattr calls ttyset)
    else d.customSpeed header calls sstruct params.cspeed ttyset

def SerialDevice.carryOut (sstruct : SerialStruct) (d : SerialDevice) :
    DeviceRequest → SerialDevice
  | .tiocmset _ word =>
    if calls.tiocmset then
      { d with lines := clear d.lines header.outputs ||| (word &&& header.outputs) }
    else d
  | .tiocsserial _ customDivisor =>
    if calls.tiocsserial then { d with serial := { sstruct with customDivisor } } else d
  | .tcsetattr _ ttyset => (d.tcsetattr calls ttyset).2

structure Answers {proc : Process} (o : SetterOutcome proc) (sstruct : SerialStruct)
    (d : SerialDevice) : Prop where
  tcgetattr : o.tcgetattr = if calls.tcgetattr then some d.ttyset else none
  cfsetspeed : calls.cfsetspeed = none
  tiocmget : o.tiocmget = if calls.tiocmget then some d.lines else none
  setSpeed : o.setSpeed = calls.setSpeeds
  baudBase : o.baudBase = sstruct.baudBase
  tiocsserial : o.tiocsserial = calls.tiocsserial
  tcsetattr : o.tcsetattr = calls.tcsetattr

theorem prepare_eq {proc : Process} {o : SetterOutcome proc} {sstruct : SerialStruct}
    {d : SerialDevice} (answers : Answers calls o sstruct d) (params : PortParams) :
    prepare header calls params d = o.tcgetattr.bind fun ttyset =>
      (translateLineParams header.masks ttyset.cCflag params.dataBits params.stopBits
        params.parity).map fun cCflag => { ttyset with cCflag } := by
  unfold prepare
  rw [answers.tcgetattr]
  cases calls.tcgetattr with
  | false => rfl
  | true =>
    simp only [answers.cfsetspeed, guard_true, Option.pure_def, Option.bind_eq_bind, if_true,
      Option.bind_some]
    cases translateLineParams header.masks d.ttyset.cCflag params.dataBits params.stopBits
      params.parity <;> rfl

theorem hangUp_carryOut {proc : Process} {o : SetterOutcome proc} {sstruct : SerialStruct}
    {d : SerialDevice} (answers : Answers calls o sstruct d) (fd : Int) :
    d.hangUp header calls = d.carryOut header calls sstruct
      (.tiocmset fd (clear (o.tiocmget.getD 0) tiocmDtr)) := by
  have word : o.tiocmget.getD 0 = if calls.tiocmget then d.lines else 0 := by
    rw [answers.tiocmget]
    cases calls.tiocmget <;> rfl
  rw [word]
  rfl

theorem tcsetattr_carryOut {proc : Process} {o : SetterOutcome proc} {sstruct : SerialStruct}
    {d : SerialDevice} (answers : Answers calls o sstruct d) (started : SerialDevice) (fd : Int)
    (ttyset : TtySet) :
    started.tcsetattr calls ttyset = (if o.tcsetattr then 0 else 1,
      started.carryOut header calls sstruct (.tcsetattr fd ttyset)) := by
  rw [answers.tcsetattr]
  unfold SerialDevice.carryOut SerialDevice.tcsetattr
  cases calls.tcsetattr <;> rfl

theorem setSpeeds_zero {proc : Process} {o : SetterOutcome proc} {sstruct : SerialStruct}
    {d : SerialDevice} (answers : Answers calls o sstruct d) (ttyset : TtySet) :
    (calls.setSpeeds 0 ttyset).1 = true := by
  rw [← answers.setSpeed, SetterOutcome.setSpeed]
  simp [(o.hangsUp ttyset).1, (o.hangsUp _).2]

theorem setPortParams_carriesOut {proc : Process} {o : SetterOutcome proc}
    {sstruct : SerialStruct} {d : SerialDevice} (answers : Answers calls o sstruct d)
    (tiocgserial : header.tiocgserial = true) (fd : Int) (params : PortParams)
    (known : params.cspeed ≠ -1) :
    d.setPortParams header calls sstruct params =
      let (result, requests) := setPortParams header.toTermiosHeader o fd params.cspeed
        params.dataBits params.stopBits params.parity
      some (result, requests.foldl (SerialDevice.carryOut header calls sstruct) d) := by
  have carries := tcsetattr_carryOut header calls answers
  unfold SerialDevice.setPortParams setPortParams
  rw [prepare_eq header calls answers]
  cases got : o.tcgetattr with
  | none => rfl
  | some ttyset =>
    cases valid : translateLineParams header.masks ttyset.cCflag params.dataBits params.stopBits
        params.parity with
    | none => simp [valid]
    | some cCflag =>
      simp only [Option.bind_some, valid, Option.map_some, answers.setSpeed]
      by_cases zero : params.cspeed = 0
      · have set := setSpeeds_zero calls answers { ttyset with cCflag }
        simp only [zero, if_true, set, carries _ fd, hangUp_carryOut header calls answers fd,
          List.foldl_append, List.foldl_cons, List.foldl_nil]
      · simp only [zero, if_false]
        by_cases accepted : (calls.setSpeeds params.cspeed { ttyset with cCflag }).1 = true
        · simp only [accepted, if_true, carries _ fd, List.nil_append, List.foldl_cons,
            List.foldl_nil]
        · have divides : intDiv sstruct.baudBase params.cspeed =
              some (sstruct.baudBase.tdiv params.cspeed) := by
            rw [intDiv, if_neg (by simp [zero, known])]
          simp only [accepted, Bool.false_eq_true, if_false, SerialDevice.customSpeed, tiocgserial,
            if_true, divides, Option.bind_eq_bind, Option.bind_some, Option.pure_def,
            answers.baudBase, answers.tiocsserial, carries _ fd, SerialHeader.b38400]
          by_cases retried : (calls.setSpeeds (header.translateSpeed 38400)
              (calls.setSpeeds params.cspeed { ttyset with cCflag }).2).1 = true
          · by_cases small : sstruct.baudBase < 1
            · simp [retried, small]
            · cases stored : calls.tiocsserial <;>
                simp [retried, small, SerialDevice.carryOut, stored]
          · simp [retried]

/-- A line that the hang-up takes down is up. -/
structure HangsUp (params : PortParams) (d : SerialDevice) : Prop where
  prepared : (prepare header calls params d).isSome
  speed : params.cspeed = 0
  tiocmset : calls.tiocmset = true
  up : d.lines &&& (if calls.tiocmget then tiocmDtr else header.outputs) ≠ 0

/-- The speed is rejected, and `sstruct` is stored for it. -/
structure Programs (sstruct : SerialStruct) (cspeed : Int) (ttyset : TtySet) : Prop where
  tiocgserial : header.tiocgserial = true
  rejected : (calls.setSpeeds cspeed ttyset).1 = false
  retried : (calls.setSpeeds header.b38400 (calls.setSpeeds cspeed ttyset).2).1 = true
  positive : 1 ≤ sstruct.baudBase
  stored : calls.tiocsserial = true

def SerialStruct.divided (sstruct : SerialStruct) (cspeed : Int) : SerialStruct :=
  { sstruct with customDivisor := sstruct.baudBase.tdiv cspeed }

/-- The structure that is stored is not the one that the device has. -/
structure Reprograms (sstruct : SerialStruct) (params : PortParams) (d : SerialDevice)
    (ttyset : TtySet) : Prop where
  prepared : prepare header calls params d = some ttyset
  programs : Programs header calls sstruct params.cspeed ttyset
  differs : sstruct.divided params.cspeed ≠ d.serial

theorem SerialDevice.hangUp_eq_iff (d : SerialDevice) :
    d.hangUp header calls = d ↔
      (calls.tiocmset = true →
        d.lines &&& (if calls.tiocmget then tiocmDtr else header.outputs) = 0) := by
  have within (word : BitVec 32) : Within (word &&& header.outputs) header.outputs := by
    rw [Within, BitVec.and_assoc, BitVec.and_self]
  by_cases set : calls.tiocmset = true
  · have lines : d.hangUp header calls = d ↔
        d.lines &&& header.outputs =
          clear (if calls.tiocmget then d.lines else 0) tiocmDtr &&& header.outputs := by
      rw [← put_eq_iff (within _)]
      simp only [SerialDevice.hangUp, set, if_true]
      constructor
      · intro same
        exact congrArg SerialDevice.lines same
      · intro same
        rw [same]
    rw [lines, eq_comm]
    simp only [set, forall_true_left]
    cases calls.tiocmget with
    | true =>
      simp only [if_true]
      exact clear_and_eq_iff header.dtr_output
    | false =>
      simp only [Bool.false_eq_true, if_false, clear, BitVec.ofNat_eq_ofNat, BitVec.zero_and]
      exact eq_comm
  · simp [SerialDevice.hangUp, set]

theorem SerialDevice.tcsetattr_failed {d d' : SerialDevice} {ttyset : TtySet}
    (failed : d.tcsetattr calls ttyset = (1, d')) : d' = d := by
  unfold SerialDevice.tcsetattr at failed
  split_ifs at failed
  · cases failed
  · exact (congrArg Prod.snd failed).symm

theorem SerialDevice.tcsetattr_done {d d' : SerialDevice} {ttyset : TtySet}
    (done : d.tcsetattr calls ttyset = (0, d')) : d' = { d with ttyset } := by
  unfold SerialDevice.tcsetattr at done
  split_ifs at done
  · exact (congrArg Prod.snd done).symm
  · cases done

theorem SerialDevice.customSpeed_cases {sstruct : SerialStruct} {cspeed result : Int}
    {ttyset : TtySet} {d d' : SerialDevice} (rejected : (calls.setSpeeds cspeed ttyset).1 = false)
    (ended : d.customSpeed header calls sstruct cspeed (calls.setSpeeds cspeed ttyset).2 =
      some (result, d')) :
    ¬ Programs header calls sstruct cspeed ttyset ∧
      ((result, d') = (1, d) ∨
        header.tiocgserial = false ∧ ∃ edited, d.tcsetattr calls edited = (result, d')) ∨
    Programs header calls sstruct cspeed ttyset ∧ cspeed ≠ 0 ∧
      { d with serial := sstruct.divided cspeed }.tcsetattr calls
        (calls.setSpeeds header.b38400 (calls.setSpeeds cspeed ttyset).2).2 = (result, d') := by
  unfold SerialDevice.customSpeed at ended
  by_cases defined : header.tiocgserial = true
  · rw [if_pos defined] at ended
    obtain ⟨customDivisor, divides, ended⟩ := Option.bind_eq_some_iff.mp ended
    unfold intDiv at divides
    split_ifs at divides with traps
    obtain rfl := Option.some.inj divides
    by_cases retried :
        (calls.setSpeeds header.b38400 (calls.setSpeeds cspeed ttyset).2).1 = true
    · simp only [retried, Bool.not_true, Bool.false_eq_true, if_false] at ended
      split_ifs at ended with refused
      · refine .inl ⟨?_, .inl (Option.some.inj ended).symm⟩
        intro programs
        rcases refused with small | unset
        · exact absurd programs.positive (not_le.mpr small)
        · exact absurd programs.stored (by simp [unset])
      · rw [not_or, not_lt, Bool.not_eq_false] at refused
        exact .inr ⟨⟨defined, rejected, retried, refused.1, refused.2⟩,
          fun zero => traps (.inl zero), Option.some.inj ended⟩
    · simp only [retried, Bool.not_false, if_true] at ended
      exact .inl ⟨fun programs => retried programs.retried, .inl (Option.some.inj ended).symm⟩
  · rw [if_neg defined] at ended
    refine .inl ⟨fun programs => defined programs.tiocgserial, ?_⟩
    simp only [] at ended
    split_ifs at ended
    · exact .inr ⟨Bool.eq_false_iff.mpr defined, _, Option.some.inj ended⟩
    · exact .inl (Option.some.inj ended).symm

theorem setPortParams_failed {sstruct : SerialStruct} {params : PortParams} {d d' : SerialDevice}
    {ttyset : TtySet} (prepared : prepare header calls params d = some ttyset)
    (failed : d.setPortParams header calls sstruct params = some (1, d')) :
    ¬ Programs header calls sstruct params.cspeed ttyset ∧
      d' = (if params.cspeed = 0 then d.hangUp header calls else d) ∨
    Programs header calls sstruct params.cspeed ttyset ∧ params.cspeed ≠ 0 ∧
      d' = { d with serial := sstruct.divided params.cspeed } := by
  have settled (nonzero : params.cspeed ≠ 0) :
      (if params.cspeed = 0 then d.hangUp header calls else d) = d := if_neg nonzero
  unfold SerialDevice.setPortParams at failed
  simp only [prepared] at failed
  generalize (if params.cspeed = 0 then d.hangUp header calls else d) = started at settled failed ⊢
  by_cases accepted : (calls.setSpeeds params.cspeed ttyset).1 = true
  · rw [if_pos accepted] at failed
    refine .inl ⟨fun programs => ?_, SerialDevice.tcsetattr_failed calls (Option.some.inj failed)⟩
    simp [programs.rejected] at accepted
  · rw [if_neg accepted] at failed
    rcases SerialDevice.customSpeed_cases header calls (Bool.eq_false_iff.mpr accepted) failed with
      ⟨fails, left | ⟨-, edited, left⟩⟩ | ⟨programs, nonzero, left⟩
    · exact .inl ⟨fails, congrArg Prod.snd left⟩
    · exact .inl ⟨fails, SerialDevice.tcsetattr_failed calls left⟩
    · rw [settled nonzero] at left
      exact .inr ⟨programs, nonzero, SerialDevice.tcsetattr_failed calls left⟩

theorem hangsUp_iff {params : PortParams} {d : SerialDevice} {ttyset : TtySet}
    (prepared : prepare header calls params d = some ttyset) :
    HangsUp header calls params d ↔ params.cspeed = 0 ∧ d.hangUp header calls ≠ d := by
  rw [ne_eq, SerialDevice.hangUp_eq_iff, Classical.not_imp]
  constructor
  · intro hangs
    exact ⟨hangs.speed, hangs.tiocmset, hangs.up⟩
  · intro hangs
    rcases hangs with ⟨speed, set, up⟩
    exact ⟨by simp [prepared], speed, set, up⟩

/-- A call that fails leaves the device as it was exactly where it has neither taken a line down nor
    stored another `serial_struct` before. -/
theorem setPortParams_atomic_iff (sstruct : SerialStruct) (params : PortParams)
    (d d' : SerialDevice)
    (failed : d.setPortParams header calls sstruct params = some (1, d')) :
    d' = d ↔ ¬ HangsUp header calls params d ∧
      ∀ ttyset, ¬ Reprograms header calls sstruct params d ttyset := by
  cases prepared : prepare header calls params d with
  | none =>
    simp only [SerialDevice.setPortParams, prepared, Option.some.injEq, Prod.mk.injEq,
      true_and] at failed
    refine iff_of_true failed.symm ⟨?_, ?_⟩
    · intro hangs
      have ready := hangs.prepared
      simp [prepared] at ready
    · intro ttyset stores
      have ready := stores.prepared
      simp [prepared] at ready
  | some ttyset =>
    have same {edited : TtySet} (stores : Reprograms header calls sstruct params d edited) :
        edited = ttyset := Option.some.inj (stores.prepared.symm.trans prepared)
    rw [hangsUp_iff header calls prepared]
    rcases setPortParams_failed header calls prepared failed with
      ⟨fails, left⟩ | ⟨programs, nonzero, left⟩
    · have kept : ∀ edited, ¬ Reprograms header calls sstruct params d edited := by
        intro edited stores
        obtain rfl := same stores
        exact fails stores.programs
      simp only [kept, not_false_eq_true, implies_true, and_true, left]
      by_cases hangs : params.cspeed = 0 <;> simp [hangs]
    · have stored : d' = d ↔ sstruct.divided params.cspeed = d.serial := by
        rw [left]
        constructor
        · intro own
          exact congrArg SerialDevice.serial own
        · intro own
          rw [own]
      rw [stored]
      constructor
      · intro own
        refine ⟨fun hangs => nonzero hangs.1, ?_⟩
        intro edited stores
        exact stores.differs own
      · intro kept
        by_contra differs
        exact kept.2 ttyset ⟨prepared, programs, differs⟩

def linuxCbaud : TcFlag := 0o10017

/-- `cfsetispeed` and `cfsetospeed` of glibc know the codes that are within `CBAUD`, and put them
    there as well; an input speed of 0 is none. -/
def ParamCalls.glibcKnows (speed : Int) : Bool :=
  0 ≤ speed ∧ speed ≤ 0o17 ∨ 0o10000 ≤ speed ∧ speed ≤ 0o10017

def glibcCFlag (speed : Int) (cCflag : TcFlag) : TcFlag :=
  clear cCflag linuxCbaud ||| BitVec.ofInt 32 speed

def ParamCalls.glibc : ParamCalls where
  tcgetattr := true
  cfsetspeed := none
  tiocmget := true
  tiocmset := true
  cfsetispeed speed ttyset :=
    if ParamCalls.glibcKnows speed then
      (true, { ttyset with
        cCflag := if speed = 0 then ttyset.cCflag else glibcCFlag speed ttyset.cCflag
        ispeed := BitVec.ofInt 32 speed })
    else (false, ttyset)
  cfsetospeed speed ttyset :=
    if ParamCalls.glibcKnows speed then
      (true, { ttyset with
        cCflag := glibcCFlag speed ttyset.cCflag
        ospeed := BitVec.ofInt 32 speed })
    else (false, ttyset)
  tiocsserial := true
  tcsetattr := true

def ParamCalls.refusing : ParamCalls := { ParamCalls.glibc with tcsetattr := false }

def SerialHeader.linux : SerialHeader where
  __ := TermiosHeader.linux
  tiocgserial := true
  outputs := 0xe006
  dtr_output := by decide

def SerialDevice.uart : SerialDevice :=
  ⟨⟨0o2275, 0o15, 0o15⟩, ⟨0, 115200, 50, 3000, 0, 2, 0, 4, 0, 1, 0, 0x3f8, 0, 0, 0⟩, 0x6⟩

theorem setPortParams_atomic_refused :
    ∃ d', SerialDevice.uart.setPortParams .linux .refusing SerialDevice.uart.serial
      ⟨0o17, 8, 1, 0⟩ = some (1, d') ∧ d' = SerialDevice.uart := by
  obtain ⟨d', failed⟩ : ∃ d', SerialDevice.uart.setPortParams .linux .refusing
      SerialDevice.uart.serial ⟨0o17, 8, 1, 0⟩ = some (1, d') := ⟨_, rfl⟩
  refine ⟨d', failed, ?_⟩
  apply (setPortParams_atomic_iff _ _ _ _ _ d' failed).mpr
  refine ⟨fun hangs => absurd hangs.speed (by decide), ?_⟩
  intro ttyset stores
  have known : (ParamCalls.refusing.setSpeeds 0o17 ttyset).1 = true := rfl
  exact absurd (known.symm.trans stores.programs.rejected) (by decide)

/-- Speed 0 drops DTR before the settings are refused. -/
theorem setPortParams_not_atomic :
    ¬ ∀ (header : SerialHeader) (calls : ParamCalls) (sstruct : SerialStruct) (params : PortParams)
      (d d' : SerialDevice), d.setPortParams header calls sstruct params = some (1, d') →
      d' = d := by
  intro atomic
  have same := atomic .linux .refusing SerialDevice.uart.serial ⟨0, 8, 1, 0⟩ .uart _ rfl
  have lines := congrArg SerialDevice.lines same
  exact absurd lines (by decide)

/-- What is documented of the calls that set and read speed `b`. -/
structure ReadsBack (b : Int) (cfgetispeed cfgetospeed : TtySet → Int) : Prop where
  input : ∀ ttyset, (calls.cfsetispeed b ttyset).1 = true →
    cfgetispeed (calls.cfsetispeed b ttyset).2 = b
  kept : ∀ ttyset, cfgetispeed ttyset = b → (calls.cfsetospeed b ttyset).1 = true →
    cfgetispeed (calls.cfsetospeed b ttyset).2 = b
  output : ∀ ttyset, (calls.cfsetospeed b ttyset).1 = true →
    cfgetospeed (calls.cfsetospeed b ttyset).2 = b

/-- The device has the divisor for `speed`, which it had not set before, and runs at `B38400`. -/
structure RunsAt (cfgetispeed cfgetospeed : TtySet → Int) (speed : Int) (d d' : SerialDevice) :
    Prop where
  serial : d'.serial = { d.serial with customDivisor := d.serial.baudBase / speed }
  ispeed : cfgetispeed d'.ttyset = header.b38400
  ospeed : cfgetospeed d'.ttyset = header.b38400

variable {cfgetispeed cfgetospeed : TtySet → Int}

theorem ReadsBack.setSpeeds {b : Int} (reads : ReadsBack calls b cfgetispeed cfgetospeed)
    {ttyset : TtySet} (set : (calls.setSpeeds b ttyset).1 = true) :
    cfgetispeed (calls.setSpeeds b ttyset).2 = b ∧ cfgetospeed (calls.setSpeeds b ttyset).2 = b := by
  unfold ParamCalls.setSpeeds at set ⊢
  by_cases input : (calls.cfsetispeed b ttyset).1 = true
  · simp only [input, if_true] at set ⊢
    exact ⟨reads.kept _ (reads.input _ input) set, reads.output _ set⟩
  · simp only [input, Bool.false_eq_true, if_false] at set

theorem setPortParams_custom {sstruct : SerialStruct} {params : PortParams} {d d' : SerialDevice}
    (tiocgserial : header.tiocgserial = true)
    (rejected : ∀ ttyset, (calls.setSpeeds params.cspeed ttyset).1 = false)
    (returned : d.setPortParams header calls sstruct params = some (0, d')) :
    d'.serial = sstruct.divided params.cspeed ∧ ∃ edited,
      (calls.setSpeeds header.b38400 edited).1 = true ∧
        d'.ttyset = (calls.setSpeeds header.b38400 edited).2 := by
  unfold SerialDevice.setPortParams at returned
  cases prepared : prepare header calls params d with
  | none => simp [prepared] at returned
  | some ttyset =>
    simp only [prepared, rejected ttyset, Bool.false_eq_true, if_false] at returned
    rcases SerialDevice.customSpeed_cases header calls (rejected ttyset) returned with
      ⟨-, left | ⟨undefined, -⟩⟩ | ⟨programs, -, left⟩
    · cases left
    · simp [tiocgserial] at undefined
    · rw [SerialDevice.tcsetattr_done calls left]
      exact ⟨rfl, _, programs.retried, rfl⟩

/-- A custom speed that is accepted is programmed exactly where the local structure happened to
    hold what the device had, apart from the divisor. -/
theorem custom_speed_programmed_iff (sstruct : SerialStruct) (params : PortParams)
    (d d' : SerialDevice) (tiocgserial : header.tiocgserial = true)
    (rejected : ∀ ttyset, (calls.setSpeeds params.cspeed ttyset).1 = false)
    (base : 1 ≤ d.serial.baudBase)
    (reads : ReadsBack calls header.b38400 cfgetispeed cfgetospeed)
    (returned : d.setPortParams header calls sstruct params = some (0, d')) :
    RunsAt header cfgetispeed cfgetospeed params.cspeed d d' ↔
      { sstruct with customDivisor := d.serial.customDivisor } = d.serial := by
  obtain ⟨stored, edited, set, settings⟩ :=
    setPortParams_custom header calls tiocgserial rejected returned
  obtain ⟨input, output⟩ := reads.setSpeeds calls set
  have quotient : d.serial.baudBase.tdiv params.cspeed = d.serial.baudBase / params.cspeed :=
    Int.tdiv_eq_ediv_of_nonneg (by omega)
  constructor
  · intro runs
    have serial := stored.symm.trans runs.serial
    rcases sstruct with ⟨⟩
    cases device : d.serial
    simp_all [SerialStruct.divided]
  · intro held
    refine ⟨?_, by rw [settings, input], by rw [settings, output]⟩
    have own := congrArg SerialStruct.baudBase held
    rw [stored, SerialStruct.divided, own, quotient, ← held]

def readIspeed (ttyset : TtySet) : Int := ttyset.ispeed.toInt

def readOspeed (ttyset : TtySet) : Int := ttyset.ospeed.toInt

theorem glibc_readsBack :
    ReadsBack .glibc SerialHeader.linux.b38400 readIspeed readOspeed :=
  ⟨fun _ _ => rfl, fun _ same _ => same, fun _ _ => rfl⟩

theorem glibc_rejects_14400 (ttyset : TtySet) :
    (ParamCalls.glibc.setSpeeds 14400 ttyset).1 = false := by
  have unknown : ParamCalls.glibcKnows 14400 = false := by decide
  simp [ParamCalls.setSpeeds, ParamCalls.glibc, unknown]

theorem custom_speed_programmed_14400 :
    ∃ d', SerialDevice.uart.setPortParams .linux .glibc SerialDevice.uart.serial
      ⟨14400, 8, 1, 0⟩ = some (0, d') ∧
      RunsAt .linux readIspeed readOspeed 14400 .uart d' := by
  obtain ⟨d', returned⟩ : ∃ d', SerialDevice.uart.setPortParams .linux .glibc
      SerialDevice.uart.serial ⟨14400, 8, 1, 0⟩ = some (0, d') := ⟨_, rfl⟩
  exact ⟨d', returned, (custom_speed_programmed_iff .linux .glibc SerialDevice.uart.serial
    ⟨14400, 8, 1, 0⟩ .uart d' rfl glibc_rejects_14400 (by decide) glibc_readsBack returned).mpr rfl⟩

/-- The stack happens to hold a `baud_base` of 14400 and zeros, and the device gets all of it. -/
theorem custom_speed_misprogrammed :
    ¬ ∀ (header : SerialHeader) (calls : ParamCalls) (cfgetispeed cfgetospeed : TtySet → Int)
      (sstruct : SerialStruct) (params : PortParams) (d d' : SerialDevice),
      header.tiocgserial = true → 0 < params.cspeed →
      (∀ ttyset, (calls.setSpeeds params.cspeed ttyset).1 = false) → 1 ≤ d.serial.baudBase →
      ReadsBack calls header.b38400 cfgetispeed cfgetospeed →
      d.setPortParams header calls sstruct params = some (0, d') →
      RunsAt header cfgetispeed cfgetospeed params.cspeed d d' := by
  intro programmed
  have runs := programmed .linux .glibc readIspeed readOspeed
    ⟨0, 14400, 0, 0, 0, 0, 0, 0, 0, 0, 0, 0, 0, 0, 0⟩ ⟨14400, 8, 1, 0⟩ .uart _ rfl (by decide)
    glibc_rejects_14400 (by decide) glibc_readsBack rfl
  exact absurd (congrArg SerialStruct.customDivisor runs.serial) (by decide)

end Rxtx.SerialImp
