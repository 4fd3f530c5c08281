import Rxtx.SerialImp.LineParams

open FlagWord

namespace Rxtx.SerialImp

structure UnixTermios where
  iflag : TcFlag
  oflag : TcFlag
  cflag : TcFlag
  lflag : TcFlag
  line : BitVec 8
  cc : Nat → BitVec 8
  ispeed : TcFlag
  ospeed : TcFlag

def UnixTermios.bare : UnixTermios := ⟨0, 0, 0, 0, 0, fun _ => 0, 0, 0⟩

structure IFlagMasks where
  ixon : TcFlag
  ixany : TcFlag
  ixoff : TcFlag
  single : ∀ mask ∈ [ixon, ixany, ixoff], Single mask
  apart : [ixon, ixany, ixoff].Pairwise Apart

def IFlagMasks.linux : IFlagMasks where
  ixon := 0o2000
  ixany := 0o4000
  ixoff := 0o10000
  single := by
    intro mask member
    simp only [List.mem_cons, List.not_mem_nil, or_false] at member
    rcases member with rfl | rfl | rfl
    · exact ⟨10, rfl⟩
    · exact ⟨11, rfl⟩
    · exact ⟨12, rfl⟩
  apart := by simp [Apart]

structure FlowMacros where
  crtscts : Option TcFlag
  cctsOflow : Option TcFlag
  crstIflow : Option TcFlag
  rtsflow : Option TcFlag
  ctsflow : Option TcFlag
  crtsfl : Option TcFlag
  ctscd : Option TcFlag
  set : ∀ mask, some mask ∈ [crtscts, cctsOflow, crstIflow, rtsflow, ctsflow, crtsfl, ctscd] →
    mask ≠ 0

def FlowMacros.linux : FlowMacros :=
  ⟨some 0o20000000000, none, none, none, none, none, none, by simp⟩

def FlowMacros.rtsflowCtsflow : FlowMacros :=
  ⟨none, none, none, some 0o20000, some 0o40000, none, none, by simp⟩

/-- What `HARDWARE_FLOW_CONTROL` expands to: one operand, or `first|second` without parentheses. -/
inductive HardwareFlowControl where
  | whole (mask : TcFlag)
  | pair (first second : TcFlag)
  deriving DecidableEq, Repr

/-- `none` where the second operand is not defined and nothing compiles. -/
def FlowMacros.hardwareFlowControl (macros : FlowMacros) : Option HardwareFlowControl :=
  match macros.crtscts, macros.cctsOflow, macros.rtsflow, macros.crtsfl, macros.ctscd with
  | some crtscts, _, _, _, _ => some (.whole crtscts)
  | none, some cctsOflow, _, _, _ => macros.crstIflow.map (.pair cctsOflow)
  | none, none, some rtsflow, _, _ => macros.ctsflow.map (.pair rtsflow)
  | none, none, none, some crtsfl, _ => some (.whole crtsfl)
  | none, none, none, none, some ctscd => some (.whole ctscd)
  | none, none, none, none, none => some (.whole 0)

namespace HardwareFlowControl

def set (word : TcFlag) : HardwareFlowControl → TcFlag
  | whole mask => word ||| mask
  | pair first second => word ||| (first ||| second)

/-- `word &= ~HARDWARE_FLOW_CONTROL`, where `~` takes the first operand only. -/
def reset (word : TcFlag) : HardwareFlowControl → TcFlag
  | whole mask => word &&& ~~~mask
  | pair first second => word &&& (~~~first ||| second)

/-- `word & HARDWARE_FLOW_CONTROL`, where `&` takes the first operand only. -/
def test (word : TcFlag) : HardwareFlowControl → TcFlag
  | whole mask => word &&& mask
  | pair first second => (word &&& first) ||| second

def bits : HardwareFlowControl → TcFlag
  | whole mask => mask
  | pair first second => first ||| second

end HardwareFlowControl

abbrev FlowMode := BitVec 32

def flowcontrolNone : FlowMode := 0
def flowcontrolRtsctsIn : FlowMode := 1
def flowcontrolRtsctsOut : FlowMode := 2
def flowcontrolXonxoffIn : FlowMode := 4
def flowcontrolXonxoffOut : FlowMode := 8

variable (hardware : HardwareFlowControl) (masks : IFlagMasks)

def UnixTermios.withFlow (ttyset : UnixTermios) (flowmode : FlowMode) : UnixTermios :=
  let cflag :=
    if flowmode &&& (flowcontrolRtsctsIn ||| flowcontrolRtsctsOut) ≠ 0 then
      hardware.set ttyset.cflag
    else hardware.reset ttyset.cflag
  let iflag := clear ttyset.iflag masks.ixany
  let iflag := assign iflag masks.ixoff (flowmode &&& flowcontrolXonxoffIn ≠ 0)
  let iflag := assign iflag masks.ixon (flowmode &&& flowcontrolXonxoffOut ≠ 0)
  { ttyset with cflag, iflag }

structure FlowCalls where
  tcgetattr : Bool
  tcsetattr : Bool

/-- The settings after the call, and whether it reached `fail`. -/
def setflowcontrol (calls : FlowCalls) (flowmode : FlowMode) (device : UnixTermios) :
    Bool × UnixTermios :=
  if !calls.tcgetattr then (true, device)
  else if !calls.tcsetattr then (true, device)
  else (false, device.withFlow hardware masks flowmode)

/-- `ttyset` is what the buffer holds before `tcgetattr`, whose result is not looked at. -/
def nativeGetFlowControlMode (ttyset : UnixTermios) (tcgetattr : Option UnixTermios) : FlowMode :=
  let ttyset := tcgetattr.getD ttyset
  let ret := if hardware.test ttyset.cflag ≠ 0 then flowcontrolRtsctsIn ||| flowcontrolRtsctsOut
    else 0
  let ret := if ttyset.iflag &&& masks.ixoff ≠ 0 then ret ||| flowcontrolXonxoffIn else ret
  if ttyset.iflag &&& masks.ixon ≠ 0 then ret ||| flowcontrolXonxoffOut else ret

theorem FlowMacros.hardwareFlowControl_bits {macros : FlowMacros} {hardware : HardwareFlowControl}
    (selected : macros.hardwareFlowControl = some hardware) (nonzero : hardware ≠ .whole 0) :
    hardware.bits ≠ 0 ∧ ∀ first second, hardware = .pair first second → second ≠ 0 := by
  cases hardware with
  | whole mask =>
    refine ⟨fun zero => nonzero (congrArg HardwareFlowControl.whole zero), ?_⟩
    intro first second same
    cases same
  | pair first second =>
    have operand : second ≠ 0 := by
      apply macros.set
      unfold hardwareFlowControl at selected
      split at selected
      · cases selected
      · obtain ⟨other, defined, same⟩ := Option.map_eq_some_iff.mp selected
        cases same
        simp [defined]
      · obtain ⟨other, defined, same⟩ := Option.map_eq_some_iff.mp selected
        cases same
        simp [defined]
      · cases selected
      · cases selected
      · cases selected
    refine ⟨fun zero => operand (BitVec.or_eq_zero_iff.mp zero).2, ?_⟩
    intro first second same
    cases same
    exact operand

theorem HardwareFlowControl.set_outside (hardware : HardwareFlowControl) (word : TcFlag) :
    clear (hardware.set word) hardware.bits = clear word hardware.bits := by
  have outside (mask : TcFlag) := clear_assign (within_self mask) word true
  cases hardware with
  | whole mask => exact outside mask
  | pair first second => exact outside (first ||| second)

theorem HardwareFlowControl.reset_outside (hardware : HardwareFlowControl) (word : TcFlag) :
    clear (hardware.reset word) hardware.bits = clear word hardware.bits := by
  cases hardware with
  | whole mask =>
    exact clear_assign (within_self mask) word false
  | pair first second =>
    apply eq_of_bits
    intro i
    simp only [reset, bits, clear_getLsbD, BitVec.getLsbD_and, BitVec.getLsbD_or,
      BitVec.getLsbD_not, Bool.and_eq_true, Bool.or_eq_true, Bool.or_eq_false_iff]
    constructor
    · intro set
      exact ⟨set.1.1, set.2⟩
    · intro set
      have inside : i < 32 := BitVec.lt_of_getLsbD set.1
      refine ⟨⟨set.1, .inl ?_⟩, set.2⟩
      exact ⟨decide_eq_true inside, by rw [set.2.1, Bool.not_false]⟩

theorem HardwareFlowControl.test_set {hardware : HardwareFlowControl} (nonzero : hardware.bits ≠ 0)
    (word : TcFlag) : hardware.test (hardware.set word) ≠ 0 := by
  cases hardware with
  | whole mask =>
    show (word ||| mask) &&& mask ≠ 0
    rw [set_and_same]
    exact nonzero
  | pair first second =>
    show ((word ||| (first ||| second)) &&& first) ||| second ≠ 0
    have kept : (word ||| (first ||| second)) &&& first = first := by
      rw [← BitVec.or_assoc, BitVec.or_comm word first, BitVec.or_assoc, BitVec.or_comm first,
        set_and_same]
    rw [kept]
    exact nonzero

theorem HardwareFlowControl.test_reset {hardware : HardwareFlowControl}
    (operand : ∀ first second, hardware = .pair first second → second ≠ 0) (word : TcFlag) :
    hardware.test (hardware.reset word) ≠ 0 ↔ ¬ ∃ mask, hardware = .whole mask := by
  cases hardware with
  | whole mask =>
    have cleared : test (reset word (.whole mask)) (.whole mask) = 0 := clear_and_same word mask
    simp [cleared]
  | pair first second =>
    have kept : test (reset word (.pair first second)) (.pair first second) ≠ 0 :=
      fun zero => operand first second rfl (BitVec.or_eq_zero_iff.mp zero).2
    exact iff_of_true kept (by simp)

/-- The mode that a device set to `flowmode` is to be read as. -/
def requestedFlow (flowmode : FlowMode) : FlowMode :=
  (if flowmode &&& (flowcontrolRtsctsIn ||| flowcontrolRtsctsOut) ≠ 0 then
    flowcontrolRtsctsIn ||| flowcontrolRtsctsOut
  else 0) ||| (flowmode &&& (flowcontrolXonxoffIn ||| flowcontrolXonxoffOut))

/-- Only the bits that flow control is about may differ. -/
structure FlowOnly (before after : UnixTermios) : Prop where
  cflag : clear after.cflag hardware.bits = clear before.cflag hardware.bits
  iflag : clear after.iflag (masks.ixon ||| masks.ixoff ||| masks.ixany) =
    clear before.iflag (masks.ixon ||| masks.ixoff ||| masks.ixany)
  rest : { after with cflag := before.cflag, iflag := before.iflag } = before

structure FlowRoundTrip (flowmode : FlowMode) (before after : UnixTermios) : Prop where
  reads : ∀ ttyset, nativeGetFlowControlMode hardware masks ttyset (some after) =
    requestedFlow flowmode
  frame : FlowOnly hardware masks before after

theorem IFlagMasks.ixoff_single : Single masks.ixoff := masks.single _ (by simp)

theorem IFlagMasks.ixon_single : Single masks.ixon := masks.single _ (by simp)

theorem IFlagMasks.ixon_ixoff : Apart masks.ixon masks.ixoff := by
  have apart := masks.apart
  rw [List.pairwise_cons] at apart
  exact apart.1 masks.ixoff (by simp)

theorem or_flag {word mask : FlowMode} (single : Single mask) (ret : FlowMode) :
    (if word &&& mask ≠ 0 then ret ||| mask else ret) = ret ||| (word &&& mask) := by
  rcases single.cases word with zero | set
  · simp [zero]
  · simp [set, single.ne_zero]

theorem nativeGetFlowControlMode_withFlow (ttyset device : UnixTermios) (flowmode : FlowMode) :
    nativeGetFlowControlMode hardware masks ttyset
        (some (device.withFlow hardware masks flowmode)) =
      (if hardware.test (device.withFlow hardware masks flowmode).cflag ≠ 0 then
        flowcontrolRtsctsIn ||| flowcontrolRtsctsOut else 0) |||
        (flowmode &&& (flowcontrolXonxoffIn ||| flowcontrolXonxoffOut)) := by
  have off : (device.withFlow hardware masks flowmode).iflag &&& masks.ixoff ≠ 0 ↔
      flowmode &&& flowcontrolXonxoffIn ≠ 0 := by
    simp only [UnixTermios.withFlow]
    rw [assign_and_apart masks.ixon_ixoff]
    exact (assign_and_same masks.ixoff_single.ne_zero _ _).trans decide_eq_true_iff
  have on : (device.withFlow hardware masks flowmode).iflag &&& masks.ixon ≠ 0 ↔
      flowmode &&& flowcontrolXonxoffOut ≠ 0 := by
    simp only [UnixTermios.withFlow]
    exact (assign_and_same masks.ixon_single.ne_zero _ _).trans decide_eq_true_iff
  simp only [nativeGetFlowControlMode, Option.getD_some, off, on]
  have offSingle : Single flowcontrolXonxoffIn := ⟨2, rfl⟩
  have onSingle : Single flowcontrolXonxoffOut := ⟨3, rfl⟩
  rw [or_flag onSingle, or_flag offSingle, BitVec.or_assoc, ← BitVec.and_or_distrib_left]

theorem withFlow_flowOnly (device : UnixTermios) (flowmode : FlowMode) :
    FlowOnly hardware masks device (device.withFlow hardware masks flowmode) where
  cflag := by
    simp only [UnixTermios.withFlow]
    split
    · exact hardware.set_outside _
    · exact hardware.reset_outside _
  iflag := by
    have on : Within masks.ixon (masks.ixon ||| masks.ixoff ||| masks.ixany) :=
      ((within_self _).left _).left _
    have off : Within masks.ixoff (masks.ixon ||| masks.ixoff ||| masks.ixany) :=
      ((within_self _).right _).left _
    have any : Within masks.ixany (masks.ixon ||| masks.ixoff ||| masks.ixany) :=
      (within_self _).right _
    simp only [UnixTermios.withFlow]
    rw [clear_assign on, clear_assign off]
    exact clear_assign any device.iflag false
  rest := rfl

theorem rtscts_same_iff (flowmode : FlowMode) (read requested : Prop) [Decidable read]
    [Decidable requested] :
    (if read then flowcontrolRtsctsIn ||| flowcontrolRtsctsOut else 0) |||
        (flowmode &&& (flowcontrolXonxoffIn ||| flowcontrolXonxoffOut)) =
      (if requested then flowcontrolRtsctsIn ||| flowcontrolRtsctsOut else 0) |||
        (flowmode &&& (flowcontrolXonxoffIn ||| flowcontrolXonxoffOut)) ↔ (read ↔ requested) := by
  have rtscts (both : FlowMode) :
      (both ||| (flowmode &&& (flowcontrolXonxoffIn ||| flowcontrolXonxoffOut))) &&&
        flowcontrolRtsctsIn = both &&& flowcontrolRtsctsIn := by
    apply or_and_apart
    apply Apart.symm
    rw [Apart, BitVec.and_comm flowmode, ← BitVec.and_assoc]
    exact BitVec.zero_and
  constructor
  · intro same
    have bit := congrArg (· &&& flowcontrolRtsctsIn) same
    simp only [rtscts] at bit
    by_cases r : read <;> by_cases q : requested <;>
      simp [r, q, flowcontrolRtsctsIn, flowcontrolRtsctsOut] at bit ⊢
  · intro same
    simp only [same]

/-- The mode is read back as it was requested exactly where the macro is one operand or hardware
    flow control was asked for. -/
theorem flow_round_trip_iff (macros : FlowMacros) (calls : FlowCalls) (flowmode : FlowMode)
    (before after : UnixTermios) (selected : macros.hardwareFlowControl = some hardware)
    (nonzero : hardware ≠ .whole 0)
    (successful : setflowcontrol hardware masks calls flowmode before = (false, after)) :
    FlowRoundTrip hardware masks flowmode before after ↔ (∃ mask, hardware = .whole mask) ∨
      flowmode &&& (flowcontrolRtsctsIn ||| flowcontrolRtsctsOut) ≠ 0 := by
  have edited : after = before.withFlow hardware masks flowmode := by
    unfold setflowcontrol at successful
    split_ifs at successful
    · cases successful
    · cases successful
    · exact (Prod.mk.inj successful).2.symm
  have reading (ttyset : UnixTermios) :
      nativeGetFlowControlMode hardware masks ttyset (some after) = requestedFlow flowmode ↔
        (hardware.test after.cflag ≠ 0 ↔
          flowmode &&& (flowcontrolRtsctsIn ||| flowcontrolRtsctsOut) ≠ 0) := by
    rw [edited, nativeGetFlowControlMode_withFlow, requestedFlow]
    exact rtscts_same_iff flowmode _ _
  have round : FlowRoundTrip hardware masks flowmode before after ↔
      (hardware.test after.cflag ≠ 0 ↔
        flowmode &&& (flowcontrolRtsctsIn ||| flowcontrolRtsctsOut) ≠ 0) := by
    constructor
    · intro trip
      exact (reading before).mp (trip.reads before)
    · intro same
      refine ⟨fun ttyset => (reading ttyset).mpr same, ?_⟩
      rw [edited]
      exact withFlow_flowOnly hardware masks before flowmode
  rw [round]
  have bits := macros.hardwareFlowControl_bits selected nonzero
  by_cases requested : flowmode &&& (flowcontrolRtsctsIn ||| flowcontrolRtsctsOut) ≠ 0
  · have set : hardware.test after.cflag ≠ 0 := by
      rw [edited, UnixTermios.withFlow, if_pos requested]
      exact HardwareFlowControl.test_set bits.1 before.cflag
    exact iff_of_true (iff_of_true set requested) (.inr requested)
  · have reset : hardware.test after.cflag ≠ 0 ↔ ¬ ∃ mask, hardware = .whole mask := by
      rw [edited, UnixTermios.withFlow, if_neg requested]
      exact HardwareFlowControl.test_reset bits.2 before.cflag
    rw [iff_false_right requested, reset, not_not, or_iff_left requested]

theorem flow_round_trip_iff_linux :
    FlowRoundTrip (.whole 0o20000000000) .linux 6 .bare
        (UnixTermios.bare.withFlow (.whole 0o20000000000) .linux 6) ↔
      (∃ mask, HardwareFlowControl.whole 0o20000000000 = .whole mask) ∨
        (6 : FlowMode) &&& (flowcontrolRtsctsIn ||| flowcontrolRtsctsOut) ≠ 0 :=
  flow_round_trip_iff (.whole 0o20000000000) .linux .linux ⟨true, true⟩ 6 .bare _ rfl (by decide)
    rfl

/-- With `RTSFLOW|CTSFLOW` hardware flow control is read as set where none was asked for. -/
theorem flow_not_round_trip :
    ¬ ∀ (hardware : HardwareFlowControl) (masks : IFlagMasks) (macros : FlowMacros)
      (calls : FlowCalls) (flowmode : FlowMode) (before after : UnixTermios),
      macros.hardwareFlowControl = some hardware → hardware ≠ .whole 0 →
      setflowcontrol hardware masks calls flowmode before = (false, after) →
      FlowRoundTrip hardware masks flowmode before after := by
  intro trips
  have reads := (trips (.pair 0o20000 0o40000) .linux .rtsflowCtsflow ⟨true, true⟩ 0 .bare _ rfl
    (by decide) rfl).reads .bare
  revert reads
  decide

end Rxtx.SerialImp
