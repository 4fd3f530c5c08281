import Rxtx.WinCE.Helpers
import Rxtx.Win32.Settings

open Rxtx.Win32 (Dcb oneStopBit twoStopBits)

namespace Rxtx.WinCE

def one5StopBits : BitVec 8 := 1

def stopBits1 : Int32 := 1
def stopBits2 : Int32 := 2
def stopBits15 : Int32 := 3

structure SerialParams where
  speed : Int32
  dataBits : Int32
  stopBits : Int32
  parity : Int32
  deriving DecidableEq, Repr

/-- Which calls succeed, and the text that `FormatMessage` has for the one that does not. -/
structure ParamsAnswers where
  getCommState : Bool
  setCommState : Bool
  errorMsg : String
  deriving DecidableEq, Repr

def stopBitsOf (stopBits : Int32) : Option (BitVec 8) :=
  if stopBits = stopBits1 then some oneStopBit
  else if stopBits = stopBits2 then some twoStopBits
  else if stopBits = stopBits15 then some one5StopBits
  else none

def setFrame (params : SerialParams) (portDcb : Dcb) : Dcb :=
  { portDcb with
    baudRate := params.speed.toBitVec
    byteSize := params.dataBits.toBitVec.setWidth 8
    parity := params.parity.toBitVec.setWidth 8 }

def nativeSetSerialPortParams (findClass : String → Bool) (answers : ParamsAnswers)
    (params : SerialParams) (dcb : Dcb) : Option Pending × Dcb :=
  if !answers.getCommState then
    (throwJavaExceptionW findClass unsupportedCommOperation
      "nativeSetSerialPortParams - GetCommState" answers.errorMsg, dcb)
  else
    let portDcb := setFrame params dcb
    -- the default throws and goes on
    let (pending, portDcb) := match stopBitsOf params.stopBits with
      | some stopBits => (none, { portDcb with stopBits })
      | none => (throwJavaExceptionW findClass unsupportedCommOperation
          "nativeSetSerialPortParams" "Incorrect stopBits", portDcb)
    if !answers.setCommState then
      (throwJavaExceptionW findClass unsupportedCommOperation
        "nativeSetSerialPortParams - SetCommState" answers.errorMsg, dcb)
    else (pending, portDcb)

def raises (run : Option Pending × Dcb) : Prop :=
  ∃ pending, run.1 = some pending ∧ pending.exc = unsupportedCommOperation

/-- The device has the requested settings, as numbers. -/
structure HasParams (params : SerialParams) (dcb : Dcb) : Prop where
  speed : (dcb.baudRate.toNat : Int) = params.speed.toInt
  dataBits : (dcb.byteSize.toNat : Int) = params.dataBits.toInt
  stopBits : stopBitsOf params.stopBits = some dcb.stopBits
  parity : (dcb.parity.toNat : Int) = params.parity.toInt

structure AllOrNothing (params : SerialParams) (dcb : Dcb) (run : Option Pending × Dcb) : Prop where
  nothing : raises run → run.2 = dcb
  all : ¬ raises run → HasParams params run.2

structure Fit (params : SerialParams) : Prop where
  speed : 0 ≤ params.speed.toInt
  dataBits : 0 ≤ params.dataBits.toInt ∧ params.dataBits.toInt < 256
  parity : 0 ≤ params.parity.toInt ∧ params.parity.toInt < 256

theorem toNat_eq_iff (value : Int32) :
    (value.toBitVec.toNat : Int) = value.toInt ↔ 0 ≤ value.toInt := by
  have below := value.toBitVec.isLt
  rw [← Int32.toInt_toBitVec, BitVec.toInt_eq_toNat_bmod, Int.bmod_def]
  split <;> omega

theorem byte_eq_iff (value : Int32) :
    ((value.toBitVec.setWidth 8).toNat : Int) = value.toInt ↔
      0 ≤ value.toInt ∧ value.toInt < 256 := by
  have below := value.toBitVec.isLt
  rw [← Int32.toInt_toBitVec, BitVec.toNat_setWidth, BitVec.toInt_eq_toNat_bmod, Int.bmod_def]
  split <;> omega

structure HasFrame (params : SerialParams) (dcb : Dcb) : Prop where
  baudRate : dcb.baudRate = params.speed.toBitVec
  byteSize : dcb.byteSize = params.dataBits.toBitVec.setWidth 8
  parity : dcb.parity = params.parity.toBitVec.setWidth 8

theorem setFrame_eq_iff (params : SerialParams) (dcb : Dcb) :
    setFrame params dcb = dcb ↔ HasFrame params dcb := by
  constructor
  · intro same
    rw [← same]
    exact ⟨rfl, rfl, rfl⟩
  · rintro ⟨baudRate, byteSize, parity⟩
    rw [setFrame, ← baudRate, ← byteSize, ← parity]

theorem hasParams_iff {params : SerialParams} {stopBits : BitVec 8}
    (known : stopBitsOf params.stopBits = some stopBits) (dcb : Dcb) :
    HasParams params { setFrame params dcb with stopBits } ↔ Fit params := by
  constructor
  · intro has
    exact ⟨(toNat_eq_iff _).mp has.speed, (byte_eq_iff _).mp has.dataBits,
      (byte_eq_iff _).mp has.parity⟩
  · intro fit
    exact ⟨(toNat_eq_iff _).mpr fit.speed, (byte_eq_iff _).mpr fit.dataBits, known,
      (byte_eq_iff _).mpr fit.parity⟩

theorem raises_thrown {findClass : String → Bool}
    (found : findClass unsupportedCommOperation = true) (foo msg : String) (dcb : Dcb) :
    raises (throwJavaExceptionW findClass unsupportedCommOperation foo msg, dcb) := by
  unfold raises throwJavaExceptionW
  rw [if_pos found]
  exact ⟨_, rfl, rfl⟩

theorem allOrNothing_of_raises (params : SerialParams) (dcb : Dcb) {run : Option Pending × Dcb}
    (raised : raises run) : AllOrNothing params dcb run ↔ run.2 = dcb := by
  constructor
  · intro all
    exact all.nothing raised
  · intro unchanged
    exact ⟨fun _ => unchanged, fun quiet => absurd raised quiet⟩

/-- A call of the driver fails, or the stop bits are known and the other numbers can be held, or they
    are not and the device had these numbers before. -/
def SetsSafely (answers : ParamsAnswers) (params : SerialParams) (dcb : Dcb) : Prop :=
  answers.getCommState = false ∨ answers.setCommState = false ∨
    (stopBitsOf params.stopBits ≠ none ∧ Fit params) ∨
    stopBitsOf params.stopBits = none ∧ HasFrame params dcb

/-- The exception for unknown stop bits does not keep the DCB from being written. -/
theorem nativeSetSerialPortParams_atomic_iff (findClass : String → Bool) (answers : ParamsAnswers)
    (params : SerialParams) (dcb : Dcb) (found : findClass unsupportedCommOperation = true) :
    AllOrNothing params dcb (nativeSetSerialPortParams findClass answers params dcb) ↔
      SetsSafely answers params dcb := by
  rcases answers with ⟨getCommState, setCommState, errorMsg⟩
  unfold nativeSetSerialPortParams SetsSafely
  cases getCommState with
  | false =>
    refine iff_of_true ?_ (.inl rfl)
    exact (allOrNothing_of_raises params dcb (raises_thrown found _ _ _)).mpr rfl
  | true =>
    cases setCommState with
    | false =>
      refine iff_of_true ?_ (.inr (.inl rfl))
      exact (allOrNothing_of_raises params dcb (raises_thrown found _ _ _)).mpr rfl
    | true =>
      cases known : stopBitsOf params.stopBits with
      | none =>
        have written := (allOrNothing_of_raises params dcb
          (raises_thrown found "nativeSetSerialPortParams" "Incorrect stopBits"
            (setFrame params dcb)))
        simp only [Bool.not_true, Bool.false_eq_true, if_false, written, setFrame_eq_iff]
        simp
      | some stopBits =>
        have quiet : ¬ raises (none, { setFrame params dcb with stopBits }) := by
          rintro ⟨pending, thrown, -⟩
          cases thrown
        have written : AllOrNothing params dcb (none, { setFrame params dcb with stopBits }) ↔
            HasParams params { setFrame params dcb with stopBits } :=
          ⟨fun all => all.all quiet, fun has => ⟨fun raised => absurd raised quiet, fun _ => has⟩⟩
        simp only [Bool.not_true, Bool.false_eq_true, if_false, written, hasParams_iff known]
        simp

def params9600 : SerialParams := ⟨9600, 8, stopBits1, 0⟩

theorem nativeSetSerialPortParams_atomic_iff_9600 :
    AllOrNothing params9600 default
        (nativeSetSerialPortParams (fun _ => true) ⟨true, true, ""⟩ params9600 default) ↔
      SetsSafely ⟨true, true, ""⟩ params9600 default :=
  nativeSetSerialPortParams_atomic_iff (fun _ => true) ⟨true, true, ""⟩ params9600 default rfl

/-- Stop bits 4: the exception is thrown, and the device has changed its speed. -/
theorem nativeSetSerialPortParams_not_atomic :
    ¬ ∀ (answers : ParamsAnswers) (params : SerialParams) (dcb : Dcb),
      AllOrNothing params dcb (nativeSetSerialPortParams (fun _ => true) answers params dcb) := by
  intro atomic
  have changed := (atomic ⟨true, true, ""⟩ { params9600 with stopBits := 4 } default).nothing
    ⟨_, rfl, rfl⟩
  exact absurd (congrArg Dcb.baudRate changed) (by decide)

end Rxtx.WinCE
