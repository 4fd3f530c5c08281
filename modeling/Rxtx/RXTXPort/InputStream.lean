import Rxtx.RXTXPort.Fields
import Rxtx.SerialImp.ReadByteArray

open Rxtx.SerialImp

namespace Rxtx.RXTXPort

structure ReadFields where
  fd : Int32
  threshold : Int32
  timeout : Int32
  monThreadisInterrupted : Bool

structure ReadDevice where
  nativeavailable : Except JavaException Int32
  dataAvailable : Int
  start : Int
  turns : Nat → ReadTurn

structure ReadCall where
  /-- the arguments `off` and `Minimum` of the native call, when it is made -/
  readArray : Option (Int32 × Int32)
  stores : List Store
  ending : Except JavaException Int

def ReadCall.ends (ending : Except JavaException Int) : ReadCall := ⟨none, [], ending⟩

/-- The native call, its buffer being the array `b` from index `off` on. -/
def callReadArray (p : ReadFields) (device : ReadDevice) (off minimum : Int32) : ReadCall :=
  let run := SerialImp.readArray ⟨off.toInt, minimum.toInt, p.timeout.toInt, device.start⟩
    device.dataAvailable device.turns
  { readArray := some (off, minimum)
    stores := run.stores
    ending := match run.ending with
      | .returns bytes => .ok bytes
      | .throwsArrayIndexOutOfBounds _ => .error .arrayIndexOutOfBounds
      | .throwsIOException _ => .error .io }

def read (p : ReadFields) (device : ReadDevice) (b : Option JByteArray) (off len : Int32) :
    ReadCall :=
  if p.fd = 0 then .ends (.error .io)
  else match b with
    | none => .ends (.error .nullPointer)
    | some b =>
      if off < 0 || len < 0 || off + len > b.length then .ends (.error .indexOutOfBounds)
      else if len = 0 then .ends (.ok 0)
      else if p.threshold = 0 then
        match device.nativeavailable with
        | .error e => .ends (.error e)
        | .ok a =>
          let minimum := if a = 0 then 1 else mathMin len a
          if p.monThreadisInterrupted then .ends (.ok 0)
          else callReadArray p device off minimum
      else
        let minimum := mathMin len p.threshold
        if p.monThreadisInterrupted then .ends (.ok 0)
        else callReadArray p device off minimum

/-- The bounds that a read of `len` bytes from `off` on has to keep. -/
structure InBounds (b : JByteArray) (off len : Int32) (call : ReadCall) : Prop where
  arguments : ∀ start minimum, call.readArray = some (start, minimum) → start = off ∧
    0 ≤ off.toInt ∧ 1 ≤ minimum.toInt ∧ minimum.toInt ≤ len.toInt ∧
    off.toInt + minimum.toInt ≤ b.elements.length
  stores : ∀ store ∈ call.stores,
    0 ≤ store.index ∧ store.index + store.data.length ≤ b.elements.length

theorem ends_inBounds (b : JByteArray) (off len : Int32) (ending : Except JavaException Int) :
    InBounds b off len (.ends ending) :=
  ⟨by simp [ReadCall.ends], by simp [ReadCall.ends]⟩

theorem callReadArray_inBounds_iff (p : ReadFields) (device : ReadDevice) (b : JByteArray)
    {off len minimum : Int32} (nonneg : 0 ≤ off.toInt) (some : 1 ≤ minimum.toInt)
    (least : minimum.toInt ≤ len.toInt) :
    InBounds b off len (callReadArray p device off minimum) ↔
      off.toInt + minimum.toInt ≤ b.elements.length := by
  constructor
  · intro bounds
    exact (bounds.arguments off minimum rfl).2.2.2.2
  · intro fits
    constructor
    · intro start minimum' same
      cases same
      exact ⟨rfl, nonneg, some, least, fits⟩
    · intro store member
      have int : -2 ^ 31 ≤ minimum.toInt := by omega
      have bounds := readArray_stores int device.dataAvailable device.turns store member
      simp only [] at bounds
      omega

theorem guard_iff (b : JByteArray) (off len : Int32) :
    (off < 0 || len < 0 || off + len > b.length) = true ↔
      off.toInt < 0 ∨ len.toInt < 0 ∨
        (off.toInt + len.toInt < 2 ^ 31 ∧ (b.elements.length : Int) < off.toInt + len.toInt) := by
  have zero : (0 : Int32).toInt = 0 := rfl
  simp only [Bool.or_eq_true, decide_eq_true_eq, gt_iff_lt, Int32.lt_iff_toInt_lt, zero,
    JByteArray.length_toInt, or_assoc]
  by_cases negative : off.toInt < 0 ∨ len.toInt < 0
  · omega
  · by_cases small : off.toInt + len.toInt < 2 ^ 31
    · rw [toInt_add_of_lt (by omega) (by omega) small]
      omega
    · have wrapped := toInt_add_of_ge (Int.not_lt.mp small)
      omega

theorem read_asks (p : ReadFields) (device : ReadDevice) (b : JByteArray)
    {off len available : Int32} (threshold : 0 ≤ p.threshold.toInt)
    (nativeavailable : device.nativeavailable = .ok available) (nonneg : 0 ≤ available.toInt)
    (isOpen : p.fd ≠ 0)
    (passed : ¬ (off < 0 || len < 0 || off + len > b.length) = true) (some : 0 < len.toInt)
    (running : p.monThreadisInterrupted = false) :
    ∃ minimum, read p device (.some b) off len = callReadArray p device off minimum ∧
      minimum.toInt = min len.toInt (if p.threshold = 0 then max 1 available.toInt
        else p.threshold.toInt) ∧ 1 ≤ minimum.toInt := by
  have notZero : len ≠ 0 := by
    rintro rfl
    exact absurd some (by decide)
  have zero {x : Int32} (h : x ≠ 0) : x.toInt ≠ 0 := fun same => h (Int32.toInt_inj.mp same)
  by_cases disabled : p.threshold = 0
  · by_cases none : available = 0
    · refine ⟨1, ?_, ?_, ?_⟩
      · simp only [read, isOpen, passed, notZero, disabled, nativeavailable, none, running, if_true,
          if_false, Bool.false_eq_true]
      · have one : (1 : Int32).toInt = 1 := rfl
        have noBytes : (0 : Int32).toInt = 0 := rfl
        rw [if_pos disabled, none, one, noBytes]
        omega
      · decide
    · have atLeast := zero none
      have least := mathMin_toInt len available
      refine ⟨mathMin len available, ?_, ?_, ?_⟩
      · simp only [read, isOpen, passed, notZero, disabled, nativeavailable, none, running, if_true,
          if_false, Bool.false_eq_true]
      · rw [if_pos disabled]
        omega
      · omega
  · have enabled := zero disabled
    have least := mathMin_toInt len p.threshold
    refine ⟨mathMin len p.threshold, ?_, ?_, ?_⟩
    · simp only [read, isOpen, passed, notZero, disabled, running, if_false, Bool.false_eq_true]
    · rw [if_neg disabled]
      omega
    · omega

/-- A read stays inside the array exactly when it ends before the native call, its end index is an
    int, or what it asks for is inside the array all the same. -/
theorem read_inBounds_iff (p : ReadFields) (device : ReadDevice) (b : JByteArray)
    (off len available : Int32) (threshold : 0 ≤ p.threshold.toInt)
    (nativeavailable : device.nativeavailable = .ok available)
    (nonneg : 0 ≤ available.toInt) :
    InBounds b off len (read p device (some b) off len) ↔
      p.fd = 0 ∨ off.toInt < 0 ∨ len.toInt ≤ 0 ∨ p.monThreadisInterrupted = true ∨
      off.toInt + len.toInt < 2 ^ 31 ∨
      off.toInt + min len.toInt (if p.threshold = 0 then max 1 available.toInt
        else p.threshold.toInt) ≤ b.elements.length := by
  by_cases closed : p.fd = 0
  · simp [read, closed, ends_inBounds]
  by_cases refused : (off < 0 || len < 0 || off + len > b.length) = true
  · have ended : read p device (some b) off len = .ends (.error .indexOutOfBounds) := by
      simp only [read, closed, refused, if_true, if_false]
    have reason := (guard_iff b off len).mp refused
    rw [ended]
    constructor
    · intro _
      omega
    · intro _
      exact ends_inBounds _ _ _ _
  have passed := mt (guard_iff b off len).mpr refused
  by_cases empty : len.toInt ≤ 0
  · have none : len = 0 := Int32.toInt_inj.mp (by
      have zero : (0 : Int32).toInt = 0 := rfl
      omega)
    subst none
    have ended : read p device (some b) off 0 = .ends (.ok 0) := by
      simp only [read, closed, refused, if_true, if_false, Bool.false_eq_true]
    rw [ended]
    exact ⟨fun _ => .inr (.inr (.inl empty)), fun _ => ends_inBounds _ _ _ _⟩
  cases interrupted : p.monThreadisInterrupted with
  | true =>
    have notZero : len ≠ 0 := by
      rintro rfl
      exact empty (by decide)
    have ended : read p device (some b) off len = .ends (.ok 0) := by
      simp only [read, closed, refused, notZero, nativeavailable, interrupted, if_true, if_false,
        Bool.false_eq_true, ite_self]
    rw [ended]
    exact ⟨fun _ => .inr (.inr (.inr (.inl rfl))), fun _ => ends_inBounds _ _ _ _⟩
  | false =>
    obtain ⟨minimum, asks, value, atLeast⟩ := read_asks p device b threshold nativeavailable nonneg
      closed refused (by omega) interrupted
    rw [asks, callReadArray_inBounds_iff p device b (by omega) atLeast (by omega), ← value]
    simp only [closed, Bool.false_eq_true, false_or]
    omega

def quietPort : ReadFields := ⟨3, 0, -1, false⟩

def deviceWith (available : Int32) (data : List UInt8) : ReadDevice :=
  ⟨.ok available, 0, 0, fun _ => ⟨0, 1, .gives data⟩⟩

def fourBytes : JByteArray := ⟨[0, 0, 0, 0], by decide⟩

theorem read_inBounds_iff_two :
    InBounds fourBytes 1 2 (read quietPort (deviceWith 5 [7, 8]) (some fourBytes) 1 2) ↔
      quietPort.fd = 0 ∨ (1 : Int32).toInt < 0 ∨ (2 : Int32).toInt ≤ 0 ∨
      quietPort.monThreadisInterrupted = true ∨ (1 : Int32).toInt + (2 : Int32).toInt < 2 ^ 31 ∨
      (1 : Int32).toInt + min (2 : Int32).toInt (if quietPort.threshold = 0
        then max 1 (5 : Int32).toInt else quietPort.threshold.toInt) ≤ fourBytes.elements.length :=
  read_inBounds_iff quietPort (deviceWith 5 [7, 8]) fourBytes 1 2 5 (by decide) rfl (by decide)

/-- The index after the last byte wraps: 100 bytes are read into an array of four. -/
theorem read_out_of_bounds :
    ¬ ∀ (p : ReadFields) (device : ReadDevice) (b : JByteArray) (off len available : Int32),
      0 ≤ p.threshold.toInt → device.nativeavailable = .ok available → 0 ≤ available.toInt →
      InBounds b off len (read p device (some b) off len) := by
  intro inBounds
  have bounds := inBounds quietPort (deviceWith 100 [1]) fourBytes 1 2147483647 100 (by decide) rfl
    (by decide)
  have fits := (bounds.arguments 1 100 rfl).2.2.2.2
  revert fits
  decide

end Rxtx.RXTXPort
