import Rxtx.RXTXPort.LifeCycle
import Rxtx.RXTXPort.ReceiveTimeout
import Rxtx.SerialImp.ReadRounds

open Rxtx.SerialImp

namespace Rxtx.RXTXPort

/-- The native `readByte`; `stack` is what its buffer of one byte holds before. -/
def nativeReadByte (p : ReadFields) (device : ReadDevice) (stack : UInt8) :
    Except JavaException Int :=
  let run := readByteArray ⟨0, 1, p.timeout.toInt, device.start⟩ device.dataAvailable device.turns
  if run.result < 0 then .error .io
  else .ok (if run.result ≠ 0 then (written run.stores (fun _ => stack) 0).toNat else -1)

/-- `SerialInputStream.read()` where its native call returns. That the monitor thread is interrupted
    is only reported. -/
def readSingle (p : ReadFields) (device : ReadDevice) (stack : UInt8) :
    Except JavaException Int :=
  if p.fd = 0 then .error .io else nativeReadByte p device stack

/-- What a read finds of the monitor thread: whether the lock stays set, the field `eis`, and where
    there are structs as `read_byte_array` takes the flag and as it puts it back. -/
structure Monitored where
  monitorThreadLock : Bool
  eis : BitVec 64
  taking : BitVec 64 → Bool
  puttingBack : BitVec 64 → Bool

inductive ReadFault where
  | waits
  | dangling (address : BitVec 64)
  deriving DecidableEq, Repr

/-- Every exit of `read_byte_array` puts the flag back that it took at the start. -/
def Monitored.throughEis {α : Type} (m : Monitored) (call : α) : Except ReadFault α :=
  if m.taking (getJavaVar m.eis) && m.puttingBack (getJavaVar m.eis) then .ok call
  else .error (.dangling (getJavaVar m.eis))

def Monitored.readSingle (m : Monitored) (p : ReadFields) (device : ReadDevice) (stack : UInt8) :
    Except ReadFault (Except JavaException Int) :=
  if p.fd = 0 then .ok (.error .io)
  else if m.monitorThreadLock then .error .waits
  else m.throughEis (nativeReadByte p device stack)

def Monitored.read (m : Monitored) (p : ReadFields) (device : ReadDevice) (b : Option JByteArray)
    (off len : Int32) : Except ReadFault ReadCall :=
  let call := RXTXPort.read p device b off len
  match call.readArray with
  | none => .ok call
  | some (_, minimum) =>
    if m.monitorThreadLock then .error .waits
    else if ssizeMax < sizeT minimum.toInt ∨ sizeT minimum.toInt < 0 then .ok call
    else m.throughEis call

/-- The lock is not left set, and the pointer from the field is that of a struct which is there when
    the native read begins and when it ends. -/
def Monitored.Serves (m : Monitored) : Prop :=
  m.monitorThreadLock = false ∧ m.taking (getJavaVar m.eis) = true ∧
    m.puttingBack (getJavaVar m.eis) = true

def TimeoutPort.readFields (p : TimeoutPort) (fd : Int32) (monThreadisInterrupted : Bool) :
    ReadFields :=
  ⟨fd, p.threshold, p.timeout, monThreadisInterrupted⟩

/-- The first look at the clock comes before the time is up. -/
def InTime (time : Int32) (device : ReadDevice) : Prop :=
  (device.turns 0).now - device.start < time.toInt

theorem inTime_iff {time : Int32} (nonneg : 0 ≤ time.toInt) (buffer length : Int)
    (device : ReadDevice) :
    ¬ ReadRequest.TimedOut ⟨buffer, length, time.toInt, device.start⟩ (device.turns 0) ↔
      InTime time device := by
  unfold ReadRequest.TimedOut InTime
  simp only []
  omega

theorem callReadArray_delivers_iff {p : ReadFields} {device : ReadDevice} {off minimum : Int32}
    (waits : DataWaits device.turns) (nonneg : 0 ≤ p.timeout.toInt) (some : 1 ≤ minimum.toInt) :
    (∃ n, 1 ≤ n ∧ (callReadArray p device off minimum).ending = .ok n) ↔
      InTime p.timeout device := by
  have passed := sizeT_of_length (Int.le_trans Int.one_nonneg some) minimum.toInt_lt
  obtain ⟨returned, delivers⟩ := waits.result
    (r := ⟨off.toInt, minimum.toInt, p.timeout.toInt, device.start⟩) some device.dataAvailable
  rw [← inTime_iff nonneg off.toInt minimum.toInt, ← delivers]
  have ended : (callReadArray p device off minimum).ending = .ok (readByteArray
      ⟨off.toInt, minimum.toInt, p.timeout.toInt, device.start⟩ device.dataAvailable
      device.turns).result := by
    simp only [callReadArray, SerialImp.readArray, if_neg passed, if_neg (Int.not_lt.mpr returned)]
  rw [ended]
  simp

theorem nativeReadByte_delivers_iff {p : ReadFields} {device : ReadDevice}
    (waits : DataWaits device.turns) (nonneg : 0 ≤ p.timeout.toInt) (stack : UInt8) :
    (∃ byte : UInt8, nativeReadByte p device stack = .ok byte.toNat) ↔
      InTime p.timeout device := by
  obtain ⟨returned, delivers⟩ := waits.result
    (r := ⟨0, 1, p.timeout.toInt, device.start⟩) (Int.le_refl 1) device.dataAvailable
  rw [← inTime_iff nonneg 0 1, ← delivers]
  unfold nativeReadByte
  simp only [if_neg (Int.not_lt.mpr returned)]
  constructor
  · intro delivered
    rcases delivered with ⟨byte, ended⟩
    by_contra none
    have zero : ¬ (readByteArray ⟨0, 1, p.timeout.toInt, device.start⟩ device.dataAvailable
        device.turns).result ≠ 0 := by omega
    rw [if_neg zero] at ended
    have same := Except.ok.inj ended
    omega
  · intro some
    have got : (readByteArray ⟨0, 1, p.timeout.toInt, device.start⟩ device.dataAvailable
        device.turns).result ≠ 0 := by omega
    rw [if_pos got]
    exact ⟨_, rfl⟩

theorem Monitored.throughEis_ok {α : Type} {m : Monitored} {call result : α} :
    m.throughEis call = .ok result ↔ m.taking (getJavaVar m.eis) = true ∧
      m.puttingBack (getJavaVar m.eis) = true ∧ call = result := by
  unfold throughEis
  split_ifs with there
  · simp only [Bool.and_eq_true] at there
    simp [there]
  · simp only [Bool.and_eq_true] at there
    simp [← and_assoc, there]

theorem Monitored.readSingle_ok {m : Monitored} {p : ReadFields} (isOpen : p.fd ≠ 0)
    (device : ReadDevice) (stack : UInt8) (result : Except JavaException Int) :
    m.readSingle p device stack = .ok result ↔
      m.Serves ∧ nativeReadByte p device stack = result := by
  unfold readSingle Serves
  rw [if_neg isOpen]
  cases m.monitorThreadLock with
  | true => simp
  | false => simp [throughEis_ok, and_assoc]

theorem Monitored.read_made {m : Monitored} {p : ReadFields} {device : ReadDevice}
    {b : Option JByteArray} {off len minimum : Int32}
    (made : RXTXPort.read p device b off len = callReadArray p device off minimum)
    (some : 1 ≤ minimum.toInt) (call : ReadCall) :
    m.read p device b off len = .ok call ↔
      m.Serves ∧ callReadArray p device off minimum = call := by
  have passed := sizeT_of_length (Int.le_trans Int.one_nonneg some) minimum.toInt_lt
  have asked : (callReadArray p device off minimum).readArray = .some (off, minimum) := rfl
  unfold read Serves
  simp only [made, asked, if_neg passed]
  cases m.monitorThreadLock with
  | true => simp
  | false => simp [throughEis_ok, and_assoc]

theorem Monitored.read_not_made {m : Monitored} {p : ReadFields} {device : ReadDevice}
    {b : Option JByteArray} {off len : Int32} {ending : Except JavaException Int}
    (ended : RXTXPort.read p device b off len = .ends ending) :
    m.read p device b off len = .ok (.ends ending) := by
  simp only [read, ended, ReadCall.ends]

theorem read_interrupted {p : ReadFields} {device : ReadDevice} {b : JByteArray}
    {off len available : Int32} (isOpen : p.fd ≠ 0)
    (nativeavailable : device.nativeavailable = .ok available)
    (passed : ¬ (off < 0 || len < 0 || off + len > b.length) = true) (some : 1 ≤ len.toInt)
    (interrupted : p.monThreadisInterrupted = true) :
    RXTXPort.read p device (.some b) off len = .ends (.ok 0) := by
  have notZero : len ≠ 0 := by
    rintro rfl
    exact absurd some (by decide)
  simp only [RXTXPort.read, isOpen, passed, notZero, nativeavailable, interrupted, if_true,
    if_false, Bool.false_eq_true, ite_self]

def deviceHolding (now : Int) : ReadDevice :=
  ⟨.ok 5, 0, 0, fun _ => ⟨now, 1, .gives [7, 8]⟩⟩

theorem deviceHolding_waits (now : Int) : DataWaits (deviceHolding now).turns :=
  ⟨by simp [deviceHolding], ⟨7, [8], rfl⟩, by simp [deviceHolding, ReadTurn.Fails]⟩

def steadyLoop : Monitored :=
  ⟨false, setIntField 0 0x1000, (· == 0x1000), (· == 0x1000)⟩

end Rxtx.RXTXPort
