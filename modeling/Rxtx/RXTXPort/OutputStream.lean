import Rxtx.RXTXPort.Fields

namespace Rxtx.RXTXPort

inductive WriteArgs where
  | int (b : Int32)
  | bytes (b : Option JByteArray)
  | slice (b : Option JByteArray) (off len : Int32)

structure WriteCall where
  passed : List UInt8
  ending : Except JavaException Unit

def WriteCall.ends (ending : Except JavaException Unit) : WriteCall := ⟨[], ending⟩

/-- `waitForTheNativeCodeSilly`, which does not come back while the lock is set, and the native
    call. -/
def Port.callNative (p : Port) (native : Except JavaException Unit) (bytes : List UInt8) :
    Option WriteCall :=
  if p.monitorThreadLock then none else some ⟨bytes, native⟩

/-- The native side takes the low byte: `(unsigned char) ji`. -/
def writeInt (p : Port) (native : Except JavaException Unit) (b : Int32) : Option WriteCall :=
  if p.speed = 0 then some (.ends (.ok ()))
  else if p.monThreadisInterrupted then some (.ends (.ok ()))
  else if p.monitorThreadLock then none
  else if p.fd = 0 then some (.ends (.error .io))
  else some ⟨[b.toInt8.toUInt8], native⟩

def writeBytes (p : Port) (native : Except JavaException Unit) (b : Option JByteArray) :
    Option WriteCall :=
  if p.speed = 0 then some (.ends (.ok ()))
  else if p.monThreadisInterrupted then some (.ends (.ok ()))
  else if p.fd = 0 then some (.ends (.error .io))
  else match b with
    | none => if p.monitorThreadLock then none else some (.ends (.error .nullPointer))
    | some b => p.callNative native b.elements

def writeSlice (p : Port) (native : Except JavaException Unit) (b : Option JByteArray)
    (off len : Int32) : Option WriteCall :=
  if p.speed = 0 then some (.ends (.ok ()))
  else match b with
    | none => some (.ends (.error .nullPointer))
    | some b =>
      if off + len > b.length then some (.ends (.error .indexOutOfBounds))
      else if len < 0 then some (.ends (.error .negativeArraySize))
      else if off < 0 ∨ (b.elements.length : Int) < off.toInt + len.toInt then
        some (.ends (.error .arrayIndexOutOfBounds)) -- System.arraycopy
      else if p.fd = 0 then some (.ends (.error .io))
      else if p.monThreadisInterrupted then some (.ends (.ok ()))
      else p.callNative native ((b.elements.drop off.toInt.toNat).take len.toInt.toNat)

def write (p : Port) (native : Except JavaException Unit) : WriteArgs → Option WriteCall
  | .int b => writeInt p native b
  | .bytes b => writeBytes p native b
  | .slice b off len => writeSlice p native b off len

def WriteArgs.given : WriteArgs → List UInt8
  | .int b => [b.toInt8.toUInt8]
  | .bytes b => (b.map JByteArray.elements).getD []
  | .slice b off len => (((b.map JByteArray.elements).getD []).drop off.toInt.toNat).take
      len.toInt.toNat

def WriteArgs.Valid : WriteArgs → Prop
  | .int _ => True
  | .bytes b => b.isSome
  | .slice b off len => ∃ array, b = some array ∧ 0 ≤ off.toInt ∧ 0 ≤ len.toInt ∧
      off.toInt + len.toInt ≤ array.elements.length

theorem callNative_passed {p : Port} {native : Except JavaException Unit} {bytes : List UInt8}
    {call : WriteCall} (made : p.callNative native bytes = some call) : call.passed = bytes := by
  unfold Port.callNative at made
  split_ifs at made
  cases made
  rfl

theorem write_passed {p : Port} (isOpen : p.fd ≠ 0) (running : p.speed ≠ 0)
    {native : Except JavaException Unit} {args : WriteArgs} (valid : args.Valid) {call : WriteCall}
    (made : write p native args = some call) (returned : call.ending = .ok ()) :
    call.passed = if p.monThreadisInterrupted then [] else args.given := by
  cases args with
  | int b =>
    simp only [write, writeInt, running, isOpen, if_false] at made
    split_ifs at made with interrupted
    · cases made
      simp [interrupted, WriteCall.ends]
    · cases made
      rw [if_neg interrupted]
      rfl
  | bytes b =>
    obtain ⟨array, rfl⟩ := Option.isSome_iff_exists.mp valid
    simp only [write, writeBytes, running, isOpen, if_false] at made
    split_ifs at made with interrupted
    · cases made
      simp [interrupted, WriteCall.ends]
    · rw [if_neg interrupted]
      exact callNative_passed made
  | slice b off len =>
    rcases valid with ⟨array, rfl, off_nonneg, len_nonneg, inside⟩
    simp only [write, writeSlice, running, isOpen, if_false] at made
    split_ifs at made with outside negative beyond interrupted
    · cases made
      cases returned
    · cases made
      cases returned
    · cases made
      cases returned
    · cases made
      simp [interrupted, WriteCall.ends]
    · rw [if_neg interrupted]
      exact callNative_passed made

end Rxtx.RXTXPort
