import Mathlib.Algebra.Order.Ring.Int
import Mathlib.Data.List.Basic

namespace Rxtx.RXTXPort

inductive JavaException where
  | io
  | nullPointer
  | indexOutOfBounds
  | arrayIndexOutOfBounds
  | negativeArraySize
  | tooManyListeners
  deriving DecidableEq, Repr

structure JByteArray where
  elements : List UInt8
  small : elements.length < 2 ^ 31

def JByteArray.length (b : JByteArray) : Int32 := Int32.ofNat b.elements.length

@[simp] theorem JByteArray.length_toInt (b : JByteArray) :
    b.length.toInt = b.elements.length := by
  unfold length
  rw [Int32.toInt_ofNat_of_lt b.small]

theorem toInt_add_of_lt {x y : Int32} (hx : 0 ≤ x.toInt) (hy : 0 ≤ y.toInt)
    (small : x.toInt + y.toInt < 2 ^ 31) : (x + y).toInt = x.toInt + y.toInt := by
  rw [Int32.toInt_add, Int.bmod_eq_of_le] <;> omega

theorem toInt_add_of_ge {x y : Int32} (large : 2 ^ 31 ≤ x.toInt + y.toInt) :
    (x + y).toInt < 0 := by
  have hx := x.toInt_lt
  have hy := y.toInt_lt
  rw [Int32.toInt_add, Int.bmod_def]
  split <;> omega

def mathMin (x y : Int32) : Int32 := if x ≤ y then x else y

theorem mathMin_toInt (x y : Int32) : (mathMin x y).toInt = min x.toInt y.toInt := by
  unfold mathMin
  split
  next below =>
    have order := Int32.le_iff_toInt_le.mp below
    omega
  next above =>
    have order := mt Int32.le_iff_toInt_le.mpr above
    omega

inductive EventType where
  | dataAvailable | outputBufferEmpty | cts | dsr | ri | cd | oe | pe | fe | bi
  deriving DecidableEq, Repr

/-- `loop` is the event loop the thread runs, and none when its struct could not be initialised. -/
structure MonitorThread where
  loop : Option Nat
  enabled : EventType → Bool

structure Port where
  fd : Int32
  speed : Int32
  threshold : Int32
  timeout : Int32
  eis : BitVec 64
  spEventListener : Bool
  monThread : Option MonitorThread
  monThreadisInterrupted : Bool
  monitorThreadLock : Bool
  monitorThreadAlive : Bool

def Port.declared (fd : Int32) : Port where
  fd := fd
  speed := 9600
  threshold := 0
  timeout := 0
  eis := 0
  spEventListener := false
  monThread := none
  monThreadisInterrupted := true
  monitorThreadLock := true
  monitorThreadAlive := false

end Rxtx.RXTXPort
