import Mathlib.Data.List.Basic

namespace Rxtx.LPRPort

structure Port where
  fd : Int32
  timeout : Int32
  threshold : Int32
  ppEventListener : Bool
  monThread : Bool
  deriving DecidableEq, Repr

def Port.declared (fd : Int32) : Port where
  fd := fd
  timeout := 0
  threshold := 1
  ppEventListener := false
  monThread := false

def Port.getJavaVar (p : Port) (id : String) : Int32 :=
  match id with
  | "fd" => p.fd
  | "timeout" => p.timeout
  | "threshold" => p.threshold
  | _ => 0

def Port.enableReceiveTimeout (t : Int32) (p : Port) : Port :=
  { p with timeout := if t > 0 then t else 0 }

def Port.disableReceiveTimeout (p : Port) : Port := { p with timeout := 0 }

def Port.isReceiveTimeoutEnabled (p : Port) : Bool := p.timeout > 0

def Port.enableReceiveThreshold (t : Int32) (p : Port) : Port :=
  { p with threshold := if t > 1 then t else 1 }

def Port.disableReceiveThreshold (p : Port) : Port := { p with threshold := 1 }

inductive ReceiveCall where
  | enableTimeout (t : Int32)
  | disableTimeout
  | enableThreshold (t : Int32)
  | disableThreshold
  deriving DecidableEq, Repr

def ReceiveCall.run : ReceiveCall → Port → Port
  | .enableTimeout t => Port.enableReceiveTimeout t
  | .disableTimeout => Port.disableReceiveTimeout
  | .enableThreshold t => Port.enableReceiveThreshold t
  | .disableThreshold => Port.disableReceiveThreshold

def configured (calls : List ReceiveCall) (p : Port) : Port :=
  calls.foldl (fun p call => call.run p) p

structure Port.Receives (p : Port) : Prop where
  timeout : 0 ≤ p.timeout.toInt
  threshold : 1 ≤ p.threshold.toInt

theorem receives_declared (fd : Int32) : (Port.declared fd).Receives where
  timeout := Int.le_refl 0
  threshold := Int.le_refl 1

theorem Port.Receives.run {p : Port} (receives : p.Receives) (call : ReceiveCall) :
    (call.run p).Receives := by
  cases call with
  | enableTimeout t =>
    refine ⟨?_, receives.threshold⟩
    show 0 ≤ (if t > 0 then t else 0 : Int32).toInt
    split
    next positive =>
      have order := Int32.lt_iff_toInt_lt.mp positive
      exact Int.le_of_lt order
    next => decide
  | disableTimeout => exact ⟨Int.le_refl 0, receives.threshold⟩
  | enableThreshold t =>
    refine ⟨receives.timeout, ?_⟩
    show 1 ≤ (if t > 1 then t else 1 : Int32).toInt
    split
    next above =>
      have order := Int32.lt_iff_toInt_lt.mp above
      exact Int.le_of_lt order
    next => decide
  | disableThreshold => exact ⟨receives.timeout, Int.le_refl 1⟩

theorem configured_receives (calls : List ReceiveCall) {p : Port} (receives : p.Receives) :
    (configured calls p).Receives := by
  induction calls generalizing p with
  | nil => exact receives
  | cons call calls ih => exact ih (receives.run call)

end Rxtx.LPRPort
