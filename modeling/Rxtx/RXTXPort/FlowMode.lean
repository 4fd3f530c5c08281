import Rxtx.Library.Runs
import Rxtx.SerialImp.FlowControl

open Runs
open Rxtx.SerialImp (FlowCalls FlowMode HardwareFlowControl IFlagMasks UnixTermios flowcontrolNone)

namespace Rxtx.RXTXPort

structure NativeException where
  exc : String
  msg : String
  deriving DecidableEq, Repr

def unsupportedCommOperation : String := "UnsupportedCommOperationException"
def ioException : String := "java/io/IOException"

def exceptionText (foo msg : String) : String := msg ++ " in " ++ foo

/-- `findClass` is the virtual machine's. A class that is not found leaves nothing pending. The text
    is that of the build without `_GNU_SOURCE`, where it fits into the 60 bytes of `buf`. -/
def throwJavaException (findClass : String → Bool) (exc foo msg : String) :
    Option NativeException :=
  if findClass exc then some ⟨exc, exceptionText foo msg⟩ else none

structure FlowPort where
  monThreadisInterrupted : Bool
  flowmode : FlowMode
  device : UnixTermios

variable (hardware : HardwareFlowControl) (masks : IFlagMasks) (findClass : String → Bool)

def setflowcontrol (calls : FlowCalls) (flowmode : FlowMode) (device : UnixTermios) :
    Option NativeException × UnixTermios :=
  let (fail, device) := SerialImp.setflowcontrol hardware masks calls flowmode device
  (if fail then
    throwJavaException findClass unsupportedCommOperation "" "flow control type not supported"
  else none, device)

/-- Only an `IOException` is caught; any other leaves the method. -/
def setFlowControlMode (calls : FlowCalls) (flowcontrol : FlowMode) (port : FlowPort) :
    Option NativeException × FlowPort :=
  if port.monThreadisInterrupted then (none, port)
  else
    match setflowcontrol hardware masks findClass calls flowcontrol port.device with
    | (some e, device) => (if e.exc = ioException then none else some e, { port with device })
    | (none, device) => (none, { port with device, flowmode := flowcontrol })

def getFlowControlMode (port : FlowPort) : FlowMode := port.flowmode

structure FlowCall where
  calls : FlowCalls
  flowcontrol : FlowMode

def FlowCall.Succeeds (call : FlowCall) : Prop :=
  call.calls.tcgetattr = true ∧ call.calls.tcsetattr = true

instance (call : FlowCall) : Decidable call.Succeeds :=
  inferInstanceAs (Decidable (_ ∧ _))

/-- A port with the mode of the last call whose `tcsetattr` succeeded. -/
structure FlowRun where
  port : FlowPort
  last : FlowMode

def FlowRun.opened (device : UnixTermios) : FlowRun :=
  ⟨⟨false, flowcontrolNone, device⟩, flowcontrolNone⟩

def FlowRun.call (c : FlowCall) (run : FlowRun) : Option NativeException × FlowRun :=
  let (thrown, port) := setFlowControlMode hardware masks findClass c.calls c.flowcontrol run.port
  (thrown, ⟨port, if c.Succeeds then c.flowcontrol else run.last⟩)

/-- The monitor thread runs and `getFlowControlMode` gives the mode that the device was set to. -/
structure FlowRun.Truthful (run : FlowRun) : Prop where
  running : run.port.monThreadisInterrupted = false
  cached : getFlowControlMode run.port = run.last

theorem setFlowControlMode_stores
    (unqualified : ∀ name : String, '/' ∉ name.toList → findClass name = false)
    (calls : FlowCalls) (flowcontrol : FlowMode) {port : FlowPort}
    (running : port.monThreadisInterrupted = false) :
    setFlowControlMode hardware masks findClass calls flowcontrol port =
      (none, { port with
        device := (SerialImp.setflowcontrol hardware masks calls flowcontrol port.device).2,
        flowmode := flowcontrol }) := by
  have missing : findClass unsupportedCommOperation = false := unqualified _ (by decide)
  have silent : setflowcontrol hardware masks findClass calls flowcontrol port.device =
      (none, (SerialImp.setflowcontrol hardware masks calls flowcontrol port.device).2) := by
    simp [setflowcontrol, throwJavaException, missing]
  simp only [setFlowControlMode, running, silent]
  simp

theorem FlowRun.Truthful.call_iff
    (unqualified : ∀ name : String, '/' ∉ name.toList → findClass name = false) (c : FlowCall)
    (run : FlowRun) (truthful : run.Truthful) :
    (run.call hardware masks findClass c).2.Truthful ↔
      (¬ c.Succeeds → c.flowcontrol = getFlowControlMode run.port) := by
  have stored := setFlowControlMode_stores hardware masks findClass unqualified c.calls
    c.flowcontrol truthful.running
  have after : (run.call hardware masks findClass c).2.Truthful ↔
      c.flowcontrol = if c.Succeeds then c.flowcontrol else run.last := by
    simp only [FlowRun.call, stored]
    constructor
    · intro kept
      exact kept.cached
    · intro same
      exact ⟨truthful.running, same⟩
  rw [after, truthful.cached]
  split
  next succeeds => simp [succeeds]
  next fails => simp [fails]

/-- The cached mode is that of the last call that set the device, after every call of a run,
    exactly where each call that fails asks for the mode that is cached already. -/
theorem flow_mode_cached_iff
    (unqualified : ∀ name : String, '/' ∉ name.toList → findClass name = false)
    (device : UnixTermios) (calls : List FlowCall) :
    Throughout (FlowRun.call hardware masks findClass) FlowRun.Truthful calls (.opened device) ↔
      EachMeets (FlowRun.call hardware masks findClass)
        (fun run c => ¬ c.Succeeds → c.flowcontrol = getFlowControlMode run.port) calls
        (.opened device) :=
  throughout_iff (FlowRun.Truthful.call_iff hardware masks findClass unqualified) ⟨rfl, rfl⟩

def packaged (name : String) : Bool := decide ('/' ∈ name.toList)

def flowCalls : List FlowCall := [⟨⟨true, true⟩, 3⟩, ⟨⟨true, false⟩, 3⟩, ⟨⟨false, true⟩, 0⟩]

theorem flow_mode_cached_iff_packaged :
    Throughout (FlowRun.call (.whole 0o20000000000) .linux packaged) FlowRun.Truthful flowCalls
        (.opened .bare) ↔
      EachMeets (FlowRun.call (.whole 0o20000000000) .linux packaged)
        (fun run c => ¬ c.Succeeds → c.flowcontrol = getFlowControlMode run.port) flowCalls
        (.opened .bare) :=
  flow_mode_cached_iff (.whole 0o20000000000) .linux packaged
    (fun _ unqualified => decide_eq_false unqualified) .bare flowCalls

theorem flow_mode_lies :
    ¬ ∀ (hardware : HardwareFlowControl) (masks : IFlagMasks) (findClass : String → Bool)
      (device : UnixTermios) (calls : List FlowCall),
      (∀ name : String, '/' ∉ name.toList → findClass name = false) →
      Throughout (FlowRun.call hardware masks findClass) FlowRun.Truthful calls
        (.opened device) := by
  intro truthful
  have cached := (truthful (.whole 0o20000000000) .linux packaged .bare [⟨⟨true, false⟩, 1⟩]
    (fun _ unqualified => decide_eq_false unqualified)).2.cached
  revert cached
  decide

end Rxtx.RXTXPort
