import Rxtx.RXTXPort.FlowMode
import Rxtx.SerialImp.PortSettings

open Runs
open Rxtx.SerialImp

namespace Rxtx.RXTXPort

/-- A Java port, with its device or with what that stands for. -/
structure SettingsPort (D : Type) where
  speed : Int
  dataBits : Int
  stopBits : Int
  parity : Int
  flowmode : FlowMode
  monThreadisInterrupted : Bool
  device : D

def SettingsPort.constructed {D : Type} (device : D) : SettingsPort D :=
  ⟨9600, jdatabits8, stopbits1, jparityNone, flowcontrolNone, true, device⟩

inductive SettingsResult where
  | void
  | jboolean (value : Bool)
  | jbyte (value : BitVec 8)
  | jint (value : Int)
  | flowmode (value : FlowMode)
  | throws (e : NativeException)
  | unsupported (message : String)
  deriving DecidableEq, Repr

def SettingsResult.orThrow (value : SettingsResult) (pending : Option NativeException) :
    SettingsResult :=
  match pending with
  | some e => .throws e
  | none => value

/-- A division by 0, or more text than `throw_java_exception` has a buffer for. -/
inductive SettingsTrap where
  | division
  | overflow

structure SerialAnswers where
  tiocgserial : Bool
  tiocsserial : Bool
  strerror : String

/-- The calls on a port, with the answers of the system; `monThread` is what other threads do. -/
inductive SettingsCall where
  | setSerialPortParams (answers : ParamAnswers) (sstruct : SerialStruct) (b d s p : Int)
  | getBaudRate
  | getDataBits
  | getStopBits
  | getParity
  | setFlowControlMode (calls : FlowCalls) (flowcontrol : FlowMode)
  | getFlowControlMode
  | getParityErrorChar
  | setParityErrorChar (strerror : String) (b : BitVec 8)
  | getEndOfInputChar (tcgetattr : Bool)
  | setEndOfInputChar (calls : FlowCalls) (strerror : String) (b : BitVec 8)
  | setBaudBase (answers : SerialAnswers) (baudBase : Int)
  | getBaudBase (answers : SerialAnswers)
  | setDivisor (answers : SerialAnswers) (divisor : Int)
  | getDivisor (answers : SerialAnswers)
  | monThread (interrupted : Bool)

section

variable {header : SettingsHeader} (speeds : SpeedCalls header) (findClass : String → Bool)

def setSerialPortParams (answers : ParamAnswers) (sstruct : SerialStruct) (b d s p : Int)
    (port : SettingsPort SettingsDevice) :
    Except SettingsTrap (SettingsResult × SettingsPort SettingsDevice) :=
  match nativeSetSerialPortParams speeds answers sstruct b d s p port.device with
  | none => .error .division
  | some (true, device) => .ok (.unsupported "Invalid Parameter", { port with device })
  | some (false, device) =>
    .ok (.void, { port with
      device
      speed := b
      dataBits := if s = stopbits15 then jdatabits5 else d
      stopBits := s
      parity := p })

def SettingsPort.flowPort (port : SettingsPort SettingsDevice) : FlowPort :=
  ⟨port.monThreadisInterrupted, port.flowmode, port.device.termios⟩

def SettingsPort.withFlowPort (port : SettingsPort SettingsDevice) (flow : FlowPort) :
    SettingsPort SettingsDevice :=
  { port with
    flowmode := flow.flowmode
    monThreadisInterrupted := flow.monThreadisInterrupted
    device := { port.device with termios := flow.device } }

def SettingsPort.setFlowControlMode (header : SettingsHeader) (calls : FlowCalls)
    (flowcontrol : FlowMode) (port : SettingsPort SettingsDevice) :
    SettingsResult × SettingsPort SettingsDevice :=
  let (thrown, flow) := RXTXPort.setFlowControlMode header.hardware header.iflags findClass calls
    flowcontrol port.flowPort
  (SettingsResult.void.orThrow thrown, port.withFlowPort flow)

/-- What a native method returns after `throw_java_exception`, whose `buf` has 60 bytes. -/
def SettingsResult.throwing (value : SettingsResult) (exc foo msg : String) :
    Except SettingsTrap SettingsResult :=
  if findClass exc = true ∧ 60 ≤ (exceptionText foo msg).utf8ByteSize then .error .overflow
  else .ok (value.orThrow (throwJavaException findClass exc foo msg))

/-- There is no way to set it on these systems. -/
def nativeSetParityErrorChar (strerror : String) : Except SettingsTrap SettingsResult :=
  (SettingsResult.jboolean false).throwing findClass unsupportedCommOperation
    "Not implemented... yet" strerror

def nativeGetParityErrorChar : SettingsResult := .jbyte 0

def nativeGetEndOfInputChar (header : SettingsHeader) (tcgetattr : Bool)
    (device : SettingsDevice) : SettingsResult :=
  .jbyte (if tcgetattr then device.termios.cc header.veof else -1)

def nativeSetEndOfInputChar (header : SettingsHeader) (calls : FlowCalls) (strerror : String)
    (value : BitVec 8) (device : SettingsDevice) :
    Except SettingsTrap (SettingsResult × SettingsDevice) :=
  if calls.tcgetattr && calls.tcsetattr then
    .ok (.jboolean true, { device with
      termios := { device.termios with cc := setPlace device.termios.cc header.veof value } })
  else
    ((SettingsResult.jboolean false).throwing findClass ioException "nativeSetEndOfInputChar"
      strerror).map fun result => (result, device)

/-- Without `TIOCGSERIAL` there is no such operation. -/
def serialException (header : SettingsHeader) : String :=
  if header.tiocgserial then ioException else unsupportedCommOperation

/-- `TIOCGSERIAL`, an edit, and `TIOCSSERIAL` where `field` is positive. The result is that of the
    native method, 0 on success. -/
def nativeSetSerial (header : SettingsHeader) (foo : String) (edit : SerialStruct → SerialStruct)
    (field : SerialStruct → Int) (answers : SerialAnswers) (serial : SerialStruct) :
    Except SettingsTrap (SettingsResult × SerialStruct) :=
  if header.tiocgserial = false ∨ answers.tiocgserial = false ∨ field (edit serial) < 1 ∨
      answers.tiocsserial = false then
    ((SettingsResult.jboolean true).throwing findClass (serialException header) foo
      answers.strerror).map fun result => (result, serial)
  else .ok (.jboolean false, edit serial)

def nativeGetSerial (header : SettingsHeader) (foo : String) (field : SerialStruct → Int)
    (answers : SerialAnswers) (serial : SerialStruct) : Except SettingsTrap SettingsResult :=
  if header.tiocgserial = false ∨ answers.tiocgserial = false then
    (SettingsResult.jint (-1)).throwing findClass (serialException header) foo answers.strerror
  else .ok (.jint (field serial))

def nativeSetBaudBase (header : SettingsHeader) (answers : SerialAnswers) (baudBase : Int) :=
  nativeSetSerial findClass header "nativeSetBaudBase" (fun sstruct => { sstruct with baudBase })
    SerialStruct.baudBase answers

def nativeGetBaudBase (header : SettingsHeader) :=
  nativeGetSerial findClass header "nativeGetBaudBase" SerialStruct.baudBase

/-- The divisor that is asked for is stored nowhere. -/
def nativeSetDivisor (header : SettingsHeader) (answers : SerialAnswers) (_ : Int) :=
  nativeSetSerial findClass header "nativeSetDivisor" id SerialStruct.customDivisor answers

def nativeGetDivisor (header : SettingsHeader) :=
  nativeGetSerial findClass header "nativeGetDivisor" SerialStruct.customDivisor

def SettingsPort.withSerial (port : SettingsPort SettingsDevice)
    (run : SettingsResult × SerialStruct) : SettingsResult × SettingsPort SettingsDevice :=
  (run.1, { port with device := { port.device with serial := run.2 } })

def SettingsPort.call (c : SettingsCall) (port : SettingsPort SettingsDevice) :
    Except SettingsTrap (SettingsResult × SettingsPort SettingsDevice) :=
  match c with
  | .setSerialPortParams answers sstruct b d s p =>
    setSerialPortParams speeds answers sstruct b d s p port
  | .getBaudRate => .ok (.jint port.speed, port)
  | .getDataBits => .ok (.jint port.dataBits, port)
  | .getStopBits => .ok (.jint port.stopBits, port)
  | .getParity => .ok (.jint port.parity, port)
  | .setFlowControlMode calls flowcontrol =>
    .ok (port.setFlowControlMode findClass header calls flowcontrol)
  | .getFlowControlMode => .ok (.flowmode (getFlowControlMode port.flowPort), port)
  | .getParityErrorChar => .ok (nativeGetParityErrorChar, port)
  | .setParityErrorChar strerror _ =>
    (nativeSetParityErrorChar findClass strerror).map fun result => (result, port)
  | .getEndOfInputChar tcgetattr => .ok (nativeGetEndOfInputChar header tcgetattr port.device, port)
  | .setEndOfInputChar calls strerror b =>
    (nativeSetEndOfInputChar findClass header calls strerror b port.device).map
      fun (result, device) => (result, { port with device })
  | .setBaudBase answers baudBase =>
    (nativeSetBaudBase findClass header answers baudBase port.device.serial).map port.withSerial
  | .getBaudBase answers =>
    (nativeGetBaudBase findClass header answers port.device.serial).map fun result => (result, port)
  | .setDivisor answers divisor =>
    (nativeSetDivisor findClass header answers divisor port.device.serial).map port.withSerial
  | .getDivisor answers =>
    (nativeGetDivisor findClass header answers port.device.serial).map fun result => (result, port)
  | .monThread monThreadisInterrupted => .ok (.void, { port with monThreadisInterrupted })

def SettingsPort.requestParams (answers : ParamAnswers) (sstruct : SerialStruct) (b d s p : Int)
    (port : SettingsPort SettingRegisters) : SettingsResult × SettingsPort SettingRegisters :=
  let (failed, device) := port.device.setSerialPortParams speeds answers sstruct b d s p
  if failed then (.unsupported "Invalid Parameter", { port with device })
  else
    (.void, { port with
      device
      speed := b
      dataBits := if s = stopbits15 then jdatabits5 else d
      stopBits := s
      parity := p })

/-- Where the class of the exception is found, the mode that is kept stays what it was. -/
def SettingsPort.requestFlow (header : SettingsHeader) (calls : FlowCalls) (flowcontrol : FlowMode)
    (port : SettingsPort SettingRegisters) : SettingsResult × SettingsPort SettingRegisters :=
  if port.monThreadisInterrupted then (.void, port)
  else if calls.tcgetattr && calls.tcsetattr then
    (.void, { port with
      flowmode := flowcontrol
      device := { port.device with flow := header.hardware.reported flowcontrol } })
  else
    match throwJavaException findClass unsupportedCommOperation ""
      "flow control type not supported" with
    | some e => (.throws e, port)
    | none => (.void, { port with flowmode := flowcontrol })

def SettingsPort.requestEof (header : SettingsHeader) (calls : FlowCalls) (strerror : String)
    (eof : BitVec 8) (port : SettingsPort SettingRegisters) :
    SettingsResult × SettingsPort SettingRegisters :=
  if calls.tcgetattr && calls.tcsetattr then
    (.jboolean true, { port with
      device := { port.device with
        eof, vmin := if header.vmin = header.veof then eof else port.device.vmin } })
  else
    ((SettingsResult.jboolean false).orThrow
      (throwJavaException findClass ioException "nativeSetEndOfInputChar" strerror), port)

def SettingsPort.requestSetSerial (header : SettingsHeader) (foo : String)
    (edit : SerialStruct → SerialStruct) (field : SerialStruct → Int) (answers : SerialAnswers)
    (port : SettingsPort SettingRegisters) : SettingsResult × SettingsPort SettingRegisters :=
  let serial := edit port.device.serial
  if header.tiocgserial = false ∨ answers.tiocgserial = false ∨ field serial < 1 ∨
      answers.tiocsserial = false then
    ((SettingsResult.jboolean true).orThrow
      (throwJavaException findClass (serialException header) foo answers.strerror), port)
  else (.jboolean false, { port with device := { port.device with serial } })

def SettingsPort.requestGetSerial (header : SettingsHeader) (foo : String)
    (field : SerialStruct → Int) (answers : SerialAnswers) (port : SettingsPort SettingRegisters) :
    SettingsResult × SettingsPort SettingRegisters :=
  (if header.tiocgserial = false ∨ answers.tiocgserial = false then
    (SettingsResult.jint (-1)).orThrow
      (throwJavaException findClass (serialException header) foo answers.strerror)
  else .jint (field port.device.serial), port)

def SettingsPort.request (c : SettingsCall) (port : SettingsPort SettingRegisters) :
    SettingsResult × SettingsPort SettingRegisters :=
  match c with
  | .setSerialPortParams answers sstruct b d s p =>
    port.requestParams speeds answers sstruct b d s p
  | .getBaudRate => (.jint port.speed, port)
  | .getDataBits => (.jint port.dataBits, port)
  | .getStopBits => (.jint port.stopBits, port)
  | .getParity => (.jint port.parity, port)
  | .setFlowControlMode calls flowcontrol => port.requestFlow findClass header calls flowcontrol
  | .getFlowControlMode => (.flowmode port.flowmode, port)
  | .getParityErrorChar => (nativeGetParityErrorChar, port)
  | .setParityErrorChar strerror _ =>
    ((SettingsResult.jboolean false).orThrow (throwJavaException findClass unsupportedCommOperation
      "Not implemented... yet" strerror), port)
  | .getEndOfInputChar tcgetattr => (.jbyte (if tcgetattr then port.device.eof else -1), port)
  | .setEndOfInputChar calls strerror b => port.requestEof findClass header calls strerror b
  | .setBaudBase answers baudBase =>
    port.requestSetSerial findClass header "nativeSetBaudBase"
      (fun sstruct => { sstruct with baudBase }) SerialStruct.baudBase answers
  | .getBaudBase answers =>
    port.requestGetSerial findClass header "nativeGetBaudBase" SerialStruct.baudBase answers
  | .setDivisor answers _ =>
    port.requestSetSerial findClass header "nativeSetDivisor" id SerialStruct.customDivisor answers
  | .getDivisor answers =>
    port.requestGetSerial findClass header "nativeGetDivisor" SerialStruct.customDivisor answers
  | .monThread monThreadisInterrupted => (.void, { port with monThreadisInterrupted })

def ExceptionFits (exc foo msg : String) : Prop :=
  findClass exc = true → (exceptionText foo msg).utf8ByteSize < 60

/-- Whatever exception the call may throw, its text goes into `buf`. -/
def SettingsCall.Fits (header : SettingsHeader) : SettingsCall → Prop
  | .setParityErrorChar strerror _ =>
    ExceptionFits findClass unsupportedCommOperation "Not implemented... yet" strerror
  | .setEndOfInputChar _ strerror _ =>
    ExceptionFits findClass ioException "nativeSetEndOfInputChar" strerror
  | .setBaudBase answers _ =>
    ExceptionFits findClass (serialException header) "nativeSetBaudBase" answers.strerror
  | .getBaudBase answers =>
    ExceptionFits findClass (serialException header) "nativeGetBaudBase" answers.strerror
  | .setDivisor answers _ =>
    ExceptionFits findClass (serialException header) "nativeSetDivisor" answers.strerror
  | .getDivisor answers =>
    ExceptionFits findClass (serialException header) "nativeGetDivisor" answers.strerror
  | _ => True

theorem SettingsResult.throwing_fits {exc foo msg : String}
    (fits : ExceptionFits findClass exc foo msg) (value : SettingsResult) :
    value.throwing findClass exc foo msg =
      .ok (value.orThrow (throwJavaException findClass exc foo msg)) := by
  apply if_neg
  intro long
  exact absurd (fits long.1) (Nat.not_lt.mpr long.2)

/-- The two ports have the same fields, and the registers are those of the device. -/
structure SettingsPort.Stands (port : SettingsPort SettingsDevice)
    (registers : SettingsPort SettingRegisters) : Prop where
  fields : { port with device := registers.device } = registers
  encodes : port.device.Encodes speeds registers.device

theorem SettingsPort.stands_iff {port : SettingsPort SettingsDevice}
    {registers : SettingsPort SettingRegisters} :
    port.Stands speeds registers ↔ ∃ r, port.device.Encodes speeds r ∧
      registers = { port with device := r } := by
  constructor
  · intro stands
    exact ⟨_, stands.encodes, stands.fields.symm⟩
  · intro stands
    obtain ⟨r, encodes, rfl⟩ := stands
    exact ⟨rfl, encodes⟩

theorem SettingsPort.Stands.setSerialPortParams {port : SettingsPort SettingsDevice}
    {registers : SettingsPort SettingRegisters} (stands : port.Stands speeds registers)
    (answers : ParamAnswers) (sstruct : SerialStruct) (b d s p : Int) :
    ∃ port', RXTXPort.setSerialPortParams speeds answers sstruct b d s p port =
        .ok ((registers.requestParams speeds answers sstruct b d s p).1, port') ∧
      port'.Stands speeds (registers.requestParams speeds answers sstruct b d s p).2 := by
  obtain ⟨r, encodes, rfl⟩ := (SettingsPort.stands_iff speeds).mp stands
  obtain ⟨device, returned, after⟩ :=
    nativeSetSerialPortParams_encodes encodes answers sstruct b d s p
  unfold RXTXPort.setSerialPortParams requestParams
  rw [returned]
  cases failed : (r.setSerialPortParams speeds answers sstruct b d s p).1 with
  | true =>
    simp only [failed, if_true]
    exact ⟨_, rfl, rfl, after⟩
  | false =>
    simp only [failed, Bool.false_eq_true, if_false]
    exact ⟨_, rfl, rfl, after⟩

theorem throwJavaException_exc {exc foo msg : String} {e : NativeException}
    (thrown : throwJavaException findClass exc foo msg = some e) : e.exc = exc := by
  unfold throwJavaException at thrown
  split_ifs at thrown
  exact congrArg NativeException.exc (Option.some.inj thrown).symm

theorem setflowcontrol_eq (header : SettingsHeader) (calls : FlowCalls) (flowmode : FlowMode)
    (device : UnixTermios) :
    SerialImp.setflowcontrol header.hardware header.iflags calls flowmode device =
      if calls.tcgetattr && calls.tcsetattr then
        (false, device.withFlow header.hardware header.iflags flowmode)
      else (true, device) := by
  unfold SerialImp.setflowcontrol
  cases calls.tcgetattr <;> cases calls.tcsetattr <;> rfl

theorem SettingsPort.Stands.setFlowControlMode {port : SettingsPort SettingsDevice}
    {registers : SettingsPort SettingRegisters} (stands : port.Stands speeds registers)
    (calls : FlowCalls) (flowcontrol : FlowMode) :
    (port.setFlowControlMode findClass header calls flowcontrol).1 =
        (registers.requestFlow findClass header calls flowcontrol).1 ∧
      (port.setFlowControlMode findClass header calls flowcontrol).2.Stands speeds
        (registers.requestFlow findClass header calls flowcontrol).2 := by
  obtain ⟨r, encodes, rfl⟩ := (SettingsPort.stands_iff speeds).mp stands
  have uncaught : unsupportedCommOperation ≠ ioException := by decide
  unfold SettingsPort.setFlowControlMode requestFlow RXTXPort.setFlowControlMode flowPort
  cases interrupted : port.monThreadisInterrupted with
  | true =>
    rw [if_pos rfl, if_pos rfl]
    exact ⟨rfl, rfl, encodes⟩
  | false =>
    rw [if_neg Bool.false_ne_true, if_neg Bool.false_ne_true, setflowcontrol,
      setflowcontrol_eq]
    by_cases done : (calls.tcgetattr && calls.tcsetattr) = true
    · simp only [done, if_true, Bool.false_eq_true, if_false]
      exact ⟨rfl, rfl, encodes.withFlow flowcontrol⟩
    · simp only [done, Bool.false_eq_true, if_false, if_true]
      cases thrown : throwJavaException findClass unsupportedCommOperation ""
          "flow control type not supported" with
      | some e =>
        have passed : e.exc ≠ ioException := by
          rw [throwJavaException_exc findClass thrown]
          exact uncaught
        simp only [passed, if_false]
        exact ⟨rfl, rfl, encodes⟩
      | none => exact ⟨rfl, rfl, encodes⟩

theorem SettingsPort.Stands.setSerial {port : SettingsPort SettingsDevice}
    {registers : SettingsPort SettingRegisters} (stands : port.Stands speeds registers)
    {foo : String} {answers : SerialAnswers}
    (fits : ExceptionFits findClass (serialException header) foo answers.strerror)
    (edit : SerialStruct → SerialStruct) (field : SerialStruct → Int) :
    ∃ port', (nativeSetSerial findClass header foo edit field answers
        port.device.serial).map port.withSerial =
        .ok ((registers.requestSetSerial findClass header foo edit field answers).1, port') ∧
      port'.Stands speeds
        (registers.requestSetSerial findClass header foo edit field answers).2 := by
  obtain ⟨r, encodes, rfl⟩ := (SettingsPort.stands_iff speeds).mp stands
  simp only [nativeSetSerial, requestSetSerial, SettingsResult.throwing_fits findClass fits,
    encodes.serial]
  split
  next =>
    refine ⟨_, rfl, rfl, ?_⟩
    exact encodes.withSerial r.serial
  next => exact ⟨_, rfl, rfl, encodes.withSerial _⟩

theorem SettingsPort.Stands.getSerial {port : SettingsPort SettingsDevice}
    {registers : SettingsPort SettingRegisters} (stands : port.Stands speeds registers)
    {foo : String} {answers : SerialAnswers}
    (fits : ExceptionFits findClass (serialException header) foo answers.strerror)
    (field : SerialStruct → Int) :
    ∃ port', (nativeGetSerial findClass header foo field answers port.device.serial).map
        (fun result => (result, port)) =
        .ok ((registers.requestGetSerial findClass header foo field answers).1, port') ∧
      port'.Stands speeds (registers.requestGetSerial findClass header foo field answers).2 := by
  refine ⟨port, ?_, stands⟩
  obtain ⟨r, encodes, rfl⟩ := (SettingsPort.stands_iff speeds).mp stands
  simp only [nativeGetSerial, requestGetSerial, SettingsResult.throwing_fits findClass fits,
    encodes.serial]
  split <;> rfl

theorem SettingsPort.Stands.call {port : SettingsPort SettingsDevice}
    {registers : SettingsPort SettingRegisters} {c : SettingsCall}
    (stands : port.Stands speeds registers) (fits : c.Fits findClass header) :
    ∃ port', port.call speeds findClass c =
        .ok ((registers.request speeds findClass c).1, port') ∧
      port'.Stands speeds (registers.request speeds findClass c).2 := by
  obtain ⟨r, encodes, rfl⟩ := (SettingsPort.stands_iff speeds).mp stands
  cases c with
  | setSerialPortParams answers sstruct b d s p =>
    exact stands.setSerialPortParams speeds answers sstruct b d s p
  | setFlowControlMode calls flowcontrol =>
    obtain ⟨returned, after⟩ := stands.setFlowControlMode speeds findClass calls flowcontrol
    exact ⟨_, congrArg Except.ok (Prod.ext returned rfl), after⟩
  | setEndOfInputChar calls strerror b =>
    simp only [SettingsPort.call, nativeSetEndOfInputChar, request, requestEof,
      SettingsResult.throwing_fits findClass fits]
    split
    next => exact ⟨_, rfl, rfl, encodes.withEof b⟩
    next => exact ⟨_, rfl, rfl, encodes⟩
  | getEndOfInputChar tcgetattr =>
    simp only [SettingsPort.call, nativeGetEndOfInputChar, request, encodes.eof]
    exact ⟨_, rfl, stands⟩
  | setBaudBase answers baudBase =>
    exact stands.setSerial speeds findClass fits (fun sstruct => { sstruct with baudBase })
      SerialStruct.baudBase
  | setDivisor answers divisor =>
    exact stands.setSerial speeds findClass fits id SerialStruct.customDivisor
  | getBaudBase answers =>
    exact stands.getSerial speeds findClass fits SerialStruct.baudBase
  | getDivisor answers =>
    exact stands.getSerial speeds findClass fits SerialStruct.customDivisor
  | monThread interrupted => exact ⟨_, rfl, rfl, encodes⟩
  | getBaudRate => exact ⟨_, rfl, stands⟩
  | getDataBits => exact ⟨_, rfl, stands⟩
  | getStopBits => exact ⟨_, rfl, stands⟩
  | getParity => exact ⟨_, rfl, stands⟩
  | getFlowControlMode => exact ⟨_, rfl, stands⟩
  | getParityErrorChar => exact ⟨_, rfl, stands⟩
  | setParityErrorChar strerror b =>
    simp only [SettingsPort.call, nativeSetParityErrorChar, request,
      SettingsResult.throwing_fits findClass fits]
    exact ⟨_, rfl, stands⟩

theorem SettingsPort.constructed_stands {device opened : SettingsDevice}
    (configured : device.configured speeds = some opened) :
    (constructed opened).Stands speeds (constructed (device.openedRegisters header)) :=
  ⟨rfl, SettingsDevice.configured_encodes configured⟩

/-- The getters give what the device is set to. -/
structure SettingsPort.Kept (port : SettingsPort SettingsDevice) : Prop where
  speed : speeds.rate (speeds.cfgetospeed port.device.ttyset) = port.speed
  dataBits : dataBitsSwitch header.masks port.device.termios.cflag = port.dataBits
  stopBits : stopBitsSwitch header.masks port.device.termios.cflag = port.stopBits
  parity : paritySwitch header.masks port.device.termios.cflag = port.parity

structure SettingsPort.KeptRegisters (port : SettingsPort SettingRegisters) : Prop where
  speed : speeds.rate port.device.cspeed = port.speed
  dataBits : port.device.dataBits = port.dataBits
  stopBits : port.device.stopBits = port.stopBits
  parity : port.device.parity = port.parity
  whole : port.device.stopBits ≠ stopbits15

/-- A call that is not refused asks for a speed for which the system knows a code, for whole stop
    bits and for a parity that it can get. A number that is itself the code of another speed is
    taken, and sets that one. -/
def SettingsPort.Gets (port : SettingsPort SettingRegisters) : SettingsCall → Prop
  | .setSerialPortParams answers sstruct b d s p =>
    (port.device.setSerialPortParams speeds answers sstruct b d s p).1 = false →
      speeds.knows (header.translateSpeed b) = true ∧
        speeds.rate (header.translateSpeed b) = b ∧ s ≠ stopbits15 ∧
        header.masks.nextParity port.device.parity p = p
  | _ => True

theorem setSerialPortParams_cases (r : SettingRegisters) (answers : ParamAnswers)
    (sstruct : SerialStruct) (b d s p : Int) :
    (∃ serial, r.setSerialPortParams speeds answers sstruct b d s p = (true, { r with serial })) ∨
    (speeds.knows (header.translateSpeed b) = true ∧
      r.setSerialPortParams speeds answers sstruct b d s p =
        (false, r.withLine header.masks (header.translateSpeed b) d s p)) ∨
    (speeds.knows (header.translateSpeed b) = false ∧ speeds.knows header.b38400 = true ∧
      ∃ serial, r.setSerialPortParams speeds answers sstruct b d s p =
        (false, { r with serial }.withLine header.masks header.b38400 d s p)) := by
  unfold SettingRegisters.setSerialPortParams
  simp only []
  split
  next => exact .inl ⟨r.serial, rfl⟩
  next =>
    by_cases known : speeds.knows (header.translateSpeed b) = true
    · rw [if_pos known]
      split
      next => exact .inr (.inl ⟨known, rfl⟩)
      next => exact .inl ⟨r.serial, rfl⟩
    · rw [if_neg known]
      split
      next => exact .inl ⟨r.serial, rfl⟩
      next stored =>
        split
        next =>
          refine .inr (.inr ⟨Bool.eq_false_iff.mpr known, ?_, _, rfl⟩)
          simp only [not_or, Bool.not_eq_false] at stored
          exact stored.2.2.1
        next => exact .inl ⟨_, rfl⟩

variable {speeds}

theorem SettingsPort.Stands.kept_iff {port : SettingsPort SettingsDevice}
    {registers : SettingsPort SettingRegisters} (stands : port.Stands speeds registers) :
    port.Kept speeds ↔ registers.KeptRegisters speeds := by
  obtain ⟨r, encodes, rfl⟩ := (SettingsPort.stands_iff speeds).mp stands
  have parity := paritySwitch_of_flags header.masks encodes.parity rfl
  constructor
  · intro kept
    refine ⟨encodes.cspeed ▸ kept.speed, encodes.dataBits.symm.trans kept.dataBits,
      encodes.stopBits.symm.trans kept.stopBits, parity.symm.trans kept.parity, ?_⟩
    exact fun half => stopBitsSwitch_whole header.masks _ (encodes.stopBits.trans half)
  · intro kept
    refine ⟨?_, encodes.dataBits.trans kept.dataBits,
      encodes.stopBits.trans kept.stopBits, parity.trans kept.parity⟩
    rw [encodes.cspeed]
    exact kept.speed

theorem SettingsPort.constructed_kept {device opened : SettingsDevice}
    (configured : device.configured speeds = some opened) : (constructed opened).Kept speeds :=
  (constructed_stands speeds configured).kept_iff.mpr
    ⟨speeds.rate_b9600, rfl, rfl, rfl, show stopbits1 ≠ stopbits15 by decide⟩

theorem SettingsPort.KeptRegisters.requestParams_iff {port : SettingsPort SettingRegisters}
    (kept : port.KeptRegisters speeds) (answers : ParamAnswers) (sstruct : SerialStruct)
    (b d s p : Int) :
    (port.requestParams speeds answers sstruct b d s p).2.KeptRegisters speeds ↔
      port.Gets speeds (.setSerialPortParams answers sstruct b d s p) := by
  unfold requestParams Gets
  rcases setSerialPortParams_cases speeds port.device answers sstruct b d s p with
    ⟨serial, failed⟩ | ⟨known, set⟩ | ⟨unknown, standard, serial, set⟩
  · simp only [failed, if_true]
    refine iff_of_true ?_ (fun done => absurd done (by simp))
    exact ⟨kept.speed, kept.dataBits, kept.stopBits, kept.parity, kept.whole⟩
  · simp only [set, Bool.false_eq_true, if_false, forall_true_left]
    constructor
    · intro after
      refine ⟨known, after.speed, ?_, after.parity⟩
      intro half
      exact after.whole (after.stopBits.trans half)
    · intro gets
      rcases gets with ⟨-, speed, whole, parity⟩
      exact ⟨speed, rfl, if_neg whole, parity, by simp [SettingRegisters.withLine, whole]⟩
  · simp only [set, Bool.false_eq_true, if_false, forall_true_left]
    refine iff_of_false ?_ ?_
    · intro after
      have speed : speeds.rate header.b38400 = b := after.speed
      rw [speeds.rate_b38400] at speed
      rw [← speed, show header.translateSpeed 38400 = header.b38400 from rfl, standard] at unknown
      cases unknown
    · intro gets
      rw [gets.1] at unknown
      cases unknown

theorem SettingsPort.KeptRegisters.request_iff (c : SettingsCall)
    (port : SettingsPort SettingRegisters) (kept : port.KeptRegisters speeds) :
    (port.request speeds findClass c).2.KeptRegisters speeds ↔ port.Gets speeds c := by
  cases c with
  | setSerialPortParams answers sstruct b d s p =>
    exact kept.requestParams_iff answers sstruct b d s p
  | setFlowControlMode calls flowcontrol =>
    refine iff_of_true ?_ trivial
    simp only [request, requestFlow]
    split
    next => exact kept
    next =>
      split
      next => exact ⟨kept.speed, kept.dataBits, kept.stopBits, kept.parity, kept.whole⟩
      next =>
        split
        next => exact kept
        next => exact ⟨kept.speed, kept.dataBits, kept.stopBits, kept.parity, kept.whole⟩
  | setEndOfInputChar calls strerror b =>
    refine iff_of_true ?_ trivial
    simp only [request, requestEof]
    split
    next => exact ⟨kept.speed, kept.dataBits, kept.stopBits, kept.parity, kept.whole⟩
    next => exact kept
  | setBaudBase | setDivisor =>
    refine iff_of_true ?_ trivial
    simp only [request, requestSetSerial]
    split
    next => exact kept
    next => exact ⟨kept.speed, kept.dataBits, kept.stopBits, kept.parity, kept.whole⟩
  | _ =>
    exact iff_of_true ⟨kept.speed, kept.dataBits, kept.stopBits, kept.parity, kept.whole⟩ trivial

end

def usedDevice : SettingsDevice :=
  ⟨{ UnixTermios.bare with cflag := 0o2647 }, SerialDevice.uart.serial, 0x6⟩

theorem usedDevice_configured : ∃ opened, usedDevice.configured .glibc = some opened := ⟨_, rfl⟩

def grantedParams : ParamAnswers := ⟨true, true, true, true, true⟩

def paramCalls : List SettingsCall :=
  [.setSerialPortParams grantedParams SerialDevice.uart.serial 9600 8 1 0, .getStopBits,
    .setSerialPortParams grantedParams SerialDevice.uart.serial 38400 7 3 2, .getStopBits]

theorem paramCalls_fit : ∀ c ∈ paramCalls, c.Fits packaged .linux := by
  intro c member
  simp only [paramCalls, List.mem_cons, List.not_mem_nil, or_false] at member
  rcases member with rfl | rfl | rfl | rfl <;> trivial

end Rxtx.RXTXPort
