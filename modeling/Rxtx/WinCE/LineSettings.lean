import Rxtx.Library.Runs
import Rxtx.WinCE.Open
import Rxtx.WinCE.SerialParams

open Runs
open Rxtx.Win32 (CommTimeouts DWord maxDWord rtsControlDisable rtsControlHandshake)

namespace Rxtx.WinCE

def dtrControlDisable : BitVec 2 := 0

def flowcontrolRtsctsIn : BitVec 32 := 1
def flowcontrolRtsctsOut : BitVec 32 := 2
def flowcontrolXonxoffIn : BitVec 32 := 4
def flowcontrolXonxoffOut : BitVec 32 := 8

def jniFalse : BitVec 8 := 0
def jniTrue : BitVec 8 := 1

def jboolean (b : Bool) : BitVec 8 := if b then jniTrue else jniFalse

structure LineDcb extends PortDcb where
  errorChar : BitVec 8
  deriving DecidableEq, Repr

/-- `rts` is the level to which `EscapeCommFunction` has last driven the line, past the DCB. -/
structure SettledPort where
  dcb : LineDcb
  timeouts : CommTimeouts
  rts : Bool
  deriving DecidableEq, Repr

/-- Which calls of the driver succeed: `get` and `set` stand for those of the DCB in its functions,
    and for those of the timeouts in theirs. -/
structure DriverAnswers where
  get : Bool
  set : Bool
  escape : Bool
  errorMsg : String

inductive Returned where
  | void
  | jboolean (value : BitVec 8)
  | jbyte (value : BitVec 8)
  | jint (value : BitVec 32)
  deriving DecidableEq, Repr

structure SettingResult where
  returned : Returned
  pending : Option Pending
  deriving DecidableEq, Repr

inductive DcbUpdate where
  | getFailed
  | setFailed
  | done
  deriving DecidableEq, Repr

def updateDcb (answers : DriverAnswers) (change : LineDcb → LineDcb) (port : SettledPort) :
    DcbUpdate × SettledPort :=
  if !answers.get then (.getFailed, port)
  else if !answers.set then (.setFailed, port)
  else (.done, { port with dcb := change port.dcb })

section

variable (findClass : String → Bool) (answers : DriverAnswers)

def linePortParams (params : SerialParams) (port : SettledPort) : SettingResult × SettledPort :=
  let run := nativeSetSerialPortParams findClass ⟨answers.get, answers.set, answers.errorMsg⟩ params
    port.dcb.toDcb
  (⟨.void, run.1⟩, { port with dcb := { port.dcb with toDcb := run.2 } })

def flowDcb (flowcontrol : Int32) (portDcb : LineDcb) : LineDcb :=
  let flags := flowcontrol.toBitVec
  { portDcb with
    fRtsControl :=
      if flags &&& (flowcontrolRtsctsIn ||| flowcontrolRtsctsOut) ≠ 0 then rtsControlHandshake
      else rtsControlEnable
    fOutxCtsFlow := flags &&& flowcontrolRtsctsOut ≠ 0
    fInX := flags &&& flowcontrolXonxoffIn ≠ 0
    fOutX := flags &&& flowcontrolXonxoffOut ≠ 0 }

def setflowcontrol (flowcontrol : Int32) (port : SettledPort) : SettingResult × SettledPort :=
  let (update, port) := updateDcb answers (flowDcb flowcontrol) port
  let pending := match update with
    | .getFailed => throwJavaExceptionW findClass unsupportedCommOperation
        "setflowcontrol - GetCommState" answers.errorMsg
    | .setFailed => throwJavaExceptionW findClass unsupportedCommOperation
        "setflowcontrol - SetCommState" answers.errorMsg
    | .done => none
  (⟨.void, pending⟩, port)

def setDTR (state : Bool) (port : SettledPort) : SettingResult × SettledPort :=
  let change (portDcb : LineDcb) : LineDcb :=
    { portDcb with fDtrControl := if state then dtrControlHandshake else dtrControlDisable }
  (⟨.void, none⟩, (updateDcb answers change port).2)

def setDSR (state : Bool) (port : SettledPort) : SettingResult × SettledPort :=
  let change (portDcb : LineDcb) : LineDcb := { portDcb with fOutxDsrFlow := state }
  (⟨.void, none⟩, (updateDcb answers change port).2)

/-- "EscapeCommFunction will fail if there's RTS/CTS flowcontrol." -/
def setRTS (state : Bool) (port : SettledPort) : SettingResult × SettledPort :=
  let escapes := answers.escape && port.dcb.fRtsControl ≠ rtsControlHandshake
  (⟨.void, none⟩, if escapes then { port with rts := state } else port)

def parityErrorDcb (b : BitVec 8) (portDcb : LineDcb) : LineDcb :=
  if b ≠ 0 then { portDcb with fErrorChar := true, fParity := true, errorChar := b }
  else { portDcb with fErrorChar := false, fParity := false, errorChar := 0 }

def nativeSetParityErrorChar (b : BitVec 8) (port : SettledPort) : SettingResult × SettledPort :=
  let (update, port) := updateDcb answers (parityErrorDcb b) port
  (⟨.jboolean (jboolean (update = .done)), none⟩, port)

def endOfInputDcb (b : BitVec 8) (portDcb : LineDcb) : LineDcb :=
  if b ≠ 0 then { portDcb with fBinary := false, eofChar := b }
  else { portDcb with fBinary := true, eofChar := 0 }

def nativeSetEndOfInputChar (b : BitVec 8) (port : SettledPort) : SettingResult × SettledPort :=
  let (update, port) := updateDcb answers (endOfInputDcb b) port
  let pending := match update with
    | .setFailed => throwJavaExceptionW findClass unsupportedCommOperation
        "nativeSetEndOfInputChar" answers.errorMsg
    | _ => none
  (⟨.jboolean (jboolean (update = .done)), pending⟩, port)

def isDTR (port : SettledPort) : SettingResult :=
  if !answers.get then ⟨.jboolean jniFalse, none⟩
  else ⟨.jboolean (jboolean (port.dcb.fDtrControl ≠ dtrControlDisable)), none⟩

def isRTS (port : SettledPort) : SettingResult :=
  if !answers.get then ⟨.jboolean jniFalse, none⟩
  else if port.dcb.fRtsControl = rtsControlDisable then ⟨.jboolean jniFalse, none⟩
  else if port.dcb.fRtsControl = rtsControlEnable then ⟨.jboolean jniTrue, none⟩
  -- "Undefined condition: isRTS() but control is RTS_CONTROL_HANDSHAKE."
  else ⟨.jboolean jniFalse, none⟩

def nativeGetParityErrorChar (port : SettledPort) : SettingResult :=
  if !answers.get then ⟨.jbyte (-1), none⟩ else ⟨.jbyte port.dcb.errorChar, none⟩

def nativeGetEndOfInputChar (port : SettledPort) : SettingResult :=
  if !answers.get then ⟨.jbyte (-1), none⟩ else ⟨.jbyte port.dcb.eofChar, none⟩

def thresholdTimeouts (time : Int32) (commTimeouts : CommTimeouts) : CommTimeouts :=
  if time = 0 then
    { commTimeouts with
      readIntervalTimeout := maxDWord
      readTotalTimeoutMultiplier := maxDWord
      readTotalTimeoutConstant := 1 }
  else if time = -1 then
    { commTimeouts with
      readIntervalTimeout := 0
      readTotalTimeoutMultiplier := 0
      readTotalTimeoutConstant := 0 }
  else
    { commTimeouts with
      readIntervalTimeout := 0
      readTotalTimeoutMultiplier := 0
      readTotalTimeoutConstant := time.toBitVec }

/-- Neither the threshold nor the size of the buffer is looked at. -/
def nativeEnableReceiveTimeoutThreshold (time _threshold _inputBuffer : Int32)
    (port : SettledPort) :
    SettingResult × SettledPort :=
  if !answers.get then
    (⟨.void, throwJavaExceptionW findClass ioException
      "NativeEnableReceiveTimeoutThreshold - GetCommTimeouts" answers.errorMsg⟩, port)
  else if !answers.set then
    (⟨.void, throwJavaExceptionW findClass ioException
      "NativeEnableReceiveTimeoutThreshold - SetCommTimeouts" answers.errorMsg⟩, port)
  else (⟨.void, none⟩, { port with timeouts := thresholdTimeouts time port.timeouts })

def nativegetReceiveTimeout (port : SettledPort) : SettingResult :=
  if !answers.get then
    ⟨.jint (-1), throwJavaExceptionW findClass ioException
      "NativegetReceiveTimeout - GetCommTimeouts" answers.errorMsg⟩
  else
    let tenths := port.timeouts.readIntervalTimeout / 100
    ⟨.jint (if tenths.toNat ≤ 255 then tenths else 255), none⟩

def nativeisReceiveTimeoutEnabled (port : SettledPort) : SettingResult :=
  if !answers.get then
    ⟨.jboolean (-1), throwJavaExceptionW findClass ioException
      "NativeisReceiveTimeoutEnabled - GetCommTimeouts" answers.errorMsg⟩
  else
    let timeouts := port.timeouts
    ⟨.jboolean (jboolean (timeouts.readIntervalTimeout ≠ 0 ||
      timeouts.readTotalTimeoutConstant ≠ 0 || timeouts.readTotalTimeoutMultiplier ≠ 0)), none⟩

end

inductive SettingCall where
  | nativeSetSerialPortParams (params : SerialParams)
  | setflowcontrol (flowcontrol : Int32)
  | setDTR (state : Bool)
  | setRTS (state : Bool)
  | setDSR (state : Bool)
  | nativeSetParityErrorChar (b : BitVec 8)
  | nativeSetEndOfInputChar (b : BitVec 8)
  | nativeEnableReceiveTimeoutThreshold (time threshold inputBuffer : Int32)
  | isDTR
  | isRTS
  | nativeGetParityErrorChar
  | nativeGetEndOfInputChar
  | nativegetReceiveTimeout
  | nativeisReceiveTimeoutEnabled
  deriving DecidableEq, Repr

structure SettingRequest where
  call : SettingCall
  answers : DriverAnswers

def SettingRequest.run (findClass : String → Bool) (request : SettingRequest) (port : SettledPort) :
    SettingResult × SettledPort :=
  let answers := request.answers
  match request.call with
  | .nativeSetSerialPortParams params => linePortParams findClass answers params port
  | .setflowcontrol flowcontrol => setflowcontrol findClass answers flowcontrol port
  | .setDTR state => setDTR answers state port
  | .setRTS state => setRTS answers state port
  | .setDSR state => setDSR answers state port
  | .nativeSetParityErrorChar b => nativeSetParityErrorChar answers b port
  | .nativeSetEndOfInputChar b => nativeSetEndOfInputChar findClass answers b port
  | .nativeEnableReceiveTimeoutThreshold time threshold inputBuffer =>
    nativeEnableReceiveTimeoutThreshold findClass answers time threshold inputBuffer port
  | .isDTR => (isDTR answers port, port)
  | .isRTS => (isRTS answers port, port)
  | .nativeGetParityErrorChar => (nativeGetParityErrorChar answers port, port)
  | .nativeGetEndOfInputChar => (nativeGetEndOfInputChar answers port, port)
  | .nativegetReceiveTimeout => (nativegetReceiveTimeout findClass answers port, port)
  | .nativeisReceiveTimeoutEnabled => (nativeisReceiveTimeoutEnabled findClass answers port, port)

inductive ReceiveMode where
  | poll
  | block
  | within (time : { time : DWord // time ≠ 0 })
  deriving DecidableEq

structure Frame where
  baudRate : DWord
  byteSize : BitVec 8
  parity : BitVec 8
  stopBits : BitVec 8
  deriving DecidableEq, Repr

/-- `none` is a register that no call has set since the port was opened. -/
structure Registers where
  frame : Frame
  flow : Option Int32
  dtr : Bool
  rts : Bool
  dsr : Bool
  parityError : Option (BitVec 8)
  endOfInput : Option (BitVec 8)
  receive : ReceiveMode
  deriving DecidableEq

def frameOf (dcb : LineDcb) : Frame := ⟨dcb.baudRate, dcb.byteSize, dcb.parity, dcb.stopBits⟩

def Registers.opened (driver : LineDcb) (rts : Bool) : Registers where
  frame := frameOf driver
  flow := none
  dtr := true
  rts := rts
  dsr := false
  parityError := none
  endOfInput := none
  receive := .within ⟨maxDWord, by decide⟩

theorem toBitVec_ne_zero {time : Int32} (nonzero : time ≠ 0) : time.toBitVec ≠ 0 :=
  fun zero => nonzero (Int32.toBitVec_inj.mp zero)

def receiveMode (time : Int32) : ReceiveMode :=
  if zero : time = 0 then .poll
  else if time = -1 then .block
  else .within ⟨time.toBitVec, toBitVec_ne_zero zero⟩

def handshakes (flow : Int32) : Bool :=
  flow.toBitVec &&& (flowcontrolRtsctsIn ||| flowcontrolRtsctsOut) ≠ 0

/-- The register that the call sets, where the driver takes it; that of `RTS` is not set while the
    flow control has the line. -/
def Registers.set (escape : Bool) (regs : Registers) : SettingCall → Registers
  | .nativeSetSerialPortParams params =>
    { regs with
      frame :=
        { baudRate := params.speed.toBitVec
          byteSize := params.dataBits.toBitVec.setWidth 8
          parity := params.parity.toBitVec.setWidth 8
          stopBits := (stopBitsOf params.stopBits).getD regs.frame.stopBits } }
  | .setflowcontrol flowcontrol => { regs with flow := some flowcontrol }
  | .setDTR state => { regs with dtr := state }
  | .setRTS state => if escape && !regs.flow.any handshakes then { regs with rts := state } else regs
  | .setDSR state => { regs with dsr := state }
  | .nativeSetParityErrorChar b => { regs with parityError := some b }
  | .nativeSetEndOfInputChar b => { regs with endOfInput := some b }
  | .nativeEnableReceiveTimeoutThreshold time _ _ => { regs with receive := receiveMode time }
  | _ => regs

/-- The register that the call reads. Of a receive timeout no time is read back, and of the line
    `RTS` only whether the flow control has it. -/
def Registers.read (driver : LineDcb) (regs : Registers) : SettingCall → Returned
  | .isDTR => .jboolean (jboolean regs.dtr)
  | .isRTS => .jboolean (jboolean (!regs.flow.any handshakes))
  | .nativeGetParityErrorChar => .jbyte (regs.parityError.getD driver.errorChar)
  | .nativeGetEndOfInputChar => .jbyte (regs.endOfInput.getD driver.eofChar)
  | .nativegetReceiveTimeout => .jint (if regs.receive = .poll then 255 else 0)
  | .nativeisReceiveTimeoutEnabled => .jboolean (jboolean (regs.receive ≠ .block))
  | .nativeSetParityErrorChar _ => .jboolean jniTrue
  | .nativeSetEndOfInputChar _ => .jboolean jniTrue
  | _ => .void

def SettingCall.sets : SettingCall → Bool
  | .isDTR => false
  | .isRTS => false
  | .nativeGetParityErrorChar => false
  | .nativeGetEndOfInputChar => false
  | .nativegetReceiveTimeout => false
  | .nativeisReceiveTimeoutEnabled => false
  | .setRTS _ => false
  | _ => true

def SettingCall.gets : SettingCall → Bool
  | .setRTS _ => false
  | _ => true

def SettingCall.failure : SettingCall → Returned
  | .isDTR => .jboolean jniFalse
  | .isRTS => .jboolean jniFalse
  | .nativeSetParityErrorChar _ => .jboolean jniFalse
  | .nativeSetEndOfInputChar _ => .jboolean jniFalse
  | .nativeGetParityErrorChar => .jbyte (-1)
  | .nativeGetEndOfInputChar => .jbyte (-1)
  | .nativegetReceiveTimeout => .jint (-1)
  | .nativeisReceiveTimeoutEnabled => .jboolean (-1)
  | _ => .void

def SettingCall.throws : SettingCall → Option (String × String) × Option (String × String)
  | .nativeSetSerialPortParams _ =>
    (some (unsupportedCommOperation, "nativeSetSerialPortParams - GetCommState"),
      some (unsupportedCommOperation, "nativeSetSerialPortParams - SetCommState"))
  | .setflowcontrol _ =>
    (some (unsupportedCommOperation, "setflowcontrol - GetCommState"),
      some (unsupportedCommOperation, "setflowcontrol - SetCommState"))
  | .nativeSetEndOfInputChar _ => (none, some (unsupportedCommOperation, "nativeSetEndOfInputChar"))
  | .nativeEnableReceiveTimeoutThreshold _ _ _ =>
    (some (ioException, "NativeEnableReceiveTimeoutThreshold - GetCommTimeouts"),
      some (ioException, "NativeEnableReceiveTimeoutThreshold - SetCommTimeouts"))
  | .nativegetReceiveTimeout =>
    (some (ioException, "NativegetReceiveTimeout - GetCommTimeouts"), none)
  | .nativeisReceiveTimeoutEnabled =>
    (some (ioException, "NativeisReceiveTimeoutEnabled - GetCommTimeouts"), none)
  | .setDTR _ | .setDSR _ | .setRTS _ | .nativeSetParityErrorChar _ => (none, none)
  | .isDTR | .isRTS | .nativeGetParityErrorChar | .nativeGetEndOfInputChar => (none, none)

def SettingCall.complains : SettingCall → Option (String × String)
  | .nativeSetSerialPortParams params =>
    if stopBitsOf params.stopBits = none then
      some (unsupportedCommOperation, "nativeSetSerialPortParams")
    else none
  | _ => none

def thrown (findClass : String → Bool) (msg : String) : Option (String × String) → Option Pending
  | none => none
  | some (exc, foo) => throwJavaExceptionW findClass exc foo msg

/-- The registers in the place of the DCB and the timeouts. -/
def Registers.serve (findClass : String → Bool) (driver : LineDcb) (request : SettingRequest)
    (regs : Registers) : SettingResult × Registers :=
  let call := request.call
  if call.gets ∧ !request.answers.get then
    (⟨call.failure, thrown findClass request.answers.errorMsg call.throws.1⟩, regs)
  else if call.sets ∧ !request.answers.set then
    (⟨call.failure, thrown findClass request.answers.errorMsg call.throws.2⟩, regs)
  else
    (⟨regs.read driver call, thrown findClass "Incorrect stopBits" call.complains⟩,
      regs.set request.answers.escape call)

def Registers.dcb (driver : LineDcb) (regs : Registers) : LineDcb :=
  let flag (mask : BitVec 32) (unset : Bool) : Bool :=
    match regs.flow with
    | none => unset
    | some flow => flow.toBitVec &&& mask ≠ 0
  { driver with
    baudRate := regs.frame.baudRate
    byteSize := regs.frame.byteSize
    parity := regs.frame.parity
    stopBits := regs.frame.stopBits
    fRtsControl := if regs.flow.any handshakes then rtsControlHandshake else rtsControlEnable
    fOutxCtsFlow := flag flowcontrolRtsctsOut driver.fOutxCtsFlow
    fInX := flag flowcontrolXonxoffIn driver.fInX
    fOutX := flag flowcontrolXonxoffOut driver.fOutX
    fDtrControl := if regs.dtr then dtrControlHandshake else dtrControlDisable
    fOutxDsrFlow := regs.dsr
    errorChar := regs.parityError.getD driver.errorChar
    fErrorChar := regs.parityError.any (· ≠ 0)
    fParity := regs.parityError.all (· ≠ 0)
    eofChar := regs.endOfInput.getD driver.eofChar
    fBinary := regs.endOfInput.all (· = 0)
    fDsrSensitivity := false
    fTXContinueOnXoff := true
    fNull := false
    fAbortOnError := false }

def ReceiveMode.timeouts : ReceiveMode → CommTimeouts
  | .poll => ⟨maxDWord, maxDWord, 1, 10, 1000⟩
  | .block => ⟨0, 0, 0, 10, 1000⟩
  | .within time => ⟨0, 0, time, 10, 1000⟩

structure Holds (driver : LineDcb) (regs : Registers) (port : SettledPort) : Prop where
  dcb : port.dcb = regs.dcb driver
  timeouts : port.timeouts = regs.receive.timeouts
  rts : port.rts = regs.rts

section

variable {driver : LineDcb} {regs : Registers} {port : SettledPort} (answers : DriverAnswers)

theorem updateDcb_done (got : answers.get = true) (taken : answers.set = true)
    (change : LineDcb → LineDcb) :
    updateDcb answers change port = (.done, { port with dcb := change port.dcb }) := by
  simp [updateDcb, got, taken]

theorem flowDcb_registers (flowcontrol : Int32) :
    flowDcb flowcontrol (regs.dcb driver) =
      Registers.dcb driver { regs with flow := some flowcontrol } := by
  simp [flowDcb, Registers.dcb, handshakes]

theorem parityErrorDcb_registers (b : BitVec 8) :
    parityErrorDcb b (regs.dcb driver) =
      Registers.dcb driver { regs with parityError := some b } := by
  unfold parityErrorDcb
  split_ifs with nonzero
  · simpa [Registers.dcb] using nonzero
  · simp [Registers.dcb, not_not.mp nonzero]

theorem endOfInputDcb_registers (b : BitVec 8) :
    endOfInputDcb b (regs.dcb driver) =
      Registers.dcb driver { regs with endOfInput := some b } := by
  unfold endOfInputDcb
  split_ifs with nonzero
  · simpa [Registers.dcb] using nonzero
  · simp [Registers.dcb, not_not.mp nonzero]

theorem thresholdTimeouts_registers (time : Int32) (mode : ReceiveMode) :
    thresholdTimeouts time mode.timeouts = (receiveMode time).timeouts := by
  unfold thresholdTimeouts receiveMode
  split_ifs <;> cases mode <;> rfl

theorem Holds.updated {change : LineDcb → LineDcb} {after : Registers}
    (holds : Holds driver regs port)
    (changed : change (regs.dcb driver) = after.dcb driver) (receive : after.receive = regs.receive)
    (rts : after.rts = regs.rts) (got : answers.get = true) (taken : answers.set = true) :
    Holds driver after (updateDcb answers change port).2 := by
  rw [updateDcb_done answers got taken]
  refine ⟨?_, ?_, ?_⟩
  · rw [holds.dcb]
    exact changed
  · rw [receive]
    exact holds.timeouts
  · rw [rts]
    exact holds.rts

variable (findClass : String → Bool) (request : SettingRequest)

theorem run_getFailed (gets : request.call.gets = true) (refused : request.answers.get = false) :
    request.run findClass port =
      (⟨request.call.failure,
        thrown findClass request.answers.errorMsg request.call.throws.1⟩, port) := by
  obtain ⟨call, answers⟩ := request
  replace refused : answers.get = false := refused
  cases call with
  | setRTS state => cases gets
  | nativeSetSerialPortParams params =>
    simp [refused, SettingRequest.run, linePortParams, nativeSetSerialPortParams,
      SettingCall.failure, SettingCall.throws, thrown]
  | setflowcontrol flowcontrol =>
    simp [refused, SettingRequest.run, setflowcontrol, updateDcb, SettingCall.failure,
      SettingCall.throws, thrown]
  | nativeSetParityErrorChar b | nativeSetEndOfInputChar b | setDTR state | setDSR state =>
    simp [refused, SettingRequest.run, nativeSetParityErrorChar, nativeSetEndOfInputChar, setDTR,
      setDSR, updateDcb, SettingCall.failure, SettingCall.throws, thrown, jboolean]
  | nativeEnableReceiveTimeoutThreshold time threshold inputBuffer =>
    simp [refused, SettingRequest.run, nativeEnableReceiveTimeoutThreshold, SettingCall.failure,
      SettingCall.throws, thrown]
  | isDTR | isRTS | nativeGetParityErrorChar | nativeGetEndOfInputChar =>
    simp [refused, SettingRequest.run, isDTR, isRTS, nativeGetParityErrorChar,
      nativeGetEndOfInputChar, SettingCall.failure, SettingCall.throws, thrown]
  | nativegetReceiveTimeout | nativeisReceiveTimeoutEnabled =>
    simp [refused, SettingRequest.run, nativegetReceiveTimeout, nativeisReceiveTimeoutEnabled,
      SettingCall.failure, SettingCall.throws, thrown]

theorem gets_of_sets {call : SettingCall} (sets : call.sets = true) : call.gets = true := by
  cases call with
  | setRTS state => cases sets
  | _ => rfl

theorem run_setFailed (sets : request.call.sets = true) (got : request.answers.get = true)
    (refused : request.answers.set = false) :
    request.run findClass port =
      (⟨request.call.failure,
        thrown findClass request.answers.errorMsg request.call.throws.2⟩, port) := by
  obtain ⟨call, answers⟩ := request
  replace got : answers.get = true := got
  replace refused : answers.set = false := refused
  cases call with
  | setRTS | isDTR | isRTS | nativeGetParityErrorChar | nativeGetEndOfInputChar
    | nativegetReceiveTimeout | nativeisReceiveTimeoutEnabled => cases sets
  | nativeSetSerialPortParams params =>
    simp [got, refused, SettingRequest.run, linePortParams, nativeSetSerialPortParams,
      SettingCall.failure, SettingCall.throws, thrown]
  | setflowcontrol flowcontrol =>
    simp [got, refused, SettingRequest.run, setflowcontrol, updateDcb, SettingCall.failure,
      SettingCall.throws, thrown]
  | nativeSetParityErrorChar b | nativeSetEndOfInputChar b | setDTR state | setDSR state =>
    simp [got, refused, SettingRequest.run, nativeSetParityErrorChar, nativeSetEndOfInputChar,
      setDTR, setDSR, updateDcb, SettingCall.failure, SettingCall.throws, thrown, jboolean]
  | nativeEnableReceiveTimeoutThreshold time threshold inputBuffer =>
    simp [got, refused, SettingRequest.run, nativeEnableReceiveTimeoutThreshold,
      SettingCall.failure, SettingCall.throws, thrown]

theorem params_done (params : SerialParams) (holds : Holds driver regs port)
    (got : answers.get = true) (taken : answers.set = true) :
    (linePortParams findClass answers params port).1 =
        ⟨.void, thrown findClass "Incorrect stopBits"
          (SettingCall.complains (.nativeSetSerialPortParams params))⟩ ∧
      Holds driver (regs.set answers.escape (.nativeSetSerialPortParams params))
        (linePortParams findClass answers params port).2 := by
  have dcb := holds.dcb
  cases bits : stopBitsOf params.stopBits with
  | none =>
    constructor
    · simp [linePortParams, nativeSetSerialPortParams, got, taken, bits, SettingCall.complains,
        thrown]
    · refine ⟨?_, holds.timeouts, holds.rts⟩
      simp only [linePortParams, nativeSetSerialPortParams, got, taken, bits, dcb, Registers.set]
      rfl
  | some stopBits =>
    constructor
    · simp [linePortParams, nativeSetSerialPortParams, got, taken, bits, SettingCall.complains,
        thrown]
    · refine ⟨?_, holds.timeouts, holds.rts⟩
      simp only [linePortParams, nativeSetSerialPortParams, got, taken, bits, dcb, Registers.set]
      rfl

theorem fRtsControl_of_holds (holds : Holds driver regs port) : port.dcb.fRtsControl =
    if regs.flow.any handshakes then rtsControlHandshake else rtsControlEnable := by
  rw [holds.dcb]
  rfl

theorem setRTS_done (state : Bool) (holds : Holds driver regs port) :
    Holds driver (regs.set answers.escape (.setRTS state)) (setRTS answers state port).2 := by
  have escapes : (answers.escape && port.dcb.fRtsControl ≠ rtsControlHandshake) =
      (answers.escape && !regs.flow.any handshakes) := by
    rw [fRtsControl_of_holds holds]
    cases regs.flow.any handshakes <;> rfl
  unfold setRTS Registers.set
  simp only [escapes]
  split_ifs
  · exact ⟨holds.dcb, holds.timeouts, rfl⟩
  · exact holds

theorem isRTS_done (holds : Holds driver regs port) (got : answers.get = true) :
    isRTS answers port = ⟨.jboolean (jboolean (!regs.flow.any handshakes)), none⟩ := by
  unfold isRTS
  rw [fRtsControl_of_holds holds, got]
  cases regs.flow.any handshakes <;> rfl

theorem isDTR_done (holds : Holds driver regs port) (got : answers.get = true) :
    isDTR answers port = ⟨.jboolean (jboolean regs.dtr), none⟩ := by
  have control : port.dcb.fDtrControl =
      if regs.dtr then dtrControlHandshake else dtrControlDisable := by
    rw [holds.dcb]
    rfl
  unfold isDTR
  rw [control, got]
  cases regs.dtr <;> rfl

theorem nativegetReceiveTimeout_done (holds : Holds driver regs port) (got : answers.get = true) :
    nativegetReceiveTimeout findClass answers port =
      ⟨.jint (if regs.receive = .poll then 255 else 0), none⟩ := by
  unfold nativegetReceiveTimeout
  rw [holds.timeouts, got]
  cases regs.receive with
  | poll => rfl
  | block => rfl
  | within time => simp [ReceiveMode.timeouts]

theorem nativeisReceiveTimeoutEnabled_done (holds : Holds driver regs port)
    (got : answers.get = true) :
    nativeisReceiveTimeoutEnabled findClass answers port =
      ⟨.jboolean (jboolean (regs.receive ≠ .block)), none⟩ := by
  unfold nativeisReceiveTimeoutEnabled
  rw [holds.timeouts, got]
  cases regs.receive with
  | poll => rfl
  | block => rfl
  | within time =>
    have nonzero : ¬ time.val = 0#32 := time.property
    simp [ReceiveMode.timeouts, nonzero]

theorem run_done (holds : Holds driver regs port)
    (got : request.call.gets = true → request.answers.get = true)
    (taken : request.call.sets = true → request.answers.set = true) :
    (request.run findClass port).1 =
        ⟨regs.read driver request.call,
          thrown findClass "Incorrect stopBits" request.call.complains⟩ ∧
      Holds driver (regs.set request.answers.escape request.call) (request.run findClass port).2 := by
  obtain ⟨call, answers⟩ := request
  cases call with
  | nativeSetSerialPortParams params =>
    exact params_done answers findClass params holds (got rfl) (taken rfl)
  | setflowcontrol flowcontrol =>
    refine ⟨?_, holds.updated answers (flowDcb_registers flowcontrol) rfl rfl (got rfl) (taken rfl)⟩
    simp only [SettingRequest.run, setflowcontrol, updateDcb_done answers (got rfl) (taken rfl)]
    rfl
  | setDTR state => exact ⟨rfl, holds.updated answers rfl rfl rfl (got rfl) (taken rfl)⟩
  | setDSR state => exact ⟨rfl, holds.updated answers rfl rfl rfl (got rfl) (taken rfl)⟩
  | setRTS state => exact ⟨rfl, setRTS_done answers state holds⟩
  | nativeSetParityErrorChar b =>
    refine ⟨?_, holds.updated answers (parityErrorDcb_registers b) rfl rfl (got rfl) (taken rfl)⟩
    simp only [SettingRequest.run, nativeSetParityErrorChar,
      updateDcb_done answers (got rfl) (taken rfl)]
    rfl
  | nativeSetEndOfInputChar b =>
    refine ⟨?_, holds.updated answers (endOfInputDcb_registers b) rfl rfl (got rfl) (taken rfl)⟩
    simp only [SettingRequest.run, nativeSetEndOfInputChar,
      updateDcb_done answers (got rfl) (taken rfl)]
    rfl
  | nativeEnableReceiveTimeoutThreshold time threshold inputBuffer =>
    have mode := thresholdTimeouts_registers time regs.receive
    rw [← holds.timeouts] at mode
    replace got : answers.get = true := got rfl
    have taken : answers.set = true := taken rfl
    have accepted : nativeEnableReceiveTimeoutThreshold findClass answers time threshold inputBuffer
        port = (⟨.void, none⟩, { port with timeouts := thresholdTimeouts time port.timeouts }) := by
      simp [nativeEnableReceiveTimeoutThreshold, got, taken]
    simp only [SettingRequest.run, accepted]
    exact ⟨rfl, holds.dcb, mode, holds.rts⟩
  | isDTR => exact ⟨isDTR_done answers holds (got rfl), holds⟩
  | isRTS => exact ⟨isRTS_done answers holds (got rfl), holds⟩
  | nativeGetParityErrorChar =>
    replace got : answers.get = true := got rfl
    refine ⟨?_, holds⟩
    simp only [SettingRequest.run, nativeGetParityErrorChar, got, holds.dcb]
    rfl
  | nativeGetEndOfInputChar =>
    replace got : answers.get = true := got rfl
    refine ⟨?_, holds⟩
    simp only [SettingRequest.run, nativeGetEndOfInputChar, got, holds.dcb]
    rfl
  | nativegetReceiveTimeout =>
    exact ⟨nativegetReceiveTimeout_done answers findClass holds (got rfl), holds⟩
  | nativeisReceiveTimeoutEnabled =>
    exact ⟨nativeisReceiveTimeoutEnabled_done answers findClass holds (got rfl), holds⟩

theorem Holds.serve (holds : Holds driver regs port) :
    (request.run findClass port).1 = (regs.serve findClass driver request).1 ∧
      Holds driver (regs.serve findClass driver request).2 (request.run findClass port).2 := by
  unfold Registers.serve
  simp only []
  split_ifs with get set
  · rw [run_getFailed findClass request get.1 (by simpa using get.2)]
    exact ⟨rfl, holds⟩
  · have got : request.answers.get = true := by simpa [gets_of_sets set.1] using get
    rw [run_setFailed findClass request set.1 got (by simpa using set.2)]
    exact ⟨rfl, holds⟩
  · apply run_done findClass request holds
    · intro gets
      simpa [gets] using get
    · intro sets
      simpa [sets] using set

end

variable (findClass : String → Bool)

def JustOpened (port : SettledPort) : Prop :=
  ∃ (answers : OpenAnswers) (name : String) (s : System),
    (rxtxPortOpen findClass answers name s).result ≠ invalidHandleValue ∧
      (rxtxPortOpen findClass answers name s).system.comm
        (rxtxPortOpen findClass answers name s).result = ⟨port.dcb.toPortDcb, port.timeouts⟩

theorem initialiseEventInfoStruct_comm (s : System) (answers : OpenAnswers) (hPort : Handle) :
    (s.initialiseEventInfoStruct answers hPort).2.2.comm = s.comm := by
  unfold System.initialiseEventInfoStruct System.createEventW System.free
  cases answers.malloc with
  | none => rfl
  | some block => cases answers.createEvent <;> simp only [] <;> split_ifs <;> rfl

theorem open_comm {answers : OpenAnswers} {name : String} {s : System}
    (opened : (rxtxPortOpen findClass answers name s).result ≠ invalidHandleValue) :
    ∃ dcb timeouts, (rxtxPortOpen findClass answers name s).system.comm
      (rxtxPortOpen findClass answers name s).result = ⟨openDcb dcb, openTimeouts timeouts⟩ := by
  unfold rxtxPortOpen at opened ⊢
  simp only [] at opened ⊢
  split_ifs at opened ⊢ with refused state timeouts error field
  all_goals first | exact absurd rfl opened | skip
  simp only [initialiseEventInfoStruct_comm, System.setComm, Function.update_self]
  exact ⟨_, _, rfl⟩

theorem JustOpened.holds {port : SettledPort} (opened : JustOpened findClass port) :
    Holds port.dcb (Registers.opened port.dcb port.rts) port := by
  obtain ⟨answers, name, s, succeeds, left⟩ := opened
  obtain ⟨dcb, timeouts, comm⟩ := open_comm findClass succeeds
  rw [comm] at left
  rcases port with ⟨⟨portDcb, errorChar⟩, portTimeouts, rts⟩
  injection left with sameDcb sameTimeouts
  subst sameDcb sameTimeouts
  exact ⟨rfl, rfl, rfl⟩

/-- Over any calls on an opened port, whichever of them the driver refuses, each call returns and
    throws what it does on the registers, and the DCB, the timeouts and the level of `RTS` are
    theirs. -/
theorem settings_are_registers {port : SettledPort} (opened : JustOpened findClass port)
    (requests : List SettingRequest) :
    (specified (SettingRequest.run findClass) requests port).1 =
        (specified (Registers.serve findClass port.dcb) requests
          (.opened port.dcb port.rts)).1 ∧
      Holds port.dcb
        (specified (Registers.serve findClass port.dcb) requests (.opened port.dcb port.rts)).2
        (specified (SettingRequest.run findClass) requests port).2 :=
  specified_related (R := fun port' regs => Holds port.dcb regs port')
    (fun request _ _ holds => holds.serve findClass request) requests (opened.holds findClass)

def freshPort : SettledPort :=
  { dcb := { toPortDcb := openDcb default, errorChar := 0 }
    timeouts := openTimeouts default
    rts := true }

theorem freshPort_opened : JustOpened (fun _ => true) freshPort :=
  ⟨{ noIntField with fieldId := true }, "COM1:", ⟨[], [], [], fun _ => default⟩, by decide, rfl⟩

/-- RTS that was cleared reads back as set, and a timeout of 2000 ms as 0. -/
theorem settings_are_registers_fresh :
    (specified (SettingRequest.run fun _ => true)
        [⟨.setRTS false, ⟨true, true, true, ""⟩⟩, ⟨.isRTS, ⟨true, true, true, ""⟩⟩,
          ⟨.nativeEnableReceiveTimeoutThreshold 2000 0 0, ⟨true, true, true, ""⟩⟩,
          ⟨.nativegetReceiveTimeout, ⟨true, true, true, ""⟩⟩] freshPort).1.map SettingResult.returned =
      [.void, .jboolean jniTrue, .void, .jint 0] := by
  rw [(settings_are_registers (fun _ => true) freshPort_opened _).1]
  decide

end Rxtx.WinCE
