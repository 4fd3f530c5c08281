import Mathlib.Algebra.BigOperators.Group.Finset.Basic
import Mathlib.Algebra.Order.BigOperators.Group.Finset
import Rxtx.Library.Runs
import Rxtx.RXTXPort.OutputStream

open Runs

namespace Rxtx.RXTXPort

inductive Guard where
  | fdZero | interrupted | speedZero | thresholdZero
  deriving DecidableEq, Repr

inductive NativeCall where
  | readByte | readArray | readTerminatedArray | writeByte | writeArray | nativeDrain
  | nativeavailable
  deriving DecidableEq, Repr

/-- What a thread in a stream method has still to do. `lock` and `unlock` count `IOLocked` up and
    down, `await` is `waitForTheNativeCodeSilly`, and `calling` is a native call under way, with
    what follows when it returns and when it throws. -/
inductive Code where
  | done
  | test (guard : Guard) (holds otherwise : Code)
  | lock (next : Code)
  | unlock (next : Code)
  | await (next : Code)
  | native (call : NativeCall) (returns throws : Code)
  | calling (call : NativeCall) (returns throws : Code)
  deriving DecidableEq, Repr

def lockedCall (call : NativeCall) (next : Code) : Code :=
  .lock (.await (.native call (.unlock next) (.unlock next)))

/-- `read()` only reports that the monitor thread is interrupted. -/
def readCode : Code := .test .fdZero .done (lockedCall .readByte .done)

def sliceChecked (b : Option JByteArray) (off len : Int32) : Bool :=
  match b with
  | none => false
  | some b => ! (off < 0 || len < 0 || off + len > b.length) && len ≠ 0

def readSliceCode (call : NativeCall) (b : Option JByteArray) (off len : Int32) (next : Code) :
    Code :=
  let rest := .test .interrupted next (lockedCall call next)
  .test .fdZero next
    (if sliceChecked b off len then
      .test .thresholdZero (.native .nativeavailable rest next) rest
    else next)

/-- `read( b )` holds `IOLocked` around the whole of `read( b, 0, b.length )`. -/
def readBytesCode (b : Option JByteArray) : Code :=
  .test .interrupted .done (.lock (.await
    (match b with
    | none => .unlock .done
    | some array => readSliceCode .readArray b 0 array.length (.unlock .done))))

def availableCode : Code :=
  .test .interrupted .done
    (.lock (.native .nativeavailable (.unlock .done) (.unlock .done)))

def writeIntCode : Code :=
  .test .speedZero .done (.test .interrupted .done (.lock (.await
    (.test .fdZero (.unlock .done)
      (.native .writeByte (.unlock .done) (.unlock .done))))))

/-- Without an array `b.length` throws past the `catch`, and `IOLocked` stays counted up. -/
def writeBytesCode (b : Option JByteArray) : Code :=
  .test .speedZero .done (.test .interrupted .done (.test .fdZero .done
    (match b with
    | none => .lock (.await .done)
    | some _ => lockedCall .writeArray .done)))

def writeSliceChecked (b : Option JByteArray) (off len : Int32) : Bool :=
  match b with
  | none => false
  | some b => ! (off + len > b.length || len < 0 || off < 0 ||
      (b.elements.length : Int) < off.toInt + len.toInt)

def writeSliceCode (b : Option JByteArray) (off len : Int32) : Code :=
  .test .speedZero .done
    (if writeSliceChecked b off len then
      .test .fdZero .done (.test .interrupted .done (lockedCall .writeArray .done))
    else .done)

def flushCode : Code :=
  .test .speedZero .done (.test .fdZero .done (.test .interrupted .done
    (lockedCall .nativeDrain .done)))

inductive Method where
  | read
  | readBytes (b : Option JByteArray)
  | readSlice (b : Option JByteArray) (off len : Int32)
  | readTerminated (b : Option JByteArray) (off len : Int32)
  | available
  | write (args : WriteArgs)
  | flush

/-- The methods of the input stream are synchronized. -/
def Method.synchronized : Method → Bool
  | .read | .readBytes _ | .readSlice _ _ _ | .readTerminated _ _ _ | .available => true
  | .write _ | .flush => false

def Method.code : Method → Code
  | .read => readCode
  | .readBytes b => readBytesCode b
  | .readSlice b off len => readSliceCode .readArray b off len .done
  | .readTerminated b off len => readSliceCode .readTerminatedArray b off len .done
  | .available => availableCode
  | .write (.int _) => writeIntCode
  | .write (.bytes b) => writeBytesCode b
  | .write (.slice b off len) => writeSliceCode b off len
  | .flush => flushCode

/-- The next statement of a thread in `close`: `test` is that of `IOLocked`, and the thread holds
    the monitor of the port from there to `takeLock`, except in `waiting`. -/
inductive Stage where
  | enter | test | wait | waiting | checkLock | takeLock | checkFd | setDTR | setDSR
  | checkInterrupted | removeEventListener | nativeClose | superClose | resetFd | resetLock
  deriving DecidableEq, Repr

inductive Pc where
  | idle
  | io (synchronized : Bool) (code : Code)
  | close (stage : Stage)
  deriving DecidableEq, Repr

structure Shared (T : Type) where
  fd : Int32
  speed : Int32
  threshold : Int32
  ioLocked : Int
  closeLock : Bool
  monThreadisInterrupted : Bool
  monitorThreadLock : Bool
  monitor : Option T
  stream : Option T
  closes : Nat
  pc : T → Pc

inductive CloseLabel (T : Type) where
  | call (thread : T) (method : Method)
  | run (thread : T) (throws : Bool)
  | close (thread : T)
  | finalize (thread : T)
  | advance (thread : T) (interrupt : Bool)

variable {T : Type} [DecidableEq T]

def Shared.goto (s : Shared T) (thread : T) (pc : Pc) : Shared T :=
  { s with pc := Function.update s.pc thread pc }

def Guard.holds (guard : Guard) (s : Shared T) : Bool :=
  match guard with
  | .fdZero => s.fd = 0
  | .interrupted => s.monThreadisInterrupted
  | .speedZero => s.speed = 0
  | .thresholdZero => s.threshold = 0

def runCode (s : Shared T) (thread : T) (throws synchronized : Bool) (code : Code) :
    Option (Shared T) :=
  let go (code : Code) := s.goto thread (.io synchronized code)
  match code with
  | .done =>
    some { s.goto thread .idle with stream := if synchronized then none else s.stream }
  | .test guard holds otherwise => some (go (if guard.holds s then holds else otherwise))
  | .lock next => some { go next with ioLocked := s.ioLocked + 1 }
  | .unlock next => some { go next with ioLocked := s.ioLocked - 1 }
  | .await next => if s.monitorThreadLock then none else some (go next)
  | .native call returns throws => some (go (.calling call returns throws))
  | .calling _ returns fails => some (go (if throws then fails else returns))

def runClose (s : Shared T) (thread : T) (interrupt : Bool) (stage : Stage) : Option (Shared T) :=
  let go (stage : Stage) := s.goto thread (.close stage)
  match stage with
  | .enter => if s.monitor = none then some { go .test with monitor := some thread } else none
  | .test => some (go (if 0 < s.ioLocked then .wait else .checkLock))
  | .wait => some { go .waiting with monitor := none }
  | .waiting =>
    if s.monitor = none then
      if interrupt then some (s.goto thread .idle)
      else some { go .test with monitor := some thread }
    else none
  | .checkLock =>
    if s.closeLock then some { s.goto thread .idle with monitor := none }
    else some (go .takeLock)
  | .takeLock => some { go .checkFd with closeLock := true, monitor := none }
  | .checkFd => some (if s.fd ≤ 0 then s.goto thread .idle else go .setDTR)
  | .setDTR => some (go .setDSR)
  | .setDSR => some (go .checkInterrupted)
  | .checkInterrupted =>
    some (go (if s.monThreadisInterrupted then .nativeClose else .removeEventListener))
  | .removeEventListener =>
    if s.monitorThreadLock then none
    else some { go .nativeClose with monThreadisInterrupted := true }
  | .nativeClose => some { go .superClose with closes := s.closes + 1 }
  | .superClose => some (go .resetFd)
  | .resetFd => some { go .resetLock with fd := 0 }
  | .resetLock => some { s.goto thread .idle with closeLock := false }

def startCall (s : Shared T) (thread : T) (method : Method) : Option (Shared T) :=
  if method.synchronized then
    if s.stream = none then
      some { s.goto thread (.io true method.code) with stream := some thread }
    else none
  else some (s.goto thread (.io false method.code))

def closeStep (label : CloseLabel T) (s : Shared T) : Option (Shared T) :=
  match label with
  | .call thread method => if s.pc thread = .idle then startCall s thread method else none
  | .run thread throws =>
    match s.pc thread with
    | .io synchronized code => runCode s thread throws synchronized code
    | _ => none
  | .close thread => if s.pc thread = .idle then some (s.goto thread (.close .enter)) else none
  | .finalize thread =>
    if s.pc thread = .idle then
      if 0 < s.fd then some (s.goto thread (.close .enter)) else some s
    else none
  | .advance thread interrupt =>
    match s.pc thread with
    | .close stage => runClose s thread interrupt stage
    | _ => none

structure Shared.Opened (s : Shared T) : Prop where
  ioLocked : s.ioLocked = 0
  closeLock : s.closeLock = false
  monitor : s.monitor = none
  closes : s.closes = 0
  idle : ∀ thread, s.pc thread = .idle

inductive CodeStep (s : Shared T) : Code → Code → Int → Prop
  | test (guard : Guard) (holds otherwise : Code) :
      CodeStep s (.test guard holds otherwise) (if guard.holds s then holds else otherwise) 0
  | lock (next : Code) : CodeStep s (.lock next) next 1
  | unlock (next : Code) : CodeStep s (.unlock next) next (-1)
  | await (next : Code) : CodeStep s (.await next) next 0
  | native (call : NativeCall) (returns throws : Code) :
      CodeStep s (.native call returns throws) (.calling call returns throws) 0
  | returns (call : NativeCall) (returns throws : Code) :
      CodeStep s (.calling call returns throws) returns 0
  | throws (call : NativeCall) (returns throws : Code) :
      CodeStep s (.calling call returns throws) throws 0

inductive CloseMoves (s s' : Shared T) : CloseLabel T → Prop
  | call (thread : T) (method : Method) (idle : s.pc thread = .idle) (stream : Option T)
      (same : s' = { s.goto thread (.io method.synchronized method.code) with stream := stream }) :
      CloseMoves s s' (.call thread method)
  | returned (thread : T) (throws synchronized : Bool) (stream : Option T)
      (running : s.pc thread = .io synchronized .done)
      (same : s' = { s.goto thread .idle with stream := stream }) :
      CloseMoves s s' (.run thread throws)
  | ran (thread : T) (throws synchronized : Bool) (code next : Code) (count : Int)
      (running : s.pc thread = .io synchronized code) (step : CodeStep s code next count)
      (same : s' = { s.goto thread (.io synchronized next) with
        ioLocked := s.ioLocked + count }) :
      CloseMoves s s' (.run thread throws)
  | started (label : CloseLabel T) (thread : T) (idle : s.pc thread = .idle)
      (same : s' = s.goto thread (.close .enter)) : CloseMoves s s' label
  | stayed (thread : T) (same : s' = s) : CloseMoves s s' (.finalize thread)
  | advanced (thread : T) (interrupt : Bool) (stage : Stage) (closing : s.pc thread = .close stage)
      (taken : runClose s thread interrupt stage = some s') :
      CloseMoves s s' (.advance thread interrupt)

theorem runCode_moves {s s' : Shared T} {thread : T} {throws synchronized : Bool} {code : Code}
    (running : s.pc thread = .io synchronized code)
    (taken : runCode s thread throws synchronized code = some s') :
    CloseMoves s s' (.run thread throws) := by
  cases code with
  | done =>
    cases taken
    exact .returned thread throws synchronized _ running rfl
  | test guard holds otherwise =>
    cases taken
    exact .ran thread throws synchronized _ _ 0 running (.test guard holds otherwise)
      (by simp [Shared.goto])
  | lock next =>
    cases taken
    exact .ran thread throws synchronized _ _ 1 running (.lock next) rfl
  | unlock next =>
    cases taken
    exact .ran thread throws synchronized _ _ (-1) running (.unlock next) rfl
  | await next =>
    simp only [runCode] at taken
    split_ifs at taken
    cases taken
    exact .ran thread throws synchronized _ _ 0 running (.await next) (by simp [Shared.goto])
  | native call returns fails =>
    cases taken
    exact .ran thread throws synchronized _ _ 0 running (.native call returns fails)
      (by simp [Shared.goto])
  | calling call returns fails =>
    simp only [runCode, Option.some.injEq] at taken
    subst taken
    cases throws
    · exact .ran thread false synchronized _ _ 0 running (.returns call returns fails)
        (by simp [Shared.goto])
    · exact .ran thread true synchronized _ _ 0 running (.throws call returns fails)
        (by simp [Shared.goto])

theorem closeStep_moves {label : CloseLabel T} {s s' : Shared T}
    (taken : closeStep label s = some s') : CloseMoves s s' label := by
  cases label with
  | call thread method =>
    simp only [closeStep, startCall] at taken
    split_ifs at taken with idle synchronized free <;> cases taken
    · exact .call thread method idle _ (by rw [synchronized])
    · have unsynchronized : method.synchronized = false := by simpa using synchronized
      exact .call thread method idle s.stream (by rw [unsynchronized]; rfl)
  | run thread throws =>
    simp only [closeStep] at taken
    split at taken
    next synchronized code running => exact runCode_moves running taken
    · cases taken
  | close thread =>
    simp only [closeStep] at taken
    split_ifs at taken with idle
    cases taken
    exact .started _ thread idle rfl
  | finalize thread =>
    simp only [closeStep] at taken
    split_ifs at taken with idle isOpen <;> cases taken
    · exact .started _ thread idle rfl
    · exact .stayed thread rfl
  | advance thread interrupt =>
    simp only [closeStep] at taken
    split at taken
    next stage closing => exact .advanced thread interrupt stage closing taken
    · cases taken

end Rxtx.RXTXPort
