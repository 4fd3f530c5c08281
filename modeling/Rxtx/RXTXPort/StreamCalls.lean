import Rxtx.Library.Throwing
import Rxtx.RXTXPort.CloseProtocol

open Throwing

namespace Rxtx.RXTXPort

/-- One of the exceptions that are modelled by name, or another `RuntimeException`. -/
inductive Thrown where
  | java (e : JavaException)
  | runtime (className : String)
  deriving DecidableEq, Repr

def Thrown.isIOException : Thrown → Bool
  | .java .io => true
  | .java _ | .runtime _ => false

/-- How the native calls and the listener's callback end. -/
structure Natives where
  writeByte : Int32 → Except Thrown Unit
  writeArray : List UInt8 → Except Thrown Unit
  nativeDrain : Except Thrown Bool
  serialEvent : Except Thrown Port
  readByte : Except Thrown Int32
  readArray : Int32 → Int32 → Except Thrown Int32
  readTerminatedArray : Int32 → Int32 → Except Thrown Int32
  nativeavailable : Except Thrown Int32

abbrev Stream := Program Int Thrown

def Port.abandoned (p : Port) : Bool :=
  p.fd = 0 ∨ p.spEventListener = false ∨ p.monThread.isNone

/-- `serialEvent` gives the port as the listener leaves it. -/
def sendEvent (p : Port) (serialEvent : Except Thrown Port) (event : EventType) : Stream Bool :=
  match p.monThread with
  | none => pure true
  | some thread =>
    if p.fd = 0 ∨ p.spEventListener = false then pure true
    else if thread.enabled event = false then pure false
    else if p.monThreadisInterrupted then pure true
    else do
      let p ← ending serialEvent
      pure p.abandoned

namespace SerialOutputStream

variable (p : Port) (natives : Natives)

def locked (body : Stream Unit) : Stream Unit := do
  count 1
  await p.monitorThreadLock
  rethrowing Thrown.isIOException body (-1)

def writeInt (b : Int32) : Stream Unit :=
  if p.speed = 0 then pure ()
  else if p.monThreadisInterrupted then pure ()
  else do
    count 1
    await p.monitorThreadLock
    if p.fd = 0 then do
      count (-1)
      throw (.java .io)
    else rethrowing Thrown.isIOException (ending (natives.writeByte b)) (-1)

def writeBytes (b : Option JByteArray) : Stream Unit :=
  if p.speed = 0 then pure ()
  else if p.monThreadisInterrupted then pure ()
  else if p.fd = 0 then throw (.java .io)
  else locked p
    (match b with
    | none => throw (.java .nullPointer) -- b.length
    | some b => ending (natives.writeArray b.elements))

def writeSlice (b : Option JByteArray) (off len : Int32) : Stream Unit :=
  if p.speed = 0 then pure ()
  else match b with
    | none => throw (.java .nullPointer)
    | some b =>
      if off + len > b.length then throw (.java .indexOutOfBounds)
      else if len < 0 then throw (.java .negativeArraySize)
      else if off < 0 ∨ (b.elements.length : Int) < off.toInt + len.toInt then
        throw (.java .arrayIndexOutOfBounds) -- System.arraycopy
      else if p.fd = 0 then throw (.java .io)
      else if p.monThreadisInterrupted then pure ()
      else locked p (ending (natives.writeArray
        ((b.elements.drop off.toInt.toNat).take len.toInt.toNat)))

def write : WriteArgs → Stream Unit
  | .int b => writeInt p natives b
  | .bytes b => writeBytes p natives b
  | .slice b off len => writeSlice p natives b off len

def flush : Stream Unit :=
  if p.speed = 0 then pure ()
  else if p.fd = 0 then throw (.java .io)
  else if p.monThreadisInterrupted then pure ()
  else locked p do
    let drained ← ending natives.nativeDrain
    if drained then
      let _ ← sendEvent p natives.serialEvent .outputBufferEmpty

end SerialOutputStream

namespace SerialInputStream

variable (p : Port) (natives : Natives)

def locked (body : Stream Int32) : Stream Int32 := do
  count 1
  await p.monitorThreadLock
  ensuring body (count (-1))

def read : Stream Int32 :=
  if p.fd = 0 then throw (.java .io)
  else locked p (ending natives.readByte)

def minimum (len : Int32) : Stream Int32 :=
  if p.threshold = 0 then do
    let a ← ending natives.nativeavailable
    pure (if a = 0 then 1 else mathMin len a)
  else pure (mathMin len p.threshold)

/-- `read( b, off, len )` and the read up to a terminator, which make different native calls. -/
def readWith (native : Int32 → Int32 → Except Thrown Int32) (b : Option JByteArray)
    (off len : Int32) : Stream Int32 :=
  if p.fd = 0 then throw (.java .io)
  else match b with
    | none => throw (.java .nullPointer)
    | some b =>
      if off < 0 || len < 0 || off + len > b.length then throw (.java .indexOutOfBounds)
      else if len = 0 then pure 0
      else do
        let minimum ← minimum p natives len
        if p.monThreadisInterrupted then pure 0
        else locked p (ending (native off minimum))

def readSlice := readWith p natives natives.readArray
def readTerminated := readWith p natives natives.readTerminatedArray

def readBytes (b : Option JByteArray) : Stream Int32 :=
  if p.monThreadisInterrupted then pure 0
  else locked p
    (match b with
    | none => throw (.java .nullPointer) -- b.length
    | some array => readSlice p natives b 0 array.length)

def available : Stream Int32 :=
  if p.monThreadisInterrupted then pure 0
  else do
    count 1
    ensuring (ending natives.nativeavailable) (count (-1))

end SerialInputStream

structure StreamCall where
  port : Port
  natives : Natives
  method : Method

def StreamCall.program (c : StreamCall) : Stream (Option Int32) :=
  match c.method with
  | .write args => (fun _ => none) <$> SerialOutputStream.write c.port c.natives args
  | .flush => (fun _ => none) <$> SerialOutputStream.flush c.port c.natives
  | .read => some <$> SerialInputStream.read c.port c.natives
  | .readBytes b => some <$> SerialInputStream.readBytes c.port c.natives b
  | .readSlice b off len => some <$> SerialInputStream.readSlice c.port c.natives b off len
  | .readTerminated b off len =>
    some <$> SerialInputStream.readTerminated c.port c.natives b off len
  | .available => some <$> SerialInputStream.available c.port c.natives

def closeWaits (ioLocked : Int) : Bool := 0 < ioLocked

def uncaught {R : Type} : Except Thrown R → Bool
  | .ok _ => false
  | .error e => !e.isIOException

def Port.sends (p : Port) (event : EventType) : Bool :=
  p.fd ≠ 0 && p.spEventListener && !p.monThreadisInterrupted &&
    p.monThread.any fun thread => thread.enabled event

def Natives.drained (natives : Natives) (p : Port) : Except Thrown Unit := do
  if (← natives.nativeDrain) && p.sends .outputBufferEmpty then
    let _ ← natives.serialEvent

/-- A write leaks where its native call, or the listener, throws something other than an
    `IOException`, and where it has no array whose length it could take. -/
def StreamCall.leaks (c : StreamCall) : Bool :=
  let running := c.port.speed ≠ 0 && !c.port.monThreadisInterrupted && c.port.fd ≠ 0
  match c.method with
  | .write (.int b) => running && uncaught (c.natives.writeByte b)
  | .write (.bytes none) => running
  | .write (.bytes (some b)) => running && uncaught (c.natives.writeArray b.elements)
  | .write (.slice none _ _) => false
  | .write (.slice (some b) off len) => writeSliceChecked (some b) off len && running &&
      uncaught (c.natives.writeArray ((b.elements.drop off.toInt.toNat).take len.toInt.toNat))
  | .flush => running && uncaught (c.natives.drained c.port)
  | .read | .readBytes _ | .readSlice _ _ _ | .readTerminated _ _ _ | .available => false

def StreamCall.leak (c : StreamCall) : Int := if c.leaks then 1 else 0

theorem settled_uncaught (result : Except Thrown Unit) :
    1 + settled Thrown.isIOException (-1) result = if uncaught result then 1 else 0 := by
  cases result with
  | ok done => rfl
  | error e =>
    cases known : e.isIOException <;> simp [settled, uncaught, known]

theorem sendEvent_ends (p : Port) (serialEvent : Except Thrown Port) (event : EventType) :
    ∃ result, Ends (sendEvent p serialEvent event) result ∧
      (result.bind fun _ => .ok ()) =
        if p.sends event then serialEvent.bind fun _ => .ok () else .ok () := by
  by_cases sends : p.sends event = true
  · rw [if_pos sends]
    cases monitors : p.monThread with
    | none => simp [Port.sends, monitors] at sends
    | some thread =>
      simp only [Port.sends, monitors, ne_eq, decide_not, Option.any_some, Bool.and_eq_true,
        Bool.not_eq_true', decide_eq_false_iff_not] at sends
      rcases sends with ⟨⟨⟨isOpen, listens⟩, running⟩, enabled⟩
      refine ⟨serialEvent.bind fun p => .ok p.abandoned, ?_, by cases serialEvent <;> rfl⟩
      unfold sendEvent
      simp only [monitors, isOpen, listens, running, enabled, Bool.true_eq_false, or_self,
        Bool.false_eq_true, if_false]
      exact (ends_ending serialEvent).bind fun p => exits_pure p.abandoned
  · rw [if_neg sends]
    have quiet : ∃ answer, sendEvent p serialEvent event = pure answer := by
      unfold sendEvent
      cases monitors : p.monThread with
      | none => exact ⟨true, rfl⟩
      | some thread =>
        simp only []
        split_ifs with gone disabled interrupted
        · exact ⟨true, rfl⟩
        · exact ⟨false, rfl⟩
        · exact ⟨true, rfl⟩
        · rw [not_or] at gone
          simp [Port.sends, monitors, gone.1, gone.2, disabled, interrupted] at sends
    obtain ⟨answer, same⟩ := quiet
    rw [same]
    exact ⟨.ok answer, exits_pure answer, rfl⟩

namespace SerialOutputStream

variable (p : Port) (natives : Natives)

theorem locked_shifts {body : Stream Unit} {result : Except Thrown Unit}
    (ends : Ends body result) : Shifts (locked p body) (if uncaught result then 1 else 0) := by
  rw [← settled_uncaught]
  exact ((ends.rethrowing (-1)).awaited _).counted 1

theorem writeInt_shifts (b : Int32) :
    Shifts (writeInt p natives b) (StreamCall.leak ⟨p, natives, .write (.int b)⟩) := by
  unfold writeInt StreamCall.leak StreamCall.leaks
  by_cases stopped : p.speed = 0
  · simpa [stopped] using shifts_pure ()
  by_cases interrupted : p.monThreadisInterrupted = true
  · simpa [stopped, interrupted] using shifts_pure ()
  by_cases closed : p.fd = 0
  · have left : Shifts (count (-1) >>= fun _ => throw (Thrown.java .io) : Stream Unit) (-1 + 0) :=
      (shifts_throw (Thrown.java .io)).counted (-1)
    simpa [stopped, interrupted, closed] using (left.awaited p.monitorThreadLock).counted 1
  · simpa [stopped, interrupted, closed, locked] using
      locked_shifts p (ends_ending (natives.writeByte b))

theorem writeBytes_shifts (b : Option JByteArray) :
    Shifts (writeBytes p natives b) (StreamCall.leak ⟨p, natives, .write (.bytes b)⟩) := by
  unfold writeBytes StreamCall.leak
  by_cases stopped : p.speed = 0
  · cases b <;> simpa [StreamCall.leaks, stopped] using shifts_pure ()
  by_cases interrupted : p.monThreadisInterrupted = true
  · cases b <;> simpa [StreamCall.leaks, stopped, interrupted] using shifts_pure ()
  by_cases closed : p.fd = 0
  · cases b <;> simpa [StreamCall.leaks, stopped, interrupted, closed] using
      shifts_throw (Thrown.java .io)
  · cases b with
    | none =>
      simpa [StreamCall.leaks, stopped, interrupted, closed, uncaught, Thrown.isIOException] using
        locked_shifts p (exits_throw (Thrown.java .nullPointer))
    | some b =>
      simpa [StreamCall.leaks, stopped, interrupted, closed] using
        locked_shifts p (ends_ending (natives.writeArray b.elements))

theorem writeSlice_shifts (b : Option JByteArray) (off len : Int32) :
    Shifts (writeSlice p natives b off len)
      (StreamCall.leak ⟨p, natives, .write (.slice b off len)⟩) := by
  unfold writeSlice StreamCall.leak
  cases b with
  | none =>
    by_cases stopped : p.speed = 0
    · simpa [StreamCall.leaks, stopped] using shifts_pure ()
    · simpa [StreamCall.leaks, stopped] using shifts_throw (Thrown.java .nullPointer)
  | some b =>
    by_cases stopped : p.speed = 0
    · simpa [StreamCall.leaks, stopped] using shifts_pure ()
    by_cases outside : off + len > b.length
    · simpa [StreamCall.leaks, writeSliceChecked, stopped, outside] using
        shifts_throw (Thrown.java .indexOutOfBounds)
    by_cases negative : len < 0
    · simpa [StreamCall.leaks, writeSliceChecked, stopped, outside, negative] using
        shifts_throw (Thrown.java .negativeArraySize)
    by_cases beyond : off < 0 ∨ (b.elements.length : Int) < off.toInt + len.toInt
    · have refused : writeSliceChecked (some b) off len = false := by
        rcases beyond with before | after
        · simp [writeSliceChecked, before]
        · simp [writeSliceChecked, after]
      simpa [StreamCall.leaks, stopped, outside, negative, beyond, refused] using
        shifts_throw (Thrown.java .arrayIndexOutOfBounds)
    have checked : writeSliceChecked (some b) off len = true := by
      rw [not_or] at beyond
      simp [writeSliceChecked, outside, negative, beyond.1, beyond.2]
    by_cases closed : p.fd = 0
    · simpa [StreamCall.leaks, stopped, outside, negative, beyond, closed] using
        shifts_throw (Thrown.java .io)
    by_cases interrupted : p.monThreadisInterrupted = true
    · simpa [StreamCall.leaks, stopped, outside, negative, beyond, closed, interrupted] using
        shifts_pure ()
    · simpa [StreamCall.leaks, stopped, outside, negative, beyond, closed, interrupted,
        checked] using locked_shifts p (ends_ending (natives.writeArray
          ((b.elements.drop off.toInt.toNat).take len.toInt.toNat)))

theorem drained_ends :
    Ends (do
      let drained ← ending natives.nativeDrain
      if drained then
        let _ ← sendEvent p natives.serialEvent .outputBufferEmpty : Stream Unit)
      (natives.drained p) := by
  obtain ⟨result, sent, ends⟩ := sendEvent_ends p natives.serialEvent .outputBufferEmpty
  have next (drained : Bool) : Ends (if drained then
        sendEvent p natives.serialEvent .outputBufferEmpty >>= fun _ => pure () else pure () :
        Stream Unit)
      (if drained && p.sends .outputBufferEmpty then natives.serialEvent.bind fun _ => .ok ()
        else .ok ()) := by
    cases drained with
    | false => exact exits_pure ()
    | true =>
      rw [if_pos rfl, Bool.true_and, ← ends]
      exact sent.bind fun _ => exits_pure ()
  exact (ends_ending natives.nativeDrain).bind next

theorem flush_shifts : Shifts (flush p natives) (StreamCall.leak ⟨p, natives, .flush⟩) := by
  unfold flush StreamCall.leak StreamCall.leaks
  by_cases stopped : p.speed = 0
  · simpa [stopped] using shifts_pure ()
  by_cases closed : p.fd = 0
  · simpa [stopped, closed] using shifts_throw (Thrown.java .io)
  by_cases interrupted : p.monThreadisInterrupted = true
  · simpa [stopped, closed, interrupted] using shifts_pure ()
  · simpa [stopped, closed, interrupted] using locked_shifts p (drained_ends p natives)

theorem write_shifts (args : WriteArgs) :
    Shifts (write p natives args) (StreamCall.leak ⟨p, natives, .write args⟩) := by
  cases args with
  | int b => exact writeInt_shifts p natives b
  | bytes b => exact writeBytes_shifts p natives b
  | slice b off len => exact writeSlice_shifts p natives b off len

theorem exits_locked {body : Stream Unit} {result : Except Thrown Unit} (ends : Ends body result)
    (n : Int) : (exits (locked p body) n).map Prod.fst =
      if p.monitorThreadLock then none else some result := by
  unfold locked
  rw [exits_bind, exits_count, Option.bind_some]
  cases waits : p.monitorThreadLock with
  | true => rfl
  | false =>
    simp only [await, Bool.false_eq_true, if_false, pure_bind, ends.exits_rethrowing,
      Option.map_some]

/-- The endings are those of the model that follows the bytes. -/
theorem write_ending {native : Except JavaException Unit}
    (writeByte : ∀ b, natives.writeByte b = native.mapError Thrown.java)
    (writeArray : ∀ bytes, natives.writeArray bytes = native.mapError Thrown.java)
    (args : WriteArgs) (n : Int) :
    (exits (write p natives args) n).map Prod.fst =
      (RXTXPort.write p native args).map fun call => call.ending.mapError Thrown.java := by
  have called (bytes : List UInt8) : (exits (locked p (ending (natives.writeArray bytes))) n).map
      Prod.fst = (p.callNative native bytes).map fun call => call.ending.mapError Thrown.java := by
    rw [exits_locked p (ends_ending _), Port.callNative, writeArray]
    split <;> rfl
  cases args with
  | int b =>
    unfold write writeInt RXTXPort.write RXTXPort.writeInt
    simp only []
    split
    · rfl
    · split
      · rfl
      · cases waits : p.monitorThreadLock with
        | true => rfl
        | false =>
          simp only [exits_bind, exits_count, Option.bind_some, await, Bool.false_eq_true,
            if_false, pure_bind]
          by_cases closed : p.fd = 0
          · rw [if_pos closed, if_pos closed]
            rfl
          · rw [if_neg closed, if_neg closed, (ends_ending _).exits_rethrowing, writeByte]
            rfl
  | bytes b =>
    unfold write writeBytes RXTXPort.write RXTXPort.writeBytes
    simp only []
    split
    · rfl
    · split
      · rfl
      · split
        · rfl
        · cases b with
          | none =>
            rw [exits_locked p (exits_throw (Thrown.java .nullPointer))]
            split <;> rfl
          | some b => exact called b.elements
  | slice b off len =>
    unfold write writeSlice RXTXPort.write RXTXPort.writeSlice
    simp only []
    split
    · rfl
    · cases b with
      | none => rfl
      | some b =>
        simp only []
        repeat
          split
          · rfl
        exact called _

end SerialOutputStream

namespace SerialInputStream

variable (p : Port) (natives : Natives)

theorem locked_shifts {body : Stream Int32} (shifts : Shifts body 0) :
    Shifts (locked p body) 0 :=
  ((shifts.ensuring (-1)).awaited p.monitorThreadLock).counted 1

theorem read_shifts : Shifts (read p natives) 0 := by
  unfold read
  split
  · exact shifts_throw _
  · exact locked_shifts p (ends_ending natives.readByte).shifts

theorem minimum_shifts (len : Int32) : Shifts (minimum p natives len) 0 := by
  unfold minimum
  split
  · exact (ends_ending natives.nativeavailable).shifts.then fun a => shifts_pure _
  · exact shifts_pure _

theorem readWith_shifts (native : Int32 → Int32 → Except Thrown Int32) (b : Option JByteArray)
    (off len : Int32) : Shifts (readWith p natives native b off len) 0 := by
  unfold readWith
  split
  · exact shifts_throw _
  · cases b with
    | none => exact shifts_throw _
    | some b =>
      simp only []
      split
      · exact shifts_throw _
      · split
        · exact shifts_pure _
        · apply (minimum_shifts p natives len).then
          intro minimum
          split
          · exact shifts_pure _
          · exact locked_shifts p (ends_ending (native off minimum)).shifts

theorem readBytes_shifts (b : Option JByteArray) : Shifts (readBytes p natives b) 0 := by
  unfold readBytes
  split
  · exact shifts_pure _
  · cases b with
    | none => exact locked_shifts p (shifts_throw _)
    | some array => exact locked_shifts p (readWith_shifts p natives natives.readArray _ _ _)

theorem available_shifts : Shifts (available p natives) 0 := by
  unfold available
  split
  · exact shifts_pure _
  · exact ((ends_ending natives.nativeavailable).shifts.ensuring (-1)).counted 1

end SerialInputStream

theorem program_shifts (c : StreamCall) : Shifts c.program c.leak := by
  rcases c with ⟨p, natives, method⟩
  cases method with
  | write args => exact (SerialOutputStream.write_shifts p natives args).map _
  | flush => exact (SerialOutputStream.flush_shifts p natives).map _
  | read => exact (SerialInputStream.read_shifts p natives).map _
  | readBytes b => exact (SerialInputStream.readBytes_shifts p natives b).map _
  | readSlice b off len =>
    exact (SerialInputStream.readWith_shifts p natives natives.readArray b off len).map _
  | readTerminated b off len =>
    exact (SerialInputStream.readWith_shifts p natives natives.readTerminatedArray b off len).map _
  | available => exact (SerialInputStream.available_shifts p natives).map _

/-- A call that ends leaves `IOLocked` as it was exactly where it does not leak, and after a run of
    calls of one thread `close` finds it at 0 exactly where none of them leaks. -/
theorem ioLocked_balanced_iff (c : StreamCall) (calls : List StreamCall) (ioLocked : Int)
    (result : Except Thrown (Option Int32)) (left found : Int) :
    (exits c.program ioLocked = some (result, left) → (left = ioLocked ↔ c.leaks = false)) ∧
      (inTurn (calls.map StreamCall.program) 0 = some found →
        ((found = 0 ∧ closeWaits found = false) ↔ ∀ c ∈ calls, c.leaks = false)) := by
  have none_iff (c : StreamCall) : c.leak = 0 ↔ c.leaks = false := by
    unfold StreamCall.leak
    cases c.leaks <;> simp
  have nonneg (c : StreamCall) : 0 ≤ c.leak := by
    unfold StreamCall.leak
    cases c.leaks <;> simp
  constructor
  · intro exit
    rw [program_shifts c ioLocked result left exit, add_eq_left]
    exact none_iff c
  · intro ran
    have same := inTurn_same_iff program_shifts nonneg ran
    simp only [none_iff] at same
    rw [← same]
    constructor
    · intro zero
      exact zero.1
    · intro zero
      rw [zero]
      exact ⟨rfl, rfl⟩

def monitoredPort : Port :=
  { Port.declared 3 with
    monThread := some ⟨some 0, fun _ => false⟩
    monThreadisInterrupted := false
    monitorThreadLock := false
    monitorThreadAlive := true }

def Natives.hungUp : Natives where
  writeByte _ := .error (.java .io)
  writeArray _ := .error (.java .io)
  nativeDrain := .error (.java .io)
  serialEvent := .ok monitoredPort
  readByte := .error (.java .io)
  readArray _ _ := .error (.java .io)
  readTerminatedArray _ _ := .error (.java .io)
  nativeavailable := .error (.java .io)

theorem ioLocked_balanced_hungUp :
    (∃ result left, exits (StreamCall.program ⟨monitoredPort, .hungUp, .write (.int 65)⟩) 0 =
        some (result, left) ∧ left = 0) ∧
      ∃ found, inTurn ([⟨monitoredPort, .hungUp, .flush⟩,
        ⟨monitoredPort, .hungUp, .available⟩].map StreamCall.program) 0 = some found ∧
          found = 0 ∧ closeWaits found = false := by
  obtain ⟨result, left, exit⟩ : ∃ result left, exits (StreamCall.program
      ⟨monitoredPort, .hungUp, .write (.int 65)⟩) 0 = some (result, left) := ⟨_, _, rfl⟩
  obtain ⟨found, ran⟩ : ∃ found, inTurn ([⟨monitoredPort, .hungUp, .flush⟩,
      ⟨monitoredPort, .hungUp, .available⟩].map StreamCall.program) 0 = some found := ⟨_, rfl⟩
  obtain ⟨one, run⟩ := ioLocked_balanced_iff ⟨monitoredPort, .hungUp, .write (.int 65)⟩
    [⟨monitoredPort, .hungUp, .flush⟩, ⟨monitoredPort, .hungUp, .available⟩] 0 result left found
  exact ⟨⟨result, left, exit, (one exit).mpr rfl⟩, found, ran, (run ran).mpr (by decide)⟩

/-- `write( (byte[]) null )` throws from inside the `try` and leaves `IOLocked` at 1. -/
theorem ioLocked_not_balanced :
    ¬ ∀ (c : StreamCall) (ioLocked : Int) (result : Except Thrown (Option Int32)) (left : Int),
      exits c.program ioLocked = some (result, left) → left = ioLocked := by
  intro balanced
  have same := balanced ⟨monitoredPort, .hungUp, .write (.bytes none)⟩ 0
    (.error (.java .nullPointer)) 1 rfl
  exact absurd same (by decide)

end Rxtx.RXTXPort
