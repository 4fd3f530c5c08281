import Rxtx.Library.InTurn
import Rxtx.RXTXPort.ReadDelivers

open InTurn Rxtx.SerialImp

namespace Rxtx.RXTXPort

/-- A round of `read_byte_array`. Its `read` fails, or gives at most so many of the bytes that come
    next on the line. -/
structure LineRound where
  now : Int
  select : Int
  read : Option Nat

def offeredBefore (rounds : Nat → LineRound) : Nat → Nat
  | 0 => 0
  | round + 1 =>
    offeredBefore rounds round +
      if 0 < (rounds round).select then (rounds round).read.getD 0 else 0

def lineTurns (rounds : Nat → LineRound) (line : List UInt8) (round : Nat) : ReadTurn where
  now := (rounds round).now
  select := (rounds round).select
  read :=
    match (rounds round).read with
    | none => .fails
    | some most => .gives ((line.drop (offeredBefore rounds round)).take most)

inductive InputMethod where
  /-- `stack` is what the buffer of the native call holds before. -/
  | read (stack : UInt8)
  | readBytes (b : Option JByteArray)
  | readSlice (b : Option JByteArray) (off len : Int32)

structure InputCall where
  fields : ReadFields
  monitored : Monitored
  nativeavailable : Except JavaException Int32
  dataAvailable : Int
  start : Int
  rounds : Nat → LineRound
  method : InputMethod

inductive InputEnd where
  | ends (ending : Except JavaException Int)
  | faults (fault : ReadFault)
  | storesOutside
  deriving DecidableEq

structure InputRun where
  stores : List Store
  ending : InputEnd

def InputCall.device (call : InputCall) (line : List UInt8) : ReadDevice :=
  ⟨call.nativeavailable, call.dataAvailable, call.start, lineTurns call.rounds line⟩

def readWhole (p : ReadFields) (device : ReadDevice) (b : Option JByteArray) : ReadCall :=
  if p.monThreadisInterrupted then .ends (.ok 0)
  else
    match b with
    | none => .ends (.error .nullPointer)
    | some b => read p device (some b) 0 b.length

/-- The native call of `SerialInputStream.read()`, into a buffer of its own. -/
def singleCall (p : ReadFields) (device : ReadDevice) (stack : UInt8) : ReadCall where
  readArray := if p.fd = 0 then none else some (0, 1)
  stores :=
    if p.fd = 0 then []
    else (readByteArray ⟨0, 1, p.timeout.toInt, device.start⟩ device.dataAvailable
      device.turns).stores
  ending := readSingle p device stack

def Inside (b : JByteArray) (stores : List Store) : Prop :=
  ∀ store ∈ stores, 0 ≤ store.index ∧ store.index + store.data.length ≤ b.elements.length

instance (b : JByteArray) (stores : List Store) : Decidable (Inside b stores) :=
  inferInstanceAs (Decidable (∀ store ∈ stores, _ ∧ _))

def ReadCall.Touches (called : ReadCall) : Bool :=
  called.readArray.any fun call =>
    ¬ (ssizeMax < sizeT call.2.toInt ∨ sizeT call.2.toInt < 0)

def Monitored.serve (m : Monitored) (array : Option JByteArray) (called : ReadCall) : InputRun :=
  let pointer := getJavaVar m.eis
  if called.readArray.isSome && m.monitorThreadLock then ⟨[], .faults .waits⟩
  else if called.Touches && !m.taking pointer then ⟨[], .faults (.dangling pointer)⟩
  else if array.any fun b => ¬ Inside b called.stores then ⟨called.stores, .storesOutside⟩
  else if called.Touches && !m.puttingBack pointer then
    ⟨called.stores, .faults (.dangling pointer)⟩
  else ⟨called.stores, .ends called.ending⟩

def InputCall.run (call : InputCall) (line : List UInt8) : InputRun :=
  let device := call.device line
  match call.method with
  | .read stack => call.monitored.serve none (singleCall call.fields device stack)
  | .readBytes b => call.monitored.serve b (readWhole call.fields device b)
  | .readSlice b off len => call.monitored.serve b (read call.fields device b off len)

def InputRun.taken (run : InputRun) : List UInt8 := SerialImp.taken run.stores

def InputEnd.stops : InputEnd → Bool
  | .ends _ => false
  | _ => true

/-- The methods of the stream are synchronized. Nothing comes after a call that waits for good, has
    no struct, or has stored bytes where there is no array. -/
def inputStream : Service InputCall UInt8 InputRun where
  serve call line := call.run line
  used := InputRun.taken
  stops run := run.ending.stops

/-- The array that a call is given has the bytes that it took at `off`, and otherwise what it had. -/
def Shows (off : Int32) (run : InputRun) : Prop :=
  ∀ memory, written run.stores memory = Store.write memory ⟨off.toInt, run.taken⟩

/-- A call of a read that returns gives exactly what it took, inside its array, and one that throws
    anything but an `IOException` has taken nothing. -/
structure Gives (call : InputCall) (run : InputRun) : Prop where
  byte : ∀ stack, call.method = .read stack → ∀ value, run.ending = .ends (.ok value) →
    (run.taken = [] ∧ value = -1) ∨ ∃ byte, run.taken = [byte] ∧ value = byte.toNat
  array : ∀ b off len, call.method = .readSlice b off len ∨
      call.method = .readBytes b ∧ off = 0 → ∀ ending, run.ending = .ends ending →
    (∀ array, b = some array → Inside array run.stores) ∧ Shows off run ∧
      ∀ n, ending = .ok n → n = run.taken.length
  thrown : ∀ exception, run.ending = .ends (.error exception) → exception ≠ .io → run.taken = []
  outside : run.ending = .storesOutside → ∃ array off len,
    call.method = .readSlice (some array) off len ∧ 2 ^ 31 ≤ off.toInt + len.toInt

variable {rounds : Nat → LineRound} {line : List UInt8}

theorem take_more (line : List UInt8) (before most length : Nat) :
    line.take (min before length) ++
        ((line.drop before).take most).take (length - (line.take (min before length)).length) =
      line.take (min (before + most) length) := by
  rw [List.take_take, List.length_take]
  by_cases reached : before ≤ length
  · rw [Nat.min_eq_left reached]
    by_cases inside : before ≤ line.length
    · rw [Nat.min_eq_left inside, ← List.take_add]
      congr 1
      omega
    · rw [List.drop_of_length_le (by omega), List.take_nil, List.append_nil,
        List.take_of_length_le (by omega), List.take_of_length_le (by omega)]
  · have full : min before length = length := by omega
    have stays : min (before + most) length = length := by omega
    rw [full, stays]
    by_cases inside : length ≤ line.length
    · rw [Nat.min_eq_left inside, Nat.sub_self, Nat.zero_min, List.take_zero, List.append_nil]
    · rw [List.drop_of_length_le (by omega), List.take_nil, List.append_nil]

theorem received_lineTurns (r : ReadRequest) (rounds : Nat → LineRound) (line : List UInt8)
    (round : Nat) :
    received r (lineTurns rounds line) round =
      line.take (min (offeredBefore rounds round) r.length.toNat) := by
  induction round with
  | zero => simp [received, offeredBefore]
  | succ round ih =>
    rw [received, ih, offeredBefore]
    by_cases ready : 0 < (rounds round).select
    · cases read : (rounds round).read with
      | none => simp [ReadTurn.given, lineTurns, read]
      | some most =>
        have given (left : Nat) : (lineTurns rounds line round).given left =
            ((line.drop (offeredBefore rounds round)).take most).take left := by
          simp [ReadTurn.given, lineTurns, read, ready]
        rw [given, take_more, if_pos ready, Option.getD_some]
    · simp [ReadTurn.given, lineTurns, ready]

structure TakesFront (r : ReadRequest) (line : List UInt8) (run : ReadRun) : Prop where
  front : taken run.stores <+: line
  written : ∀ memory, written run.stores memory = Store.write memory ⟨r.buffer, taken run.stores⟩
  few : (taken run.stores).length ≤ r.length.toNat
  result : run.result = -1 ∨ run.result = (taken run.stores).length

theorem readByteArray_takesFront (r : ReadRequest) (dataAvailable : Int)
    (rounds : Nat → LineRound) (line : List UInt8) :
    TakesFront r line (readByteArray r dataAvailable (lineTurns rounds line)) := by
  obtain ⟨last, -, -, ends, bytes, buffer⟩ :=
    readByteArray_ends r dataAvailable (lineTurns rounds line)
  refine ⟨?_, ?_, ?_, ?_⟩
  · rw [bytes, received_lineTurns]
    exact List.take_prefix _ _
  · rw [bytes]
    exact buffer
  · rw [bytes]
    exact received_le r (lineTurns rounds line) last
  · rw [bytes]
    generalize (readByteArray r dataAvailable (lineTurns rounds line)).result = result at ends
    cases ends with
    | filled full => exact .inr rfl
    | timedOut more short late => exact .inr rfl
    | failed more short inTime fails => exact .inl rfl
    | exhausted all short => exact .inr rfl

structure Fills (off : Int32) (line : List UInt8) (called : ReadCall) : Prop where
  front : taken called.stores <+: line
  written : ∀ memory,
    written called.stores memory = Store.write memory ⟨off.toInt, taken called.stores⟩
  counts : ∀ n, called.ending = .ok n → n = (taken called.stores).length
  thrown : ∀ exception, called.ending = .error exception → exception ≠ .io →
    taken called.stores = []

theorem error_returns {exception : JavaException} {P : Int → Prop} (n : Int)
    (returned : (.error exception : Except JavaException Int) = .ok n) : P n := by
  cases returned

theorem Fills.ends {ending : Except JavaException Int} (off : Int32) (line : List UInt8)
    (zero : ∀ n, ending = .ok n → n = 0) : Fills off line (.ends ending) where
  front := List.nil_prefix
  written memory := (write_nil memory off.toInt).symm
  counts := zero
  thrown _ _ _ := rfl

theorem callReadArray_fills (p : ReadFields) (call : InputCall) (line : List UInt8)
    (off minimum : Int32) : Fills off line (callReadArray p (call.device line) off minimum) := by
  by_cases passed : ssizeMax < sizeT minimum.toInt ∨ sizeT minimum.toInt < 0
  · have refused : callReadArray p (call.device line) off minimum =
        ⟨some (off, minimum), [], .error .arrayIndexOutOfBounds⟩ := by
      simp only [callReadArray, SerialImp.readArray, if_pos passed]
    rw [refused]
    exact ⟨List.nil_prefix, fun memory => (write_nil memory off.toInt).symm,
      error_returns, fun _ _ _ => rfl⟩
  · have takes := readByteArray_takesFront ⟨off.toInt, minimum.toInt, p.timeout.toInt, call.start⟩
      call.dataAvailable call.rounds line
    obtain ⟨run, ran⟩ : ∃ run, readByteArray ⟨off.toInt, minimum.toInt, p.timeout.toInt, call.start⟩
      call.dataAvailable (lineTurns call.rounds line) = run := ⟨_, rfl⟩
    rw [ran] at takes
    simp only [callReadArray, SerialImp.readArray, if_neg passed, InputCall.device, ran]
    by_cases failed : run.result < 0
    · simp only [if_pos failed]
      refine ⟨takes.front, takes.written, error_returns, ?_⟩
      intro exception thrown other
      exact absurd (Except.error.inj thrown).symm other
    · simp only [if_neg failed]
      refine ⟨takes.front, takes.written, ?_, ?_⟩
      · intro n returned
        rcases takes.result with error | counted
        · omega
        · exact (Except.ok.inj returned).symm.trans counted
      · intro exception thrown
        cases thrown

inductive Asks (p : ReadFields) (device : ReadDevice) (b : Option JByteArray) (off len : Int32) :
    ReadCall → Prop
  | ends (ending : Except JavaException Int) (zero : ∀ n, ending = .ok n → n = 0) :
      Asks p device b off len (.ends ending)
  | calls (array : JByteArray) (given : b = some array) (minimum : Int32)
      (passed : ¬ (off < 0 || len < 0 || off + len > array.length) = true)
      (least : minimum.toInt ≤ len.toInt) :
      Asks p device b off len (callReadArray p device off minimum)

theorem read_asksLeast (p : ReadFields) (device : ReadDevice) (b : Option JByteArray)
    (off len : Int32) : Asks p device b off len (read p device b off len) := by
  have zero (n : Int) (returned : (.ok 0 : Except JavaException Int) = .ok n) : n = 0 :=
    (Except.ok.inj returned).symm
  unfold read
  by_cases closed : p.fd = 0
  · rw [if_pos closed]
    exact .ends _ error_returns
  rw [if_neg closed]
  cases b with
  | none => exact .ends _ error_returns
  | some b =>
    simp only []
    by_cases refused : (off < 0 || len < 0 || off + len > b.length) = true
    · rw [if_pos refused]
      exact .ends _ error_returns
    rw [if_neg refused]
    by_cases empty : len = 0
    · rw [if_pos empty]
      exact .ends _ zero
    rw [if_neg empty]
    have some : 1 ≤ len.toInt := by
      have accepted := mt (guard_iff b off len).mpr refused
      have nonzero : len.toInt ≠ (0 : Int32).toInt := fun same => empty (Int32.toInt_inj.mp same)
      have none : (0 : Int32).toInt = 0 := rfl
      omega
    have least (x : Int32) : (mathMin len x).toInt ≤ len.toInt := by
      rw [mathMin_toInt]
      omega
    by_cases disabled : p.threshold = 0
    · rw [if_pos disabled]
      cases device.nativeavailable with
      | error exception => exact .ends _ error_returns
      | ok a =>
        simp only []
        cases p.monThreadisInterrupted with
        | true => exact .ends _ zero
        | false =>
          refine .calls b rfl _ refused ?_
          split_ifs
          · exact some
          · exact least a
    · rw [if_neg disabled]
      cases p.monThreadisInterrupted with
      | true => exact .ends _ zero
      | false => exact .calls b rfl _ refused (least p.threshold)

theorem read_fills (p : ReadFields) (call : InputCall) (line : List UInt8)
    (b : Option JByteArray) (off len : Int32) :
    Fills off line (read p (call.device line) b off len) := by
  have asks := read_asksLeast p (call.device line) b off len
  generalize read p (call.device line) b off len = called at asks ⊢
  cases asks with
  | ends ending zero => exact .ends off line zero
  | calls array given minimum passed least => exact callReadArray_fills p call line off minimum

theorem read_inside (p : ReadFields) (device : ReadDevice) (array : JByteArray) {off len : Int32}
    (int : off.toInt + len.toInt < 2 ^ 31) :
    Inside array (read p device (some array) off len).stores := by
  have asks := read_asksLeast p device (some array) off len
  generalize read p device (some array) off len = called at asks ⊢
  cases asks with
  | ends ending zero => exact nofun
  | calls other given minimum passed least =>
    obtain rfl := Option.some.inj given
    have accepted := mt (guard_iff array off len).mpr passed
    intro store member
    have minimal : -2 ^ 31 ≤ minimum.toInt := minimum.le_toInt
    have bounds := readArray_stores (r := ⟨off.toInt, minimum.toInt, p.timeout.toInt, device.start⟩)
      minimal device.dataAvailable device.turns store member
    simp only [] at bounds
    omega

theorem readWhole_fills (p : ReadFields) (call : InputCall) (line : List UInt8)
    (b : Option JByteArray) : Fills 0 line (readWhole p (call.device line) b) := by
  unfold readWhole
  split_ifs
  · exact .ends 0 line (fun n returned => (Except.ok.inj returned).symm)
  · cases b with
    | none => exact .ends 0 line error_returns
    | some b => exact read_fills p call line (some b) 0 b.length

theorem readWhole_inside (p : ReadFields) (device : ReadDevice) (array : JByteArray) :
    Inside array (readWhole p device (some array)).stores := by
  unfold readWhole
  split_ifs
  · exact nofun
  · have zero : (0 : Int32).toInt = 0 := rfl
    apply read_inside
    have bound := array.length.toInt_lt
    omega

/-- The call as it would be with its struct, its lock and its array; or it has not come to its end,
    with what it took or nothing. -/
inductive Served (array : Option JByteArray) (called : ReadCall) : InputRun → Prop
  | ends (inside : ∀ b, array = some b → Inside b called.stores) :
      Served array called ⟨called.stores, .ends called.ending⟩
  | untouched (fault : ReadFault) : Served array called ⟨[], .faults fault⟩
  | faults (fault : ReadFault) : Served array called ⟨called.stores, .faults fault⟩
  | outside (b : JByteArray) (given : array = some b) (beyond : ¬ Inside b called.stores) :
      Served array called ⟨called.stores, .storesOutside⟩

theorem Monitored.serve_served (m : Monitored) (array : Option JByteArray) (called : ReadCall) :
    Served array called (m.serve array called) := by
  unfold serve
  simp only []
  by_cases locked : (called.readArray.isSome && m.monitorThreadLock) = true
  · rw [if_pos locked]
    exact .untouched _
  rw [if_neg locked]
  by_cases dangles : (called.Touches && !m.taking (getJavaVar m.eis)) = true
  · rw [if_pos dangles]
    exact .untouched _
  rw [if_neg dangles]
  by_cases beyond : (array.any fun b => ¬ Inside b called.stores) = true
  · rw [if_pos beyond]
    cases array with
    | none => cases beyond
    | some b => exact .outside b rfl (by simpa using beyond)
  rw [if_neg beyond]
  by_cases gone : (called.Touches && !m.puttingBack (getJavaVar m.eis)) = true
  · rw [if_pos gone]
    exact .faults _
  rw [if_neg gone]
  refine .ends ?_
  rintro b rfl
  simpa using beyond

theorem Served.front {array : Option JByteArray} {called : ReadCall} {run : InputRun}
    (served : Served array called run) {line : List UInt8} (front : taken called.stores <+: line) :
    run.taken <+: line := by
  cases served with
  | untouched fault => exact List.nil_prefix
  | _ => exact front

theorem singleCall_closed {p : ReadFields} (closed : p.fd = 0) (device : ReadDevice)
    (stack : UInt8) : singleCall p device stack = .ends (.error .io) := by
  simp only [singleCall, readSingle, if_pos closed, ReadCall.ends]

theorem readByte_gives (call : InputCall) (line : List UInt8) {stack : UInt8}
    (method : call.method = .read stack) :
    (call.run line).taken <+: line ∧ Gives call (call.run line) := by
  have notArray {b off len} : ¬ (call.method = .readSlice b off len ∨
      call.method = .readBytes b ∧ off = 0) := by
    rw [method]
    rintro (same | ⟨same, -⟩) <;> cases same
  have served := call.monitored.serve_served none (singleCall call.fields (call.device line) stack)
  have ran : call.run line =
      call.monitored.serve none (singleCall call.fields (call.device line) stack) := by
    simp only [InputCall.run, method]
  have takes := readByteArray_takesFront ⟨0, 1, call.fields.timeout.toInt, call.start⟩
    call.dataAvailable call.rounds line
  obtain ⟨run, read⟩ : ∃ run, readByteArray ⟨0, 1, call.fields.timeout.toInt, call.start⟩
    call.dataAvailable (lineTurns call.rounds line) = run := ⟨_, rfl⟩
  rw [read] at takes
  rw [← ran] at served
  by_cases closed : call.fields.fd = 0
  · rw [singleCall_closed closed] at served
    generalize call.run line = ended at served ⊢
    refine ⟨served.front List.nil_prefix, ?_, fun b off len array => absurd array notArray, ?_, ?_⟩
    · intro _ _ value returned
      cases served <;> cases returned
    · intro exception thrown other
      cases served <;> cases thrown
      exact absurd rfl other
    · intro outside
      cases served with
      | outside b given => cases given
      | _ => cases outside
  have called : singleCall call.fields (call.device line) stack =
      ⟨some (0, 1), run.stores, if run.result < 0 then .error .io
        else .ok (if run.result ≠ 0 then (written run.stores (fun _ => stack) 0).toNat else -1)⟩ := by
    simp only [singleCall, readSingle, nativeReadByte, if_neg closed, InputCall.device, read]
  rw [called] at served
  generalize call.run line = ended at served ⊢
  refine ⟨served.front takes.front, ?_, fun b off len array => absurd array notArray, ?_, ?_⟩
  · intro stack' same value returned
    obtain rfl : stack = stack' := InputMethod.read.inj (method.symm.trans same)
    cases served with
    | ends inside =>
      replace returned := InputEnd.ends.inj returned
      simp only [] at returned
      split_ifs at returned with failed some
      · have counted := takes.result.resolve_left (by omega)
        have few := takes.few
        have one : (taken run.stores).length = 1 := by
          simp only [Int.toNat_one] at few
          omega
        obtain ⟨byte, single⟩ := List.length_eq_one_iff.mp one
        refine .inr ⟨byte, single, ?_⟩
        rw [← Except.ok.inj returned, takes.written, single]
        rfl
      · have counted := takes.result.resolve_left (by omega)
        have none : (taken run.stores).length = 0 := by omega
        exact .inl ⟨List.length_eq_zero_iff.mp none, (Except.ok.inj returned).symm⟩
    | untouched | faults | outside => cases returned
  · intro exception thrown other
    cases served with
    | ends inside =>
      replace thrown := InputEnd.ends.inj thrown
      simp only [] at thrown
      split_ifs at thrown with failed
      exact absurd (Except.error.inj thrown).symm other
    | untouched | faults | outside => cases thrown
  · intro outside
    cases served with
    | outside b given => cases given
    | ends | untouched | faults => cases outside

theorem Fills.gives {call : InputCall} {off : Int32} {line : List UInt8} {called : ReadCall}
    {array : Option JByteArray} (fills : Fills off line called)
    (ran : call.run line = call.monitored.serve array called)
    (notByte : ∀ stack, call.method ≠ .read stack)
    (same : ∀ b off' len, call.method = .readSlice b off' len ∨
      call.method = .readBytes b ∧ off' = 0 → b = array ∧ off' = off)
    (inside : ∀ b, array = some b → Inside b called.stores ∨
      ∃ len, call.method = .readSlice (some b) off len ∧ 2 ^ 31 ≤ off.toInt + len.toInt) :
    (call.run line).taken <+: line ∧ Gives call (call.run line) := by
  have served := call.monitored.serve_served array called
  rw [← ran] at served
  generalize call.run line = ended at served ⊢
  refine ⟨served.front fills.front, fun stack method => absurd method (notByte stack), ?_, ?_, ?_⟩
  · intro b off' len method ending returned
    obtain ⟨rfl, rfl⟩ := same b off' len method
    cases served with
    | ends within =>
      cases returned
      exact ⟨within, fills.written, fills.counts⟩
    | untouched | faults | outside => cases returned
  · intro exception thrown other
    cases served with
    | ends within => exact fills.thrown exception (InputEnd.ends.inj thrown) other
    | untouched | faults | outside => cases thrown
  · intro beyond
    cases served with
    | outside b given out =>
      obtain ⟨len, method, wraps⟩ := (inside b given).resolve_left out
      exact ⟨b, off, len, method, wraps⟩
    | ends | untouched | faults => cases beyond

theorem InputCall.run_gives (call : InputCall) (line : List UInt8) :
    (call.run line).taken <+: line ∧ Gives call (call.run line) := by
  cases method : call.method with
  | read stack => exact readByte_gives call line method
  | readBytes b =>
    have ran : call.run line =
        call.monitored.serve b (readWhole call.fields (call.device line) b) := by
      simp only [InputCall.run, method]
    apply (readWhole_fills call.fields call line b).gives ran
    · intro stack byte
      rw [method] at byte
      cases byte
    · intro b' off' len' called
      rw [method] at called
      rcases called with slice | ⟨bytes, zero⟩
      · cases slice
      · cases bytes
        exact ⟨rfl, zero⟩
    · rintro array rfl
      exact .inl (readWhole_inside call.fields (call.device line) array)
  | readSlice b off len =>
    have ran : call.run line =
        call.monitored.serve b (read call.fields (call.device line) b off len) := by
      simp only [InputCall.run, method]
    apply (read_fills call.fields call line b off len).gives ran
    · intro stack byte
      rw [method] at byte
      cases byte
    · intro b' off' len' called
      rw [method] at called
      rcases called with slice | ⟨bytes, -⟩
      · cases slice
        exact ⟨rfl, rfl⟩
      · cases bytes
    · rintro array rfl
      by_cases int : off.toInt + len.toInt < 2 ^ 31
      · exact .inl (read_inside call.fields (call.device line) array int)
      · exact .inr ⟨len, method, Int.not_lt.mp int⟩

end Rxtx.RXTXPort
