import Rxtx.Library.InTurn
import Rxtx.RXTXPort.Fields

open InTurn
open Rxtx.RXTXPort (JByteArray JavaException)

namespace Rxtx.LPRPort

inductive Build where
  | posix
  | win32
  deriving DecidableEq, Repr

/-- What `write` or `WriteFile` answers: whether it succeeds, and the number of bytes it took. -/
structure WriteAnswer where
  ok : Bool
  count : Nat
  deriving DecidableEq, Repr

/-- `write` gives no number of bytes where it fails, but `WriteFile` does. -/
def WriteAnswer.taken (build : Build) (answer : WriteAnswer) : Nat :=
  match build with
  | .posix => if answer.ok then answer.count else 0
  | .win32 => answer.count

def WriteAnswer.refused (answer : WriteAnswer) : Bool := !answer.ok && answer.count = 0

inductive WriteEnd where
  | returns
  | throws (exception : JavaException)
  /-- The call is in a `write` that the answers so far do not reach. -/
  | waits
  | faults
  | freesInside
  deriving DecidableEq, Repr

structure WriteRun where
  sent : List UInt8
  used : List WriteAnswer
  ending : WriteEnd
  deriving DecidableEq, Repr

def WriteRun.ends (ending : WriteEnd) : WriteRun := ⟨[], [], ending⟩

def WriteRun.after (chunk : List UInt8) (answer : WriteAnswer) (run : WriteRun) : WriteRun :=
  { run with sent := chunk ++ run.sent, used := answer :: run.used }

def nativeWriteByte (build : Build) (ji : Int32) : List WriteAnswer → WriteRun
  | [] => .ends .waits
  | answer :: _ =>
    { sent := [ji.toUInt32.toUInt8].take (answer.taken build)
      used := [answer]
      ending :=
        match build with
        | .posix => if answer.ok then .returns else .throws .io
        | .win32 => .throws .io } -- the result of `WriteFile` is never below 0

def WriteEnd.freeing (ending : WriteEnd) (moved : Nat) : WriteEnd :=
  if moved = 0 then ending else .freesInside

/-- The loop on Windows with the bytes from the pointer on, which has moved by `moved`. -/
def writeFileLoop : List UInt8 → Nat → Nat → List WriteAnswer → WriteRun
  | [], moved, _, _ => .ends (WriteEnd.returns.freeing moved)
  | _ :: _, _, _, [] => .ends .waits
  | byte :: bytes, moved, errorCount, answer :: answers =>
    let left := byte :: bytes
    if answer.refused then
      if errorCount < 20 then (writeFileLoop left moved (errorCount + 1) answers).after [] answer
      else ⟨[], [answer], (WriteEnd.throws .io).freeing moved⟩
    else
      (writeFileLoop (left.drop answer.count) (moved + min answer.count left.length) 0
        answers).after (left.take answer.count) answer

def Copies (b : JByteArray) (offset count : Int32) : Prop :=
  count.toInt ≤ 0 ∨ 0 ≤ offset.toInt ∧ offset.toInt + count.toInt ≤ b.elements.length

instance (b : JByteArray) (offset count : Int32) : Decidable (Copies b offset count) :=
  inferInstanceAs (Decidable (_ ∨ _ ∧ _))

def copied (b : JByteArray) (offset count : Int32) : List UInt8 :=
  (b.elements.drop offset.toInt.toNat).take count.toInt.toNat

def nativeWriteArray (build : Build) (jbarray : Option JByteArray) (offset count : Int32)
    (answers : List WriteAnswer) : WriteRun :=
  match jbarray with
  | none => .ends .faults
  | some b =>
    if ¬ Copies b offset count then .ends .faults
    else
      let bytes := copied b offset count
      match build, answers with
      | .win32, answers => writeFileLoop bytes 0 0 answers
      | .posix, answers =>
        -- as a `size_t` a negative count is more than `write` takes
        if count < 0 then .ends (.throws .io)
        else
          match answers with
          | [] => .ends .waits
          | answer :: _ =>
            { sent := bytes.take (answer.taken .posix)
              used := [answer]
              ending := if answer.ok then .returns else .throws .io }

inductive OutputMethod where
  | write (b : Int32)
  | writeBytes (b : Option JByteArray)
  | writeSlice (b : Option JByteArray) (off len : Int32)
  | flush

structure OutputCall where
  fd : Int32
  method : OutputMethod

def OutputCall.run (build : Build) (call : OutputCall) (answers : List WriteAnswer) : WriteRun :=
  if call.fd = 0 then .ends (.throws .io)
  else
    match call.method with
    | .write b => nativeWriteByte build b answers
    | .writeBytes none => .ends (.throws .nullPointer)
    | .writeBytes (some b) => nativeWriteArray build (some b) 0 b.length answers
    | .writeSlice b off len => nativeWriteArray build b off len answers
    | .flush => .ends .returns

/-- The methods of the stream are synchronized. -/
def outputStream (build : Build) : Service OutputCall WriteAnswer WriteRun where
  serve call answers := call.run build answers
  used := WriteRun.used
  stops run := run.ending = .waits ∨ run.ending = .faults ∨ run.ending = .freesInside

inductive NativeWrite where
  | byte (b : UInt8)
  | array (bytes : List UInt8)
  deriving DecidableEq, Repr

def NativeWrite.data : NativeWrite → List UInt8
  | .byte b => [b]
  | .array bytes => bytes

def OutputCall.native (call : OutputCall) : Option NativeWrite :=
  if call.fd = 0 then none
  else
    match call.method with
    | .write b => some (.byte b.toUInt32.toUInt8)
    | .writeBytes (some b) => some (.array b.elements)
    | .writeSlice (some b) off len =>
      if Copies b off len then some (.array (copied b off len)) else none
    | _ => none

def OutputCall.data (call : OutputCall) : List UInt8 := (call.native.map NativeWrite.data).getD []

/-- A slice of an open port that is not inside its array, or that has none. -/
def OutputCall.Outside (call : OutputCall) : Prop :=
  call.fd ≠ 0 ∧ ∃ b off len, call.method = .writeSlice b off len ∧
    ∀ array, b = some array → ¬ Copies array off len

def accepted (build : Build) : List WriteAnswer → Nat
  | [] => 0
  | answer :: answers => answer.taken build + accepted build answers

/-- The last 21 answers refuse, those being counted that `errorCount` has. -/
def Refusals (errorCount : Nat) (used : List WriteAnswer) : Prop :=
  ∃ before last, used = before ++ last ∧ (∀ answer ∈ last, answer.refused = true) ∧
    (last.length = 21 ∨ before = [] ∧ last.length + errorCount = 21)

inductive ArrayEnd (bytes : List UInt8) (used : List WriteAnswer) : WriteEnd → Prop
  | returns (empty : bytes = []) : ArrayEnd bytes used .returns
  | throws (none : accepted .win32 used = 0) (refusals : Refusals 0 used) :
      ArrayEnd bytes used (.throws .io)
  | freesInside (some : 0 < accepted .win32 used)
      (ends : bytes.length ≤ accepted .win32 used ∨ Refusals 0 used) :
      ArrayEnd bytes used .freesInside
  | waits (less : accepted .win32 used < bytes.length) : ArrayEnd bytes used .waits

structure Writes (build : Build) (call : OutputCall) (run : WriteRun) : Prop where
  sent : run.sent = call.data.take (accepted build run.used)
  faults : run.ending = .faults ↔ call.Outside
  posix : build = .posix → run.used.length ≤ 1 ∧
    ∀ answer ∈ run.used, run.ending = .returns ↔ answer.ok = true
  win32 : build = .win32 →
    match call.native with
    | some (.array bytes) => ArrayEnd bytes run.used run.ending
    | some (.byte _) => run.ending ≠ .returns
    | none => run.used = []

theorem Refusals.refused {errorCount : Nat} {used : List WriteAnswer} {answer : WriteAnswer}
    (refused : answer.refused = true) (refusals : Refusals (errorCount + 1) used) :
    Refusals errorCount (answer :: used) := by
  obtain ⟨before, last, rfl, all, count⟩ := refusals
  rcases count with full | ⟨rfl, count⟩
  · exact ⟨answer :: before, last, rfl, all, .inl full⟩
  · refine ⟨[], answer :: last, rfl, ?_, .inr ⟨rfl, ?_⟩⟩
    · exact List.forall_mem_cons.mpr ⟨refused, all⟩
    · rw [List.length_cons]
      omega

theorem Refusals.taken {used : List WriteAnswer} (refusals : Refusals 0 used) (errorCount : Nat)
    (answer : WriteAnswer) : Refusals errorCount (answer :: used) := by
  obtain ⟨before, last, rfl, all, count⟩ := refusals
  refine ⟨answer :: before, last, rfl, all, .inl ?_⟩
  rcases count with full | ⟨-, full⟩
  · exact full
  · exact full

structure Loops (bytes : List UInt8) (moved errorCount : Nat) (answers : List WriteAnswer)
    (run : WriteRun) : Prop where
  first : run.used <+: answers
  sent : run.sent = bytes.take (accepted .win32 run.used)
  ends : (run.ending = WriteEnd.returns.freeing (moved + run.sent.length) ∧
      bytes.length ≤ accepted .win32 run.used) ∨
    (run.ending = (WriteEnd.throws .io).freeing (moved + run.sent.length) ∧
      accepted .win32 run.used < bytes.length ∧ Refusals errorCount run.used) ∨
    (run.ending = .waits ∧ accepted .win32 run.used < bytes.length)

theorem Loops.refused {bytes : List UInt8} {moved errorCount : Nat} {answers : List WriteAnswer}
    {run : WriteRun} {answer : WriteAnswer} (refused : answer.refused = true)
    (loops : Loops bytes moved (errorCount + 1) answers run) :
    Loops bytes moved errorCount (answer :: answers) (run.after [] answer) := by
  have zero : answer.count = 0 := by
    simp only [WriteAnswer.refused, Bool.and_eq_true, decide_eq_true_eq] at refused
    exact refused.2
  have same : accepted .win32 (run.after [] answer).used = accepted .win32 run.used := by
    simp [WriteRun.after, accepted, WriteAnswer.taken, zero]
  refine ⟨?_, ?_, ?_⟩
  · obtain ⟨rest, split⟩ := loops.first
    exact ⟨rest, by rw [WriteRun.after, List.cons_append, split]⟩
  · rw [same]
    exact loops.sent
  · rw [same]
    rcases loops.ends with returns | ⟨throws, less, refusals⟩ | waits
    · exact .inl returns
    · exact .inr (.inl ⟨throws, less, refusals.refused refused⟩)
    · exact .inr (.inr waits)

theorem Loops.taken {bytes : List UInt8} {moved : Nat} {answers : List WriteAnswer} {run : WriteRun}
    (errorCount : Nat) {answer : WriteAnswer}
    (loops : Loops (bytes.drop answer.count) (moved + min answer.count bytes.length) 0 answers run) :
    Loops bytes moved errorCount (answer :: answers) (run.after (bytes.take answer.count) answer) := by
  have more : accepted .win32 (run.after (bytes.take answer.count) answer).used =
      answer.count + accepted .win32 run.used := rfl
  have pointer : moved + (run.after (bytes.take answer.count) answer).sent.length =
      moved + min answer.count bytes.length + run.sent.length := by
    rw [WriteRun.after, List.length_append, List.length_take]
    omega
  refine ⟨?_, ?_, ?_⟩
  · obtain ⟨rest, split⟩ := loops.first
    exact ⟨rest, by rw [WriteRun.after, List.cons_append, split]⟩
  · rw [more, List.take_add, ← loops.sent]
    rfl
  · rw [more, pointer]
    have left := loops.ends
    rw [List.length_drop] at left
    rcases left with ⟨returns, all⟩ | ⟨throws, less, refusals⟩ | ⟨waits, less⟩
    · exact .inl ⟨returns, by omega⟩
    · exact .inr (.inl ⟨throws, by omega, refusals.taken errorCount answer⟩)
    · exact .inr (.inr ⟨waits, by omega⟩)

theorem Loops.arrayEnd {bytes : List UInt8} {answers : List WriteAnswer} {run : WriteRun}
    (loops : Loops bytes 0 0 answers run) : ArrayEnd bytes run.used run.ending := by
  have length : run.sent.length = min (accepted .win32 run.used) bytes.length := by
    rw [loops.sent, List.length_take]
  rcases loops.ends with ⟨ends, all⟩ | ⟨ends, less, refusals⟩ | ⟨ends, less⟩
  · rw [ends, WriteEnd.freeing]
    split_ifs with unmoved
    · exact .returns (List.eq_nil_of_length_eq_zero (by omega))
    · exact .freesInside (by omega) (.inl all)
  · rw [ends, WriteEnd.freeing]
    split_ifs with unmoved
    · exact .throws (by omega) refusals
    · exact .freesInside (by omega) (.inr refusals)
  · rw [ends]
    exact .waits less

theorem ArrayEnd.not_faults {bytes : List UInt8} {used : List WriteAnswer} {ending : WriteEnd}
    (ends : ArrayEnd bytes used ending) : ending ≠ .faults := by
  cases ends <;> exact nofun

theorem writeFileLoop_loops (bytes : List UInt8) (moved : Nat) {errorCount : Nat}
    (few : errorCount ≤ 20) (answers : List WriteAnswer) :
    Loops bytes moved errorCount answers (writeFileLoop bytes moved errorCount answers) := by
  induction answers generalizing bytes moved errorCount with
  | nil =>
    cases bytes with
    | nil => exact ⟨List.nil_prefix, rfl, .inl ⟨rfl, Nat.le_refl 0⟩⟩
    | cons byte bytes =>
      exact ⟨List.nil_prefix, rfl, .inr (.inr ⟨rfl, Nat.succ_pos _⟩)⟩
  | cons answer answers ih =>
    cases bytes with
    | nil => exact ⟨List.nil_prefix, rfl, .inl ⟨rfl, Nat.le_refl 0⟩⟩
    | cons byte bytes =>
      rw [writeFileLoop]
      split_ifs with refused again
      · exact (ih (byte :: bytes) moved (by omega)).refused refused
      · have zero : answer.count = 0 := by
          simp only [WriteAnswer.refused, Bool.and_eq_true, decide_eq_true_eq] at refused
          exact refused.2
        have none_taken : accepted .win32 [answer] = 0 := by
          simp [accepted, WriteAnswer.taken, zero]
        refine ⟨⟨answers, rfl⟩, ?_, .inr (.inl ⟨rfl, ?_, ?_⟩)⟩
        · rw [none_taken, List.take_zero]
        · rw [none_taken]
          exact Nat.succ_pos _
        · refine ⟨[], [answer], rfl, by simpa using refused, .inr ⟨rfl, ?_⟩⟩
          rw [List.length_singleton]
          omega
      · exact (ih _ _ (Nat.zero_le 20)).taken errorCount

section

variable {build : Build} {call : OutputCall}

theorem Writes.none {ending : WriteEnd} (native : call.native = none)
    (faults : ending = .faults ↔ call.Outside) : Writes build call (.ends ending) where
  sent := by simp [OutputCall.data, native, WriteRun.ends]
  faults := faults
  posix _ := ⟨Nat.zero_le 1, nofun⟩
  win32 _ := by
    rw [native]
    rfl

theorem not_outside_of_native {write : NativeWrite} (native : call.native = some write) :
    ¬ call.Outside := by
  rintro ⟨-, b, off, len, method, outside⟩
  have none : call.native = Option.none := by
    unfold OutputCall.native
    rw [method]
    cases b with
    | none => simp
    | some b => simp [outside b rfl]
  rw [none] at native
  cases native

theorem nativeWriteByte_writes {ji : Int32}
    (native : call.native = some (.byte ji.toUInt32.toUInt8)) (answers : List WriteAnswer) :
    (nativeWriteByte build ji answers).used <+: answers ∧
      Writes build call (nativeWriteByte build ji answers) := by
  have inside := not_outside_of_native native
  have data : call.data = [ji.toUInt32.toUInt8] := by
    simp [OutputCall.data, native, NativeWrite.data]
  cases answers with
  | nil =>
    refine ⟨List.nil_prefix, ?_, iff_of_false nofun inside, fun _ => ⟨Nat.zero_le 1, nofun⟩, ?_⟩
    · rfl
    · intro _
      rw [native]
      exact nofun
  | cons answer answers =>
    refine ⟨⟨answers, rfl⟩, ?_, ?_, ?_, ?_⟩
    · rw [data]
      rfl
    · apply iff_of_false _ inside
      cases build with
      | posix => cases ok : answer.ok <;> simp [nativeWriteByte, ok]
      | win32 => exact nofun
    · rintro rfl
      refine ⟨Nat.le_refl 1, ?_⟩
      simp only [nativeWriteByte, List.forall_mem_singleton]
      cases answer.ok <;> simp
    · rintro rfl
      rw [native]
      exact nofun

theorem nativeWriteArray_writes {b : JByteArray} {off len : Int32}
    (native : call.native = some (.array (copied b off len))) (copies : Copies b off len)
    (answers : List WriteAnswer) :
    (nativeWriteArray build (some b) off len answers).used <+: answers ∧
      Writes build call (nativeWriteArray build (some b) off len answers) := by
  have inside := not_outside_of_native native
  have data : call.data = copied b off len := by
    simp [OutputCall.data, native, NativeWrite.data]
  rw [nativeWriteArray, if_neg (not_not.mpr copies)]
  cases build with
  | win32 =>
    have loops := writeFileLoop_loops (copied b off len) 0 (Nat.zero_le 20) answers
    refine ⟨loops.first, ?_, ?_, nofun, ?_⟩
    · rw [data]
      exact loops.sent
    · apply iff_of_false _ inside
      exact loops.arrayEnd.not_faults
    · intro _
      rw [native]
      exact loops.arrayEnd
  | posix =>
    by_cases negative : len < 0
    · have empty : copied b off len = [] := by
        have below : len.toInt < 0 := Int32.lt_iff_toInt_lt.mp negative
        rw [copied, Int.toNat_of_nonpos (by omega), List.take_zero]
      simp only [if_pos negative]
      refine ⟨List.nil_prefix, ?_, iff_of_false nofun inside, fun _ => ⟨Nat.zero_le 1, nofun⟩,
        nofun⟩
      rw [data, empty, List.take_nil]
      rfl
    · simp only [if_neg negative]
      cases answers with
      | nil =>
        exact ⟨List.nil_prefix, rfl, iff_of_false nofun inside,
          fun _ => ⟨Nat.zero_le 1, nofun⟩, nofun⟩
      | cons answer answers =>
        refine ⟨⟨answers, rfl⟩, ?_, ?_, ?_, nofun⟩
        · rw [data]
          rfl
        · refine iff_of_false ?_ inside
          simp only []
          split <;> exact nofun
        · intro _
          refine ⟨Nat.le_refl 1, ?_⟩
          simp only [List.forall_mem_singleton]
          cases answer.ok <;> simp

theorem copies_whole (b : JByteArray) : Copies b 0 b.length ∧ copied b 0 b.length = b.elements := by
  have zero : (0 : Int32).toInt = 0 := rfl
  rw [Copies, copied, JByteArray.length_toInt, zero]
  refine ⟨.inr ⟨Int.le_refl 0, by omega⟩, ?_⟩
  simp

theorem OutputCall.run_writes (build : Build) (call : OutputCall) (answers : List WriteAnswer) :
    (call.run build answers).used <+: answers ∧ Writes build call (call.run build answers) := by
  have ended (ending : WriteEnd) (ran : call.run build answers = .ends ending)
      (native : call.native = none) (faults : ending = .faults ↔ call.Outside) :
      (call.run build answers).used <+: answers ∧ Writes build call (call.run build answers) := by
    rw [ran]
    exact ⟨List.nil_prefix, .none native faults⟩
  by_cases closed : call.fd = 0
  · have inside : ¬ call.Outside := fun outside => outside.1 closed
    exact ended (.throws .io) (by rw [run, if_pos closed]) (by rw [OutputCall.native, if_pos closed])
      (iff_of_false nofun inside)
  obtain ⟨fd, method⟩ := call
  cases method with
  | write b =>
    rw [run, if_neg closed]
    exact nativeWriteByte_writes (by rw [OutputCall.native, if_neg closed]) answers
  | flush =>
    apply ended .returns (by rw [run, if_neg closed]) (by rw [OutputCall.native, if_neg closed])
    apply iff_of_false nofun
    rintro ⟨-, b, off, len, method, -⟩
    cases method
  | writeBytes b =>
    cases b with
    | none =>
      apply ended (.throws .nullPointer) (by rw [run, if_neg closed])
        (by rw [OutputCall.native, if_neg closed])
      apply iff_of_false nofun
      rintro ⟨-, b, off, len, method, -⟩
      cases method
    | some b =>
      obtain ⟨copies, whole⟩ := copies_whole b
      rw [run, if_neg closed]
      refine nativeWriteArray_writes ?_ copies answers
      rw [OutputCall.native, if_neg closed, whole]
  | writeSlice b off len =>
    cases b with
    | none =>
      apply ended .faults
      · rw [run, if_neg closed]
        rfl
      · rw [OutputCall.native, if_neg closed]
      · exact iff_of_true rfl ⟨closed, none, off, len, rfl, nofun⟩
    | some b =>
      by_cases copies : Copies b off len
      · rw [run, if_neg closed]
        refine nativeWriteArray_writes ?_ copies answers
        rw [OutputCall.native, if_neg closed]
        simp [copies]
      · apply ended .faults
        · rw [run, if_neg closed]
          simp [nativeWriteArray, copies]
        · rw [OutputCall.native, if_neg closed]
          simp [copies]
        · refine iff_of_true rfl ⟨closed, some b, off, len, rfl, ?_⟩
          rintro array ⟨⟩
          exact copies

end

/-- On Windows a byte that was written is reported as an error. -/
example : ((outputStream .win32).serveAll [⟨3, .write 65⟩] [⟨true, 1⟩]).map
    (fun run => (run.sent, run.ending)) = [([65], .throws .io)] := by decide

end Rxtx.LPRPort
