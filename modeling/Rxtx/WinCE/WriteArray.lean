import Rxtx.Library.InTurn
import Rxtx.WinCE.Helpers

open InTurn

namespace Rxtx.WinCE

inductive WriteEnd where
  | returns
  | throws (pending : Option Pending)
  /-- The call is in the `WriteFile` that the answers so far do not reach. -/
  | waits
  deriving DecidableEq, Repr

/-- `sent` are the bytes that the device took, and `used` the answers of the call's `WriteFile`s. -/
structure WriteRun where
  sent : List UInt8
  used : List (Option Nat)
  ending : WriteEnd
  deriving DecidableEq, Repr

def WriteRun.after (chunk : List UInt8) (answer : Option Nat) (run : WriteRun) : WriteRun :=
  { run with sent := chunk ++ run.sent, used := answer :: run.used }

/-- `WriteFile`'s answer is the number of bytes it wrote, and `none` where it fails. It writes no
    more bytes than it is given. -/
abbrev FileAnswers := List (Option Nat)

section

variable (findClass : String → Bool) (errorMsg : String)

def writeByteLoop (bb : UInt8) : FileAnswers → WriteRun
  | [] => ⟨[], [], .waits⟩
  | none :: _ =>
    let pending := throwJavaExceptionW findClass ioException "writeByte - WriteFile" errorMsg
    ⟨[], [none], .throws pending⟩
  | some written :: answers =>
    if written = 0 then (writeByteLoop bb answers).after [] (some written)
    else ⟨[bb], [some written], .returns⟩

def writeArrayLoop (body : List UInt8) (off len : Nat) : Nat → FileAnswers → WriteRun
  | _, [] => ⟨[], [], .waits⟩
  | _, none :: _ =>
    let pending := throwJavaExceptionW findClass ioException "writeArray - WriteFile" errorMsg
    ⟨[], [none], .throws pending⟩
  | total, some written :: answers =>
    let dwNumBytesWritten := min written (len - total)
    let chunk := (body.drop (total + off)).take dwNumBytesWritten
    if total + dwNumBytesWritten < len then
      (writeArrayLoop body off len (total + dwNumBytesWritten) answers).after chunk (some written)
    else ⟨chunk, [some written], .returns⟩

/-- The streams give no slice that is not inside its array. -/
inductive WriteCall where
  | writeByte (b : Int32)
  | writeArray (b : List UInt8) (off len : Nat) (inside : off + len ≤ b.length)

def WriteCall.run (answers : FileAnswers) : WriteCall → WriteRun
  | .writeByte b => writeByteLoop findClass errorMsg b.toUInt32.toUInt8 answers
  | .writeArray b off len _ => writeArrayLoop findClass errorMsg b off len 0 answers

def WriteCall.data : WriteCall → List UInt8
  | .writeByte b => [b.toUInt32.toUInt8]
  | .writeArray b off len _ => (b.drop off).take len

/-- The calls of one thread; behind one that waits there is none yet. -/
def writer : Service WriteCall (Option Nat) WriteRun where
  serve call answers := call.run findClass errorMsg answers
  used := WriteRun.used
  stops run := run.ending = .waits

end

def acceptedBytes : FileAnswers → Nat
  | [] => 0
  | answer :: answers => answer.getD 0 + acceptedBytes answers

theorem acceptedBytes_cons (written : Nat) (answers : FileAnswers) :
    acceptedBytes (some written :: answers) = written + acceptedBytes answers := by
  simp [acceptedBytes]

/-- A call has sent what `WriteFile` took from the front of its bytes, and ends with the first
    `WriteFile` that fails or that leaves none. -/
structure Delivers (data : List UInt8) (run : WriteRun) : Prop where
  sent : run.sent = data.take (acceptedBytes run.used)
  returns : run.ending = .returns → none ∉ run.used ∧ data.length ≤ acceptedBytes run.used
  throws : ∀ pending, run.ending = .throws pending →
    run.used.getLast? = some none ∧ (acceptedBytes run.used < data.length ∨ data = [])
  waits : run.ending = .waits →
    none ∉ run.used ∧ (acceptedBytes run.used < data.length ∨ run.used = [])

structure Uses (answers : FileAnswers) (run : WriteRun) : Prop where
  first : run.used <+: answers
  all : run.ending = .waits → run.used = answers

structure Performs (data : List UInt8) (answers : FileAnswers) (run : WriteRun) : Prop where
  uses : Uses answers run
  delivers : Delivers data run

theorem Performs.none_yet (data : List UInt8) : Performs data [] ⟨[], [], .waits⟩ where
  uses := ⟨List.nil_prefix, fun _ => rfl⟩
  delivers :=
    { sent := rfl
      returns := nofun
      throws := nofun
      waits := fun _ => ⟨List.not_mem_nil, .inr rfl⟩ }

theorem Performs.failed (data : List UInt8) (answers : FileAnswers) (pending : Option Pending) :
    Performs data (none :: answers) ⟨[], [none], .throws pending⟩ where
  uses := ⟨⟨answers, rfl⟩, nofun⟩
  delivers :=
    { sent := rfl
      returns := nofun
      throws := by
        intro _ _
        refine ⟨rfl, ?_⟩
        cases data with
        | nil => exact .inr rfl
        | cons b data => exact .inl (Nat.succ_pos _)
      waits := nofun }

theorem Performs.complete {data : List UInt8} {written : Nat} (all : data.length ≤ written)
    (answers : FileAnswers) :
    Performs data (some written :: answers) ⟨data, [some written], .returns⟩ where
  uses := ⟨⟨answers, rfl⟩, nofun⟩
  delivers :=
    { sent := by simp [acceptedBytes, List.take_of_length_le all]
      returns := fun _ => ⟨by simp, by simpa [acceptedBytes] using all⟩
      throws := nofun
      waits := nofun }

theorem Performs.after {data : List UInt8} {written : Nat} {answers : FileAnswers} {run : WriteRun}
    (less : written < data.length) (rest : Performs (data.drop written) answers run) :
    Performs data (some written :: answers) (run.after (data.take written) (some written)) where
  uses :=
    ⟨by simpa [WriteRun.after] using rest.uses.first,
      fun waits => congrArg (some written :: ·) (rest.uses.all waits)⟩
  delivers :=
    { sent := by
        simp only [WriteRun.after, rest.delivers.sent, acceptedBytes_cons]
        rw [List.take_add]
      returns := by
        intro returns
        obtain ⟨accepted, all⟩ := rest.delivers.returns returns
        rw [List.length_drop] at all
        refine ⟨by simpa [WriteRun.after] using accepted, ?_⟩
        simp only [WriteRun.after, acceptedBytes_cons]
        omega
      throws := by
        intro pending throws
        obtain ⟨last, short⟩ := rest.delivers.throws pending throws
        have less_left : acceptedBytes run.used < data.length - written := by
          rcases short with short | empty
          · simpa using short
          · have none_left := List.drop_eq_nil_iff.mp empty
            omega
        refine ⟨?_, .inl ?_⟩
        · simp [WriteRun.after, List.getLast?_cons, last]
        · simp only [WriteRun.after, acceptedBytes_cons]
          omega
      waits := by
        intro waits
        obtain ⟨accepted, short⟩ := rest.delivers.waits waits
        refine ⟨by simpa [WriteRun.after] using accepted, .inl ?_⟩
        simp only [WriteRun.after, acceptedBytes_cons]
        rcases short with short | empty
        · rw [List.length_drop] at short
          omega
        · rw [empty]
          simpa [acceptedBytes] using less }

variable (findClass : String → Bool) (errorMsg : String)

theorem writeByteLoop_performs (bb : UInt8) (answers : FileAnswers) :
    Performs [bb] answers (writeByteLoop findClass errorMsg bb answers) := by
  induction answers with
  | nil => exact .none_yet [bb]
  | cons answer answers ih =>
    cases answer with
    | none => exact .failed [bb] answers _
    | some written =>
      rw [writeByteLoop]
      split_ifs with zero
      · subst zero
        exact @Performs.after [bb] 0 _ _ Nat.one_pos ih
      · exact .complete (Nat.one_le_iff_ne_zero.mpr zero) answers

theorem writeArrayLoop_performs {body : List UInt8} {off len : Nat}
    (inside : off + len ≤ body.length) (answers : FileAnswers) (total : Nat) :
    Performs ((body.drop (total + off)).take (len - total)) answers
      (writeArrayLoop findClass errorMsg body off len total answers) := by
  induction answers generalizing total with
  | nil => exact .none_yet _
  | cons answer answers ih =>
    cases answer with
    | none => exact .failed _ answers _
    | some written =>
      have length : ((body.drop (total + off)).take (len - total)).length = len - total := by
        rw [List.length_take, List.length_drop]
        omega
      rw [writeArrayLoop]
      split_ifs with more
      · have some_left : written < len - total := by omega
        have next := ih (total + written)
        rw [Nat.min_eq_left (Nat.le_of_lt some_left)]
        rw [show total + written + off = total + off + written by omega, ← List.drop_drop,
          Nat.sub_add_eq, ← List.drop_take] at next
        have whole := next.after (Nat.lt_of_lt_of_eq some_left length.symm)
        rwa [List.take_take, Nat.min_eq_left (Nat.le_of_lt some_left)] at whole
      · have all : len - total ≤ written := by omega
        rw [Nat.min_eq_right all]
        exact .complete (Nat.le_trans (Nat.le_of_eq length) all) answers

theorem WriteCall.performs (call : WriteCall) (answers : FileAnswers) :
    Performs call.data answers (call.run findClass errorMsg answers) := by
  cases call with
  | writeByte b => exact writeByteLoop_performs findClass errorMsg _ answers
  | writeArray b off len inside =>
    have performs := writeArrayLoop_performs findClass errorMsg inside answers 0
    rwa [Nat.zero_add] at performs

/-- Whatever `WriteFile` takes and wherever it fails, the bytes on the line are those of the calls in
    order, of each a front part: all of it where the call returns, less where it throws. A call
    waits for as long as `WriteFile` succeeds with less than the call was given, none included. -/
theorem writes_in_order (calls : List WriteCall) (answers : FileAnswers) :
    (writer findClass errorMsg).InOrder (fun call run => Delivers call.data run) calls answers
        ((writer findClass errorMsg).serveAll calls answers) ∧
      ∀ run ∈ (writer findClass errorMsg).serveAll calls answers, run.ending = .waits →
        ((writer findClass errorMsg).serveAll calls answers).flatMap WriteRun.used = answers := by
  have first (call : WriteCall) (answers : FileAnswers) :
      (call.run findClass errorMsg answers).used <+: answers :=
    (call.performs findClass errorMsg answers).uses.first
  constructor
  · apply (writer findClass errorMsg).serveAll_inOrder first
    intro call answers
    exact (call.performs findClass errorMsg answers).delivers
  · intro run member waits
    apply (writer findClass errorMsg).serveAll_used first ?_ member (decide_eq_true waits)
    intro call answers stops
    exact (call.performs findClass errorMsg answers).uses.all (of_decide_eq_true stops)

end Rxtx.WinCE
