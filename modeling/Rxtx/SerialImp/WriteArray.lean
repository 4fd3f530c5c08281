import Mathlib.Data.List.Basic
import Mathlib.Tactic.Common

namespace Rxtx.SerialImp

inductive Errno where
  | eintr
  | other (code : Int)
  deriving DecidableEq, Repr

/-- How a `write` call ends. A device takes no more bytes than it is offered. -/
inductive WriteResult where
  | accepts (bytes : Nat)
  | fails (errno : Errno)
  deriving DecidableEq, Repr

structure WriteEvents where
  fd : Int
  writing : Bool
  deriving DecidableEq, Repr

/-- `tiocsergetlsr` is what `#ifndef TIOCSERGETLSR` tests, and `masterIndex` lists the structs from
    `master_index` along `next`. -/
structure WriteContext where
  tiocsergetlsr : Bool
  fd : Int
  masterIndex : List WriteEvents

/-- The walk stops at the descriptor or at the last struct; without any it dereferences NULL. -/
def markWriting (fd : Int) : List WriteEvents → Option (List WriteEvents)
  | [] => none
  | [index] => some [{ index with writing := true }]
  | index :: next :: rest =>
    if index.fd = fd then some ({ index with writing := true } :: next :: rest)
    else (markWriting fd (next :: rest)).map (index :: ·)

/-- Where the loop stands: `result` and `errno` of the last call, `total`, and the chunks that
    the device took. -/
structure WriteLoop where
  result : Int
  errno : Option Errno
  total : Nat
  chunks : List (List UInt8)
  deriving DecidableEq, Repr

def writeOnce (body : List UInt8) (offset count : Nat) (s : WriteLoop) : WriteResult → WriteLoop
  | .accepts bytes =>
    let result := min bytes (count - s.total)
    { result := Int.ofNat result
      errno := s.errno
      total := s.total + result
      chunks := s.chunks ++ [(body.drop (s.total + offset)).take result] }
  | .fails errno => { s with result := -1, errno := some errno }

def writeAgain (count : Nat) (s : WriteLoop) : Bool :=
  s.total < count && (s.result < 0 && s.errno = some .eintr)

/-- The `do`-`while` loop; `none` while the last `write` has not come back. -/
def writeLoop (body : List UInt8) (offset count : Nat) : WriteLoop → List WriteResult →
    Option WriteLoop
  | _, [] => none
  | s, r :: results =>
    let s := writeOnce body offset count s r
    if writeAgain count s then writeLoop body offset count s results else some s

inductive WriteEnd where
  | returns (masterIndex : List WriteEvents)
  | throwsIOException (message : String) (errno : Option Errno)
  | nullDereference
  deriving DecidableEq, Repr

structure WriteRun where
  chunks : List (List UInt8)
  ending : WriteEnd
  deriving DecidableEq, Repr

def writeArray (context : WriteContext) (body : List UInt8) (offset count : Nat)
    (interrupted : Bool) (results : List WriteResult) : Option WriteRun := do
  let s ← writeLoop body offset count ⟨0, none, 0, []⟩ results
  if s.result < 0 then return ⟨s.chunks, .throwsIOException "writeArray" s.errno⟩
  if context.tiocsergetlsr || interrupted then return ⟨s.chunks, .returns context.masterIndex⟩
  match markWriting context.fd context.masterIndex with
  | none => return ⟨s.chunks, .nullDereference⟩
  | some masterIndex => return ⟨s.chunks, .returns masterIndex⟩

/-- The first result that does not ask for another try. -/
def firstAnswer (results : List WriteResult) : Option WriteResult :=
  results.find? fun r => r ≠ .fails .eintr

def MarksNull (context : WriteContext) (interrupted : Bool) : Prop :=
  context.tiocsergetlsr = false ∧ interrupted = false ∧ context.masterIndex = []

theorem markWriting_none {fd : Int} {structs : List WriteEvents} :
    markWriting fd structs = none ↔ structs = [] := by
  induction structs with
  | nil => simp [markWriting]
  | cons index rest ih =>
    cases rest with
    | nil => simp [markWriting]
    | cons next rest =>
      unfold markWriting
      split
      · simp
      · simpa using ih

def Sent (body : List UInt8) (offset count : Nat) (s : WriteLoop) : Prop :=
  s.chunks.flatten = (body.drop offset).take s.total ∧ s.total ≤ count

theorem writeOnce_sent {body : List UInt8} {offset count : Nat} {s : WriteLoop}
    (sent : Sent body offset count s) (r : WriteResult) :
    Sent body offset count (writeOnce body offset count s r) := by
  rcases sent with ⟨flat, bound⟩
  cases r with
  | fails errno => exact ⟨flat, bound⟩
  | accepts bytes =>
    have inside : s.total + min bytes (count - s.total) ≤ count := by omega
    refine ⟨?_, inside⟩
    simp only [writeOnce, List.flatten_append, List.flatten_cons, List.flatten_nil,
      List.append_nil, flat]
    rw [List.take_add, List.drop_drop, Nat.add_comm s.total offset]

theorem writeLoop_sent {body : List UInt8} {offset count : Nat} {s final : WriteLoop}
    {results : List WriteResult} (sent : Sent body offset count s)
    (ends : writeLoop body offset count s results = some final) : Sent body offset count final := by
  induction results generalizing s with
  | nil => cases ends
  | cons r results ih =>
    have next := writeOnce_sent sent r
    simp only [writeLoop] at ends
    split_ifs at ends
    · exact ih next ends
    · cases ends
      exact next

theorem writeLoop_first (body : List UInt8) (offset : Nat) {count : Nat} (some : 0 < count)
    {s : WriteLoop} (none : s.total = 0) (results : List WriteResult) :
    (writeLoop body offset count s results).map (fun s => (decide (s.result < 0), s.total)) =
      (firstAnswer results).map fun
        | .accepts bytes => (false, min bytes count)
        | .fails _ => (true, 0) := by
  induction results generalizing s with
  | nil => rfl
  | cons r results ih =>
    cases r with
    | accepts bytes =>
      have done : writeAgain count (writeOnce body offset count s (.accepts bytes)) = false := by
        have positive : ¬ Int.ofNat (min bytes (count - s.total)) < 0 := by
          exact Int.not_lt.mpr (Int.natCast_nonneg _)
        simp only [writeAgain, writeOnce, positive, decide_false, Bool.false_and, Bool.and_false]
      have stops : writeLoop body offset count s (.accepts bytes :: results) =
          Option.some (writeOnce body offset count s (.accepts bytes)) := by
        simp only [writeLoop, done, Bool.false_eq_true, if_false]
      rw [stops]
      simp [writeOnce, none, firstAnswer]
    | fails errno =>
      cases errno with
      | eintr =>
        have again : writeAgain count (writeOnce body offset count s (.fails .eintr)) = true := by
          simp [writeAgain, writeOnce, none, some]
        simp only [writeLoop, again, if_true]
        rw [ih (by simpa [writeOnce] using none)]
        simp [firstAnswer]
      | other code => simp [writeLoop, writeOnce, writeAgain, firstAnswer, none]

theorem writeArray_of_loop (context : WriteContext) {body : List UInt8} {offset count : Nat}
    (interrupted : Bool) {results : List WriteResult} {s : WriteLoop}
    (loop : writeLoop body offset count ⟨0, none, 0, []⟩ results = some s) :
    ∃ run, writeArray context body offset count interrupted results = some run ∧
      run.chunks = s.chunks ∧ ((∃ structs, run.ending = .returns structs) ↔
        0 ≤ s.result ∧ ¬ MarksNull context interrupted) := by
  have atNull : markWriting context.fd context.masterIndex = none ↔ context.masterIndex = [] :=
    markWriting_none
  simp only [writeArray, loop, Option.bind_eq_bind, Option.bind_some, MarksNull]
  split_ifs with negative quiet
  · refine ⟨_, rfl, rfl, ?_⟩
    simp
    omega
  · have noMark : ¬ (context.tiocsergetlsr = false ∧ interrupted = false ∧
        context.masterIndex = []) := by
      intro marks
      rcases marks with ⟨lacks, events, -⟩
      simp [lacks, events] at quiet
    refine ⟨_, rfl, rfl, ?_⟩
    simp [noMark]
    omega
  · have loud : context.tiocsergetlsr = false ∧ interrupted = false := by simpa using quiet
    cases marked : markWriting context.fd context.masterIndex with
    | none =>
      refine ⟨_, rfl, rfl, ?_⟩
      simp [loud, atNull.mp marked]
    | some structs =>
      have listed : context.masterIndex ≠ [] := fun empty => by simp [atNull.mpr empty] at marked
      refine ⟨_, rfl, rfl, ?_⟩
      simp [listed]
      omega

/-- Whenever the call returns, all bytes have been taken, exactly when the first `write` that is not
    interrupted is not cut short, or the call cannot return. -/
theorem writeArray_no_byte_lost_iff (context : WriteContext) (body : List UInt8)
    (offset count : Nat) (interrupted : Bool) (results : List WriteResult)
    (inside : offset + count ≤ body.length) :
    (∀ run structs, writeArray context body offset count interrupted results = some run →
      run.ending = .returns structs → run.chunks.flatten = (body.drop offset).take count) ↔
    (∀ bytes, firstAnswer results = some (.accepts bytes) → count ≤ bytes) ∨
      MarksNull context interrupted := by
  have start : Sent body offset count ⟨0, none, 0, []⟩ := ⟨by simp, Nat.zero_le _⟩
  have fresh : WriteLoop.total ⟨0, none, 0, []⟩ = 0 := rfl
  constructor
  · intro kept
    by_contra broken
    obtain ⟨cut, notNull⟩ := not_or.mp broken
    push Not at cut
    rcases cut with ⟨bytes, first, short⟩
    have some : 0 < count := by omega
    have loop := writeLoop_first body offset some fresh results
    rw [first, Option.map_some, Option.map_eq_some_iff] at loop
    rcases loop with ⟨s, loop, answer⟩
    simp only [Prod.mk.injEq, decide_eq_false_iff_not] at answer
    obtain ⟨run, ends, chunks, returned⟩ := writeArray_of_loop context interrupted loop
    obtain ⟨structs, ending⟩ := returned.mpr ⟨by omega, notNull⟩
    have all := kept run structs ends ending
    rw [chunks, (writeLoop_sent start loop).1] at all
    have lengths := congrArg List.length all
    simp only [List.length_take, List.length_drop] at lengths
    omega
  · intro whole run structs ends ending
    obtain ⟨s, loop, -⟩ := Option.bind_eq_some_iff.mp ends
    obtain ⟨run', ends', chunks, returned⟩ := writeArray_of_loop context interrupted loop
    rw [ends] at ends'
    cases ends'
    obtain ⟨success, notNull⟩ := returned.mp ⟨structs, ending⟩
    have enough := whole.resolve_right notNull
    obtain ⟨flat, bound⟩ := writeLoop_sent start loop
    rw [chunks, flat]
    rcases Nat.eq_zero_or_pos count with rfl | some
    · rw [Nat.le_zero.mp bound]
    · have first := writeLoop_first body offset some fresh results
      rw [loop, Option.map_some, eq_comm, Option.map_eq_some_iff] at first
      rcases first with ⟨answer, isFirst, effect⟩
      cases answer with
      | accepts bytes =>
        have total : min bytes count = s.total := (Prod.mk.inj effect).2
        have notCut := enough bytes isFirst
        rw [← total, Nat.min_eq_right notCut]
      | fails errno =>
        have negative := (Prod.mk.inj effect).1
        simp at negative
        omega

theorem writeArray_no_byte_lost_iff_interrupted :
    (∀ run structs, writeArray ⟨true, 3, []⟩ [1, 2, 3, 4, 5] 1 3 true
        [.fails .eintr, .accepts 3] = some run →
      run.ending = .returns structs → run.chunks.flatten = ([1, 2, 3, 4, 5].drop 1).take 3) ↔
    (∀ bytes, firstAnswer [.fails .eintr, .accepts 3] = some (.accepts bytes) → 3 ≤ bytes) ∨
      MarksNull ⟨true, 3, []⟩ true :=
  writeArray_no_byte_lost_iff ⟨true, 3, []⟩ [1, 2, 3, 4, 5] 1 3 true [.fails .eintr, .accepts 3]
    (by decide)

/-- Five bytes to write, of which the device takes three: the call returns. -/
theorem writeArray_loses_bytes :
    ¬ ∀ (context : WriteContext) (body : List UInt8) (offset count : Nat) (interrupted : Bool)
      (results : List WriteResult) (run : WriteRun) (structs : List WriteEvents),
      offset + count ≤ body.length →
      writeArray context body offset count interrupted results = some run →
      run.ending = .returns structs → run.chunks.flatten = (body.drop offset).take count := by
  intro kept
  have chunks := kept ⟨true, 3, []⟩ [1, 2, 3, 4, 5] 0 5 true [.accepts 3]
    ⟨[[1, 2, 3]], .returns []⟩ [] (by decide) (by decide) rfl
  revert chunks
  decide

end Rxtx.SerialImp
