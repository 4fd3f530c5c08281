import Mathlib.Algebra.Order.Ring.Int
import Mathlib.Data.List.Basic
import Mathlib.Tactic.Common

namespace Rxtx.SerialImp

/-- How a `read` call ends: a device gives at most the bytes asked for. -/
inductive ReadResult where
  | fails
  | gives (data : List UInt8)
  deriving DecidableEq, Repr

structure ReadTurn where
  now : Int
  select : Int
  read : ReadResult
  deriving DecidableEq, Repr

structure Store where
  index : Int
  data : List UInt8
  deriving DecidableEq, Repr

structure ReadState where
  bytes : Int
  left : Int
  stores : List Store
  deriving DecidableEq, Repr

/-- The buffer that native code reads into starts at index `buffer` of the Java array. -/
structure ReadRequest where
  buffer : Int
  length : Int
  timeout : Int
  start : Int

def readTurn (r : ReadRequest) (turn : ReadTurn) (s : ReadState) : Option Int × ReadState :=
  if 0 ≤ r.timeout ∧ r.timeout ≤ turn.now - r.start then (some s.bytes, s)
  else if turn.select = -1 then (some (-1), s)
  else if 0 < turn.select then
    match turn.read with
    | .fails => (some (-1), s) -- EINTR and EAGAIN end the call like any other error
    | .gives data =>
      let data := data.take s.left.toNat
      if data = [] then (none, s)
      else (none,
        { bytes := s.bytes + data.length
          left := s.left - data.length
          stores := s.stores ++ [⟨r.buffer + s.bytes, data⟩] })
  else (none, s)

def readLoop (r : ReadRequest) (turns : Nat → ReadTurn) : Nat → ReadState → Int × ReadState
  | 0, s => (s.bytes, s)
  | tries + 1, s =>
    if s.bytes < r.length then
      match readTurn r (turns (20 - (tries + 1))) s with
      | (some result, s) => (result, s)
      | (none, s) => readLoop r turns tries s
    else (s.bytes, s)

structure ReadRun where
  result : Int
  stores : List Store
  dataAvailable : Int
  deriving DecidableEq, Repr

/-- `eis->eventflags[SPE_DATA_AVAILABLE]` is 0 during the call and put back on every return. -/
def readByteArray (r : ReadRequest) (dataAvailable : Int) (turns : Nat → ReadTurn) : ReadRun :=
  let (result, s) := readLoop r turns 20 ⟨0, r.length, []⟩
  ⟨result, s.stores, dataAvailable⟩

def sizeT (n : Int) : Int := n % 2 ^ 64

def ssizeMax : Int := 2 ^ 63 - 1

inductive ReadEnd where
  | returns (bytes : Int)
  | throwsArrayIndexOutOfBounds (message : String)
  | throwsIOException (message : String)
  deriving DecidableEq, Repr

structure ReadArrayRun where
  stores : List Store
  dataAvailable : Int
  ending : ReadEnd
  deriving DecidableEq, Repr

def readArray (r : ReadRequest) (dataAvailable : Int) (turns : Nat → ReadTurn) : ReadArrayRun :=
  if ssizeMax < sizeT r.length ∨ sizeT r.length < 0 then
    ⟨[], dataAvailable, .throwsArrayIndexOutOfBounds "readArray"⟩
  else
    let run := readByteArray r dataAvailable turns
    { stores := run.stores
      dataAvailable := run.dataAvailable
      ending := if run.result < 0 then .throwsIOException "readArray" else .returns run.result }

structure Filled (r : ReadRequest) (s : ReadState) : Prop where
  nonneg : 0 ≤ s.bytes
  left : 0 ≤ s.left
  count : s.bytes + s.left = r.length
  stored : ∀ store ∈ s.stores,
    r.buffer ≤ store.index ∧ store.index + store.data.length ≤ r.buffer + s.bytes

theorem Filled.store {r : ReadRequest} {bytes left : Int} {stores : List Store}
    (filled : Filled r ⟨bytes, left, stores⟩) {data : List UInt8} (fits : data.length ≤ left) :
    Filled r ⟨bytes + data.length, left - data.length, stores ++ [⟨r.buffer + bytes, data⟩]⟩ := by
  rcases filled with ⟨nonneg, remaining, count, stored⟩
  simp only [] at nonneg remaining count stored
  refine ⟨?_, ?_, ?_, ?_⟩ <;> simp only []
  · omega
  · omega
  · omega
  · intro store member
    rcases List.mem_append.mp member with old | new
    · have bounds := stored store old
      omega
    · have isNew : store = ⟨r.buffer + bytes, data⟩ := List.mem_singleton.mp new
      subst isNew
      simp only []
      omega

theorem readTurn_filled {r : ReadRequest} {s : ReadState} (filled : Filled r s)
    (turn : ReadTurn) : Filled r (readTurn r turn s).2 := by
  unfold readTurn
  split_ifs
  · exact filled
  · exact filled
  · cases turn.read with
    | fails => exact filled
    | gives data =>
      have remaining := filled.left
      have fits : ((data.take s.left.toNat).length : Int) ≤ s.left := by
        rw [List.length_take]
        omega
      simp only []
      split_ifs
      · exact filled
      · exact filled.store fits
  · exact filled

theorem readLoop_filled {r : ReadRequest} (turns : Nat → ReadTurn) (tries : Nat) {s : ReadState}
    (filled : Filled r s) : Filled r (readLoop r turns tries s).2 := by
  induction tries generalizing s with
  | zero => exact filled
  | succ tries ih =>
    have next := readTurn_filled filled (turns (20 - (tries + 1)))
    unfold readLoop
    split_ifs
    · rcases turned : readTurn r (turns (20 - (tries + 1))) s with ⟨_ | result, s'⟩
      · rw [turned] at next
        exact ih next
      · rw [turned] at next
        exact next
    · exact filled

theorem length_of_sizeT {length : Int} (int : -2 ^ 31 ≤ length)
    (passed : ¬ (ssizeMax < sizeT length ∨ sizeT length < 0)) : 0 ≤ length := by
  unfold ssizeMax sizeT at passed
  omega

theorem sizeT_of_length {length : Int} (nonneg : 0 ≤ length) (int : length < 2 ^ 31) :
    ¬ (ssizeMax < sizeT length ∨ sizeT length < 0) := by
  unfold ssizeMax sizeT
  omega

theorem readArray_passed {r : ReadRequest} (dataAvailable : Int) (turns : Nat → ReadTurn)
    (passed : ¬ (ssizeMax < sizeT r.length ∨ sizeT r.length < 0)) :
    (readArray r dataAvailable turns).stores =
      (readLoop r turns 20 ⟨0, r.length, []⟩).2.stores := by
  simp only [readArray, if_neg passed, readByteArray]

theorem readArray_stores {r : ReadRequest} (int : -2 ^ 31 ≤ r.length) (dataAvailable : Int)
    (turns : Nat → ReadTurn) :
    ∀ store ∈ (readArray r dataAvailable turns).stores,
      r.buffer ≤ store.index ∧ store.index + store.data.length ≤ r.buffer + r.length := by
  intro store member
  by_cases passed : ssizeMax < sizeT r.length ∨ sizeT r.length < 0
  · simp [readArray, passed] at member
  · rw [readArray_passed dataAvailable turns passed] at member
    have nonneg := length_of_sizeT int passed
    have start : Filled r ⟨0, r.length, []⟩ := ⟨Int.le_refl 0, nonneg, by simp, by simp⟩
    have filled := readLoop_filled turns 20 start
    have bounds := filled.stored store member
    have count := filled.count
    have left := filled.left
    omega

end Rxtx.SerialImp
