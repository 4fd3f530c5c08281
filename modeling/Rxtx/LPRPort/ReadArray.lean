import Rxtx.Library.Rounds
import Rxtx.LPRPort.Fields
import Rxtx.RXTXPort.FlowMode
import Rxtx.SerialImp.ReadByteArray

open Rounds
open Rxtx.RXTXPort (NativeException ioException throwJavaException)
open Rxtx.SerialImp (ReadResult Store sizeT ssizeMax)

namespace Rxtx.LPRPort

structure Timeval where
  sec : Int
  usec : Int
  deriving DecidableEq, Repr

def timevalOf (timeout : Int32) : Timeval :=
  ⟨timeout.toInt.tdiv 1000, 1000 * timeout.toInt.tmod 1000⟩

structure Select where
  given : Timeval
  result : Int
  deriving DecidableEq, Repr

/-- `interrupted` is what the selects broken by signals leave of their time, and `sleep` what the
    one behind them does. -/
structure Turn where
  interrupted : List Timeval
  select : Int
  sleep : Timeval
  read : ReadResult

def selectLoop (sleep : Timeval) (select : Int) : List Timeval → List Select
  | [] => [⟨sleep, select⟩]
  | left :: interrupted => ⟨sleep, -1⟩ :: selectLoop left select interrupted

structure ReadRun where
  bytes : Int
  buffer : List UInt8
  selects : List Select

def readLoop (length : Nat) (threshold timeout : Int32) (turns : Nat → Turn) (k : Nat)
    (sleep : Timeval) (buffer : List UInt8) (selects : List Select) : ReadRun :=
  if _h : buffer.length < length ∧ (buffer.length : Int) < threshold.toInt then
    let turn := turns k
    let selects :=
      if timeout > 0 then selects ++ selectLoop sleep turn.select turn.interrupted else selects
    if timeout > 0 ∧ turn.select = 0 then ⟨buffer.length, buffer, selects⟩
    else if timeout > 0 ∧ turn.select < 0 then ⟨-1, buffer, selects⟩
    else
      let sleep := if timeout > 0 then turn.sleep else sleep
      match turn.read with
      | .fails => ⟨-1, buffer, selects⟩
      | .gives data =>
        let chunk := data.take (length - buffer.length)
        if _empty : chunk = [] then ⟨buffer.length, buffer, selects⟩
        else readLoop length threshold timeout turns (k + 1) sleep (buffer ++ chunk) selects
  else ⟨buffer.length, buffer, selects⟩
termination_by length - buffer.length
decreasing_by
  have more : 0 < (data.take (length - buffer.length)).length := List.length_pos_iff.mpr _empty
  rw [List.length_append]
  omega

def readByteArray (length : Nat) (threshold timeout : Int32) (turns : Nat → Turn) : ReadRun :=
  readLoop length threshold timeout turns 0 (timevalOf timeout) [] []

structure ArrayRun where
  result : Int32
  pending : Option NativeException
  stores : List Store
  selects : List Select

/-- `timeout` is read from the field `threshold` too (`ParallelImp.c`). -/
def readArray (findClass : String → Bool) (errorMsg : String) (malloc : Bool) (p : Port)
    (turns : Nat → Turn) (offset length : Int32) : ArrayRun :=
  let threshold := p.getJavaVar "threshold"
  let timeout := p.getJavaVar "threshold"
  if sizeT length.toInt < 1 ∨ ssizeMax < sizeT length.toInt then
    ⟨-1, throwJavaException findClass ioException "readArray" "Invalid length", [], []⟩
  else if !malloc then
    ⟨-1, throwJavaException findClass ioException "readArray" "Unable to allocate buffer", [], []⟩
  else
    let run := readByteArray length.toInt.toNat threshold timeout turns
    if run.bytes < 0 then
      ⟨-1, throwJavaException findClass ioException "readArray" errorMsg, [], run.selects⟩
    else
      { result := if run.bytes ≠ 0 then Int32.ofInt run.bytes else -1
        pending := none
        stores := [⟨offset.toInt, run.buffer⟩]
        selects := run.selects }

/-- No error, no end of file and no read of no bytes. -/
structure Turn.Plain (turn : Turn) : Prop where
  select : 0 ≤ turn.select
  read : ∃ byte rest, turn.read = .gives (byte :: rest)

def Turn.gives (turn : Turn) (left : Nat) : List UInt8 :=
  match turn.read with
  | .fails => []
  | .gives data => data.take left

section

variable (length : Nat) (threshold : Int32) (turns : Nat → Turn)

def arrived : Nat → List UInt8
  | 0 => []
  | k + 1 => arrived k ++ (turns k).gives (length - (arrived k).length)

def Short (k : Nat) : Prop :=
  (arrived length turns k).length < length ∧
    ((arrived length turns k).length : Int) < threshold.toInt

def slept (start : Timeval) : Nat → Timeval
  | 0 => start
  | k + 1 => (turns k).sleep

def granted (start : Timeval) (k : Nat) : Timeval :=
  (turns k).interrupted.getLastD (slept turns start k)

def selectsUpTo (start : Timeval) (k : Nat) : List Select :=
  (List.range k).flatMap fun j =>
    selectLoop (slept turns start j) (turns j).select (turns j).interrupted

def GoesOn (k : Nat) : Prop := Short length threshold turns k ∧ (turns k).select ≠ 0

def Expires (k : Nat) : Prop := Last (fun k => (turns k).select ≠ 0) k

end

variable {length : Nat} {threshold timeout : Int32} {turns : Nat → Turn}

theorem selectsUpTo_succ (start : Timeval) (k : Nat) :
    selectsUpTo turns start (k + 1) = selectsUpTo turns start k ++
      selectLoop (slept turns start k) (turns k).select (turns k).interrupted := by
  simp [selectsUpTo, List.range_succ]

theorem expired_mem_selectLoop (given sleep : Timeval) (select : Int)
    (interrupted : List Timeval) :
    ⟨given, 0⟩ ∈ selectLoop sleep select interrupted ↔
      select = 0 ∧ given = interrupted.getLastD sleep := by
  induction interrupted generalizing sleep with
  | nil => simp [selectLoop, eq_comm, and_comm]
  | cons left interrupted ih =>
    simp only [selectLoop, List.mem_cons, Select.mk.injEq, ih, List.getLastD_cons]
    simp

theorem expired_mem_selectsUpTo (given start : Timeval) (k : Nat) :
    ⟨given, 0⟩ ∈ selectsUpTo turns start k ↔
      ∃ j < k, (turns j).select = 0 ∧ given = granted turns start j := by
  simp only [selectsUpTo, List.mem_flatMap, List.mem_range, expired_mem_selectLoop, granted]

theorem Turn.Plain.gives_pos {turn : Turn} (plain : turn.Plain) {left : Nat} (some : 0 < left) :
    turn.gives left ≠ [] := by
  obtain ⟨byte, rest, read⟩ := plain.read
  obtain ⟨left, rfl⟩ := Nat.exists_eq_add_one.mpr some
  simp [Turn.gives, read]

theorem Turn.gives_le (turn : Turn) (left : Nat) : (turn.gives left).length ≤ left := by
  unfold Turn.gives
  split
  · exact Nat.zero_le _
  · exact List.length_take_le _ _

theorem arrived_le (length : Nat) (turns : Nat → Turn) (k : Nat) :
    (arrived length turns k).length ≤ length := by
  induction k with
  | zero => exact Nat.zero_le _
  | succ k ih =>
    have more := (turns k).gives_le (length - (arrived length turns k).length)
    rw [arrived, List.length_append]
    omega

theorem arrived_mono (length : Nat) (turns : Nat → Turn) {j k : Nat} (order : j ≤ k) :
    (arrived length turns j).length ≤ (arrived length turns k).length := by
  induction k, order using Nat.le_induction with
  | base => exact Nat.le_refl _
  | succ k _ ih =>
    rw [arrived, List.length_append]
    omega

theorem readLoop_goesOn (on : timeout > 0) (start : Timeval) {k : Nat} (plain : (turns k).Plain)
    (more : GoesOn length threshold turns k) :
    readLoop length threshold timeout turns k (slept turns start k) (arrived length turns k)
        (selectsUpTo turns start k) =
      readLoop length threshold timeout turns (k + 1) (slept turns start (k + 1))
        (arrived length turns (k + 1)) (selectsUpTo turns start (k + 1)) := by
  obtain ⟨short, ready⟩ := more
  have bytes := plain.gives_pos (Nat.sub_pos_of_lt short.1)
  have succeeds : ¬ (turns k).select < 0 := Int.not_lt.mpr plain.select
  obtain ⟨byte, rest, read⟩ := plain.read
  rw [Turn.gives, read] at bytes
  simp only [] at bytes
  unfold Short at short
  rw [readLoop, dif_pos short]
  simp only [on, true_and, if_true, if_neg ready, if_neg succeeds, read, dif_neg bytes]
  rw [arrived, Turn.gives, read, selectsUpTo_succ, slept]

theorem readLoop_full (start : Timeval) {k : Nat} (full : ¬ Short length threshold turns k) :
    readLoop length threshold timeout turns k (slept turns start k) (arrived length turns k)
        (selectsUpTo turns start k) =
      ⟨(arrived length turns k).length, arrived length turns k, selectsUpTo turns start k⟩ := by
  unfold Short at full
  rw [readLoop, dif_neg full]

theorem readLoop_expires (on : timeout > 0) (start : Timeval) {k : Nat}
    (short : Short length threshold turns k) (expires : (turns k).select = 0) :
    readLoop length threshold timeout turns k (slept turns start k) (arrived length turns k)
        (selectsUpTo turns start k) =
      ⟨(arrived length turns k).length, arrived length turns k,
        selectsUpTo turns start (k + 1)⟩ := by
  unfold Short at short
  rw [readLoop, dif_pos short]
  simp only [on, true_and, if_true, if_pos expires]
  rw [selectsUpTo_succ]

theorem exists_lastTurn (length : Nat) (threshold : Int32) {turns : Nat → Turn}
    (plain : ∀ k, (turns k).Plain) : ∃ k, Last (GoesOn length threshold turns) k := by
  refine exists_last (fun k => (arrived length turns k).length) length ?_ ?_ <;> intro k more
  · have bytes := List.length_pos_iff.mpr ((plain k).gives_pos (Nat.sub_pos_of_lt more.1.1))
    simp only [arrived, List.length_append]
    omega
  · exact arrived_le length turns k

theorem readByteArray_ends (length : Nat) (threshold : Int32) (on : timeout > 0)
    (plain : ∀ k, (turns k).Plain) :
    (∃ k, ¬ Short length threshold turns k ∧ (∀ j < k, (turns j).select ≠ 0) ∧
      readByteArray length threshold timeout turns =
        ⟨(arrived length turns k).length, arrived length turns k,
          selectsUpTo turns (timevalOf timeout) k⟩) ∨
    ∃ k, Short length threshold turns k ∧ Expires turns k ∧
      readByteArray length threshold timeout turns =
        ⟨(arrived length turns k).length, arrived length turns k,
          selectsUpTo turns (timevalOf timeout) (k + 1)⟩ := by
  obtain ⟨k, last⟩ := exists_lastTurn length threshold plain
  have before : ∀ j < k, (turns j).select ≠ 0 := fun j earlier => (last.1 j earlier).2
  have step (j : Nat) (more : GoesOn length threshold turns j) :=
    readLoop_goesOn on (timevalOf timeout) (plain j) more
  by_cases short : Short length threshold turns k
  · have expires : (turns k).select = 0 := by
      by_contra ready
      exact last.2 ⟨short, ready⟩
    refine .inr ⟨k, short, ⟨before, not_not.mpr expires⟩, ?_⟩
    exact last.result step (readLoop_expires on _ short expires)
  · exact .inl ⟨k, short, before, last.result step (readLoop_full _ short)⟩

/-- A call that throws nothing and gives fewer bytes than are wanted has waited in a `select` for
    exactly the timeout, which is enabled. -/
def ObeysTimeout (p : Port) (length : Int32) (run : ArrayRun) : Prop :=
  run.pending = none → max run.result.toInt 0 < min length.toInt p.threshold.toInt →
    p.isReceiveTimeoutEnabled ∧ ⟨timevalOf p.timeout, 0⟩ ∈ run.selects

/-- When the first `select` expires, enough bytes have come in, or it was given the timeout. -/
def ExpiresRightly (p : Port) (length : Int32) (turns : Nat → Turn) : Prop :=
  ∀ k, Expires turns k →
    min length.toInt p.threshold.toInt ≤ (arrived length.toInt.toNat turns k).length ∨
      0 < p.timeout ∧ granted turns (timevalOf p.threshold) k = timevalOf p.timeout

theorem sizeT_of_some {length : Int32} (some : 1 ≤ length.toInt) :
    ¬ (sizeT length.toInt < 1 ∨ ssizeMax < sizeT length.toInt) := by
  have small := length.toInt_lt
  unfold sizeT ssizeMax
  omega

section

variable (findClass : String → Bool) (errorMsg : String) {p : Port} (offset : Int32)
  {length : Int32}

theorem readArray_noBuffer (found : findClass ioException = true) (some : 1 ≤ length.toInt) :
    ObeysTimeout p length (readArray findClass errorMsg false p turns offset length) := by
  intro quiet
  simp [readArray, sizeT_of_some some, throwJavaException, found] at quiet

theorem readArray_reads (some : 1 ≤ length.toInt) {k : Nat} {selects : List Select}
    (run : readByteArray length.toInt.toNat p.threshold p.threshold turns =
      ⟨(arrived length.toInt.toNat turns k).length, arrived length.toInt.toNat turns k, selects⟩) :
    (readArray findClass errorMsg true p turns offset length).pending = none ∧
      (readArray findClass errorMsg true p turns offset length).selects = selects ∧
      max (readArray findClass errorMsg true p turns offset length).result.toInt 0 =
        (arrived length.toInt.toNat turns k).length := by
  have small := length.toInt_lt
  have few := arrived_le length.toInt.toNat turns k
  have counted : ¬ ((arrived length.toInt.toNat turns k).length : Int) < 0 := by omega
  have field : p.getJavaVar "threshold" = p.threshold := rfl
  simp only [readArray, field, if_neg (sizeT_of_some some), Bool.not_true, Bool.false_eq_true,
    if_false, run, if_neg counted, true_and]
  split
  · rw [Int32.toInt_ofInt_of_le (by omega) (by omega)]
    omega
  next none =>
    have empty := not_not.mp none
    rw [empty]
    decide

theorem Port.Receives.obeys_iff (receives : p.Receives) (some : 1 ≤ length.toInt)
    (plain : ∀ k, (turns k).Plain) :
    ObeysTimeout p length (readArray findClass errorMsg true p turns offset length) ↔
      ExpiresRightly p length turns := by
  have on : p.threshold > 0 := Int32.lt_iff_toInt_lt.mpr receives.threshold
  rcases readByteArray_ends length.toInt.toNat p.threshold on plain with
    ⟨k, full, before, run⟩ | ⟨k, short, expires, run⟩
  · obtain ⟨-, -, counts⟩ := readArray_reads findClass errorMsg offset some run
    have enough : min length.toInt p.threshold.toInt ≤
        (arrived length.toInt.toNat turns k).length := by
      unfold Short at full
      omega
    apply iff_of_true
    · intro _ less
      omega
    · intro j expires
      have later : k ≤ j := by
        by_contra earlier
        exact expires.2 (before j (by omega))
      have more := arrived_mono length.toInt.toNat turns later
      exact .inl (by omega)
  · obtain ⟨pending, selects, counts⟩ := readArray_reads findClass errorMsg offset some run
    have less : ((arrived length.toInt.toNat turns k).length : Int) <
        min length.toInt p.threshold.toInt := by
      unfold Short at short
      omega
    rw [ObeysTimeout, selects, counts, expired_mem_selectsUpTo]
    constructor
    · intro obeys j expires'
      obtain rfl := expires.unique expires'
      obtain ⟨enabled, j, earlier, expired, given⟩ := obeys pending less
      have last : j = k := by
        by_contra other
        exact expires.1 j (by omega) expired
      subst last
      exact .inr ⟨of_decide_eq_true enabled, given.symm⟩
    · intro rightly _ _
      rcases rightly k expires with enough | ⟨enabled, given⟩
      · omega
      · exact ⟨decide_eq_true enabled, k, Nat.lt_succ_self k, not_not.mp expires.2, given.symm⟩

end

/-- The read obeys the timeout exactly where it has no buffer to read into, or the first `select` to
    expire comes after enough bytes or is given the timeout instead of the threshold. -/
theorem readArray_obeys_timeout_iff (findClass : String → Bool)
    (found : findClass ioException = true) (errorMsg : String) (malloc : Bool) (fd : Int32)
    (calls : List ReceiveCall) (turns : Nat → Turn) (plain : ∀ k, (turns k).Plain)
    (offset length : Int32) (some : 1 ≤ length.toInt) :
    ObeysTimeout (configured calls (Port.declared fd)) length
        (readArray findClass errorMsg malloc (configured calls (Port.declared fd)) turns offset
          length) ↔
      malloc = false ∨ ExpiresRightly (configured calls (Port.declared fd)) length turns := by
  cases malloc with
  | false =>
    exact iff_of_true (readArray_noBuffer findClass errorMsg offset found some) (.inl rfl)
  | true =>
    have receives := configured_receives calls (receives_declared fd)
    rw [receives.obeys_iff findClass errorMsg offset some plain]
    simp

def quietTurns : Nat → Turn := fun _ => ⟨[], 0, ⟨0, 0⟩, .gives [7]⟩

theorem quietTurns_plain (k : Nat) : (quietTurns k).Plain := ⟨Int.le_refl 0, 7, [], rfl⟩

theorem readArray_obeys_timeout_iff_forty :
    ObeysTimeout (configured [.enableTimeout 40, .enableThreshold 40] (Port.declared 5)) 64
        (readArray (fun _ => true) "" true
          (configured [.enableTimeout 40, .enableThreshold 40] (Port.declared 5)) quietTurns 0 64) ↔
      true = false ∨ ExpiresRightly
        (configured [.enableTimeout 40, .enableThreshold 40] (Port.declared 5)) 64 quietTurns :=
  readArray_obeys_timeout_iff (fun _ => true) rfl "" true 5
    [.enableTimeout 40, .enableThreshold 40] quietTurns quietTurns_plain 0 64 (by decide)

/-- With the timeout disabled the call gives up after a millisecond. -/
theorem readArray_not_obeys_timeout :
    ¬ ∀ (malloc : Bool) (fd : Int32) (calls : List ReceiveCall) (turns : Nat → Turn)
      (_ : ∀ k, (turns k).Plain) (offset length : Int32) (_ : 1 ≤ length.toInt),
      ObeysTimeout (configured calls (Port.declared fd)) length
        (readArray (fun _ => true) "" malloc (configured calls (Port.declared fd)) turns offset
          length) := by
  intro obeys
  have waits := obeys true 5 [] quietTurns quietTurns_plain 0 1 (by decide)
  have rightly := ((receives_declared 5).obeys_iff (fun _ => true) "" 0 (by decide)
    quietTurns_plain).mp waits
  have expires : Expires quietTurns 0 := ⟨fun _ none => absurd none (Nat.not_lt_zero _), by decide⟩
  exact absurd (rightly 0 expires) (by decide)

end Rxtx.LPRPort
