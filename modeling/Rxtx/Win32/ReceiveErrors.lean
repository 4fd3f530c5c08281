import Mathlib.Data.List.ReduceOption
import Mathlib.Data.Nat.ModEq
import Rxtx.SerialImp.ReportEvents

open FlagWord Sampled Rxtx.SerialImp
open Rxtx.RXTXPort (EventType)

namespace Rxtx.Win32

/-- The errors that `ClearErrors` counts; it leaves overruns out. -/
inductive ReceiveError where
  | frame | parity | brk
  deriving DecidableEq, Repr

def ReceiveError.flag : ReceiveError → BitVec 32
  | .frame => 0x0008
  | .parity => 0x0004
  | .brk => 0x0010

def ReceiveError.counter : ReceiveError → ErrorCounter
  | .frame => .frame
  | .parity => .parity
  | .brk => .brk

def ReceiveError.within (error : ReceiveError) (errCode : BitVec 32) : Bool :=
  errCode &&& error.flag ≠ 0

def ReceiveError.take (error : ReceiveError) (errCode : BitVec 32) (sis : Icounter) :
    BitVec 32 × Icounter :=
  if error.within errCode then (clear errCode error.flag, sis.increment error.counter)
  else (errCode, sis)

/-- `clearCommError` is the error word, or none where `ClearCommError` fails; `sis` is the count
    that the port keeps. -/
def clearErrors (clearCommError : Option (BitVec 32)) (sis : Icounter) : Int × Icounter :=
  match clearCommError with
  | none => (0, sis)
  | some errCode =>
    let (errCode, sis) := ReceiveError.frame.take errCode sis
    let (errCode, sis) := ReceiveError.parity.take errCode sis
    let (_, sis) := ReceiveError.brk.take errCode sis
    (1, sis)

def putCounter (sistruct : Icounter) (value : BitVec 32) : ErrorCounter → Icounter
  | .frame => { sistruct with frame := value }
  | .overrun => { sistruct with overrun := value }
  | .parity => { sistruct with parity := value }
  | .brk => { sistruct with brk := value }

def copyCounter (counter : ErrorCounter) (sis sistruct : Icounter) : Icounter :=
  if sistruct.get counter ≠ sis.get counter then putCounter sistruct (sis.get counter) counter
  else sistruct

def copyIcount (sis sistruct : Icounter) : Icounter :=
  let sistruct := copyCounter .frame sis sistruct
  let sistruct := copyCounter .overrun sis sistruct
  let sistruct := copyCounter .parity sis sistruct
  copyCounter .brk sis sistruct

/-- `ioctl( fd, TIOCGICOUNT, sistruct )`, which clears the errors on entry and once more for the
    request. It gives none where it returns -1. -/
def tiocgicount (entry request : Option (BitVec 32)) (sistruct sis : Icounter) :
    Option Icounter × Icounter :=
  let (ret, sis) := clearErrors entry sis
  if ret = 0 then (none, sis)
  else
    let (ret, sis) := clearErrors request sis
    if ret = 0 then (none, sis) else (some (copyIcount sis sistruct), sis)

structure ReceiveState where
  sis : Icounter
  eis : EventInfo

/-- A read, a select or another `ioctl` with what the driver answers to each of its `ClearErrors`,
    or a poll of `check_cgi_count`. -/
inductive ReceiveCall where
  | driver (answers : List (Option (BitVec 32)))
  | poll (entry request : Option (BitVec 32))

def countPoll (icount : Option Icounter) : Poll := ⟨false, none, icount, none, (0, 0)⟩

def ReceiveState.init (entry request : Option (BitVec 32)) (opening : Opening)
    (s : ReceiveState) : Bool × ReceiveState :=
  let (icount, sis) := tiocgicount entry request s.eis.osis s.sis
  let (has, eis) := driverHasTiocgicount { opening with icount } s.eis
  (has, ⟨sis, eis⟩)

def ReceiveState.step (s : ReceiveState) : ReceiveCall → ReceiveState
  | .driver answers => { s with
      sis := answers.foldl (fun sis answer => (clearErrors answer sis).2) s.sis }
  | .poll entry request =>
    let (icount, sis) := tiocgicount entry request s.eis.osis s.sis
    ⟨sis, checkCgiCount (countPoll icount) s.eis⟩

def ReceiveState.run (calls : List ReceiveCall) (s : ReceiveState) : ReceiveState :=
  calls.foldl ReceiveState.step s

/-- The error words that `ClearCommError` returns; after a failure the poll does not ask again. -/
def ReceiveCall.returned : ReceiveCall → List (BitVec 32)
  | .driver answers => answers.reduceOption
  | .poll none _ => []
  | .poll (some errCode) request => errCode :: request.toList

theorem take_get (error other : ReceiveError) (errCode : BitVec 32) (sis : Icounter) :
    (error.take errCode sis).2.get other.counter = sis.get other.counter +
      BitVec.ofNat 32 (if other = error ∧ error.within errCode then 1 else 0) := by
  unfold ReceiveError.take
  split
  next set =>
    rw [Icounter.get_increment]
    cases error <;> cases other <;> simp [ReceiveError.counter, set]
  next unset => simp [unset]

theorem take_within {error other : ReceiveError} (differ : other ≠ error) (errCode : BitVec 32)
    (sis : Icounter) : other.within (error.take errCode sis).1 = other.within errCode := by
  have apart : Apart error.flag other.flag := by
    revert differ
    cases error <;> cases other <;> decide
  unfold ReceiveError.take
  split
  · unfold ReceiveError.within
    rw [clear_and_apart errCode apart]
  · rfl

theorem clearErrors_get (error : ReceiveError) (answer : Option (BitVec 32)) (sis : Icounter) :
    (clearErrors answer sis).2.get error.counter = sis.get error.counter +
      BitVec.ofNat 32 (answer.toList.countP error.within) := by
  cases answer with
  | none => simp [clearErrors]
  | some errCode =>
    simp only [clearErrors, take_get, Option.toList_some]
    cases error with
    | frame => simp [List.countP_cons]
    | parity => simp [List.countP_cons, take_within]
    | brk => simp [List.countP_cons, take_within]

theorem clearAll_get (error : ReceiveError) (answers : List (Option (BitVec 32)))
    (sis : Icounter) :
    (answers.foldl (fun sis answer => (clearErrors answer sis).2) sis).get error.counter =
      sis.get error.counter +
        BitVec.ofNat 32 (answers.reduceOption.countP error.within) := by
  induction answers generalizing sis with
  | nil => simp
  | cons answer answers ih =>
    rw [List.foldl_cons, ih, clearErrors_get, BitVec.add_assoc, ← BitVec.ofNat_add]
    cases answer with
    | none => simp
    | some errCode =>
      rw [List.reduceOption_cons_of_some, List.countP_cons, Option.toList_some,
        List.countP_singleton, Nat.add_comm]

theorem copyCounter_get (counter other : ErrorCounter) (sis sistruct : Icounter) :
    (copyCounter counter sis sistruct).get other =
      if other = counter then sis.get counter else sistruct.get other := by
  unfold copyCounter
  split
  · cases counter <;> cases other <;> rfl
  next same =>
    rw [not_not] at same
    split
    next equal => rw [equal, same]
    · rfl

theorem copyIcount_get (sis sistruct : Icounter) (counter : ErrorCounter) :
    (copyIcount sis sistruct).get counter = sis.get counter := by
  cases counter <;> simp [copyIcount, copyCounter_get]

theorem clearErrors_failed (answer : Option (BitVec 32)) (sis : Icounter) :
    (clearErrors answer sis).1 = 0 ↔ answer = none := by
  cases answer <;> simp [clearErrors]

theorem tiocgicount_get (entry request : Option (BitVec 32)) (sistruct sis : Icounter) :
    (∀ error : ReceiveError,
      (tiocgicount entry request sistruct sis).2.get error.counter = sis.get error.counter +
        BitVec.ofNat 32 ((ReceiveCall.poll entry request).returned.countP error.within)) ∧
    ((tiocgicount entry request sistruct sis).1 = none ∨
      ∃ icount, (tiocgicount entry request sistruct sis).1 = some icount ∧
        ∀ counter, icount.get counter =
          (tiocgicount entry request sistruct sis).2.get counter) := by
  cases entry with
  | none => simp [tiocgicount, clearErrors, ReceiveCall.returned]
  | some errCode =>
    have cleared (error : ReceiveError) :
        (clearErrors request (clearErrors (some errCode) sis).2).2.get error.counter =
          sis.get error.counter +
            BitVec.ofNat 32 ((errCode :: request.toList).countP error.within) := by
      rw [clearErrors_get, clearErrors_get, BitVec.add_assoc, ← BitVec.ofNat_add,
        ← List.countP_append]
      rfl
    have entered : (clearErrors (some errCode) sis).1 ≠ 0 :=
      mt (clearErrors_failed _ _).mp (by simp)
    cases request with
    | none =>
      have fails := (clearErrors_failed none (clearErrors (some errCode) sis).2).mpr rfl
      simp only [tiocgicount, entered, fails, if_true, if_false]
      exact ⟨cleared, .inl trivial⟩
    | some second =>
      have passes : (clearErrors (some second) (clearErrors (some errCode) sis).2).1 ≠ 0 :=
        mt (clearErrors_failed _ _).mp (by simp)
      simp only [tiocgicount, entered, passes, if_false]
      exact ⟨cleared, .inr ⟨_, rfl, fun counter => copyIcount_get _ _ counter⟩⟩

structure Tallied (error : ReceiveError) (start : ReceiveState) (flags : Nat)
    (s : ReceiveState) : Prop where
  counted : s.sis.get error.counter =
    start.eis.osis.get error.counter + BitVec.ofNat 32 flags
  sent : ∃ sent, s.eis.callsOf error.counter.event =
      start.eis.callsOf error.counter.event + sent ∧
    s.eis.osis.get error.counter = start.eis.osis.get error.counter + BitVec.ofNat 32 sent

theorem init_tallied {entry request : Option (BitVec 32)} {opening : Opening}
    {before start : ReceiveState}
    (initialised : before.init entry request opening = (true, start)) (error : ReceiveError) :
    Tallied error start 0 start := by
  have handed := (tiocgicount_get entry request before.eis.osis before.sis).2
  unfold ReceiveState.init at initialised
  simp only [] at initialised
  rcases handed with none | ⟨icount, some, whole⟩
  · simp [none, driverHasTiocgicount] at initialised
  · simp only [some, driverHasTiocgicount, Prod.mk.injEq, true_and] at initialised
    subst initialised
    refine ⟨?_, 0, by simp, by simp⟩
    rw [BitVec.add_zero]
    exact (whole error.counter).symm

theorem checkCgiCount_sent (icount : Icounter) (counter : ErrorCounter) (eis : EventInfo) :
    (checkCgiCount (countPoll (some icount)) eis).callsOf counter.event =
      eis.callsOf counter.event + distance (eis.osis.get counter) (icount.get counter) :=
  checkCgiCount_callsOf _ _ _

theorem step_tallied {error : ReceiveError} {start s : ReceiveState} {flags : Nat}
    (tallied : Tallied error start flags s) (call : ReceiveCall) :
    Tallied error start (flags + call.returned.countP error.within) (s.step call) := by
  obtain ⟨sent, calls, seen⟩ := tallied.sent
  cases call with
  | driver answers =>
    constructor
    · simp only [ReceiveState.step, ReceiveCall.returned, clearAll_get, tallied.counted,
        BitVec.add_assoc, BitVec.ofNat_add]
    · exact ⟨sent, calls, seen⟩
  | poll entry request =>
    obtain ⟨adds, handed⟩ := tiocgicount_get entry request s.eis.osis s.sis
    constructor
    · simp only [ReceiveState.step, adds, tallied.counted, BitVec.add_assoc, BitVec.ofNat_add]
    · simp only [ReceiveState.step]
      rcases handed with none | ⟨icount, some, -⟩
      · rw [none]
        exact ⟨sent, calls, seen⟩
      · rw [some]
        refine ⟨sent + distance (s.eis.osis.get error.counter) (icount.get error.counter), ?_, ?_⟩
        · rw [checkCgiCount_sent, calls, Nat.add_assoc]
        · rw [BitVec.ofNat_add, ← BitVec.add_assoc, ← seen, add_distance]
          rfl

theorem run_tallied {error : ReceiveError} {start s : ReceiveState} {flags : Nat}
    (tallied : Tallied error start flags s) (calls : List ReceiveCall) :
    Tallied error start (flags + (calls.flatMap ReceiveCall.returned).countP error.within)
      (s.run calls) := by
  induction calls generalizing s flags with
  | nil => exact tallied
  | cons call calls ih =>
    have rest := ih (step_tallied tallied call)
    rw [Nat.add_assoc, ← List.countP_append, ← List.flatMap_cons] at rest
    exact rest

theorem poll_seen (s : ReceiveState) (first second : BitVec 32) (counter : ErrorCounter) :
    (s.step (.poll (some first) (some second))).eis.osis.get counter =
      (s.step (.poll (some first) (some second))).sis.get counter := by
  have handed := (tiocgicount_get (some first) (some second) s.eis.osis s.sis).2
  simp only [ReceiveState.step]
  rcases handed with none | ⟨icount, some, whole⟩
  · simp [tiocgicount, clearErrors] at none
  · rw [some]
    exact whole counter

theorem Tallied.events {error : ReceiveError} {start s : ReceiveState} {flags : Nat}
    (tallied : Tallied error start flags s)
    (seen : s.eis.osis.get error.counter = s.sis.get error.counter) :
    ∃ sent, s.eis.callsOf error.counter.event =
      start.eis.callsOf error.counter.event + sent ∧ sent ≡ flags [MOD 2 ^ 32] := by
  obtain ⟨sent, calls, shown⟩ := tallied.sent
  refine ⟨sent, calls, ?_⟩
  rw [tallied.counted, shown] at seen
  have same := congrArg BitVec.toNat (add_left_cancel seen)
  simp only [BitVec.toNat_ofNat] at same
  exact same

/-- Up to and including a poll that succeeds, one event is sent for each error flag that
    `ClearCommError` has returned since the struct was initialised. -/
theorem receive_errors_reported (error : ReceiveError) (entry request : Option (BitVec 32))
    (opening : Opening) (before start : ReceiveState)
    (initialised : before.init entry request opening = (true, start)) (calls : List ReceiveCall)
    (first second : BitVec 32) :
    ∃ sent, (start.run (calls ++ [ReceiveCall.poll (some first) (some second)])).eis.callsOf
        error.counter.event = start.eis.callsOf error.counter.event + sent ∧
      sent ≡ ((calls ++ [ReceiveCall.poll (some first) (some second)]).flatMap
        ReceiveCall.returned).countP error.within [MOD 2 ^ 32] := by
  have tallied := run_tallied (init_tallied initialised error)
    (calls ++ [ReceiveCall.poll (some first) (some second)])
  rw [Nat.zero_add] at tallied
  apply tallied.events
  rw [ReceiveState.run, List.foldl_append]
  exact poll_seen _ first second error.counter

def afterFrameError : ReceiveState :=
  ⟨Icounter.zero.increment .frame, ⟨3, fun _ => false, false, 0, 0, 0, true, false, 0, true, false,
    false, false, .zero, [], []⟩⟩

theorem receive_errors_reported_twice :
    ∃ start, afterFrameError.init (some 0) (some 0) ⟨3, true, none, none, true⟩ = (true, start) ∧
      ∃ sent, (start.run [.driver [some 0x18, none], .poll (some 0) (some 0x8)]).eis.callsOf .fe =
          start.eis.callsOf .fe + sent ∧ sent ≡ 2 [MOD 2 ^ 32] := by
  obtain ⟨start, initialised⟩ : ∃ start, afterFrameError.init (some 0) (some 0)
      ⟨3, true, none, none, true⟩ = (true, start) := ⟨_, rfl⟩
  exact ⟨start, initialised, receive_errors_reported .frame (some 0) (some 0) _ afterFrameError
    start initialised [.driver [some 0x18, none]] 0 0x8⟩

end Rxtx.Win32
