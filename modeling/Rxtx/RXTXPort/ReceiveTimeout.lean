import Rxtx.RXTXPort.Fields

namespace Rxtx.RXTXPort

inductive TimeoutException where
  | io (function : String)
  | illegalArgument (text : String)
  deriving DecidableEq, Repr

/-- `vmin` and `vtime` are the two members of `c_cc` that the driver keeps for the port. -/
structure TimeoutPort where
  timeout : Int32
  threshold : Int32
  inputBuffer : Int32
  vmin : BitVec 8
  vtime : BitVec 8

structure TermiosCalls where
  tcgetattr : Bool
  tcsetattr : Bool

def allSucceed : TermiosCalls := ⟨true, true⟩

def opened (inputBuffer : Int32) : TimeoutPort := ⟨-1, 0, inputBuffer, 0, 0⟩

def vtimeOf (vtime : Int32) : BitVec 8 :=
  let timeout := if vtime < 0 then 0 else if vtime = 0 then 1 else vtime
  BitVec.ofInt 8 (timeout / 100).toInt

/-- The threshold and the buffer size are not used. -/
def nativeEnableReceiveTimeoutThreshold (calls : TermiosCalls) (vtime _threshold _buffer : Int32)
    (p : TimeoutPort) : Option TimeoutException × TimeoutPort :=
  if !calls.tcgetattr then (some (.io "TimeoutThreshold"), p)
  else if !calls.tcsetattr then (some (.io "TimeoutThreshold"), p)
  else (none, { p with vmin := 0, vtime := vtimeOf vtime })

def nativegetReceiveTimeout (calls : TermiosCalls) (p : TimeoutPort) :
    Except TimeoutException Int32 :=
  if !calls.tcgetattr then .error (.io "getReceiveTimeout")
  else .ok (Int32.ofNat p.vtime.toNat * 100)

def nativeisReceiveTimeoutEnabled (calls : TermiosCalls) (p : TimeoutPort) :
    Except TimeoutException Bool :=
  if !calls.tcgetattr then .error (.io "isReceiveTimeoutEnabled")
  else .ok (if p.vtime.toNat > 0 then true else false)

def disableReceiveTimeout (calls : TermiosCalls) (p : TimeoutPort) :
    Option TimeoutException × TimeoutPort :=
  let p := { p with timeout := -1 }
  nativeEnableReceiveTimeoutThreshold calls p.timeout p.threshold p.inputBuffer p

def enableReceiveTimeout (calls : TermiosCalls) (time : Int32) (p : TimeoutPort) :
    Option TimeoutException × TimeoutPort :=
  if 0 ≤ time then
    let p := { p with timeout := time }
    nativeEnableReceiveTimeoutThreshold calls time p.threshold p.inputBuffer p
  else (some (.illegalArgument "Unexpected negative timeout value"), p)

def enableReceiveThreshold (calls : TermiosCalls) (thresh : Int32) (p : TimeoutPort) :
    Option TimeoutException × TimeoutPort :=
  if 0 ≤ thresh then
    let p := { p with threshold := thresh }
    nativeEnableReceiveTimeoutThreshold calls p.timeout p.threshold p.inputBuffer p
  else (some (.illegalArgument "Unexpected negative threshold value"), p)

def isReceiveTimeoutEnabled (calls : TermiosCalls) (p : TimeoutPort) :
    Except TimeoutException Bool := nativeisReceiveTimeoutEnabled calls p

def getReceiveTimeout (calls : TermiosCalls) (p : TimeoutPort) : Except TimeoutException Int32 :=
  nativegetReceiveTimeout calls p

inductive TimeoutCall where
  | enableReceiveTimeout (time : Int32)
  | disableReceiveTimeout
  | enableReceiveThreshold (thresh : Int32)

def TimeoutCall.run (p : TimeoutPort) : TimeoutCall → TimeoutPort
  | .enableReceiveTimeout time => (RXTXPort.enableReceiveTimeout allSucceed time p).2
  | .disableReceiveTimeout => (RXTXPort.disableReceiveTimeout allSucceed p).2
  | .enableReceiveThreshold thresh => (RXTXPort.enableReceiveThreshold allSucceed thresh p).2

/-- The time of the last timeout call, where that was an enable. An enable that throws is none. -/
def lastTimeout : Option Int32 → TimeoutCall → Option Int32
  | last, .enableReceiveTimeout time => if 0 ≤ time then some time else last
  | _, .disableReceiveTimeout => none
  | last, .enableReceiveThreshold _ => last

def ReadsBack (last : Option Int32) (p : TimeoutPort) : Prop :=
  isReceiveTimeoutEnabled allSucceed p = .ok last.isSome ∧
    ∀ time, last = some time → getReceiveTimeout allSucceed p = .ok time

structure Holds (last : Option Int32) (p : TimeoutPort) : Prop where
  timeout : p.timeout = last.getD (-1)
  vtime : p.vtime = vtimeOf p.timeout
  nonneg : ∀ time, last = some time → 0 ≤ time

theorem Holds.run {last : Option Int32} {p : TimeoutPort} (holds : Holds last p)
    (c : TimeoutCall) : Holds (lastTimeout last c) (c.run p) := by
  cases c with
  | disableReceiveTimeout => exact ⟨rfl, rfl, by simp [lastTimeout]⟩
  | enableReceiveTimeout time =>
    by_cases valid : 0 ≤ time
    · simp only [lastTimeout, TimeoutCall.run, enableReceiveTimeout, if_pos valid]
      refine ⟨rfl, rfl, ?_⟩
      intro other same
      cases same
      exact valid
    · simpa only [lastTimeout, TimeoutCall.run, enableReceiveTimeout, if_neg valid] using holds
  | enableReceiveThreshold thresh =>
    by_cases valid : 0 ≤ thresh
    · simp only [lastTimeout, TimeoutCall.run, enableReceiveThreshold, if_pos valid]
      exact ⟨holds.timeout, rfl, holds.nonneg⟩
    · simpa only [lastTimeout, TimeoutCall.run, enableReceiveThreshold, if_neg valid] using holds

theorem Holds.runs {last : Option Int32} {p : TimeoutPort} (holds : Holds last p)
    (calls : List TimeoutCall) :
    Holds (calls.foldl lastTimeout last) (calls.foldl TimeoutCall.run p) := by
  induction calls generalizing last p with
  | nil => exact holds
  | cons c calls ih => exact ih (holds.run c)

theorem vtimeOf_toNat {time : Int32} (nonneg : 0 ≤ time) :
    ((vtimeOf time).toNat : Int) = time.toInt / 100 % 256 := by
  have order : 0 ≤ time.toInt := Int32.le_iff_toInt_le.mp nonneg
  have notBelow : ¬ time < 0 := by
    rw [Int32.lt_iff_toInt_lt]
    exact not_lt.mpr order
  by_cases zero : time = 0
  · subst zero
    decide
  · have quotient : (time / 100).toInt = time.toInt / 100 := by
      rw [Int32.toInt_div_of_ne_right _ _ (by decide)]
      exact Int.tdiv_eq_ediv_of_nonneg order
    have byte : (BitVec.ofInt 8 (time / 100).toInt).toNat = (time.toInt / 100 % 256).toNat := by
      rw [BitVec.toNat_ofInt, quotient]
      rfl
    simp only [vtimeOf, if_neg notBelow, if_neg zero, byte]
    omega

theorem getReceiveTimeout_toInt (p : TimeoutPort) :
    ∃ time, getReceiveTimeout allSucceed p = .ok time ∧ time.toInt = p.vtime.toNat * 100 := by
  have small := p.vtime.isLt
  refine ⟨Int32.ofNat p.vtime.toNat * 100, rfl, ?_⟩
  have number : (Int32.ofNat p.vtime.toNat).toInt = p.vtime.toNat :=
    Int32.toInt_ofNat_of_lt (by omega)
  rw [Int32.toInt_mul, number, show (100 : Int32).toInt = 100 by decide]
  exact Int.bmod_eq_of_le (by omega) (by omega)

theorem readsBack_some_iff {time : Int32} (nonneg : 0 ≤ time) {p : TimeoutPort}
    (vtime : p.vtime = vtimeOf time) :
    ReadsBack (some time) p ↔
      100 ∣ time.toInt ∧ 100 ≤ time.toInt ∧ time.toInt ≤ 25500 := by
  have byte := vtimeOf_toNat nonneg
  rw [← vtime] at byte
  obtain ⟨got, reads, value⟩ := getReceiveTimeout_toInt p
  have enabled : isReceiveTimeoutEnabled allSucceed p = .ok (some time).isSome ↔
      0 < p.vtime.toNat := by
    show Except.ok (if p.vtime.toNat > 0 then true else false) = Except.ok true ↔ _
    split_ifs with above
    · exact iff_of_true rfl above
    · exact iff_of_false (by simp) above
  have same : (∀ other, some time = some other → getReceiveTimeout allSucceed p = .ok other) ↔
      got.toInt = time.toInt := by
    rw [reads]
    constructor
    · intro all
      rw [Except.ok.inj (all time rfl)]
    · intro equal other isTime
      cases isTime
      rw [Int32.toInt_inj.mp equal]
  rw [ReadsBack, enabled, same, value]
  constructor
  · intro readsBack
    omega
  · intro exact
    omega

/-- After every sequence of calls the timeout reads back exactly where it is disabled or enabled
    with a multiple of 100 from 100 to 25500. -/
theorem receive_timeout_reads_back_iff (inputBuffer : Int32) (calls : List TimeoutCall) :
    ReadsBack (calls.foldl lastTimeout none) (calls.foldl TimeoutCall.run (opened inputBuffer)) ↔
      ∀ time, calls.foldl lastTimeout none = some time →
        100 ∣ time.toInt ∧ 100 ≤ time.toInt ∧ time.toInt ≤ 25500 := by
  have never : vtimeOf (-1) = 0 := by decide
  have start : Holds none (opened inputBuffer) := ⟨rfl, never.symm, by simp⟩
  have holds := start.runs calls
  cases last : calls.foldl lastTimeout none with
  | none =>
    have timeout := holds.timeout
    have vtime := holds.vtime
    rw [timeout, last] at vtime
    have disabled : (calls.foldl TimeoutCall.run (opened inputBuffer)).vtime.toNat = 0 := by
      rw [vtime]
      decide
    have readsBack : ReadsBack none (calls.foldl TimeoutCall.run (opened inputBuffer)) := by
      refine ⟨?_, by simp⟩
      show Except.ok (if _ then true else false) = _
      rw [disabled]
      rfl
    exact iff_of_true readsBack (by simp)
  | some time =>
    have timeout := holds.timeout
    rw [last] at timeout
    have vtime := holds.vtime
    rw [timeout] at vtime
    rw [readsBack_some_iff (holds.nonneg time last) vtime]
    constructor
    · intro range other same
      cases same
      exact range
    · intro all
      exact all time rfl

/-- A timeout of 50 ms reads back as disabled, and one of 25700 ms as one of 100 ms. -/
theorem receive_timeout_not_read_back :
    ¬ (∀ (inputBuffer : Int32) (calls : List TimeoutCall),
      ReadsBack (calls.foldl lastTimeout none)
        (calls.foldl TimeoutCall.run (opened inputBuffer))) ∧
      getReceiveTimeout allSucceed (TimeoutCall.run (opened 0) (.enableReceiveTimeout 25700)) =
        .ok 100 := by
  refine ⟨?_, rfl⟩
  intro readsBack
  have enabled := (readsBack 0 [.enableReceiveTimeout 50]).1
  have disabled : isReceiveTimeoutEnabled allSucceed
      (TimeoutCall.run (opened 0) (.enableReceiveTimeout 50)) = .ok false := rfl
  exact absurd (disabled.symm.trans enabled) (by simp [lastTimeout])

end Rxtx.RXTXPort
