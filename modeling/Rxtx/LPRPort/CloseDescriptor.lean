import Rxtx.LPRPort.Fields

namespace Rxtx.LPRPort

structure World where
  port : Port
  closed : List Int32
  deriving DecidableEq, Repr

/-- `opened` is what the native `open` gives; the constructor throws where that fails. -/
def construct (opened : Int32) : Option World :=
  if opened < 0 then none else some ⟨Port.declared opened, []⟩

/-- The descriptor is read from the field again (`ParallelImp.c`). -/
def nativeClose (w : World) : World := { w with closed := w.closed ++ [w.port.getJavaVar "fd"] }

def removeEventListener (w : World) : World :=
  { w with port := { w.port with ppEventListener := false, monThread := false } }

def close (w : World) : World :=
  if w.port.fd < 0 then w
  else
    let w := removeEventListener (nativeClose w)
    { w with port := { w.port with fd := 0 } }

def finalize (w : World) : World := if w.port.fd > 0 then close w else w

inductive CloseCall where
  | close
  | finalize
  deriving DecidableEq, Repr

def CloseCall.run : CloseCall → World → World
  | .close => LPRPort.close
  | .finalize => LPRPort.finalize

def runCalls (calls : List CloseCall) (w : World) : World :=
  calls.foldl (fun w call => call.run w) w

theorem close_open {w : World} (isOpen : 0 < w.port.fd) :
    (close w).closed = w.closed ++ [w.port.fd] ∧ (close w).port.fd = 0 := by
  have valid : ¬ w.port.fd < 0 := by
    rw [Int32.lt_iff_toInt_lt] at isOpen ⊢
    exact Int.not_lt.mpr (Int.le_of_lt isOpen)
  rw [close, if_neg valid]
  exact ⟨rfl, rfl⟩

theorem close_closed {w : World} (isClosed : w.port.fd = 0) :
    (close w).closed = w.closed ++ [0] ∧ (close w).port.fd = 0 := by
  have valid : ¬ w.port.fd < 0 := by rw [isClosed]; decide
  rw [close, if_neg valid]
  exact ⟨by simp [removeEventListener, nativeClose, Port.getJavaVar, isClosed], rfl⟩

theorem finalize_closed {w : World} (isClosed : w.port.fd = 0) : finalize w = w := by
  have guard : ¬ w.port.fd > 0 := by rw [isClosed]; decide
  rw [finalize, if_neg guard]

theorem run_open (call : CloseCall) {w : World} (isOpen : 0 < w.port.fd) :
    (call.run w).closed = w.closed ++ [w.port.fd] ∧ (call.run w).port.fd = 0 := by
  cases call with
  | close => exact close_open isOpen
  | finalize =>
    rw [CloseCall.run, finalize, if_pos isOpen]
    exact close_open isOpen

theorem runCalls_closed (calls : List CloseCall) {w : World} (isClosed : w.port.fd = 0) :
    (runCalls calls w).closed = w.closed ++ List.replicate (calls.count .close) 0 := by
  induction calls generalizing w with
  | nil => simp [runCalls]
  | cons call calls ih =>
    show (runCalls calls (call.run w)).closed = _
    cases call with
    | close =>
      obtain ⟨closed, zero⟩ := close_closed isClosed
      rw [CloseCall.run, ih zero, closed, List.count_cons_self, List.replicate_succ,
        List.append_assoc, List.singleton_append]
    | finalize =>
      rw [CloseCall.run, finalize_closed isClosed, ih isClosed,
        List.count_cons_of_ne (by decide)]

/-- The descriptor is closed once and no other one is exactly where one call is made and every later
    one is a `finalize`. -/
theorem descriptor_closed_once_iff (fd : Int32) (isOpen : 0 < fd) (w : World)
    (constructed : construct fd = some w) (calls : List CloseCall) :
    (runCalls calls w).closed = [fd] ↔
      ∃ first rest, calls = first :: rest ∧ ∀ call ∈ rest, call = .finalize := by
  obtain rfl : ⟨Port.declared fd, []⟩ = w := by
    unfold construct at constructed
    split_ifs at constructed with negative
    · exact Option.some.inj constructed
  cases calls with
  | nil => simp [runCalls]
  | cons first rest =>
    obtain ⟨closed, zero⟩ := run_open first (w := ⟨Port.declared fd, []⟩) isOpen
    have all : (runCalls (first :: rest) ⟨Port.declared fd, []⟩).closed =
        [fd] ++ List.replicate (rest.count .close) 0 := by
      show (runCalls rest (first.run _)).closed = _
      rw [runCalls_closed rest zero, closed]
      rfl
    have none : (runCalls (first :: rest) ⟨Port.declared fd, []⟩).closed = [fd] ↔
        CloseCall.close ∉ rest := by
      rw [all, List.append_right_eq_self, List.replicate_eq_nil_iff, List.count_eq_zero]
    rw [none]
    constructor
    · intro absent
      refine ⟨first, rest, rfl, fun call member => ?_⟩
      cases call with
      | close => exact absurd member absent
      | finalize => rfl
    · rintro ⟨first', rest', same, finalizes⟩ member
      cases same
      cases finalizes _ member

theorem descriptor_closed_once_iff_collected :
    (runCalls [.close, .finalize] ⟨Port.declared 5, []⟩).closed = [5] ↔
      ∃ first rest, [CloseCall.close, .finalize] = first :: rest ∧
        ∀ call ∈ rest, call = .finalize :=
  descriptor_closed_once_iff 5 (by decide) ⟨Port.declared 5, []⟩ rfl [.close, .finalize]

/-- A second `close` closes descriptor 0. -/
theorem descriptor_not_closed_once :
    ¬ ∀ (fd : Int32), 0 < fd → ∀ w, construct fd = some w → ∀ calls : List CloseCall,
      calls ≠ [] → (runCalls calls w).closed = [fd] := by
  intro once
  have twice := once 5 (by decide) ⟨Port.declared 5, []⟩ rfl [.close, .close] (by decide)
  exact absurd twice (by decide)

end Rxtx.LPRPort
