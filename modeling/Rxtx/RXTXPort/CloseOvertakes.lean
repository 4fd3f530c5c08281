import Mathlib.Algebra.BigOperators.Group.Finset.Basic
import Mathlib.Algebra.Order.BigOperators.Group.Finset
import Rxtx.RXTXPort.CloseProtocol

open Runs

namespace Rxtx.RXTXPort

/-- A native call can be under way, or start without a test that a closed port would stop. -/
def Code.exposed : Code → Bool
  | .done => false
  | .test .fdZero holds _ => holds.exposed
  | .test .interrupted holds _ => holds.exposed
  | .test _ holds otherwise => holds.exposed || otherwise.exposed
  | .lock next | .unlock next | .await next => next.exposed
  | .native _ _ _ | .calling _ _ _ => true

def Code.held : Code → Nat
  | .done => 0
  | .test _ holds otherwise => max holds.held otherwise.held
  | .lock next => next.held - 1
  | .unlock next => next.held + 1
  | .await next => next.held
  | .native _ returns throws | .calling _ returns throws => max returns.held throws.held

def Pc.exposed : Pc → Bool
  | .io _ code => code.exposed
  | _ => false

def Pc.held : Pc → Nat
  | .io _ code => code.held
  | _ => 0

def Pc.calling : Pc → Bool
  | .io _ (.calling _ _ _) => true
  | _ => false

/-- From the test that found `IOLocked` zero to `fd = 0`. -/
def Pc.closing : Pc → Bool
  | .close .checkLock | .close .takeLock | .close .checkFd | .close .setDTR | .close .setDSR
  | .close .checkInterrupted | .close .removeEventListener | .close .nativeClose
  | .close .superClose | .close .resetFd => true
  | _ => false

def Pc.hasClosed : Pc → Bool
  | .close .superClose | .close .resetFd => true
  | _ => false

def Pc.hasInterrupted : Pc → Bool
  | .close .nativeClose | .close .superClose | .close .resetFd | .close .resetLock => true
  | _ => false

variable {T : Type} [DecidableEq T]

/-- The thread's next statement is its last test before a native call, and it passes. -/
def Shared.Crosses (s : Shared T) (thread : T) : Prop :=
  ∃ synchronized guard holds otherwise,
    s.pc thread = .io synchronized (.test guard holds otherwise) ∧
    (Code.test guard holds otherwise).exposed = false ∧
    (if guard.holds s then holds else otherwise).exposed = true

/-- `close` finds `IOLocked` zero only where every thread past its last test has counted it up, and
    no thread passes its last test from there to `fd = 0`. -/
def KeepsApart (s : Shared T) (label : CloseLabel T) : Prop :=
  match label with
  | .advance thread _ => s.pc thread = .close .test → s.ioLocked ≤ 0 →
      ∀ other, (s.pc other).exposed → 0 < (s.pc other).held
  | .run thread _ => (∃ other, (s.pc other).closing) → ¬ s.Crosses thread
  | _ => True

theorem lockedCall_held (call : NativeCall) (next : Code) :
    (lockedCall call next).held = next.held := by
  simp [lockedCall, Code.held]

theorem readSliceCode_code (call : NativeCall) (b : Option JByteArray) (off len : Int32)
    (next : Code) (quiet : next.exposed = false) :
    (readSliceCode call b off len next).exposed = false ∧
    (readSliceCode call b off len next).held = next.held := by
  simp only [readSliceCode, Code.exposed, quiet, Code.held]
  split <;> simp [Code.held, lockedCall_held]

theorem method_code (method : Method) : method.code.exposed = false ∧ method.code.held = 0 := by
  cases method with
  | read => simp [Method.code, readCode, Code.exposed, Code.held, lockedCall_held]
  | readBytes b =>
    cases b with
    | none => simp [Method.code, readBytesCode, Code.exposed, Code.held]
    | some array =>
      have inner := readSliceCode_code .readArray (some array) 0 array.length (.unlock .done) rfl
      simp [Method.code, readBytesCode, Code.exposed, Code.held, inner]
  | readSlice b off len => exact readSliceCode_code .readArray b off len .done rfl
  | readTerminated b off len => exact readSliceCode_code .readTerminatedArray b off len .done rfl
  | available => simp [Method.code, availableCode, Code.exposed, Code.held]
  | write args =>
    cases args with
    | int b => simp [Method.code, writeIntCode, Code.exposed, Code.held]
    | bytes b =>
      cases b <;>
        simp [Method.code, writeBytesCode, Code.exposed, Code.held, lockedCall_held]
    | slice b off len =>
      simp only [Method.code, writeSliceCode]
      split <;> simp [Code.exposed, Code.held, lockedCall_held]
  | flush => simp [Method.code, flushCode, Code.exposed, Code.held, lockedCall_held]

omit [DecidableEq T] in
theorem CodeStep.held {s : Shared T} {code next : Code} {count : Int}
    (step : CodeStep s code next count) : (next.held : Int) ≤ code.held + count := by
  cases step with
  | test guard holds otherwise =>
    split <;> simp only [Code.held] <;> omega
  | lock | unlock | await | native | returns | throws =>
    simp only [Code.held]
    omega

omit [DecidableEq T] in
theorem CodeStep.crosses {s : Shared T} {thread : T} {synchronized : Bool} {code next : Code}
    {count : Int} (step : CodeStep s code next count)
    (running : s.pc thread = .io synchronized code) (quiet : code.exposed = false)
    (exposed : next.exposed = true) : s.Crosses thread := by
  cases step with
  | test guard holds otherwise =>
    exact ⟨synchronized, guard, holds, otherwise, running, quiet, exposed⟩
  | lock next => simp [Code.exposed, exposed] at quiet
  | unlock next => simp [Code.exposed, exposed] at quiet
  | await next => simp [Code.exposed, exposed] at quiet
  | native call returns throws => simp [Code.exposed] at quiet
  | returns call returns throws => simp [Code.exposed] at quiet
  | throws call returns throws => simp [Code.exposed] at quiet

omit [DecidableEq T] in
theorem closed_stops {s : Shared T} (closed : s.fd = 0)
    (interrupted : s.monThreadisInterrupted = true) (thread : T) : ¬ s.Crosses thread := by
  intro crosses
  obtain ⟨synchronized, guard, holds, otherwise, -, quiet, passed⟩ := crosses
  cases guard with
  | fdZero =>
    simp only [Guard.holds, closed, decide_true, if_true] at passed
    simp [Code.exposed, passed] at quiet
  | interrupted =>
    simp only [Guard.holds, interrupted, if_true] at passed
    simp [Code.exposed, passed] at quiet
  | speedZero =>
    simp only [Code.exposed, Bool.or_eq_false_iff] at quiet
    split at passed <;> simp_all
  | thresholdZero =>
    simp only [Code.exposed, Bool.or_eq_false_iff] at quiet
    split at passed <;> simp_all

structure Apart (s : Shared T) : Prop where
  counted : ∀ threads : Finset T, ((∑ thread ∈ threads, (s.pc thread).held : Nat) : Int) ≤ s.ioLocked
  quiet : (∃ thread, (s.pc thread).closing) ∨ 0 < s.closes →
    ∀ thread, (s.pc thread).exposed = false
  interrupted : ∀ thread, (s.pc thread).hasInterrupted → s.monThreadisInterrupted = true
  shut : 0 < s.closes → s.monThreadisInterrupted = true ∧
    (s.fd = 0 ∨ ∃ thread, (s.pc thread).hasClosed)

omit [DecidableEq T] in
theorem Shared.Opened.apart {s : Shared T} (opened : s.Opened) : Apart s where
  counted := by simp [opened.idle, opened.ioLocked, Pc.held]
  quiet := by simp [opened.idle, Pc.exposed]
  interrupted := by simp [opened.idle, Pc.hasInterrupted]
  shut := by simp [opened.closes]

theorem counted_update {pc : T → Pc} {locked count : Int} {thread : T} {next : Pc}
    (counted : ∀ threads : Finset T, ((∑ t ∈ threads, (pc t).held : Nat) : Int) ≤ locked)
    (step : (next.held : Int) ≤ (pc thread).held + count) (threads : Finset T) :
    ((∑ t ∈ threads, (Function.update pc thread next t).held : Nat) : Int) ≤ locked + count := by
  have others : ∑ t ∈ threads.erase thread, (Function.update pc thread next t).held =
      ∑ t ∈ threads.erase thread, (pc t).held := by
    apply Finset.sum_congr rfl
    intro other member
    rw [Function.update_of_ne (Finset.ne_of_mem_erase member)]
  have bound := counted (insert thread (threads.erase thread))
  rw [Finset.sum_insert (Finset.notMem_erase thread threads)] at bound
  by_cases member : thread ∈ threads
  · rw [← Finset.add_sum_erase threads _ member, others, Function.update_self]
    omega
  · rw [← Finset.erase_eq_of_notMem member, others]
    omega

omit [DecidableEq T] in
theorem Apart.counted_one {s : Shared T} (apart : Apart s) (thread : T) :
    ((s.pc thread).held : Int) ≤ s.ioLocked := by
  have bound := apart.counted {thread}
  simpa using bound

section

variable {pc : T → Pc} {thread : T} {next : Pc} {property : Pc → Bool}

theorem exists_of_update (not : property next = false)
    (some : ∃ t, property (Function.update pc thread next t) = true) :
    ∃ t, property (pc t) = true := by
  obtain ⟨other, has⟩ := some
  by_cases same : other = thread
  · subst same
    simp [not] at has
  · rw [Function.update_of_ne same] at has
    exact ⟨other, has⟩

theorem update_of_exists (not : property (pc thread) = false)
    (some : ∃ t, property (pc t) = true) :
    ∃ t, property (Function.update pc thread next t) = true := by
  obtain ⟨other, has⟩ := some
  have away : other ≠ thread := by
    intro same
    rw [same, not] at has
    cases has
  exact ⟨other, by rwa [Function.update_of_ne away]⟩

theorem exists_update (has : property next = true) :
    ∃ t, property (Function.update pc thread next t) = true := by
  refine ⟨thread, ?_⟩
  rw [Function.update_self]
  exact has

theorem forall_update {P : Pc → Prop} (new : P next) (old : ∀ t, P (pc t)) (t : T) :
    P (Function.update pc thread next t) := by
  by_cases same : t = thread
  · rw [same, Function.update_self]
    exact new
  · rw [Function.update_of_ne same]
    exact old t

end

theorem Apart.shut_update {s : Shared T} (apart : Apart s) {thread : T}
    (not : (s.pc thread).hasClosed = false) (next : Pc) (some : 0 < s.closes) :
    s.monThreadisInterrupted = true ∧
      (s.fd = 0 ∨ ∃ t, (Function.update s.pc thread next t).hasClosed = true) :=
  ⟨(apart.shut some).1, (apart.shut some).2.imp id (update_of_exists not)⟩

theorem Apart.quiet_update {s : Shared T} (apart : Apart s) {thread : T} (next : Pc)
    (not : next.closing = false)
    (busy : (∃ t, (Function.update s.pc thread next t).closing = true) ∨ 0 < s.closes) :
    ∀ other, (s.pc other).exposed = false :=
  apart.quiet (busy.imp (exists_of_update not) id)

theorem Apart.io {s s' : Shared T} (apart : Apart s) (thread : T) {next : Pc} (count : Int)
    (before : ∀ stage, s.pc thread ≠ .close stage) (after : next.closing = false)
    (idle : next.hasInterrupted = false) (pcs : s'.pc = Function.update s.pc thread next)
    (held : (next.held : Int) ≤ (s.pc thread).held + count)
    (exposed : next.exposed = true → (s.pc thread).exposed = true ∨ s.Crosses thread)
    (keeps : (∃ other, (s.pc other).closing) → ¬ s.Crosses thread)
    (locked : s'.ioLocked = s.ioLocked + count) (fd : s'.fd = s.fd)
    (monThread : s'.monThreadisInterrupted = s.monThreadisInterrupted)
    (closes : s'.closes = s.closes) : Apart s' := by
  have notClosing : (s.pc thread).closing = false ∧ (s.pc thread).hasClosed = false := by
    cases at_ : s.pc thread with
    | close stage => exact absurd at_ (before stage)
    | idle | io => exact ⟨rfl, rfl⟩
  have closed : 0 < s.closes → ¬ s.Crosses thread := by
    intro some
    rcases (apart.shut some).2 with zero | ⟨other, hasClosed⟩
    · exact closed_stops zero (apart.shut some).1 thread
    · apply keeps
      refine ⟨other, ?_⟩
      revert hasClosed
      cases s.pc other with
      | close stage => cases stage <;> simp [Pc.hasClosed, Pc.closing]
      | idle | io => simp [Pc.hasClosed]
  constructor
  · intro threads
    rw [pcs, locked]
    exact counted_update apart.counted held threads
  · intro busy
    rw [pcs, closes] at busy
    have was : (∃ other, (s.pc other).closing) ∨ 0 < s.closes :=
      busy.imp (exists_of_update after) id
    have quiet := apart.quiet was
    rw [pcs]
    apply forall_update (P := fun pc => pc.exposed = false) _ quiet
    by_contra open_
    rcases exposed (by simpa using open_) with already | crosses
    · simp [quiet thread] at already
    · exact was.elim keeps closed crosses
  · rw [pcs, monThread]
    apply forall_update (P := fun pc => pc.hasInterrupted = true → _) _ apart.interrupted
    simp [idle]
  · intro some
    rw [closes] at some
    rw [pcs, monThread, fd]
    exact ⟨(apart.shut some).1, (apart.shut some).2.imp id (update_of_exists notClosing.2)⟩

theorem Apart.close {s s' : Shared T} (apart : Apart s) {thread : T} {next : Pc}
    (empty : next.held = 0) (hidden : next.exposed = false)
    (pcs : s'.pc = Function.update s.pc thread next) (locked : s'.ioLocked = s.ioLocked)
    (quiet : (∃ other, (s'.pc other).closing) ∨ 0 < s'.closes →
      ∀ other, (s.pc other).exposed = false)
    (monThread : s.monThreadisInterrupted = true → s'.monThreadisInterrupted = true)
    (interrupted : next.hasInterrupted = true → s'.monThreadisInterrupted = true)
    (shut : 0 < s'.closes → s'.monThreadisInterrupted = true ∧
      (s'.fd = 0 ∨ ∃ other, (s'.pc other).hasClosed)) : Apart s' := by
  constructor
  · intro threads
    have step : (next.held : Int) ≤ (s.pc thread).held + 0 := by
      rw [empty]
      omega
    have bound := counted_update apart.counted step threads
    rw [pcs, locked]
    omega
  · intro busy
    rw [pcs]
    exact forall_update (P := fun pc => pc.exposed = false) hidden (quiet busy)
  · intro other past
    rw [pcs] at past
    by_cases same : other = thread
    · rw [same, Function.update_self] at past
      exact interrupted past
    · rw [Function.update_of_ne same] at past
      exact monThread (apart.interrupted other past)
  · exact shut

theorem Apart.runClose {s s' : Shared T} (apart : Apart s) {thread : T} {interrupt : Bool}
    {stage : Stage} (closing : s.pc thread = .close stage)
    (keeps : s.pc thread = .close .test → s.ioLocked ≤ 0 →
      ∀ other, (s.pc other).exposed → 0 < (s.pc other).held)
    (taken : runClose s thread interrupt stage = some s') : Apart s' := by
  have shut (not : (s.pc thread).hasClosed = false) := apart.shut_update not
  have within (region : (s.pc thread).closing = true) := apart.quiet (.inl ⟨thread, region⟩)
  rw [closing] at shut within
  cases stage <;> simp only [RXTXPort.runClose] at taken
  case enter =>
    split_ifs at taken
    cases taken
    exact apart.close rfl rfl rfl rfl (apart.quiet_update _ rfl) id nofun (shut rfl _)
  case test =>
    cases taken
    by_cases locked : 0 < s.ioLocked
    · simp only [locked, if_true]
      exact apart.close rfl rfl rfl rfl (apart.quiet_update _ rfl) id nofun (shut rfl _)
    · simp only [locked, if_false]
      have zero : s.ioLocked ≤ 0 := by omega
      -- a thread past its last test holds the count up, and the count is zero
      have quiet (other : T) : (s.pc other).exposed = false := by
        by_contra open_
        have held := keeps closing zero other (by simpa using open_)
        have bound := apart.counted_one other
        omega
      exact apart.close rfl rfl rfl rfl (fun _ => quiet) id nofun (shut rfl _)
  case wait =>
    cases taken
    exact apart.close rfl rfl rfl rfl (apart.quiet_update _ rfl) id nofun (shut rfl _)
  case waiting =>
    split_ifs at taken <;> cases taken
    · exact apart.close rfl rfl rfl rfl (apart.quiet_update _ rfl) id nofun (shut rfl _)
    · exact apart.close rfl rfl rfl rfl (apart.quiet_update _ rfl) id nofun (shut rfl _)
  case checkLock =>
    split_ifs at taken <;> cases taken
    · exact apart.close rfl rfl rfl rfl (fun _ => within rfl) id nofun (shut rfl _)
    · exact apart.close rfl rfl rfl rfl (fun _ => within rfl) id nofun (shut rfl _)
  case takeLock =>
    cases taken
    exact apart.close rfl rfl rfl rfl (fun _ => within rfl) id nofun (shut rfl _)
  case checkFd =>
    cases taken
    split
    · exact apart.close rfl rfl rfl rfl (fun _ => within rfl) id nofun (shut rfl _)
    · exact apart.close rfl rfl rfl rfl (fun _ => within rfl) id nofun (shut rfl _)
  case setDTR =>
    cases taken
    exact apart.close rfl rfl rfl rfl (fun _ => within rfl) id nofun (shut rfl _)
  case setDSR =>
    cases taken
    exact apart.close rfl rfl rfl rfl (fun _ => within rfl) id nofun (shut rfl _)
  case checkInterrupted =>
    cases taken
    by_cases interrupted : s.monThreadisInterrupted = true
    · simp only [interrupted, if_true]
      exact apart.close rfl rfl rfl rfl (fun _ => within rfl) id (fun _ => interrupted) (shut rfl _)
    · simp only [interrupted]
      exact apart.close rfl rfl rfl rfl (fun _ => within rfl) id nofun (shut rfl _)
  case removeEventListener =>
    split_ifs at taken
    cases taken
    exact apart.close rfl rfl rfl rfl (fun _ => within rfl) (fun _ => rfl) (fun _ => rfl)
      (fun some => ⟨rfl, (shut rfl _ some).2⟩)
  case nativeClose =>
    cases taken
    have interrupted := apart.interrupted thread (by rw [closing]; rfl)
    exact apart.close rfl rfl rfl rfl (fun _ => within rfl) id (fun _ => interrupted)
      (fun _ => ⟨interrupted, .inr (exists_update rfl)⟩)
  case superClose =>
    cases taken
    have interrupted := apart.interrupted thread (by rw [closing]; rfl)
    exact apart.close rfl rfl rfl rfl (fun _ => within rfl) id (fun _ => interrupted)
      (fun _ => ⟨interrupted, .inr (exists_update rfl)⟩)
  case resetFd =>
    cases taken
    have interrupted := apart.interrupted thread (by rw [closing]; rfl)
    exact apart.close rfl rfl rfl rfl (fun _ => within rfl) id (fun _ => interrupted)
      (fun _ => ⟨interrupted, .inl rfl⟩)
  case resetLock =>
    cases taken
    exact apart.close rfl rfl rfl rfl (apart.quiet_update _ rfl) id nofun (shut rfl _)

theorem Apart.step {s s' : Shared T} {label : CloseLabel T} (apart : Apart s)
    (keeps : KeepsApart s label) (taken : closeStep label s = some s') : Apart s' := by
  cases closeStep_moves taken with
  | call thread method idle stream same =>
    subst same
    have code := method_code method
    have still : ¬ s.Crosses thread := by
      intro crosses
      obtain ⟨_, _, _, _, running, -⟩ := crosses
      rw [idle] at running
      cases running
    apply apart.io thread 0 (by simp [idle]) rfl rfl rfl
    · simp [Pc.held, code.2]
    · simp [Pc.exposed, code.1]
    · exact fun _ => still
    · exact (Int.add_zero _).symm
    · rfl
    · rfl
    · rfl
  | returned thread throws synchronized stream running same =>
    subst same
    apply apart.io thread 0 (by simp [running]) rfl rfl rfl
    · simp [Pc.held]
    · simp [Pc.exposed]
    · exact keeps
    · exact (Int.add_zero _).symm
    · rfl
    · rfl
    · rfl
  | ran thread throws synchronized code next count running step same =>
    subst same
    apply apart.io thread count (by simp [running]) rfl rfl rfl
    · rw [running]
      exact step.held
    · intro exposed
      by_cases already : code.exposed = true
      · left
        rw [running]
        exact already
      · right
        exact step.crosses running (by simpa using already) exposed
    · exact keeps
    · rfl
    · rfl
    · rfl
    · rfl
  | started label thread idle same =>
    subst same
    have notClosed : (s.pc thread).hasClosed = false := by rw [idle]; rfl
    exact apart.close rfl rfl rfl rfl (apart.quiet_update _ rfl) id nofun
      (apart.shut_update notClosed _)
  | stayed thread same =>
    rw [same]
    exact apart
  | advanced thread interrupt stage closing ran => exact apart.runClose closing keeps ran

/-- While `close` finds `IOLocked` zero only where every thread past its last test has counted it
    up, and no thread passes such a test from there to `fd = 0`, no native call is under way on a
    port that `nativeClose` has closed. -/
theorem close_overtakes_nothing {start s : Shared T} {labels : List (CloseLabel T)}
    (opened : start.Opened)
    (path : Path (Guarded KeepsApart (Takes closeStep)) start labels s) (closed : 0 < s.closes)
    (thread : T) : (s.pc thread).calling = false := by
  have apart := path.invariant Apart (fun _ _ _ before step => before.step step.1 step.2)
    opened.apart
  have quiet := apart.quiet (.inr closed) thread
  cases at_ : s.pc thread with
  | idle => rfl
  | close stage => rfl
  | io synchronized code =>
    rw [at_] at quiet
    cases code with
    | calling call returns throws => cases quiet
    | done | test | lock | unlock | await | native => rfl

omit [DecidableEq T] in
theorem keepsApart_of_quiet {s : Shared T} {thread : T} {interrupt : Bool}
    (quiet : ∀ other, (s.pc other).exposed = false) : KeepsApart s (.advance thread interrupt) := by
  intro _ _ other exposed
  rw [quiet other] at exposed
  cases exposed

theorem close_overtakes_nothing_of_a_flush :
    let start : Shared Bool :=
      ⟨5, 9600, 0, 0, false, false, false, none, none, 0, fun _ => .idle⟩
    let next : CloseLabel Bool := .advance false false
    ∃ s, Path (Guarded KeepsApart (Takes closeStep)) start
        ([.call true .flush, .close false] ++ List.replicate 10 next) s ∧
      s.closes = 1 ∧ (s.pc true).calling = false := by
  intro start next
  obtain ⟨s, path, closed⟩ : ∃ s, Path (Guarded KeepsApart (Takes closeStep)) start
      ([.call true .flush, .close false] ++ List.replicate 10 next) s ∧ s.closes = 1 := by
    refine ⟨?last, .cons ⟨trivial, rfl⟩ (.cons ⟨trivial, rfl⟩ ?path), ?closed⟩
    case path =>
      iterate 10 refine .cons ⟨keepsApart_of_quiet (Bool.rec rfl rfl), rfl⟩ ?_
      exact .nil _
    case closed => rfl
  have opened : start.Opened := ⟨rfl, rfl, rfl, rfl, fun _ => rfl⟩
  exact ⟨s, path, closed, close_overtakes_nothing opened path (by omega) true⟩

theorem close_overtakes_a_write :
    let start : Shared Bool :=
      ⟨5, 9600, 0, 0, false, false, false, none, none, 0, fun _ => .idle⟩
    let next : CloseLabel Bool := .advance false false
    let run : CloseLabel Bool := .run true false
    ∃ s, start.Opened ∧ Path (Takes closeStep) start
        ([.call true (.write (.bytes (some ⟨[65], by decide⟩))), run, run, run, .close false] ++
          List.replicate 10 next ++ [run, run, run]) s ∧
      s.closes = 1 ∧ (s.pc true).calling = true := by
  intro start next run
  have followed : ∃ s, follow closeStep
      ([.call true (.write (.bytes (some ⟨[65], by decide⟩))), run, run, run, .close false] ++
        List.replicate 10 next ++ [run, run, run]) start = some s ∧
      s.closes = 1 ∧ (s.pc true).calling = true := ⟨_, rfl, rfl, rfl⟩
  rcases followed with ⟨s, followed, closed, calling⟩
  exact ⟨s, ⟨rfl, rfl, rfl, rfl, fun _ => rfl⟩, follow_path followed, closed, calling⟩

end Rxtx.RXTXPort
