import Mathlib.Data.Fintype.Basic
import Rxtx.Library.Runs

open Runs

namespace Rxtx.SerialImp

inductive Tcdrain where
  | zero | eintr | failed
  deriving DecidableEq, Repr

/-- Where `drain_loop` stands: at its `tcdrain`, or at one of its accesses to the flags. -/
inductive DrainStage where
  | tcdrain | testWriting | setFlag | clearWriting | ended
  deriving DecidableEq, Repr

inductive LoopStage where
  | testFlag | testEvent | sendEvent | clearFlag
  deriving DecidableEq, Repr

inductive CallStage where
  | idle
  | written (interrupted : Bool)
  | tcdrain (interrupted : Bool) (count : Nat)
  | testWriting | clearWriting | clearFlag | testEvent | sendEvent
  deriving DecidableEq, Repr

/-- The port's driver, the fields of `event_info_struct` and the threads; from `wrote` on, what an
    observer records. -/
structure Output (T : Type) where
  queue : Nat
  writing : Bool
  outputBufferEmptyFlag : Bool
  outputBufferEmptyEvent : Bool
  drainLoop : DrainStage
  eventLoop : LoopStage
  call : T → CallStage
  /-- A write has set `writing`. -/
  wrote : Bool
  /-- The queue has been empty since the last write that set `writing`. -/
  drained : Bool
  /-- An event has been sent since the last completed write. -/
  reported : Bool
  premature : Bool
  duplicate : Bool

inductive OutputLabel (T : Type) where
  | transmit (count : Nat)
  | write (thread : T) (count : Nat) (interrupted : Bool)
  | nativeDrain (thread : T) (interrupted : Bool)
  | advance (thread : T) (reply : Tcdrain)
  | drainLoop (reply : Tcdrain)
  | eventLoop

variable {T : Type} [DecidableEq T]

def Output.goto (s : Output T) (thread : T) (stage : CallStage) : Output T :=
  { s with call := Function.update s.call thread stage }

theorem goto_call (s : Output T) (thread other : T) (stage : CallStage) :
    (s.goto thread stage).call other = if other = thread then stage else s.call other :=
  Function.update_apply s.call thread stage other

def Output.report (s : Output T) : Output T :=
  { s with duplicate := s.duplicate || s.reported, reported := true }

def Output.canReply (s : Output T) (reply : Tcdrain) : Bool := reply ≠ .zero || s.queue = 0

def runDrainLoop (reply : Tcdrain) (s : Output T) : Option (Output T) :=
  match s.drainLoop with
  | .tcdrain =>
    if s.canReply reply then
      match reply with
      | .zero => some { s with drainLoop := .testWriting }
      | .eintr => some s
      | .failed => some { s with drainLoop := .ended }
    else none
  | .testWriting => some { s with drainLoop := if s.writing then .setFlag else .tcdrain }
  | .setFlag => some { s with outputBufferEmptyFlag := true, drainLoop := .clearWriting }
  | .clearWriting => some { s with writing := false, drainLoop := .tcdrain }
  | .ended => none

def runEventLoop (s : Output T) : Output T :=
  match s.eventLoop with
  | .testFlag => if s.outputBufferEmptyFlag then { s with eventLoop := .testEvent } else s
  | .testEvent =>
    { s with eventLoop := if s.outputBufferEmptyEvent then .sendEvent else .testFlag }
  | .sendEvent =>
    { s.report with premature := s.premature || !s.drained, eventLoop := .clearFlag }
  | .clearFlag => { s with outputBufferEmptyFlag := false, eventLoop := .testFlag }

def runCall (thread : T) (reply : Tcdrain) (s : Output T) : Option (Output T) :=
  match s.call thread with
  | .idle => none
  | .written interrupted =>
    if interrupted then some { s.goto thread .idle with reported := false }
    else some { s.goto thread .idle with
      writing := true, wrote := true, drained := s.queue = 0, reported := false }
  | .tcdrain interrupted count =>
    if s.canReply reply then
      if reply = .eintr ∧ count + 1 < 3 then some (s.goto thread (.tcdrain interrupted (count + 1)))
      else some (s.goto thread (if interrupted then .idle else .testWriting))
    else none
  | .testWriting => some (s.goto thread (if s.writing then .clearWriting else .testEvent))
  | .clearWriting => some { s.goto thread .clearFlag with writing := false }
  | .clearFlag => some { s.goto thread .testEvent with outputBufferEmptyFlag := false }
  | .testEvent => some (s.goto thread (if s.outputBufferEmptyEvent then .sendEvent else .idle))
  | .sendEvent => some (s.goto thread .idle).report

def outputStep (label : OutputLabel T) (s : Output T) : Option (Output T) :=
  match label with
  | .transmit count =>
    if count ≤ s.queue then
      some { s with queue := s.queue - count, drained := s.drained || (s.wrote && s.queue = count) }
    else none
  | .write thread count interrupted =>
    if s.call thread = .idle then
      some { s.goto thread (.written interrupted) with queue := s.queue + count }
    else none
  | .nativeDrain thread interrupted =>
    if s.call thread = .idle then some (s.goto thread (.tcdrain interrupted 0)) else none
  | .advance thread reply => runCall thread reply s
  | .drainLoop reply => runDrainLoop reply s
  | .eventLoop => some (runEventLoop s)

structure Output.Fresh (s : Output T) : Prop where
  writing : s.writing = false
  flag : s.outputBufferEmptyFlag = false
  drainLoop : s.drainLoop = .tcdrain
  eventLoop : s.eventLoop = .testFlag
  call : ∀ thread, s.call thread = .idle
  wrote : s.wrote = false
  reported : s.reported = false
  premature : s.premature = false
  duplicate : s.duplicate = false

def CallStage.cleared : CallStage → Bool
  | .clearFlag | .testEvent | .sendEvent => true
  | _ => false

def CallStage.tested (stage : CallStage) : Bool := stage = .clearWriting || stage.cleared

def Output.Pending (s : Output T) : Prop :=
  s.eventLoop = .testEvent ∨ s.eventLoop = .sendEvent ∨
    (s.outputBufferEmptyFlag = true ∧ s.eventLoop ≠ .clearFlag)

/-- A write sets `writing` only where no event is on its way and, between the `tcdrain` of
    `drain_loop` and its flag, the queue is empty. `nativeDrain` tests `writing` only where no event
    is on its way and one is due. `drain_loop` does not test it before `nativeDrain` clears it. -/
def KeepsOrder (s : Output T) : OutputLabel T → Prop
  | .advance thread _ =>
    (s.call thread = .written false →
      (s.drainLoop = .testWriting ∨ s.drainLoop = .setFlag → s.queue = 0) ∧ ¬ s.Pending ∧
        (s.drainLoop ≠ .clearWriting → ∀ other, (s.call other).cleared = false)) ∧
    (s.call thread = .testWriting →
      s.drainLoop ≠ .setFlag ∧ ¬ s.Pending ∧ (∀ other, (s.call other).tested = false) ∧
        (s.writing = true ∧ s.drainLoop ≠ .clearWriting ∨ s.reported = false))
  | .drainLoop _ => s.drainLoop = .testWriting → ∀ other, s.call other ≠ .clearWriting
  | _ => True

instance (s : Output T) : Decidable s.Pending := inferInstanceAs (Decidable (_ ∨ _ ∨ _))

instance [Fintype T] (s : Output T) : (label : OutputLabel T) → Decidable (KeepsOrder s label)
  | .advance _ _ => inferInstanceAs (Decidable (_ ∧ _))
  | .drainLoop _ => inferInstanceAs (Decidable (_ → _))
  | .transmit _ | .write _ _ _ | .nativeDrain _ _ | .eventLoop => inferInstanceAs (Decidable True)

inductive OutputMoves (s : Output T) : Output T → Prop
  | still : OutputMoves s s
  | transmit (count : Nat) (queued : count ≤ s.queue) :
      OutputMoves s { s with
        queue := s.queue - count, drained := s.drained || (s.wrote && s.queue = count) }
  | outside (thread : T) (stage : CallStage) (count : Nat)
      (before : (s.call thread).tested = false) (after : stage.tested = false) :
      OutputMoves s { s.goto thread stage with queue := s.queue + count }
  | writtenQuietly (thread : T) (at_ : s.call thread = .written true) :
      OutputMoves s { s.goto thread .idle with reported := false }
  | written (thread : T) (at_ : s.call thread = .written false)
      (empty : s.drainLoop = .testWriting ∨ s.drainLoop = .setFlag → s.queue = 0)
      (quiet : ¬ s.Pending)
      (alone : s.drainLoop ≠ .clearWriting → ∀ other, (s.call other).cleared = false) :
      OutputMoves s { s.goto thread .idle with
        writing := true, wrote := true, drained := s.queue = 0, reported := false }
  | testWriting (thread : T) (at_ : s.call thread = .testWriting)
      (unset : s.drainLoop ≠ .setFlag) (quiet : ¬ s.Pending)
      (alone : ∀ other, (s.call other).tested = false)
      (due : s.writing = true ∧ s.drainLoop ≠ .clearWriting ∨ s.reported = false) :
      OutputMoves s (s.goto thread (if s.writing then .clearWriting else .testEvent))
  | clearWriting (thread : T) (at_ : s.call thread = .clearWriting) :
      OutputMoves s { s.goto thread .clearFlag with writing := false }
  | clearFlag (thread : T) (at_ : s.call thread = .clearFlag) :
      OutputMoves s { s.goto thread .testEvent with outputBufferEmptyFlag := false }
  | testEvent (thread : T) (at_ : s.call thread = .testEvent) :
      OutputMoves s (s.goto thread (if s.outputBufferEmptyEvent then .sendEvent else .idle))
  | sendEvent (thread : T) (at_ : s.call thread = .sendEvent) :
      OutputMoves s { s.goto thread .idle with
        duplicate := s.duplicate || s.reported, reported := true }
  | drained (at_ : s.drainLoop = .tcdrain) (empty : s.queue = 0) :
      OutputMoves s { s with drainLoop := .testWriting }
  | drainEnded (at_ : s.drainLoop = .tcdrain) : OutputMoves s { s with drainLoop := .ended }
  | drainTests (at_ : s.drainLoop = .testWriting) (alone : ∀ other, s.call other ≠ .clearWriting) :
      OutputMoves s { s with drainLoop := if s.writing then .setFlag else .tcdrain }
  | drainSets (at_ : s.drainLoop = .setFlag) :
      OutputMoves s { s with outputBufferEmptyFlag := true, drainLoop := .clearWriting }
  | drainClears (at_ : s.drainLoop = .clearWriting) :
      OutputMoves s { s with writing := false, drainLoop := .tcdrain }
  | loopFinds (at_ : s.eventLoop = .testFlag) (flag : s.outputBufferEmptyFlag = true) :
      OutputMoves s { s with eventLoop := .testEvent }
  | loopTests (at_ : s.eventLoop = .testEvent) :
      OutputMoves s
        { s with eventLoop := if s.outputBufferEmptyEvent then .sendEvent else .testFlag }
  | loopSends (at_ : s.eventLoop = .sendEvent) :
      OutputMoves s { s with
        duplicate := s.duplicate || s.reported, reported := true,
        premature := s.premature || !s.drained, eventLoop := .clearFlag }
  | loopClears (at_ : s.eventLoop = .clearFlag) :
      OutputMoves s { s with outputBufferEmptyFlag := false, eventLoop := .testFlag }

theorem runDrainLoop_moves {reply : Tcdrain} {s s' : Output T}
    (order : KeepsOrder s (.drainLoop reply)) (taken : runDrainLoop reply s = some s') :
    OutputMoves s s' := by
  cases at_ : s.drainLoop <;> simp only [runDrainLoop, at_] at taken
  case tcdrain =>
    split_ifs at taken with can
    cases reply <;> cases taken
    · have empty : s.queue = 0 := by simpa [Output.canReply] using can
      exact .drained at_ empty
    · exact .still
    · exact .drainEnded at_
  case testWriting =>
    cases taken
    exact .drainTests at_ (order at_)
  case setFlag =>
    cases taken
    exact .drainSets at_
  case clearWriting =>
    cases taken
    exact .drainClears at_
  case ended => cases taken

theorem runEventLoop_moves (s : Output T) : OutputMoves s (runEventLoop s) := by
  cases at_ : s.eventLoop <;> simp only [runEventLoop, at_]
  case testFlag =>
    split
    · next flag => exact .loopFinds at_ flag
    · exact .still
  case testEvent => exact .loopTests at_
  case sendEvent => exact .loopSends at_
  case clearFlag => exact .loopClears at_

theorem runCall_moves {thread : T} {reply : Tcdrain} {s s' : Output T}
    (order : KeepsOrder s (.advance thread reply)) (taken : runCall thread reply s = some s') :
    OutputMoves s s' := by
  rcases order with ⟨writes, tests⟩
  cases at_ : s.call thread <;> simp only [runCall, at_] at taken
  case idle => cases taken
  case written interrupted =>
    cases interrupted <;> cases taken
    · obtain ⟨empty, quiet, alone⟩ := writes at_
      exact .written thread at_ empty quiet alone
    · exact .writtenQuietly thread at_
  case tcdrain interrupted count =>
    have before : (s.call thread).tested = false := by
      simp [at_, CallStage.tested, CallStage.cleared]
    split_ifs at taken with can again quietly
    · cases taken
      exact .outside thread _ 0 before rfl
    · cases taken
      exact .outside thread _ 0 before rfl
    · cases taken
      exact .outside thread _ 0 before rfl
  case testWriting =>
    cases taken
    obtain ⟨unset, quiet, alone, due⟩ := tests at_
    exact .testWriting thread at_ unset quiet alone due
  case clearWriting =>
    cases taken
    exact .clearWriting thread at_
  case clearFlag =>
    cases taken
    exact .clearFlag thread at_
  case testEvent =>
    cases taken
    exact .testEvent thread at_
  case sendEvent =>
    cases taken
    exact .sendEvent thread at_

theorem outputStep_moves {label : OutputLabel T} {s s' : Output T} (order : KeepsOrder s label)
    (taken : outputStep label s = some s') : OutputMoves s s' := by
  have untested {thread : T} (idle : s.call thread = .idle) :
      (s.call thread).tested = false := by
    simp [idle, CallStage.tested, CallStage.cleared]
  cases label with
  | transmit count =>
    simp only [outputStep] at taken
    split_ifs at taken with queued
    cases taken
    exact .transmit count queued
  | write thread count interrupted =>
    simp only [outputStep] at taken
    split_ifs at taken with idle
    cases taken
    exact .outside thread _ count (untested idle) rfl
  | nativeDrain thread interrupted =>
    simp only [outputStep] at taken
    split_ifs at taken with idle
    cases taken
    exact .outside thread _ 0 (untested idle) rfl
  | advance thread reply => exact runCall_moves order taken
  | drainLoop reply => exact runDrainLoop_moves order taken
  | eventLoop =>
    cases taken
    exact runEventLoop_moves s

structure Timely (s : Output T) : Prop where
  empty : s.wrote = true → s.queue = 0 → s.drained = true
  tested : s.drainLoop = .testWriting ∨ s.drainLoop = .setFlag → s.wrote = true → s.drained = true
  setting : s.drainLoop = .setFlag → s.wrote = true
  writing : s.writing = true → s.wrote = true
  pending : s.Pending → s.drained = true
  timely : s.premature = false

theorem Timely.step {s s' : Output T} (timely : Timely s) (moves : OutputMoves s s') :
    Timely s' := by
  rcases timely with ⟨empty, tested, setting, writing, pending, timely⟩
  cases moves with
  | still => exact ⟨empty, tested, setting, writing, pending, timely⟩
  | transmit count queued =>
    have later : s.drained = true → (s.drained || (s.wrote && s.queue = count)) = true := by
      intro drained
      rw [drained, Bool.true_or]
    refine ⟨?_, fun stage wrote => later (tested stage wrote), setting, writing,
      fun waits => later (pending waits), timely⟩
    intro wrote drains
    have all : s.queue = count := Nat.le_antisymm (Nat.sub_eq_zero_iff_le.mp drains) queued
    simp [show s.wrote = true from wrote, all]
  | outside thread stage count before after =>
    exact ⟨fun wrote none => empty wrote (Nat.eq_zero_of_add_eq_zero_right none), tested, setting,
      writing, pending, timely⟩
  | writtenQuietly thread at_ => exact ⟨empty, tested, setting, writing, pending, timely⟩
  | written thread at_ drainEmpty quiet alone =>
    exact ⟨fun _ none => decide_eq_true none, fun stage _ => decide_eq_true (drainEmpty stage),
      fun _ => rfl, fun _ => rfl, fun waits => absurd waits quiet, timely⟩
  | testWriting thread at_ unset quiet alone due =>
    exact ⟨empty, tested, setting, writing, pending, timely⟩
  | clearWriting thread at_ => exact ⟨empty, tested, setting, nofun, pending, timely⟩
  | clearFlag thread at_ =>
    refine ⟨empty, tested, setting, writing, ?_, timely⟩
    intro waits
    rcases waits with testing | sending | flag
    · exact pending (.inl testing)
    · exact pending (.inr (.inl sending))
    · cases flag.1
  | testEvent thread at_ => exact ⟨empty, tested, setting, writing, pending, timely⟩
  | sendEvent thread at_ => exact ⟨empty, tested, setting, writing, pending, timely⟩
  | drained at_ queueEmpty =>
    exact ⟨empty, fun _ wrote => empty wrote queueEmpty, nofun, writing, pending, timely⟩
  | drainEnded at_ =>
    refine ⟨empty, ?_, nofun, writing, pending, timely⟩
    intro stage
    rcases stage with stage | stage <;> cases stage
  | drainTests at_ alone =>
    refine ⟨empty, fun _ => tested (.inl at_), ?_, writing, pending, timely⟩
    intro stage
    by_cases set : s.writing = true
    · exact writing set
    · simp [set] at stage
  | drainSets at_ =>
    refine ⟨empty, ?_, nofun, writing, fun _ => tested (.inr at_) (setting at_), timely⟩
    intro stage
    rcases stage with stage | stage <;> cases stage
  | drainClears at_ =>
    refine ⟨empty, ?_, nofun, nofun, pending, timely⟩
    intro stage
    rcases stage with stage | stage <;> cases stage
  | loopFinds at_ flag =>
    have waits : s.Pending := .inr (.inr ⟨flag, by simp [at_]⟩)
    exact ⟨empty, tested, setting, writing, fun _ => pending waits, timely⟩
  | loopTests at_ =>
    exact ⟨empty, tested, setting, writing, fun _ => pending (.inl at_), timely⟩
  | loopSends at_ =>
    have drained := pending (.inr (.inl at_))
    exact ⟨empty, tested, setting, writing, fun _ => drained, by simp [timely, drained]⟩
  | loopClears at_ =>
    refine ⟨empty, tested, setting, writing, ?_, timely⟩
    intro waits
    simp [Output.Pending] at waits

/-- At most one event is due: to a write that nobody has tested, to `drain_loop`, to the event loop
    or to one thread in `nativeDrain`. None is due where one has been sent since the last write. -/
structure OneDue (s : Output T) : Prop where
  setting : s.drainLoop = .setFlag → ¬ s.Pending ∧ ∀ thread, (s.call thread).tested = false
  writing : s.writing = true → s.drainLoop ≠ .clearWriting →
    ¬ s.Pending ∧ ∀ thread, (s.call thread).cleared = false
  pending : s.Pending → ∀ thread, (s.call thread).tested = false
  alone : ∀ thread other, (s.call thread).tested = true → (s.call other).tested = true →
    thread = other
  reported : s.reported = true →
    s.drainLoop ≠ .setFlag ∧ ¬ s.Pending ∧ (∀ thread, (s.call thread).tested = false) ∧
      (s.writing = true → s.drainLoop = .clearWriting)
  once : s.duplicate = false

omit [DecidableEq T] in
theorem CallStage.uncleared {stage : CallStage} (untested : stage.tested = false) :
    stage.cleared = false := by
  cases stage <;> first | rfl | cases untested

omit [DecidableEq T] in
theorem OneDue.of_busy {s : Output T} (thread : T) (unset : s.drainLoop ≠ .setFlag)
    (quiet : ¬ s.Pending) (unreported : s.reported = false)
    (only : ∀ other, other ≠ thread → (s.call other).tested = false)
    (cleared : (s.call thread).cleared = true → s.writing = true → s.drainLoop = .clearWriting)
    (once : s.duplicate = false) : OneDue s := by
  have mine {other : T} (tested : (s.call other).tested = true) : other = thread := by
    by_contra differ
    rw [only other differ] at tested
    cases tested
  refine ⟨fun at_ => absurd at_ unset, ?_, fun waits => absurd waits quiet, ?_, ?_, once⟩
  · intro set unhandled
    refine ⟨quiet, ?_⟩
    intro other
    by_cases same : other = thread
    · rw [same]
      exact Bool.eq_false_iff.mpr fun past => unhandled (cleared past set)
    · exact CallStage.uncleared (only other same)
  · intro first second testedFirst testedSecond
    rw [mine testedFirst, mine testedSecond]
  · intro reported
    rw [unreported] at reported
    cases reported

omit [DecidableEq T] in
theorem OneDue.of_handled {s : Output T} (unset : s.drainLoop ≠ .setFlag)
    (none : ∀ thread, (s.call thread).tested = false)
    (handled : s.writing = true → s.drainLoop = .clearWriting)
    (fresh : s.Pending → s.reported = false) (once : s.duplicate = false) : OneDue s where
  setting := fun at_ => absurd at_ unset
  writing := fun set unhandled => absurd (handled set) unhandled
  pending := fun _ => none
  alone := by
    intro thread other tested
    rw [none thread] at tested
    cases tested
  reported := by
    intro reported
    refine ⟨unset, ?_, none, handled⟩
    intro waits
    rw [fresh waits] at reported
    cases reported
  once := once

omit [DecidableEq T] in
theorem OneDue.waits {s : Output T} (due : OneDue s) (waits : s.Pending) :
    s.drainLoop ≠ .setFlag ∧ (s.writing = true → s.drainLoop = .clearWriting) ∧
      s.reported = false := by
  refine ⟨fun at_ => (due.setting at_).1 waits, ?_, ?_⟩
  · intro set
    by_contra unhandled
    exact (due.writing set unhandled).1 waits
  · exact Bool.eq_false_iff.mpr fun reported => (due.reported reported).2.1 waits

omit [DecidableEq T] in
theorem OneDue.busy {s : Output T} (due : OneDue s) (thread : T)
    (tested : (s.call thread).tested = true) :
    s.drainLoop ≠ .setFlag ∧ ¬ s.Pending ∧ s.reported = false ∧
      (∀ other, other ≠ thread → (s.call other).tested = false) ∧
      ((s.call thread).cleared = true → s.writing = true → s.drainLoop = .clearWriting) := by
  have contrary (none : ∀ other, (s.call other).tested = false) : False := by
    rw [none thread] at tested
    cases tested
  refine ⟨fun at_ => contrary (due.setting at_).2, fun waits => contrary (due.pending waits), ?_,
    ?_, ?_⟩
  · exact Bool.eq_false_iff.mpr fun reported => contrary (due.reported reported).2.2.1
  · intro other differ
    exact Bool.eq_false_iff.mpr fun also => differ (due.alone other thread also tested)
  · intro past set
    by_contra unhandled
    rw [(due.writing set unhandled).2 thread] at past
    cases past

theorem untested_goto {s : Output T} {stage : CallStage} (thread : T)
    (none : ∀ other, other ≠ thread → (s.call other).tested = false)
    (after : stage.tested = false) :
    ∀ other, ((s.goto thread stage).call other).tested = false := by
  intro other
  rw [goto_call]
  split
  · exact after
  next differ => exact none other differ

theorem others_goto {s : Output T} {stage : CallStage} {thread : T}
    (only : ∀ other, other ≠ thread → (s.call other).tested = false) :
    ∀ other, other ≠ thread → ((s.goto thread stage).call other).tested = false := by
  intro other differ
  rw [goto_call, if_neg differ]
  exact only other differ

theorem goto_self (s : Output T) (thread : T) (stage : CallStage) :
    (s.goto thread stage).call thread = stage := by
  rw [goto_call, if_pos rfl]

theorem OneDue.outside {s : Output T} (due : OneDue s) (thread : T) (stage : CallStage)
    (after : stage.tested = false) : OneDue (s.goto thread stage) := by
  have still (none : ∀ other, (s.call other).tested = false) :=
    untested_goto thread (fun other _ => none other) after
  have before {other : T} (tested : ((s.goto thread stage).call other).tested = true) :
      (s.call other).tested = true := by
    rw [goto_call] at tested
    split at tested
    · rw [after] at tested
      cases tested
    · exact tested
  rcases due with ⟨setting, writing, pending, alone, reported, once⟩
  refine ⟨?_, ?_, fun waits => still (pending waits), ?_, ?_, once⟩
  · intro at_
    exact ⟨(setting at_).1, still (setting at_).2⟩
  · intro set unhandled
    obtain ⟨quiet, uncleared⟩ := writing set unhandled
    refine ⟨quiet, ?_⟩
    intro other
    rw [goto_call]
    split
    · exact CallStage.uncleared after
    · exact uncleared other
  · exact fun first second testedFirst testedSecond =>
      alone first second (before testedFirst) (before testedSecond)
  · intro told
    obtain ⟨unset, quiet, none, handled⟩ := reported told
    exact ⟨unset, quiet, still none, handled⟩

omit [DecidableEq T] in
theorem OneDue.drains {s : Output T} (due : OneDue s) {stage : DrainStage}
    (before : s.drainLoop ≠ .clearWriting) (after : stage ≠ .setFlag) :
    OneDue { s with drainLoop := stage } := by
  rcases due with ⟨-, writing, pending, alone, reported, once⟩
  refine ⟨fun at_ => absurd at_ after, fun set _ => writing set before, pending, alone, ?_, once⟩
  intro told
  obtain ⟨-, quiet, none, handled⟩ := reported told
  exact ⟨after, quiet, none, fun set => absurd (handled set) before⟩

theorem OneDue.step {s s' : Output T} (due : OneDue s) (moves : OutputMoves s s') :
    OneDue s' := by
  have ⟨setting, writing, pending, alone, reported, once⟩ := due
  cases moves with
  | still => exact due
  | transmit count queued => exact ⟨setting, writing, pending, alone, reported, once⟩
  | outside thread stage count before after =>
    obtain ⟨setting, writing, pending, alone, reported, once⟩ := due.outside thread stage after
    exact ⟨setting, writing, pending, alone, reported, once⟩
  | writtenQuietly thread at_ =>
    obtain ⟨setting, writing, pending, alone, -, once⟩ := due.outside thread .idle rfl
    exact ⟨setting, writing, pending, alone, nofun, once⟩
  | written thread at_ drainEmpty quiet uncleared =>
    obtain ⟨setting, -, pending, alone, -, once⟩ := due.outside thread .idle rfl
    refine ⟨setting, ?_, pending, alone, nofun, once⟩
    intro _ unhandled
    refine ⟨quiet, ?_⟩
    intro other
    show ((s.goto thread .idle).call other).cleared = false
    rw [goto_call]
    split
    · rfl
    · exact uncleared unhandled other
  | testWriting thread at_ unset quiet others due_ =>
    refine .of_busy thread ?_ ?_ ?_ (others_goto fun other _ => others other) ?_ once
    · exact unset
    · exact quiet
    · rcases due_ with ⟨set, unhandled⟩ | unreported
      · exact Bool.eq_false_iff.mpr fun told => unhandled ((reported told).2.2.2 set)
      · exact unreported
    · rw [goto_self]
      intro past set
      rw [show s.writing = true from set] at past
      cases past
  | clearWriting thread at_ =>
    obtain ⟨unset, quiet, unreported, only, -⟩ := due.busy thread (by rw [at_]; rfl)
    refine .of_busy thread ?_ ?_ ?_ (others_goto only) (fun _ => nofun) once
    · exact unset
    · exact quiet
    · exact unreported
  | clearFlag thread at_ =>
    obtain ⟨unset, quiet, unreported, only, cleared⟩ := due.busy thread (by rw [at_]; rfl)
    refine .of_busy thread ?_ ?_ ?_ (others_goto only) ?_ once
    · exact unset
    · intro waits
      rcases waits with testing | sending | flag
      · exact quiet (.inl testing)
      · exact quiet (.inr (.inl sending))
      · cases flag.1
    · exact unreported
    · exact fun _ => cleared (by rw [at_]; rfl)
  | testEvent thread at_ =>
    obtain ⟨unset, quiet, unreported, only, cleared⟩ := due.busy thread (by rw [at_]; rfl)
    refine .of_busy thread ?_ ?_ ?_ (others_goto only) ?_ once
    · exact unset
    · exact quiet
    · exact unreported
    · exact fun _ => cleared (by rw [at_]; rfl)
  | sendEvent thread at_ =>
    obtain ⟨unset, quiet, unreported, only, cleared⟩ := due.busy thread (by rw [at_]; rfl)
    refine .of_handled ?_ (untested_goto thread only rfl) ?_ ?_ ?_
    · exact unset
    · exact cleared (by rw [at_]; rfl)
    · exact fun waits => absurd waits quiet
    · simp [once, unreported]
  | drained at_ queueEmpty => exact due.drains (by simp [at_]) nofun
  | drainEnded at_ => exact due.drains (by simp [at_]) nofun
  | drainTests at_ others =>
    have unhandled : s.drainLoop ≠ .clearWriting := by simp [at_]
    by_cases set : s.writing = true
    · rw [if_pos set]
      obtain ⟨quiet, uncleared⟩ := writing set unhandled
      have none (thread : T) : (s.call thread).tested = false := by
        simp [CallStage.tested, others thread, uncleared thread]
      refine ⟨fun _ => ⟨quiet, none⟩, fun _ _ => ⟨quiet, uncleared⟩, pending, alone, ?_, once⟩
      intro told
      exact absurd ((reported told).2.2.2 set) unhandled
    · rw [if_neg set]
      exact due.drains unhandled nofun
  | drainSets at_ =>
    have unreported : s.reported = false :=
      Bool.eq_false_iff.mpr fun told => (reported told).1 at_
    refine .of_handled nofun ?_ (fun _ => rfl) (fun _ => unreported) once
    exact (setting at_).2
  | drainClears at_ =>
    refine ⟨nofun, nofun, pending, alone, ?_, once⟩
    intro told
    obtain ⟨-, quiet, none, -⟩ := reported told
    exact ⟨nofun, quiet, none, nofun⟩
  | loopFinds at_ flag =>
    have waits : s.Pending := .inr (.inr ⟨flag, by simp [at_]⟩)
    obtain ⟨unset, handled, unreported⟩ := due.waits waits
    refine .of_handled ?_ ?_ handled (fun _ => unreported) once
    · exact unset
    · exact pending waits
  | loopTests at_ =>
    have waits : s.Pending := .inl at_
    obtain ⟨unset, handled, unreported⟩ := due.waits waits
    refine .of_handled ?_ ?_ handled (fun _ => unreported) once
    · exact unset
    · exact pending waits
  | loopSends at_ =>
    have waits : s.Pending := .inr (.inl at_)
    obtain ⟨unset, handled, unreported⟩ := due.waits waits
    refine .of_handled ?_ ?_ handled ?_ ?_
    · exact unset
    · exact pending waits
    · intro again
      simp [Output.Pending] at again
    · simp [once, unreported]
  | loopClears at_ =>
    have quiet : ¬ Output.Pending
        { s with outputBufferEmptyFlag := false, eventLoop := .testFlag } := by
      simp [Output.Pending]
    refine ⟨fun stage => ⟨quiet, (setting stage).2⟩, fun set unhandled => ⟨quiet,
      (writing set unhandled).2⟩, fun waits => absurd waits quiet, alone, ?_, once⟩
    intro told
    obtain ⟨unset, -, none, handled⟩ := reported told
    exact ⟨unset, quiet, none, handled⟩

omit [DecidableEq T] in
theorem Output.Fresh.timely {s : Output T} (fresh : s.Fresh) : Timely s where
  empty := by simp [fresh.wrote]
  tested := by simp [fresh.wrote]
  setting := by simp [fresh.drainLoop]
  writing := by simp [fresh.writing]
  pending := by simp [Output.Pending, fresh.eventLoop, fresh.flag]
  timely := fresh.premature

omit [DecidableEq T] in
theorem Output.Fresh.oneDue {s : Output T} (fresh : s.Fresh) : OneDue s where
  setting := by simp [fresh.drainLoop]
  writing := by simp [fresh.writing]
  pending := by simp [Output.Pending, fresh.eventLoop, fresh.flag]
  alone := by simp [fresh.call, CallStage.tested, CallStage.cleared]
  reported := by simp [fresh.reported]
  once := fresh.duplicate

/-- The event loop's event follows an empty queue, and no two events come without a completed write
    between them. -/
theorem output_events_in_order {start s : Output T} {labels : List (OutputLabel T)}
    (fresh : start.Fresh) (path : Path (Guarded KeepsOrder (Takes outputStep)) start labels s) :
    s.premature = false ∧ s.duplicate = false := by
  have both := path.invariant (fun s => Timely s ∧ OneDue s)
    (fun _ _ _ before guarded =>
      have moves := outputStep_moves guarded.1 guarded.2
      ⟨before.1.step moves, before.2.step moves⟩)
    ⟨fresh.timely, fresh.oneDue⟩
  exact ⟨both.1.timely, both.2.once⟩

def freshOutput : Output Unit :=
  ⟨0, false, false, true, .tcdrain, .testFlag, fun _ => .idle, false, false, false, false, false⟩

theorem freshOutput_fresh : freshOutput.Fresh :=
  ⟨rfl, rfl, rfl, rfl, fun _ => rfl, rfl, rfl, rfl, rfl⟩

theorem output_events_of_two_writes :
    let labels : List (OutputLabel Unit) :=
      [.write () 3 false, .transmit 1, .advance () .zero, .drainLoop .eintr, .transmit 2,
        .drainLoop .zero, .drainLoop .zero, .drainLoop .zero, .drainLoop .zero, .eventLoop,
        .eventLoop, .eventLoop, .eventLoop, .write () 2 false, .advance () .zero,
        .nativeDrain () false, .transmit 2, .advance () .zero, .advance () .zero,
        .advance () .zero, .advance () .zero, .advance () .zero, .advance () .zero]
    ∃ s, Path (Guarded KeepsOrder (Takes outputStep)) freshOutput labels s ∧
      s.reported = true ∧ s.premature = false ∧ s.duplicate = false := by
  intro labels
  have run : ∃ s, follow (checked KeepsOrder outputStep) labels freshOutput = some s ∧
      s.reported = true := ⟨_, rfl, rfl⟩
  rcases run with ⟨s, followed, reported⟩
  have path := follow_checked followed
  exact ⟨s, path, reported, output_events_in_order freshOutput_fresh path⟩

/-- The queue is empty for the `tcdrain`, a write sets `writing`, and `drain_loop` takes it for
    drained; and `nativeDrain` leaves the flag of `drain_loop` where it finds `writing` clear. -/
theorem output_events_out_of_order :
    (∃ labels s, Path (Takes outputStep) freshOutput labels s ∧ s.premature = true) ∧
    ∃ labels s, Path (Takes outputStep) freshOutput labels s ∧ s.duplicate = true := by
  have early : ∃ s, follow outputStep [.drainLoop .zero, .write () 3 false, .advance () .zero,
      .drainLoop .zero, .drainLoop .zero, .drainLoop .zero, .eventLoop, .eventLoop, .eventLoop]
      freshOutput = some s ∧ s.premature = true := ⟨_, rfl, rfl⟩
  have twice : ∃ s, follow outputStep [.write () 3 false, .advance () .zero, .transmit 3,
      .drainLoop .zero, .drainLoop .zero, .drainLoop .zero, .drainLoop .zero,
      .nativeDrain () false, .advance () .zero, .advance () .zero, .advance () .zero,
      .advance () .zero, .eventLoop, .eventLoop, .eventLoop]
      freshOutput = some s ∧ s.duplicate = true := ⟨_, rfl, rfl⟩
  rcases early with ⟨first, followed, premature⟩
  rcases twice with ⟨second, repeated, duplicate⟩
  exact ⟨⟨_, first, follow_path followed, premature⟩,
    ⟨_, second, follow_path repeated, duplicate⟩⟩

end Rxtx.SerialImp
