import Rxtx.Library.Runs

open Runs

namespace Rxtx.SerialImp

/-- Which of the three the build is: with `TIOCSERGETLSR`, the Windows one, or one with
    `drain_loop`. -/
inductive LoopBuild where
  | tiocsergetlsr | win32 | drainLoop
  deriving DecidableEq, Repr

/-- Where `eventLoop` stands; `polling` counts the looks at `FIONREAD` that stand for `select` on
    Windows. -/
inductive EventLoopStage where
  | initialise | initThreads | unlock
  | testClosing | select | polling (i : Fin 5) | report | reset
  | finalizeThreads | finalizeStruct | returned
  deriving DecidableEq, Repr

/-- Where the one call of `interruptEventLoop` stands that this loop gets. -/
inductive InterruptStage where
  | outside | setInterrupted | setClosing | interruptTermios
  | killThread | testClosing | cancelThread | closeAnyway
  | done
  deriving DecidableEq, Repr

inductive DrainLoopStage where
  | absent | testFirst | usleep | testSecond | readFd | tcdrain | testWriting | setFlag
  | clearWriting | setClosing | ended
  deriving DecidableEq, Repr

/-- The fields of the struct that the three share, where they stand, and how often the loop has
    called `report_serial_events` and sent an event while polling. An access after the loop has
    returned is kept as the dangling one that it is. -/
structure LoopStop where
  eventLoop : EventLoopStage
  interrupt : InterruptStage
  drainLoop : DrainLoopStage
  eventloopInterrupted : Bool
  closing : Bool
  writing : Bool
  outputBufferEmptyFlag : Bool
  cancelled : Bool
  reports : Nat
  polled : Nat
  interruptDangled : Bool
  drainDangled : Bool

/-- What `select` gives; of a poll, `ready` says that `DATA_AVAILABLE` is wanted and `FIONREAD`
    has changed. -/
inductive SelectReply where
  | ready | eintr | failed
  deriving DecidableEq, Repr

/-- `garbage` is what a dangling read gives. -/
inductive StopLabel where
  | eventLoop (initialised : Bool) (reply : SelectReply)
  | interrupt (garbage : Bool)
  | drainLoop (drained eintr garbage : Bool)
  | write

def runEventLoopStage (build : LoopBuild) (initialised : Bool) (reply : SelectReply)
    (s : LoopStop) : Option LoopStop :=
  match s.eventLoop with
  | .initialise =>
    some { s with
      eventloopInterrupted := false
      closing := false
      writing := false
      outputBufferEmptyFlag := false
      eventLoop := if initialised then .initThreads else .returned }
  | .initThreads =>
    some { s with
      eventLoop := .unlock
      drainLoop := if build = .drainLoop then .testFirst else .absent }
  | .unlock => some { s with eventLoop := .testClosing }
  | .testClosing =>
    if s.closing then some { s with eventLoop := .finalizeThreads }
    else some { s with eventLoop := if build = .win32 then .polling 0 else .select }
  | .select =>
    match reply with
    | .ready => some { s with eventLoop := .report }
    | .eintr => some { s with eventLoop := .testClosing }
    | .failed => some { s with eventLoop := .reset }
  | .polling i =>
    let polled := s.polled + if reply = .ready then 1 else 0
    if later : i.val + 1 < 5 then
      some { s with polled := polled, eventLoop := .polling ⟨i.val + 1, later⟩ }
    else some { s with polled := polled, eventLoop := .report }
  | .report => some { s with reports := s.reports + 1, eventLoop := .reset }
  | .reset => some { s with eventLoop := .testClosing } -- initialised is set
  | .finalizeThreads =>
    some { s with
      eventLoop := .finalizeStruct
      outputBufferEmptyFlag := if build = .drainLoop then false else s.outputBufferEmptyFlag }
  | .finalizeStruct => some { s with eventLoop := .returned }
  | .returned => none

/-- `removeEventListener` waits for the event loop to unlock it, and the search for the struct goes
    on until it is in the list. -/
def EventLoopStage.findable : EventLoopStage → Bool
  | .testClosing | .select | .polling _ | .report | .reset | .finalizeThreads | .finalizeStruct =>
    true
  | _ => false

def LoopStop.dead (s : LoopStop) : Bool := s.eventLoop = .returned

def LoopStop.interrupts (s : LoopStop) (stage : InterruptStage) : LoopStop :=
  { s with interrupt := stage, interruptDangled := s.interruptDangled || s.dead }

def LoopStop.drains (s : LoopStop) (stage : DrainLoopStage) : LoopStop :=
  { s with drainLoop := stage, drainDangled := s.drainDangled || s.dead }

def runInterrupt (build : LoopBuild) (garbage : Bool) (s : LoopStop) : Option LoopStop :=
  match s.interrupt with
  | .outside =>
    if s.eventLoop.findable then some { s with interrupt := .setInterrupted } else none
  | .setInterrupted =>
    some { s.interrupts (if build = .drainLoop then .killThread else .setClosing) with
      eventloopInterrupted := true }
  | .setClosing =>
    some { s.interrupts (if build = .win32 then .interruptTermios else .done) with
      closing := true }
  | .interruptTermios => some (s.interrupts .done)
  | .killThread => some (s.interrupts .testClosing)
  | .testClosing =>
    let closing := if s.dead then garbage else s.closing
    some (s.interrupts (if closing then .done else .cancelThread))
  | .cancelThread => some { s.interrupts .closeAnyway with cancelled := true }
  | .closeAnyway => some { s.interrupts .done with closing := true }
  | .done => none

/-- A cancelled thread ends at `usleep` and at `tcdrain`. -/
def runDrainLoopStage (drained eintr garbage : Bool) (s : LoopStop) : Option LoopStop :=
  match s.drainLoop with
  | .absent | .ended => none
  | .testFirst =>
    let interrupted := if s.dead then garbage else s.eventloopInterrupted
    some (s.drains (if interrupted then .setClosing else .usleep))
  | .usleep => some { s with drainLoop := if s.cancelled then .ended else .testSecond }
  | .testSecond =>
    let interrupted := if s.dead then garbage else s.eventloopInterrupted
    some (s.drains (if interrupted then .setClosing else .readFd))
  | .readFd => some (s.drains .tcdrain)
  | .tcdrain =>
    if s.cancelled then some { s with drainLoop := .ended }
    else some { s with
      drainLoop := if drained then .testWriting else if eintr then .testFirst else .setClosing }
  | .testWriting =>
    let writing := if s.dead then garbage else s.writing
    some (s.drains (if writing then .setFlag else .testFirst))
  | .setFlag => some { s.drains .clearWriting with outputBufferEmptyFlag := true }
  | .clearWriting => some { s.drains .testFirst with writing := false }
  | .setClosing => some { s.drains .ended with closing := true }

def stopStep (build : LoopBuild) (label : StopLabel) (s : LoopStop) : Option LoopStop :=
  match label with
  | .eventLoop initialised reply => runEventLoopStage build initialised reply s
  | .interrupt garbage => runInterrupt build garbage s
  | .drainLoop drained eintr garbage => runDrainLoopStage drained eintr garbage s
  | .write => some { s with writing := true }

structure LoopStop.Entered (s : LoopStop) : Prop where
  eventLoop : s.eventLoop = .initialise
  interrupt : s.interrupt = .outside
  drainLoop : s.drainLoop = .absent
  cancelled : s.cancelled = false
  interruptDangled : s.interruptDangled = false
  drainDangled : s.drainDangled = false

def EventLoopStage.remaining : EventLoopStage → Nat
  | .initialise => 14
  | .initThreads => 13
  | .unlock => 12
  | .polling i => 10 - i.val
  | .select => 6
  | .report => 5
  | .reset => 4
  | .testClosing => 3
  | .finalizeThreads => 2
  | .finalizeStruct => 1
  | .returned => 0

def EventLoopStage.reporting : EventLoopStage → Nat
  | .select | .polling _ | .report => 1
  | _ => 0

def EventLoopStage.polls : EventLoopStage → Nat
  | .polling i => 5 - i.val
  | _ => 0

def StopLabel.isEventLoop : StopLabel → Bool
  | .eventLoop _ _ => true
  | _ => false

def EventLoopStage.started : EventLoopStage → Bool
  | .initialise => false
  | _ => true

structure Told (s : LoopStop) : Prop where
  closing : s.closing = true
  looping : s.eventLoop.findable = true ∨ s.eventLoop = .returned

theorem runEventLoopStage_told {build : LoopBuild} {initialised : Bool} {reply : SelectReply}
    {s s' : LoopStop} (told : Told s)
    (taken : runEventLoopStage build initialised reply s = some s') :
    Told s' ∧ s'.eventLoop.remaining < s.eventLoop.remaining ∧
      s'.reports + s'.eventLoop.reporting ≤ s.reports + s.eventLoop.reporting ∧
      s'.polled + s'.eventLoop.polls ≤ s.polled + s.eventLoop.polls := by
  rcases told with ⟨closing, looping⟩
  cases at_ : s.eventLoop <;> simp only [runEventLoopStage, at_] at taken <;>
    simp only [at_, EventLoopStage.findable, reduceCtorEq, Bool.false_eq_true, or_self] at looping
  case testClosing =>
    rw [if_pos closing] at taken
    cases taken
    exact ⟨⟨closing, .inl rfl⟩, by simp [EventLoopStage.remaining], Nat.le_refl _, Nat.le_refl _⟩
  case select =>
    cases reply <;> cases taken
    · exact ⟨⟨closing, .inl rfl⟩, by simp [EventLoopStage.remaining], Nat.le_refl _, Nat.le_refl _⟩
    · exact ⟨⟨closing, .inl rfl⟩, by simp [EventLoopStage.remaining], Nat.le_succ _, Nat.le_refl _⟩
    · exact ⟨⟨closing, .inl rfl⟩, by simp [EventLoopStage.remaining], Nat.le_succ _, Nat.le_refl _⟩
  case polling i =>
    have bound := i.isLt
    have one : (if reply = .ready then 1 else 0) ≤ 1 := by
      split <;> omega
    by_cases later : i.val + 1 < 5
    · rw [dif_pos later] at taken
      cases taken
      refine ⟨⟨closing, .inl rfl⟩, ?_, Nat.le_refl _, ?_⟩
      · simp only [EventLoopStage.remaining]
        omega
      · simp only [EventLoopStage.polls]
        omega
    · rw [dif_neg later] at taken
      cases taken
      refine ⟨⟨closing, .inl rfl⟩, ?_, Nat.le_refl _, ?_⟩
      · simp only [EventLoopStage.remaining]
        omega
      · simp only [EventLoopStage.polls]
        omega
  case report =>
    cases taken
    exact ⟨⟨closing, .inl rfl⟩, by simp [EventLoopStage.remaining], Nat.le_refl _, Nat.le_refl _⟩
  case reset =>
    cases taken
    exact ⟨⟨closing, .inl rfl⟩, by simp [EventLoopStage.remaining], Nat.le_refl _, Nat.le_refl _⟩
  case finalizeThreads =>
    cases taken
    exact ⟨⟨closing, .inl rfl⟩, by simp [EventLoopStage.remaining], Nat.le_refl _, Nat.le_refl _⟩
  case finalizeStruct =>
    cases taken
    exact ⟨⟨closing, .inr rfl⟩, by simp [EventLoopStage.remaining], Nat.le_refl _, Nat.le_refl _⟩
  case returned => cases taken

theorem stopStep_others {build : LoopBuild} {label : StopLabel} {s s' : LoopStop}
    (taken : stopStep build label s = some s') (others : label.isEventLoop = false) :
    s'.eventLoop = s.eventLoop ∧ s'.reports = s.reports ∧ s'.polled = s.polled ∧
      (s.closing = true → s'.closing = true) := by
  cases label with
  | eventLoop => cases others
  | interrupt garbage =>
    cases at_ : s.interrupt <;> simp only [stopStep, runInterrupt, at_] at taken
    case outside =>
      split_ifs at taken
      cases taken
      exact ⟨rfl, rfl, rfl, id⟩
    case done => cases taken
    all_goals
      cases taken
      first
        | exact ⟨rfl, rfl, rfl, id⟩
        | exact ⟨rfl, rfl, rfl, fun _ => rfl⟩
  | drainLoop drained eintr garbage =>
    cases at_ : s.drainLoop <;> simp only [stopStep, runDrainLoopStage, at_] at taken
    case absent => cases taken
    case ended => cases taken
    case tcdrain =>
      split_ifs at taken <;> cases taken <;> exact ⟨rfl, rfl, rfl, id⟩
    all_goals
      cases taken
      first
        | exact ⟨rfl, rfl, rfl, id⟩
        | exact ⟨rfl, rfl, rfl, fun _ => rfl⟩
  | write =>
    cases taken
    exact ⟨rfl, rfl, rfl, id⟩

theorem Told.step {build : LoopBuild} {label : StopLabel} {s s' : LoopStop} (told : Told s)
    (taken : stopStep build label s = some s') :
    Told s' ∧ s'.eventLoop.remaining + label.isEventLoop.toNat ≤ s.eventLoop.remaining ∧
      s'.reports + s'.eventLoop.reporting ≤ s.reports + s.eventLoop.reporting ∧
      s'.polled + s'.eventLoop.polls ≤ s.polled + s.eventLoop.polls := by
  cases own : label.isEventLoop with
  | true =>
    cases label with
    | eventLoop initialised reply => exact runEventLoopStage_told told taken
    | _ => cases own
  | false =>
    obtain ⟨stage, reports, polled, closing⟩ := stopStep_others taken own
    refine ⟨⟨closing told.closing, by rw [stage]; exact told.looping⟩, ?_, ?_, ?_⟩
    · rw [stage]
      exact Nat.le_refl _
    · rw [stage, reports]
    · rw [stage, polled]

theorem Told.run {build : LoopBuild} {labels : List StopLabel} {s s' : LoopStop}
    (path : Path (Takes (stopStep build)) s labels s') (told : Told s) :
    Told s' ∧
      s'.eventLoop.remaining + labels.countP StopLabel.isEventLoop ≤ s.eventLoop.remaining ∧
      s'.reports + s'.eventLoop.reporting ≤ s.reports + s.eventLoop.reporting ∧
      s'.polled + s'.eventLoop.polls ≤ s.polled + s.eventLoop.polls := by
  induction path with
  | nil => exact ⟨told, Nat.le_refl _, Nat.le_refl _, Nat.le_refl _⟩
  | @cons s middle last label labels taken path ih =>
    obtain ⟨kept, nearer, reports, polled⟩ := told.step taken
    obtain ⟨last, rest, more, others⟩ := ih kept
    refine ⟨last, ?_, more.trans reports, others.trans polled⟩
    rw [List.countP_cons]
    cases own : label.isEventLoop <;> simp only [own, Bool.toNat_true, Bool.toNat_false] at nearer ⊢
    · simp only [Bool.false_eq_true, if_false]
      omega
    · simp only [if_true]
      omega

/-- The loop returns only once it has been told to, or before anybody could find its struct. -/
structure Stopping (s : LoopStop) : Prop where
  found : s.interrupt ≠ .outside → s.eventLoop.findable = true ∨ s.eventLoop = .returned
  finalizing : s.eventLoop = .finalizeThreads ∨ s.eventLoop = .finalizeStruct → s.closing = true
  returned : s.eventLoop = .returned →
    s.closing = true ∨ s.interrupt = .outside ∧ s.drainLoop = .absent
  told : s.interrupt = .interruptTermios ∨ s.interrupt = .done → s.closing = true
  unstarted : s.eventLoop = .initialise ∨ s.eventLoop = .initThreads → s.drainLoop = .absent

theorem LoopStop.Entered.stopping {s : LoopStop} (entered : s.Entered) : Stopping s := by
  have outside := entered.interrupt
  have stage := entered.eventLoop
  refine ⟨?_, ?_, ?_, ?_, fun _ => entered.drainLoop⟩
  · simp [outside]
  · simp [stage]
  · simp [stage]
  · simp [outside]

theorem Stopping.told_of_done {s : LoopStop} (stopping : Stopping s)
    (done : s.interrupt = .done) : Told s :=
  ⟨stopping.told (.inr done), stopping.found (by simp [done])⟩

theorem runEventLoopStage_stopping {build : LoopBuild} {initialised : Bool} {reply : SelectReply}
    {s s' : LoopStop} (stopping : Stopping s)
    (taken : runEventLoopStage build initialised reply s = some s') : Stopping s' := by
  rcases stopping with ⟨found, finalizing, returned, told, unstarted⟩
  have within {stage : EventLoopStage} (findable : stage.findable = true)
      (early : stage ≠ .finalizeThreads ∧ stage ≠ .finalizeStruct) (reports polled : Nat) :
      Stopping { s with eventLoop := stage, reports := reports, polled := polled } := by
    refine ⟨fun _ => .inl findable, ?_, ?_, told, ?_⟩
    · intro final
      rcases final with final | final
      · exact absurd final early.1
      · exact absurd final early.2
    · intro final
      rw [show stage = .returned from final] at findable
      cases findable
    · intro start
      rcases start with start | start <;> rw [show stage = _ from start] at findable <;>
        cases findable
  have unfound (hidden : s.eventLoop.findable = false) (running : s.eventLoop ≠ .returned) :
      s.interrupt = .outside := by
    by_contra somewhere
    rcases found somewhere with shown | ended
    · rw [hidden] at shown
      cases shown
    · exact running ended
  cases at_ : s.eventLoop <;> simp only [runEventLoopStage, at_] at taken
  case initialise =>
    have outside := unfound (by rw [at_]; rfl) (by simp [at_])
    have absent := unstarted (.inl at_)
    cases taken
    cases initialised
    · exact ⟨fun _ => .inr rfl, by simp, fun _ => .inr ⟨outside, absent⟩, by simp [outside],
        fun _ => absent⟩
    · exact ⟨fun away => absurd outside away, by simp, by simp, by simp [outside],
        fun _ => absent⟩
  case initThreads =>
    have outside := unfound (by rw [at_]; rfl) (by simp [at_])
    cases taken
    exact ⟨fun away => absurd outside away, by simp, by simp, by simp [outside], by simp⟩
  case unlock =>
    cases taken
    exact within rfl ⟨by simp, by simp⟩ s.reports _
  case testClosing =>
    split_ifs at taken with closing <;> cases taken
    · exact ⟨fun _ => .inl rfl, fun _ => closing, by simp, told, by simp⟩
    · exact within rfl ⟨by simp, by simp⟩ s.reports _
    · exact within rfl ⟨by simp, by simp⟩ s.reports _
  case select =>
    cases reply <;> cases taken <;> exact within rfl ⟨by simp, by simp⟩ s.reports _
  case polling i =>
    split_ifs at taken <;> cases taken <;> exact within rfl ⟨by simp, by simp⟩ s.reports _
  case report =>
    cases taken
    exact within rfl ⟨by simp, by simp⟩ (s.reports + 1) s.polled
  case reset =>
    cases taken
    exact within rfl ⟨by simp, by simp⟩ s.reports _
  case finalizeThreads =>
    have closing := finalizing (.inl at_)
    cases taken
    exact ⟨fun _ => .inl rfl, fun _ => closing, by simp, told, by simp⟩
  case finalizeStruct =>
    have closing := finalizing (.inr at_)
    cases taken
    exact ⟨fun _ => .inr rfl, by simp, fun _ => .inl closing, told, by simp⟩
  case returned => cases taken

theorem Stopping.interrupts {s s' : LoopStop} (stopping : Stopping s)
    (inside : s.interrupt ≠ .outside) (stage : s'.eventLoop = s.eventLoop)
    (drain : s'.drainLoop = s.drainLoop) (closing : s.closing = true → s'.closing = true)
    (told : s'.interrupt = .interruptTermios ∨ s'.interrupt = .done → s'.closing = true) :
    Stopping s' := by
  constructor
  · rw [stage]
    exact fun _ => stopping.found inside
  · rw [stage]
    exact fun final => closing (stopping.finalizing final)
  · rw [stage]
    intro final
    rcases stopping.returned final with closed | ⟨outside, -⟩
    · exact .inl (closing closed)
    · exact absurd outside inside
  · exact told
  · rw [stage, drain]
    exact stopping.unstarted

theorem Stopping.closing_of_dead {s : LoopStop} (stopping : Stopping s) (dead : s.dead = true)
    (inside : s.interrupt ≠ .outside) : s.closing = true := by
  rcases stopping.returned (of_decide_eq_true dead) with closed | ⟨outside, -⟩
  · exact closed
  · exact absurd outside inside

theorem runInterrupt_stopping {build : LoopBuild} {garbage : Bool} {s s' : LoopStop}
    (stopping : Stopping s) (taken : runInterrupt build garbage s = some s') : Stopping s' := by
  cases at_ : s.interrupt <;> simp only [runInterrupt, at_] at taken
  case outside =>
    split_ifs at taken with findable
    cases taken
    refine ⟨fun _ => .inl findable, stopping.finalizing, ?_, by simp, stopping.unstarted⟩
    intro final
    rw [show s.eventLoop = .returned from final] at findable
    cases findable
  case done => cases taken
  case setInterrupted =>
    cases taken
    refine stopping.interrupts (by simp [at_]) rfl rfl id ?_
    cases build <;> simp [LoopStop.interrupts]
  case setClosing =>
    cases taken
    exact stopping.interrupts (by simp [at_]) rfl rfl (fun _ => rfl) fun _ => rfl
  case interruptTermios =>
    cases taken
    exact stopping.interrupts (by simp [at_]) rfl rfl id fun _ => stopping.told (.inl at_)
  case killThread =>
    cases taken
    exact stopping.interrupts (by simp [at_]) rfl rfl id (by simp [LoopStop.interrupts])
  case testClosing =>
    cases taken
    refine stopping.interrupts (by simp [at_]) rfl rfl id ?_
    intro done
    by_cases dead : s.dead = true
    · exact stopping.closing_of_dead dead (by simp [at_])
    · by_cases closing : s.closing = true
      · exact closing
      · simp [LoopStop.interrupts, dead, closing] at done
  case cancelThread =>
    cases taken
    exact stopping.interrupts (by simp [at_]) rfl rfl id (by simp [LoopStop.interrupts])
  case closeAnyway =>
    cases taken
    exact stopping.interrupts (by simp [at_]) rfl rfl (fun _ => rfl) fun _ => rfl

theorem Stopping.drains {s s' : LoopStop} (stopping : Stopping s) (running : s.drainLoop ≠ .absent)
    (stage : s'.eventLoop = s.eventLoop) (interrupt : s'.interrupt = s.interrupt)
    (closing : s.closing = true → s'.closing = true) : Stopping s' := by
  constructor
  · rw [stage, interrupt]
    exact stopping.found
  · rw [stage]
    exact fun final => closing (stopping.finalizing final)
  · rw [stage]
    intro final
    rcases stopping.returned final with closed | ⟨-, absent⟩
    · exact .inl (closing closed)
    · exact absurd absent running
  · rw [interrupt]
    exact fun ended => closing (stopping.told ended)
  · rw [stage]
    exact fun start => absurd (stopping.unstarted start) running

theorem runDrainLoopStage_stopping {drained eintr garbage : Bool} {s s' : LoopStop}
    (stopping : Stopping s) (taken : runDrainLoopStage drained eintr garbage s = some s') :
    Stopping s' := by
  cases at_ : s.drainLoop <;> simp only [runDrainLoopStage, at_] at taken
  case absent => cases taken
  case ended => cases taken
  case tcdrain =>
    split_ifs at taken <;> cases taken <;> exact stopping.drains (by simp [at_]) rfl rfl id
  case setClosing =>
    cases taken
    exact stopping.drains (by simp [at_]) rfl rfl fun _ => rfl
  all_goals
    cases taken
    exact stopping.drains (by simp [at_]) rfl rfl id

theorem stopStep_stopping {build : LoopBuild} {label : StopLabel} {s s' : LoopStop}
    (stopping : Stopping s) (taken : stopStep build label s = some s') : Stopping s' := by
  cases label with
  | eventLoop => exact runEventLoopStage_stopping stopping taken
  | interrupt => exact runInterrupt_stopping stopping taken
  | drainLoop => exact runDrainLoopStage_stopping stopping taken
  | write =>
    cases taken
    rcases stopping with ⟨found, finalizing, returned, told, unstarted⟩
    exact ⟨found, finalizing, returned, told, unstarted⟩

theorem runEventLoopStage_some {build : LoopBuild} {s : LoopStop} (running : s.eventLoop ≠ .returned)
    (initialised : Bool) (reply : SelectReply) :
    ∃ s', runEventLoopStage build initialised reply s = some s' := by
  cases at_ : s.eventLoop <;> simp only [runEventLoopStage, at_]
  case testClosing => split <;> exact ⟨_, rfl⟩
  case select => cases reply <;> exact ⟨_, rfl⟩
  case polling => split <;> exact ⟨_, rfl⟩
  case returned => exact absurd at_ running
  all_goals exact ⟨_, rfl⟩

theorem stopStep_polls {build : LoopBuild} (selects : build ≠ .win32) {label : StopLabel}
    {s s' : LoopStop} (none : s.eventLoop.polls = 0) (taken : stopStep build label s = some s') :
    s'.eventLoop.polls = 0 := by
  cases own : label.isEventLoop with
  | false =>
    rw [(stopStep_others taken own).1]
    exact none
  | true =>
    cases label with
    | eventLoop initialised reply =>
      cases at_ : s.eventLoop <;> simp only [stopStep, runEventLoopStage, at_] at taken
      case initialise => cases taken; cases initialised <;> rfl
      case testClosing =>
        rw [if_neg selects] at taken
        split_ifs at taken <;> cases taken <;> rfl
      case select => cases reply <;> cases taken <;> rfl
      case polling i =>
        have bound := i.isLt
        simp only [at_, EventLoopStage.polls] at none
        omega
      case returned => cases taken
      all_goals
        cases taken
        rfl
    | _ => cases own

def InterruptStage.of (build : LoopBuild) : InterruptStage → Bool
  | .setClosing => build ≠ .drainLoop
  | .interruptTermios => build = .win32
  | .killThread | .testClosing | .cancelThread | .closeAnyway => build = .drainLoop
  | _ => true

structure Outlived (build : LoopBuild) (s : LoopStop) : Prop where
  stopping : Stopping s
  stage : s.interrupt.of build = true
  fresh : s.eventLoop = .initThreads → s.closing = false
  alone : build ≠ .drainLoop → s.drainLoop = .absent
  closer : build ≠ .drainLoop → s.eventLoop ≠ .initialise → s.closing = true →
    s.interrupt = .interruptTermios ∨ s.interrupt = .done
  drained : build = .drainLoop → s.cancelled = false → s.eventLoop ≠ .initialise →
    s.closing = true → s.drainLoop = .ended
  anyway : s.interrupt = .closeAnyway → s.cancelled = true
  interruptSafe : s.interruptDangled = true →
    build = .drainLoop ∨ build = .win32 ∧ s.interrupt = .done
  cancels : s.cancelled = true → build = .drainLoop
  drainSafe : s.drainDangled = true → s.cancelled = true

theorem LoopStop.Entered.outlived {s : LoopStop} (entered : s.Entered) (build : LoopBuild) :
    Outlived build s where
  stopping := entered.stopping
  stage := by rw [entered.interrupt]; rfl
  fresh := by simp [entered.eventLoop]
  alone := fun _ => entered.drainLoop
  closer := fun _ away => absurd entered.eventLoop away
  drained := fun _ _ away => absurd entered.eventLoop away
  anyway := by simp [entered.interrupt]
  interruptSafe := by simp [entered.interruptDangled]
  cancels := by simp [entered.cancelled]
  drainSafe := by simp [entered.drainDangled]

theorem runEventLoopStage_kept {build : LoopBuild} {initialised : Bool} {reply : SelectReply}
    {s s' : LoopStop} (taken : runEventLoopStage build initialised reply s = some s') :
    s'.interrupt = s.interrupt ∧ s'.cancelled = s.cancelled ∧
      s'.interruptDangled = s.interruptDangled ∧ s'.drainDangled = s.drainDangled ∧
      (s'.closing = s.closing ∧ s.eventLoop ≠ .initialise ∧ s'.eventLoop ≠ .initThreads ∨
        s'.closing = false) ∧
      (s'.drainLoop = s.drainLoop ∨ s.eventLoop = .initThreads ∧
        s'.drainLoop = if build = .drainLoop then .testFirst else .absent) := by
  cases at_ : s.eventLoop <;> simp only [runEventLoopStage, at_] at taken
  case initialise =>
    cases taken
    exact ⟨rfl, rfl, rfl, rfl, .inr rfl, .inl rfl⟩
  case initThreads =>
    cases taken
    exact ⟨rfl, rfl, rfl, rfl, .inl ⟨rfl, by simp, by simp⟩, .inr ⟨rfl, rfl⟩⟩
  case testClosing =>
    split_ifs at taken <;> cases taken <;>
      exact ⟨rfl, rfl, rfl, rfl, .inl ⟨rfl, by simp, by simp⟩, .inl rfl⟩
  case select =>
    cases reply <;> cases taken <;>
      exact ⟨rfl, rfl, rfl, rfl, .inl ⟨rfl, by simp, by simp⟩, .inl rfl⟩
  case polling =>
    split_ifs at taken <;> cases taken <;>
      exact ⟨rfl, rfl, rfl, rfl, .inl ⟨rfl, by simp, by simp⟩, .inl rfl⟩
  case returned => cases taken
  all_goals
    cases taken
    exact ⟨rfl, rfl, rfl, rfl, .inl ⟨rfl, by simp, by simp⟩, .inl rfl⟩

theorem runEventLoopStage_outlived {build : LoopBuild} {initialised : Bool} {reply : SelectReply}
    {s s' : LoopStop} (outlived : Outlived build s)
    (taken : runEventLoopStage build initialised reply s = some s') : Outlived build s' := by
  obtain ⟨interrupt, cancelled, interruptDangled, drainDangled, closing, drain⟩ :=
    runEventLoopStage_kept taken
  rcases outlived with ⟨stopping, stage, fresh, alone, closer, drained, anyway, interruptSafe,
    cancels, drainSafe⟩
  constructor
  · exact runEventLoopStage_stopping stopping taken
  · rw [interrupt]
    exact stage
  · intro threads
    rcases closing with ⟨-, -, away⟩ | open_
    · exact absurd threads away
    · exact open_
  · intro build_
    rcases drain with same | ⟨-, started⟩
    · rw [same]
      exact alone build_
    · rw [started, if_neg build_]
  · intro build_ _ closed
    rcases closing with ⟨same, past, -⟩ | open_
    · rw [interrupt]
      exact closer build_ past (same ▸ closed)
    · rw [open_] at closed
      cases closed
  · intro build_ uncancelled _ closed
    rcases closing with ⟨same, past, -⟩ | open_
    · rw [same] at closed
      rcases drain with kept | ⟨threads, -⟩
      · rw [kept]
        exact drained build_ (cancelled ▸ uncancelled) past closed
      · rw [fresh threads] at closed
        cases closed
    · rw [open_] at closed
      cases closed
  · rw [interrupt, cancelled]
    exact anyway
  · rw [interrupt, interruptDangled]
    exact interruptSafe
  · rw [cancelled]
    exact cancels
  · rw [drainDangled, cancelled]
    exact drainSafe

theorem Stopping.running_at_initThreads {s : LoopStop} (stopping : Stopping s)
    (threads : s.eventLoop = .initThreads) : s.interrupt = .outside ∧ s.drainLoop = .absent := by
  constructor
  · by_contra inside
    rcases stopping.found inside with findable | returned
    · rw [threads] at findable
      cases findable
    · rw [threads] at returned
      cases returned
  · exact stopping.unstarted (.inr threads)

theorem Outlived.interrupts {build : LoopBuild} {s : LoopStop} (outlived : Outlived build s)
    (inside : s.interrupt ≠ .outside) (next : InterruptStage) (interrupted : Bool)
    (of_ : next.of build = true) (ended : next ≠ .closeAnyway)
    (told : Stopping { s.interrupts next with eventloopInterrupted := interrupted })
    (alive : build ≠ .drainLoop → s.closing = false) :
    Outlived build { s.interrupts next with eventloopInterrupted := interrupted } where
  stopping := told
  stage := of_
  fresh := fun threads => absurd (outlived.stopping.running_at_initThreads threads).1 inside
  alone := outlived.alone
  closer := by
    intro build_ _ closed
    have open_ := alive build_
    rw [show s.closing = true from closed] at open_
    cases open_
  drained := outlived.drained
  anyway := fun at_ => absurd at_ ended
  interruptSafe := by
    intro dangled
    by_cases drains : build = .drainLoop
    · exact .inl drains
    · have undead : s.dead = false := by
        cases dead : s.dead with
        | false => rfl
        | true =>
          have closed := outlived.stopping.closing_of_dead dead inside
          rw [alive drains] at closed
          cases closed
      simp only [LoopStop.interrupts, undead, Bool.or_false] at dangled
      rcases outlived.interruptSafe dangled with drains | ⟨-, done⟩
      · exact .inl drains
      · rcases outlived.stopping.told (.inr done) with closed
        rw [alive drains] at closed
        cases closed
  cancels := outlived.cancels
  drainSafe := outlived.drainSafe

theorem runInterrupt_outlived {build : LoopBuild} {garbage : Bool} {s s' : LoopStop}
    (outlived : Outlived build s) (taken : runInterrupt build garbage s = some s') :
    Outlived build s' := by
  have stopping := runInterrupt_stopping outlived.stopping taken
  have unclosed (inside : s.interrupt ≠ .interruptTermios ∧ s.interrupt ≠ .done)
      (away : s.interrupt ≠ .outside) (build_ : build ≠ .drainLoop) : s.closing = false := by
    cases closed : s.closing with
    | false => rfl
    | true =>
      have past : s.eventLoop ≠ .initialise := by
        intro start
        rcases outlived.stopping.found away with findable | returned
        · rw [start] at findable
          cases findable
        · rw [start] at returned
          cases returned
      rcases outlived.closer build_ past closed with termios | done
      · exact absurd termios inside.1
      · exact absurd done inside.2
  have started (away : s.interrupt ≠ .outside) : s.eventLoop ≠ .initThreads :=
    fun threads => away (outlived.stopping.running_at_initThreads threads).1
  have undangled (before : s.interrupt ≠ .done) (dangled : s.interruptDangled = true) :
      build = .drainLoop :=
    (outlived.interruptSafe dangled).resolve_right fun late => before late.2
  have of_ := outlived.stage
  cases at_ : s.interrupt <;> simp only [runInterrupt, at_] at taken <;>
    simp only [at_, InterruptStage.of, decide_eq_true_eq, decide_not,
      Bool.not_eq_eq_eq_not, Bool.not_true, decide_eq_false_iff_not] at of_
  case outside =>
    split_ifs at taken with findable
    cases taken
    refine ⟨stopping, rfl, outlived.fresh, outlived.alone, ?_, outlived.drained, nofun, ?_,
      outlived.cancels, outlived.drainSafe⟩
    · intro build_ past closed
      rcases outlived.closer build_ past closed with termios | done
      · rw [at_] at termios
        cases termios
      · rw [at_] at done
        cases done
    · exact fun dangled => .inl (undangled (by simp [at_]) dangled)
  case done => cases taken
  case setInterrupted =>
    cases taken
    refine outlived.interrupts (by simp [at_]) _ true ?_ ?_ stopping
      (unclosed (by simp [at_]) (by simp [at_]))
    · split
      next drains => simp [InterruptStage.of, drains]
      next other => simp [InterruptStage.of, other]
    · split <;> simp
  case setClosing =>
    have closed : s.closing = false := unclosed (by simp [at_]) (by simp [at_]) of_
    have undead : s.dead = false := by
      cases dead : s.dead with
      | false => rfl
      | true =>
        have told := outlived.stopping.closing_of_dead dead (by simp [at_])
        rw [closed] at told
        cases told
    cases taken
    refine ⟨stopping, ?_, ?_, outlived.alone, ?_, fun drains => absurd drains of_, ?_, ?_,
      outlived.cancels, outlived.drainSafe⟩
    · simp only [LoopStop.interrupts]
      split
      next windows => simp [InterruptStage.of, windows]
      · rfl
    · exact fun threads => absurd threads (started (by simp [at_]))
    · intro _ _ _
      simp only [LoopStop.interrupts]
      split
      · exact .inl rfl
      · exact .inr rfl
    · simp only [LoopStop.interrupts]
      split <;> simp
    · intro dangled
      simp only [LoopStop.interrupts, undead, Bool.or_false] at dangled
      exact .inl (undangled (by simp [at_]) dangled)
  case interruptTermios =>
    cases taken
    refine ⟨stopping, rfl, ?_, outlived.alone, fun _ _ _ => .inr rfl, ?_, nofun,
      fun _ => .inr ⟨of_, rfl⟩, outlived.cancels, outlived.drainSafe⟩
    · exact fun threads => absurd threads (started (by simp [at_]))
    · intro drains
      rw [of_] at drains
      cases drains
  case killThread =>
    cases taken
    exact outlived.interrupts (by simp [at_]) _ s.eventloopInterrupted
      (by simp [InterruptStage.of, of_]) nofun stopping fun build_ => absurd of_ build_
  case testClosing =>
    obtain ⟨next, which, rfl⟩ : ∃ next, (next = .done ∨ next = .cancelThread) ∧
        s' = s.interrupts next := by
      refine ⟨_, ?_, (Option.some.inj taken).symm⟩
      split_ifs <;> simp
    apply outlived.interrupts (by simp [at_]) next s.eventloopInterrupted _ _ stopping
      fun build_ => absurd of_ build_
    · rcases which with rfl | rfl <;> simp [InterruptStage.of, of_]
    · rcases which with rfl | rfl <;> simp
  case cancelThread =>
    cases taken
    refine ⟨stopping, by simp [LoopStop.interrupts, InterruptStage.of, of_], ?_, outlived.alone,
      fun build_ => absurd of_ build_, fun _ => nofun, fun _ => rfl, fun _ => .inl of_,
      fun _ => of_, fun _ => rfl⟩
    exact fun threads => absurd threads (started (by simp [at_]))
  case closeAnyway =>
    have cancelled := outlived.anyway at_
    cases taken
    refine ⟨stopping, rfl, ?_, outlived.alone, fun build_ => absurd of_ build_, ?_, nofun,
      fun _ => .inl of_, fun _ => of_, fun _ => cancelled⟩
    · exact fun threads => absurd threads (started (by simp [at_]))
    · intro _ uncancelled
      rw [show s.cancelled = false from uncancelled] at cancelled
      cases cancelled

theorem Outlived.drains {build : LoopBuild} {s s' : LoopStop} (outlived : Outlived build s)
    (running : s.drainLoop ≠ .absent ∧ s.drainLoop ≠ .ended)
    (same : s'.eventLoop = s.eventLoop ∧ s'.interrupt = s.interrupt ∧ s'.cancelled = s.cancelled ∧
      s'.interruptDangled = s.interruptDangled)
    (closing : s'.closing = s.closing ∨ s'.drainLoop = .ended)
    (dangled : s'.drainDangled = true → s.drainDangled = true ∨ s.dead = true)
    (stopping : Stopping s') : Outlived build s' := by
  obtain ⟨eventLoop, interrupt, cancelled, interruptDangled⟩ := same
  have drains : build = .drainLoop := by
    by_contra other
    exact running.1 (outlived.alone other)
  refine ⟨stopping, ?_, ?_, fun other => absurd drains other, fun other => absurd drains other, ?_,
    ?_, fun _ => .inl drains, fun _ => drains, ?_⟩
  · rw [interrupt]
    exact outlived.stage
  · rw [eventLoop]
    intro threads
    exact absurd (outlived.stopping.unstarted (.inr threads)) running.1
  · rw [eventLoop, cancelled]
    intro _ uncancelled past closed
    rcases closing with same | ended
    · rw [same] at closed
      exact absurd (outlived.drained drains uncancelled past closed) running.2
    · exact ended
  · rw [interrupt, cancelled]
    exact outlived.anyway
  · rw [cancelled]
    intro now
    rcases dangled now with before | dead
    · exact outlived.drainSafe before
    · by_contra uncancelled
      have returned : s.eventLoop = .returned := of_decide_eq_true dead
      rcases outlived.stopping.returned returned with closed | ⟨-, absent⟩
      · have ended := outlived.drained drains (by simpa using uncancelled) (by simp [returned])
          closed
        exact running.2 ended
      · exact running.1 absent

theorem runDrainLoopStage_outlived {build : LoopBuild} {drained eintr garbage : Bool}
    {s s' : LoopStop} (outlived : Outlived build s)
    (taken : runDrainLoopStage drained eintr garbage s = some s') : Outlived build s' := by
  have stopping := runDrainLoopStage_stopping outlived.stopping taken
  have looks : (s.drainDangled || s.dead) = true → s.drainDangled = true ∨ s.dead = true := by
    rw [Bool.or_eq_true]
    exact id
  cases at_ : s.drainLoop <;> simp only [runDrainLoopStage, at_] at taken
  case absent => cases taken
  case ended => cases taken
  case usleep =>
    cases taken
    exact outlived.drains (by simp [at_]) ⟨rfl, rfl, rfl, rfl⟩ (.inl rfl) .inl stopping
  case tcdrain =>
    split_ifs at taken <;> cases taken <;>
      exact outlived.drains (by simp [at_]) ⟨rfl, rfl, rfl, rfl⟩ (.inl rfl) .inl stopping
  case setClosing =>
    cases taken
    exact outlived.drains (by simp [at_]) ⟨rfl, rfl, rfl, rfl⟩ (.inr rfl) looks stopping
  all_goals
    cases taken
    exact outlived.drains (by simp [at_]) ⟨rfl, rfl, rfl, rfl⟩ (.inl rfl) looks stopping

theorem stopStep_outlived {build : LoopBuild} {label : StopLabel} {s s' : LoopStop}
    (outlived : Outlived build s) (taken : stopStep build label s = some s') :
    Outlived build s' := by
  cases label with
  | eventLoop => exact runEventLoopStage_outlived outlived taken
  | interrupt => exact runInterrupt_outlived outlived taken
  | drainLoop => exact runDrainLoopStage_outlived outlived taken
  | write =>
    have stopping := stopStep_stopping outlived.stopping taken
    cases taken
    exact ⟨stopping, outlived.stage, outlived.fresh, outlived.alone, outlived.closer,
      outlived.drained, outlived.anyway, outlived.interruptSafe, outlived.cancels,
      outlived.drainSafe⟩

end Rxtx.SerialImp
