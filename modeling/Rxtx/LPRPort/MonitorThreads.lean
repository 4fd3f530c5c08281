import Mathlib.Logic.Function.Basic
import Rxtx.Library.Runs

open Runs

namespace Rxtx.LPRPort

abbrev LoopId := Nat
abbrev Listener := Nat

inductive ParEvent where
  | error
  | buffer
  deriving DecidableEq, Repr

/-- Nobody but `removeEventListener` interrupts the thread, and it sets `monThread` to null. -/
structure MonitorThread where
  loop : LoopId
  monError : Bool
  monBuffer : Bool
  deriving DecidableEq, Repr

structure Heard where
  listener : Listener
  event : ParEvent
  oldValue : Bool
  newValue : Bool
  deriving DecidableEq, Repr

/-- Where a call of `eventLoop` stands, with its variables `fd` and `pflags`. `sending` has the
    calls of `send_event` that are still to be made. -/
inductive LoopStage where
  | idle
  | starting
  | firstCheck (fd : Int32)
  | select (fd : Int32) (pflags : BitVec 32)
  | check (fd : Int32) (pflags : BitVec 32)
  | getStatus (fd : Int32) (pflags : BitVec 32)
  | sending (fd : Int32) (pflags : BitVec 32) (events : List (ParEvent × Bool))
  | ended
  deriving DecidableEq, Repr

/-- The port, and what native code and the listeners were given: each loop's descriptors in `select`
    and in `LPGETSTATUS`, those that were closed, and the events. -/
structure Lpr where
  fd : Int32
  ppEventListener : Option Listener
  monThread : Option MonitorThread
  loops : LoopId → LoopStage
  started : Nat
  selected : List (LoopId × Int32)
  asked : List (LoopId × Int32)
  closed : List Int32
  heard : List Heard

def Lpr.constructed (fd : Int32) : Lpr where
  fd := fd
  ppEventListener := none
  monThread := none
  loops := fun _ => .idle
  started := 0
  selected := []
  asked := []
  closed := []
  heard := []

def Lpr.move (s : Lpr) (loop : LoopId) (stage : LoopStage) : Lpr :=
  { s with loops := Function.update s.loops loop stage }

@[simp] theorem move_same (s : Lpr) (loop : LoopId) (stage : LoopStage) :
    (s.move loop stage).loops loop = stage := Function.update_self ..

theorem move_other (s : Lpr) {loop other : LoopId} (differ : other ≠ loop) (stage : LoopStage) :
    (s.move loop stage).loops other = s.loops other := Function.update_of_ne differ ..

inductive LprException where
  | tooManyListeners
  | nullPointer
  deriving DecidableEq, Repr

/-- A null listener is taken, and does not count as one. -/
def Lpr.addEventListener (lsnr : Option Listener) (s : Lpr) : Option LprException × Lpr :=
  if s.ppEventListener ≠ none then (some .tooManyListeners, s)
  else
    (none, { s.move s.started .starting with
      ppEventListener := lsnr
      monThread := some ⟨s.started, false, false⟩
      started := s.started + 1 })

def Lpr.removeEventListener (s : Lpr) : Lpr := { s with ppEventListener := none, monThread := none }

def Lpr.notifyOnError (enable : Bool) (s : Lpr) : Option LprException × Lpr :=
  match s.monThread with
  | none => (some .nullPointer, s)
  | some monThread => (none, { s with monThread := some { monThread with monError := enable } })

def Lpr.notifyOnBuffer (enable : Bool) (s : Lpr) : Option LprException × Lpr :=
  match s.monThread with
  | none => (some .nullPointer, s)
  | some monThread => (none, { s with monThread := some { monThread with monBuffer := enable } })

def Lpr.close (s : Lpr) : Lpr :=
  if s.fd < 0 then s
  else { { s with closed := s.closed ++ [s.fd] }.removeEventListener with fd := 0 }

inductive LprCall where
  | addEventListener (lsnr : Option Listener)
  | removeEventListener
  | notifyOnError (enable : Bool)
  | notifyOnBuffer (enable : Bool)
  | close
  deriving DecidableEq, Repr

def LprCall.run (call : LprCall) (s : Lpr) : Option LprException × Lpr :=
  match call with
  | .addEventListener lsnr => s.addEventListener lsnr
  | .removeEventListener => (none, s.removeEventListener)
  | .notifyOnError enable => s.notifyOnError enable
  | .notifyOnBuffer enable => s.notifyOnBuffer enable
  | .close => (none, s.close)

def Lpr.checkMonitorThread (s : Lpr) : Bool := s.monThread.isNone

def Lpr.gone (s : Lpr) : Prop := s.fd = 0 ∨ s.ppEventListener = none ∨ s.monThread = none

instance (s : Lpr) : Decidable s.gone := inferInstanceAs (Decidable (_ ∨ _))

def MonitorThread.wants (monThread : MonitorThread) : ParEvent → Bool
  | .error => monThread.monError
  | .buffer => monThread.monBuffer

/-- `callback` are the calls on the port that the listener makes while it has the event: its thread
    has the monitor already. -/
def Lpr.sendEvent (event : ParEvent) (state : Bool) (callback : List LprCall) (s : Lpr) :
    Bool × Lpr :=
  match s.ppEventListener, s.monThread with
  | some listener, some monThread =>
    if s.fd = 0 then (true, s)
    else if !monThread.wants event then (false, s)
    else
      let s : Lpr := { s with heard := s.heard ++ [⟨listener, event, !state, state⟩] }
      let s : Lpr := callback.foldl (fun s call => (call.run s).2) s
      (decide s.gone, s)
  | _, _ => (true, s)

theorem sendEvent_cases (s : Lpr) (event : ParEvent) (state : Bool) (callback : List LprCall) :
    (s.sendEvent event state callback).2 = s ∨
      ∃ listener, (s.sendEvent event state callback).2 =
        callback.foldl (fun s call => (call.run s).2)
          { s with heard := s.heard ++ [⟨listener, event, !state, state⟩] } := by
  unfold Lpr.sendEvent
  split
  next listener monThread _ _ =>
    split_ifs
    · exact .inl rfl
    · exact .inl rfl
    · exact .inr ⟨listener, rfl⟩
  next => exact .inl rfl

/-- The bits of a status word that a build looks at: the one for busy, and three more on Linux. -/
structure StatusFlags where
  busy : Option (BitVec 32)
  others : List (BitVec 32)

def StatusFlags.linux : StatusFlags := ⟨some 0x80, [0x20, 0x10, 0x08]⟩

def StatusFlags.masks (flags : StatusFlags) : List (BitVec 32) := flags.busy.toList ++ flags.others

def StatusFlags.events (flags : StatusFlags) (pflags : BitVec 32) : List (ParEvent × Bool) :=
  (flags.masks.filter fun mask => pflags &&& mask ≠ 0).map fun _ => (.error, true)

/-- What the system answers, and what the listener does. An `LPGETSTATUS` that fails leaves
    `pflags`. -/
structure LoopAnswers where
  selectFails : Bool
  status : Option (BitVec 32)
  callback : List LprCall

/-- One access of `eventLoop` to the port or to the system. A `select` that a signal interrupts is
    called again at once, and is one access with the last of these calls. -/
def Lpr.runLoop (flags : StatusFlags) (loop : LoopId) (answers : LoopAnswers) (s : Lpr) :
    Option Lpr :=
  match s.loops loop with
  | .idle | .ended => none
  | .starting => some (s.move loop (.firstCheck s.fd))
  | .firstCheck fd =>
    some (s.move loop (if s.checkMonitorThread then .ended else .select fd 0))
  | .select fd pflags =>
    some { s.move loop (if answers.selectFails then .ended else .check fd pflags) with
      selected := s.selected ++ [(loop, fd)] }
  | .check fd pflags =>
    some (s.move loop (if s.checkMonitorThread then .ended else .getStatus fd pflags))
  | .getStatus fd pflags =>
    let pflags := answers.status.getD pflags
    some { s.move loop (.sending fd pflags (flags.events pflags)) with
      asked := s.asked ++ [(loop, fd)] }
  | .sending fd pflags [] => some (s.move loop (.select fd pflags))
  | .sending fd pflags ((event, state) :: rest) =>
    some ((s.sendEvent event state answers.callback).2.move loop (.sending fd pflags rest))

inductive LprLabel where
  | call (call : LprCall)
  | loop (loop : LoopId) (answers : LoopAnswers)

def lprStep (flags : StatusFlags) (label : LprLabel) (s : Lpr) : Option Lpr :=
  match label with
  | .call call => some (call.run s).2
  | .loop loop answers => s.runLoop flags loop answers

variable {flags : StatusFlags}

def LoopStage.selects : LoopStage → Nat
  | .select _ _ | .getStatus _ _ | .sending _ _ _ => 1
  | _ => 0

def LoopStage.asks : LoopStage → Nat
  | .getStatus _ _ => 1
  | _ => 0

def LoopStage.steps (flags : StatusFlags) : LoopStage → Nat
  | .idle | .ended => 0
  | .firstCheck _ | .check _ _ => 1
  | .starting | .select _ _ => 2
  | .sending _ _ events => events.length + 3
  | .getStatus _ _ => flags.masks.length + 4

def used (uses : List (LoopId × Int32)) (loop : LoopId) : Nat := (uses.map Prod.fst).count loop

def LprLabel.by (loop : LoopId) : LprLabel → Bool
  | .call _ => false
  | .loop other _ => other = loop

/-- What a run without a monitor thread does: nothing is heard, and no loop does more than it has
    before it. -/
structure Winds (flags : StatusFlags) (s : Lpr) (labels : List LprLabel) (s' : Lpr) : Prop where
  quiet : s'.monThread = none
  heard : s'.heard = s.heard
  selects : ∀ loop, used s'.selected loop + (s'.loops loop).selects ≤
    used s.selected loop + (s.loops loop).selects
  asks : ∀ loop, used s'.asked loop + (s'.loops loop).asks ≤
    used s.asked loop + (s.loops loop).asks
  steps : ∀ loop, labels.countP (LprLabel.by loop) + (s'.loops loop).steps flags ≤
    (s.loops loop).steps flags

theorem Winds.refl {s : Lpr} (quiet : s.monThread = none) : Winds flags s [] s where
  quiet := quiet
  heard := rfl
  selects := fun _ => Nat.le_refl _
  asks := fun _ => Nat.le_refl _
  steps := fun _ => by simp

theorem Winds.trans {s middle s' : Lpr} {first second : List LprLabel}
    (before : Winds flags s first middle) (after : Winds flags middle second s') :
    Winds flags s (first ++ second) s' where
  quiet := after.quiet
  heard := after.heard.trans before.heard
  selects := fun loop => Nat.le_trans (after.selects loop) (before.selects loop)
  asks := fun loop => Nat.le_trans (after.asks loop) (before.asks loop)
  steps := by
    intro loop
    have early := before.steps loop
    have late := after.steps loop
    rw [List.countP_append]
    omega

theorem events_length (pflags : BitVec 32) :
    (flags.events pflags).length ≤ flags.masks.length := by
  rw [StatusFlags.events, List.length_map]
  exact List.length_filter_le ..

theorem used_append (uses : List (LoopId × Int32)) (entry : LoopId × Int32) (loop : LoopId) :
    used (uses ++ [entry]) loop = used uses loop + if entry.1 = loop then 1 else 0 := by
  simp [used, List.count_singleton]

theorem sendEvent_quiet {s : Lpr} (quiet : s.monThread = none) (event : ParEvent) (state : Bool)
    (callback : List LprCall) : s.sendEvent event state callback = (true, s) := by
  unfold Lpr.sendEvent
  rw [quiet]
  cases s.ppEventListener <;> rfl

theorem call_quiet {s : Lpr} (quiet : s.monThread = none) {call : LprCall}
    (other : ∀ lsnr, call ≠ .addEventListener lsnr) :
    (call.run s).2.monThread = none ∧ (call.run s).2.heard = s.heard ∧
      (call.run s).2.selected = s.selected ∧ (call.run s).2.asked = s.asked ∧
      (call.run s).2.loops = s.loops := by
  cases call with
  | addEventListener lsnr => exact absurd rfl (other lsnr)
  | removeEventListener => exact ⟨rfl, rfl, rfl, rfl, rfl⟩
  | notifyOnError enable | notifyOnBuffer enable =>
    simp [LprCall.run, Lpr.notifyOnError, Lpr.notifyOnBuffer, quiet]
  | close =>
    unfold LprCall.run Lpr.close
    split_ifs
    · exact ⟨quiet, rfl, rfl, rfl, rfl⟩
    · exact ⟨rfl, rfl, rfl, rfl, rfl⟩

theorem winds_of_move {s s' : Lpr} {loop : LoopId} (stage : LoopStage) (selects asks : Nat)
    (quiet : s'.monThread = none) (heard : s'.heard = s.heard)
    (loops : s'.loops = Function.update s.loops loop stage)
    (selected : ∀ other, used s'.selected other =
      used s.selected other + if loop = other then selects else 0)
    (asked : ∀ other, used s'.asked other = used s.asked other + if loop = other then asks else 0)
    (fewerSelects : selects + stage.selects ≤ (s.loops loop).selects)
    (fewerAsks : asks + stage.asks ≤ (s.loops loop).asks)
    (fewerSteps : 1 + stage.steps flags ≤ (s.loops loop).steps flags) (answers : LoopAnswers) :
    Winds flags s [.loop loop answers] s' where
  quiet := quiet
  heard := heard
  selects := by
    intro other
    rw [selected, loops]
    by_cases same : loop = other
    · subst same
      rw [Function.update_self, if_pos rfl]
      omega
    · rw [Function.update_of_ne (Ne.symm same), if_neg same]
      omega
  asks := by
    intro other
    rw [asked, loops]
    by_cases same : loop = other
    · subst same
      rw [Function.update_self, if_pos rfl]
      omega
    · rw [Function.update_of_ne (Ne.symm same), if_neg same]
      omega
  steps := by
    intro other
    rw [loops]
    by_cases same : loop = other
    · subst same
      rw [Function.update_self]
      simpa [LprLabel.by] using fewerSteps
    · rw [Function.update_of_ne (Ne.symm same)]
      simp [LprLabel.by, same]

theorem runLoop_winds {s s' : Lpr} (quiet : s.monThread = none) {loop : LoopId}
    {answers : LoopAnswers} (taken : s.runLoop flags loop answers = some s') :
    Winds flags s [.loop loop answers] s' := by
  have stops : s.checkMonitorThread = true := by simp [Lpr.checkMonitorThread, quiet]
  unfold Lpr.runLoop at taken
  split at taken
  next => cases taken
  next => cases taken
  next stage =>
    cases taken
    refine winds_of_move (.firstCheck s.fd) 0 0 ?_ ?_ ?_ ?_ ?_ ?_ ?_ ?_ answers <;>
      simp [Lpr.move, quiet, stage, LoopStage.selects, LoopStage.asks, LoopStage.steps]
  next fd stage =>
    rw [if_pos stops] at taken
    cases taken
    refine winds_of_move .ended 0 0 ?_ ?_ ?_ ?_ ?_ ?_ ?_ ?_ answers <;>
      simp [Lpr.move, quiet, stage, LoopStage.selects, LoopStage.asks, LoopStage.steps]
  next fd pflags stage =>
    cases taken
    refine winds_of_move (if answers.selectFails then .ended else .check fd pflags) 1 0
      ?_ ?_ ?_ ?_ ?_ ?_ ?_ ?_ answers
    · exact quiet
    · rfl
    · rfl
    · intro other
      exact used_append ..
    · intro other
      simp [Lpr.move]
    · cases answers.selectFails <;> simp [stage, LoopStage.selects]
    · cases answers.selectFails <;> simp [stage, LoopStage.asks]
    · cases answers.selectFails <;> simp [stage, LoopStage.steps]
  next fd pflags stage =>
    rw [if_pos stops] at taken
    cases taken
    refine winds_of_move .ended 0 0 ?_ ?_ ?_ ?_ ?_ ?_ ?_ ?_ answers <;>
      simp [Lpr.move, quiet, stage, LoopStage.selects, LoopStage.asks, LoopStage.steps]
  next fd pflags stage =>
    cases taken
    refine winds_of_move (.sending fd (answers.status.getD pflags)
      (flags.events (answers.status.getD pflags))) 0 1 ?_ ?_ ?_ ?_ ?_ ?_ ?_ ?_ answers
    · exact quiet
    · rfl
    · rfl
    · intro other
      simp [Lpr.move]
    · intro other
      exact used_append ..
    · simp [stage, LoopStage.selects]
    · simp [stage, LoopStage.asks]
    · have few : (flags.events (answers.status.getD pflags)).length ≤ flags.masks.length :=
        events_length (answers.status.getD pflags)
      simp only [stage, LoopStage.steps]
      omega
  next fd pflags stage =>
    cases taken
    refine winds_of_move (.select fd pflags) 0 0 ?_ ?_ ?_ ?_ ?_ ?_ ?_ ?_ answers <;>
      simp [Lpr.move, quiet, stage, LoopStage.selects, LoopStage.asks, LoopStage.steps]
  next fd pflags event state rest stage =>
    rw [sendEvent_quiet quiet] at taken
    cases taken
    refine winds_of_move (.sending fd pflags rest) 0 0 ?_ ?_ ?_ ?_ ?_ ?_ ?_ ?_ answers
    · exact quiet
    · rfl
    · rfl
    · intro other
      simp [Lpr.move]
    · intro other
      simp [Lpr.move]
    · simp [stage, LoopStage.selects]
    · simp [stage, LoopStage.asks]
    · simp only [stage, LoopStage.steps, List.length_cons]
      omega

def LprLabel.addsNone (_s : Lpr) : LprLabel → Prop
  | .call (.addEventListener _) => False
  | _ => True

instance (s : Lpr) (label : LprLabel) : Decidable (label.addsNone s) := by
  unfold LprLabel.addsNone
  split <;> exact inferInstance

theorem step_winds {s s' : Lpr} (quiet : s.monThread = none) {label : LprLabel}
    (step : Guarded LprLabel.addsNone (Takes (lprStep flags)) s label s') :
    Winds flags s [label] s' := by
  obtain ⟨other, taken⟩ := step
  cases label with
  | loop loop answers => exact runLoop_winds quiet taken
  | call call =>
    cases taken
    have addsNone : ∀ lsnr, call ≠ .addEventListener lsnr := by
      intro lsnr same
      subst same
      exact other
    obtain ⟨still, heard, selected, asked, loops⟩ := call_quiet quiet addsNone
    refine ⟨still, heard, ?_, ?_, ?_⟩ <;> intro loop
    · rw [selected, loops]
    · rw [asked, loops]
    · rw [loops]
      simp [LprLabel.by]

theorem path_winds {s s' : Lpr} {labels : List LprLabel}
    (path : Path (Guarded LprLabel.addsNone (Takes (lprStep flags))) s labels s')
    (quiet : s.monThread = none) : Winds flags s labels s' := by
  induction path with
  | nil s => exact .refl quiet
  | cons step _ ih =>
    have first := step_winds quiet step
    exact first.trans (ih first.quiet)

def LoopStage.live : LoopStage → Prop
  | .idle | .ended => False
  | _ => True

theorem steps_pos {stage : LoopStage} (live : stage.live) : 0 < stage.steps flags := by
  cases stage with
  | idle | ended => exact live.elim
  | starting | firstCheck | select | check | getStatus | sending =>
    exact Nat.succ_pos _

theorem selects_le_one (stage : LoopStage) : stage.selects ≤ 1 := by
  unfold LoopStage.selects
  split <;> omega

theorem asks_le_one (stage : LoopStage) : stage.asks ≤ 1 := by
  unfold LoopStage.asks
  split <;> omega

/-- Of the two events only the one for an error is ever sent, and always as one that has set in. -/
structure Sound (flags : StatusFlags) (s : Lpr) : Prop where
  queues : ∀ loop fd pflags events, s.loops loop = .sending fd pflags events →
    events.length ≤ flags.masks.length ∧ ∀ event ∈ events, event = (ParEvent.error, true)
  heard : ∀ heard ∈ s.heard,
    heard.event = .error ∧ heard.oldValue = false ∧ heard.newValue = true

theorem sound_constructed (fd : Int32) : Sound flags (.constructed fd) where
  queues := nofun
  heard := nofun

theorem Sound.move {s : Lpr} (sound : Sound flags s) {loop : LoopId} {stage : LoopStage}
    (queue : ∀ fd pflags events, stage = .sending fd pflags events →
      events.length ≤ flags.masks.length ∧ ∀ event ∈ events, event = (ParEvent.error, true)) :
    Sound flags (s.move loop stage) where
  queues := by
    intro other fd pflags events here
    by_cases same : other = loop
    · subst same
      rw [move_same] at here
      exact queue fd pflags events here
    · rw [move_other s same] at here
      exact sound.queues other fd pflags events here
  heard := sound.heard

theorem Sound.call {s : Lpr} (sound : Sound flags s) (call : LprCall) :
    Sound flags (call.run s).2 := by
  cases call with
  | addEventListener lsnr =>
    unfold LprCall.run Lpr.addEventListener
    split_ifs
    · exact sound
    · have moved : Sound flags (s.move s.started .starting) := sound.move nofun
      exact ⟨moved.queues, moved.heard⟩
  | removeEventListener => exact ⟨sound.queues, sound.heard⟩
  | notifyOnError enable =>
    unfold LprCall.run Lpr.notifyOnError
    cases s.monThread <;> exact ⟨sound.queues, sound.heard⟩
  | notifyOnBuffer enable =>
    unfold LprCall.run Lpr.notifyOnBuffer
    cases s.monThread <;> exact ⟨sound.queues, sound.heard⟩
  | close =>
    unfold LprCall.run Lpr.close
    split_ifs <;> exact ⟨sound.queues, sound.heard⟩

theorem Sound.calls {s : Lpr} (sound : Sound flags s) (calls : List LprCall) :
    Sound flags (calls.foldl (fun s call => (call.run s).2) s) := by
  induction calls generalizing s with
  | nil => exact sound
  | cons call calls ih => exact ih (sound.call call)

theorem Sound.sendEvent {s : Lpr} (sound : Sound flags s) (callback : List LprCall) :
    Sound flags (s.sendEvent .error true callback).2 := by
  rcases sendEvent_cases s .error true callback with same | ⟨listener, sent⟩
  · rw [same]
    exact sound
  · rw [sent]
    apply Sound.calls
    refine ⟨sound.queues, ?_⟩
    intro heard member
    rcases List.mem_append.mp member with before | now
    · exact sound.heard heard before
    · rw [List.mem_singleton.mp now]
      exact ⟨rfl, rfl, rfl⟩

theorem Sound.runLoop {s s' : Lpr} (sound : Sound flags s) {loop : LoopId} {answers : LoopAnswers}
    (taken : s.runLoop flags loop answers = some s') : Sound flags s' := by
  unfold Lpr.runLoop at taken
  split at taken
  next => cases taken
  next => cases taken
  next stage =>
    cases taken
    exact sound.move nofun
  next fd stage =>
    cases taken
    split <;> exact sound.move nofun
  next fd pflags stage =>
    cases taken
    split
    · have moved : Sound flags (s.move loop .ended) := sound.move nofun
      exact ⟨moved.queues, moved.heard⟩
    · have moved : Sound flags (s.move loop (.check fd pflags)) := sound.move nofun
      exact ⟨moved.queues, moved.heard⟩
  next fd pflags stage =>
    cases taken
    split <;> exact sound.move nofun
  next fd pflags stage =>
    cases taken
    have moved : Sound flags (s.move loop (.sending fd (answers.status.getD pflags)
        (flags.events (answers.status.getD pflags)))) := by
      apply sound.move
      intro _ _ events same
      cases same
      refine ⟨events_length _, ?_⟩
      intro event member
      obtain ⟨_, -, rfl⟩ := List.mem_map.mp member
      rfl
    exact ⟨moved.queues, moved.heard⟩
  next fd pflags stage =>
    cases taken
    exact sound.move nofun
  next fd pflags event state rest stage =>
    cases taken
    obtain ⟨few, errors⟩ := sound.queues loop fd pflags _ stage
    cases errors _ List.mem_cons_self
    apply (sound.sendEvent answers.callback).move
    intro _ _ events same
    cases same
    rw [List.length_cons] at few
    exact ⟨by omega, fun event member => errors event (List.mem_cons_of_mem _ member)⟩

theorem Sound.step {s s' : Lpr} (sound : Sound flags s) {label : LprLabel}
    (taken : Takes (lprStep flags) s label s') : Sound flags s' := by
  cases label with
  | call call =>
    cases taken
    exact sound.call call
  | loop loop answers => exact sound.runLoop taken

theorem Sound.steps {s : Lpr} (sound : Sound flags s) (loop : LoopId) :
    (s.loops loop).steps flags ≤ flags.masks.length + 4 := by
  cases stage : s.loops loop with
  | sending fd pflags events =>
    have few := (sound.queues loop fd pflags events stage).1
    simp only [LoopStage.steps]
    omega
  | idle | ended | firstCheck | check | starting | select | getStatus =>
    simp only [LoopStage.steps]
    omega

/-- In every run nothing but errors that have set in is heard. From wherever the port has no monitor
    thread, as behind `removeEventListener` and `close`, and for as long as no listener is added,
    nothing is heard, and each loop uses its descriptor at most once in `select` and once in
    `LPGETSTATUS`, and has ended after four steps more than there are bits to look at. -/
theorem loops_end_without_listener (flags : StatusFlags) {fd : Int32} {s s' : Lpr}
    {before labels : List LprLabel} (reached : Path (Takes (lprStep flags)) (.constructed fd) before s)
    (path : Path (Guarded LprLabel.addsNone (Takes (lprStep flags))) s labels s')
    (quiet : s.monThread = none) :
    (∀ heard ∈ s.heard, heard.event = .error ∧ heard.oldValue = false ∧ heard.newValue = true) ∧
    s'.heard = s.heard ∧ ∀ loop,
      used s'.selected loop ≤ used s.selected loop + 1 ∧
      used s'.asked loop ≤ used s.asked loop + 1 ∧
      labels.countP (LprLabel.by loop) ≤ flags.masks.length + 4 ∧
      (labels.countP (LprLabel.by loop) = flags.masks.length + 4 → ¬ (s'.loops loop).live) := by
  have sound : Sound flags s :=
    reached.invariant (Sound flags) (fun _ _ _ sound taken => sound.step taken)
      (sound_constructed fd)
  have winds := path_winds path quiet
  refine ⟨sound.heard, winds.heard, ?_⟩
  intro loop
  have selects := winds.selects loop
  have asks := winds.asks loop
  have steps := winds.steps loop
  have oneSelect := selects_le_one (s.loops loop)
  have oneAsk := asks_le_one (s.loops loop)
  have few := sound.steps loop
  refine ⟨by omega, by omega, by omega, ?_⟩
  intro all live
  have more : 0 < (s'.loops loop).steps flags := steps_pos live
  omega

/-- A loop's check finds a monitor thread, be it another one's, and its `select` succeeds. -/
def Lpr.keepsLoops (s : Lpr) : LprLabel → Prop
  | .call _ => True
  | .loop loop answers =>
    match s.loops loop with
    | .firstCheck _ | .check _ _ => s.monThread ≠ none
    | .select _ _ => answers.selectFails = false
    | _ => True

def AllLive (s : Lpr) : Prop := ∀ loop, (s.loops loop).live ↔ loop < s.started

theorem AllLive.move {s : Lpr} (all : AllLive s) {loop : LoopId} (live : (s.loops loop).live)
    {stage : LoopStage} (goesOn : stage.live) : AllLive (s.move loop stage) := by
  intro other
  by_cases same : other = loop
  · subst same
    rw [move_same]
    exact iff_of_true goesOn ((all other).mp live)
  · rw [move_other s same]
    exact all other

theorem AllLive.call {s : Lpr} (all : AllLive s) (call : LprCall) : AllLive (call.run s).2 := by
  cases call with
  | addEventListener lsnr =>
    unfold LprCall.run Lpr.addEventListener
    split_ifs
    · exact all
    · intro other
      show ((s.move s.started .starting).loops other).live ↔ other < s.started + 1
      by_cases same : other = s.started
      · subst same
        rw [move_same]
        exact iff_of_true trivial (Nat.lt_succ_self _)
      · rw [move_other s same, all other]
        constructor
        · exact Nat.lt_succ_of_lt
        · intro below
          exact Nat.lt_of_le_of_ne (Nat.le_of_lt_succ below) same
  | removeEventListener => exact all
  | notifyOnError enable =>
    unfold LprCall.run Lpr.notifyOnError
    cases s.monThread <;> exact all
  | notifyOnBuffer enable =>
    unfold LprCall.run Lpr.notifyOnBuffer
    cases s.monThread <;> exact all
  | close =>
    unfold LprCall.run Lpr.close
    split_ifs <;> exact all

theorem AllLive.calls {s : Lpr} (all : AllLive s) (calls : List LprCall) :
    AllLive (calls.foldl (fun s call => (call.run s).2) s) := by
  induction calls generalizing s with
  | nil => exact all
  | cons call calls ih => exact ih (all.call call)

theorem AllLive.sendEvent {s : Lpr} (all : AllLive s) (event : ParEvent) (state : Bool)
    (callback : List LprCall) : AllLive (s.sendEvent event state callback).2 := by
  rcases sendEvent_cases s event state callback with same | ⟨listener, sent⟩
  · rw [same]
    exact all
  · rw [sent]
    apply AllLive.calls
    exact all

theorem call_started (call : LprCall) (s : Lpr) : s.started ≤ (call.run s).2.started := by
  cases call with
  | addEventListener lsnr =>
    unfold LprCall.run Lpr.addEventListener
    split_ifs
    · exact Nat.le_refl _
    · exact Nat.le_succ _
  | removeEventListener => exact Nat.le_refl _
  | notifyOnError enable =>
    unfold LprCall.run Lpr.notifyOnError
    cases s.monThread <;> exact Nat.le_refl _
  | notifyOnBuffer enable =>
    unfold LprCall.run Lpr.notifyOnBuffer
    cases s.monThread <;> exact Nat.le_refl _
  | close =>
    unfold LprCall.run Lpr.close
    split_ifs <;> exact Nat.le_refl _

theorem calls_started (calls : List LprCall) (s : Lpr) :
    s.started ≤ (calls.foldl (fun s call => (call.run s).2) s).started := by
  induction calls generalizing s with
  | nil => exact Nat.le_refl _
  | cons call calls ih => exact Nat.le_trans (call_started call s) (ih _)

theorem sendEvent_started (s : Lpr) (event : ParEvent) (state : Bool) (callback : List LprCall) :
    s.started ≤ (s.sendEvent event state callback).2.started := by
  rcases sendEvent_cases s event state callback with same | ⟨listener, sent⟩
  · rw [same]
  · rw [sent]
    have more := calls_started callback
      { s with heard := s.heard ++ [⟨listener, event, !state, state⟩] }
    exact more

theorem AllLive.runLoop {s s' : Lpr} (all : AllLive s) {loop : LoopId} {answers : LoopAnswers}
    (keeps : s.keepsLoops (.loop loop answers))
    (taken : s.runLoop flags loop answers = some s') : AllLive s' := by
  unfold Lpr.keepsLoops at keeps
  unfold Lpr.runLoop at taken
  split at taken
  next => cases taken
  next => cases taken
  next stage =>
    cases taken
    exact all.move (by simp [stage, LoopStage.live]) trivial
  next fd stage =>
    simp only [stage] at keeps
    rw [if_neg (by simpa [Lpr.checkMonitorThread] using keeps)] at taken
    cases taken
    exact all.move (by simp [stage, LoopStage.live]) trivial
  next fd pflags stage =>
    simp only [stage] at keeps
    rw [keeps] at taken
    cases taken
    exact @AllLive.move s all loop (by simp [stage, LoopStage.live]) (.check fd pflags) trivial
  next fd pflags stage =>
    simp only [stage] at keeps
    rw [if_neg (by simpa [Lpr.checkMonitorThread] using keeps)] at taken
    cases taken
    exact all.move (by simp [stage, LoopStage.live]) trivial
  next fd pflags stage =>
    cases taken
    exact @AllLive.move s all loop (by simp [stage, LoopStage.live]) (.sending fd _ _) trivial
  next fd pflags stage =>
    cases taken
    exact all.move (by simp [stage, LoopStage.live]) trivial
  next fd pflags event state rest stage =>
    cases taken
    have after := all.sendEvent event state answers.callback
    have before : loop < s.started := (all loop).mp (by simp [stage, LoopStage.live])
    have still := Nat.lt_of_lt_of_le before (sendEvent_started s event state answers.callback)
    exact after.move ((after loop).mpr still) trivial

theorem AllLive.step {s s' : Lpr} (all : AllLive s) {label : LprLabel}
    (step : Guarded Lpr.keepsLoops (Takes (lprStep flags)) s label s') : AllLive s' := by
  obtain ⟨keeps, taken⟩ := step
  cases label with
  | call call =>
    cases taken
    exact all.call call
  | loop loop answers => exact all.runLoop keeps taken

/-- A loop does not ask whether the monitor thread is its own. In a run in which every check finds
    one and no `select` fails, each loop that was ever started goes on, whatever listeners were
    removed. -/
theorem loops_outlive_their_listeners (flags : StatusFlags) {fd : Int32} {s : Lpr}
    {labels : List LprLabel}
    (path : Path (Guarded Lpr.keepsLoops (Takes (lprStep flags))) (.constructed fd) labels s)
    (loop : LoopId) : (s.loops loop).live ↔ loop < s.started := by
  have initial : AllLive (.constructed fd) :=
    fun loop => iff_of_false not_false (Nat.not_lt_zero loop)
  exact path.invariant AllLive (fun _ _ _ all step => all.step step) initial loop

def quietAnswers : LoopAnswers := ⟨false, none, []⟩

instance (s : Lpr) (label : LprLabel) : Decidable (s.keepsLoops label) := by
  unfold Lpr.keepsLoops
  split
  · exact inferInstance
  · split <;> exact inferInstance

def replaced : List LprLabel :=
  [.call (.addEventListener (some 1)), .loop 0 quietAnswers, .loop 0 quietAnswers,
    .call .removeEventListener, .call (.addEventListener (some 2)), .loop 0 quietAnswers,
    .loop 0 quietAnswers]

theorem loops_outlive_their_listeners_replaced :
    ∃ s, Path (Guarded Lpr.keepsLoops (Takes (lprStep .linux))) (.constructed 5) replaced s ∧
      s.started = 2 ∧ (s.loops 0).live := by
  have run : ∃ s, follow (checked Lpr.keepsLoops (lprStep .linux)) replaced (.constructed 5) =
      some s ∧ s.started = 2 := ⟨_, rfl, rfl⟩
  obtain ⟨s, followed, two⟩ := run
  have path := follow_checked followed
  have outlives := loops_outlive_their_listeners .linux path 0
  exact ⟨s, path, two, outlives.mpr (by rw [two]; decide)⟩

theorem loops_end_without_listener_removed :
    ∃ s s' : Lpr, Path (Takes (lprStep .linux)) (.constructed 5)
        [.call (.addEventListener (some 1)), .call (.notifyOnError true), .loop 0 quietAnswers,
          .loop 0 quietAnswers, .call .removeEventListener] s ∧
      Path (Guarded LprLabel.addsNone (Takes (lprStep .linux))) s
        [.loop 0 quietAnswers, .loop 0 quietAnswers] s' ∧
      used s'.selected 0 = 1 ∧ used s'.selected 0 ≤ used s.selected 0 + 1 ∧
      s'.heard = s.heard := by
  have run : ∃ s s' : Lpr, follow (lprStep .linux)
        [.call (.addEventListener (some 1)), .call (.notifyOnError true), .loop 0 quietAnswers,
          .loop 0 quietAnswers, .call .removeEventListener] (.constructed 5) = some s ∧
      s.monThread = none ∧ follow (checked LprLabel.addsNone (lprStep .linux))
        [.loop 0 quietAnswers, .loop 0 quietAnswers] s = some s' ∧
      used s'.selected 0 = 1 := ⟨_, _, rfl, rfl, rfl, rfl⟩
  obtain ⟨s, s', reached, quiet, wound, one⟩ := run
  have path := follow_checked wound
  obtain ⟨-, heard, uses⟩ := loops_end_without_listener .linux (follow_path reached) path quiet
  exact ⟨s, s', follow_path reached, path, one, (uses 0).1, heard⟩

end Rxtx.LPRPort
