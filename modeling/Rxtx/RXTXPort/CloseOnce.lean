import Rxtx.Library.OneShot
import Rxtx.RXTXPort.CloseProtocol

open Runs OneShot

namespace Rxtx.RXTXPort

variable {T : Type} [DecidableEq T]

def Pc.phase : Pc → Phase
  | .close .test | .close .wait | .close .checkLock => .inside
  | .close .takeLock => .taking
  | .close .checkFd => .entered
  | .close .setDTR | .close .setDSR | .close .checkInterrupted | .close .removeEventListener
  | .close .nativeClose => .committed
  | .close .superClose | .close .resetFd => .acted
  | .close .resetLock => .leaving
  | .idle | .io _ _ | .close .enter | .close .waiting => .out

/-- The port as a gate before `nativeClose`, armed while it has a descriptor. -/
def Shared.gate (s : Shared T) : Gate T where
  monitor := s.monitor
  lock := s.closeLock
  armed := 0 < s.fd
  done := s.closes
  phase := fun thread => (s.pc thread).phase

omit [DecidableEq T] in
theorem gate_phase {s : Shared T} {thread : T} {pc : Pc} (at_ : s.pc thread = pc) :
    s.gate.phase thread = pc.phase := by
  rw [← at_]
  rfl

theorem gate_eq {s s' : Shared T} {thread : T} {pc : Pc}
    (pcs : s'.pc = Function.update s.pc thread pc) :
    s'.gate = { s'.gate with phase := Function.update s.gate.phase thread pc.phase } := by
  have phases : s'.gate.phase = Function.update s.gate.phase thread pc.phase := by
    funext other
    by_cases same : other = thread
    · subst same
      simp [Shared.gate, pcs]
    · simp [Shared.gate, pcs, same]
  rw [← phases]

theorem step_of {s s' : Shared T} {thread : T} {pc : Pc}
    (pcs : s'.pc = Function.update s.pc thread pc)
    (step : Step s.gate thread
      { s'.gate with phase := Function.update s.gate.phase thread pc.phase }) :
    Step s.gate thread s'.gate := by
  rw [gate_eq pcs]
  exact step

theorem step_same {s s' : Shared T} {thread : T} {before after : Pc} (at_ : s.pc thread = before)
    (pcs : s'.pc = Function.update s.pc thread after) (same : after.phase = before.phase)
    (rest : { s'.gate with phase := s.gate.phase } = s.gate) : Step s.gate thread s'.gate := by
  have unmoved : Function.update s.gate.phase thread after.phase = s.gate.phase := by
    rw [same, ← gate_phase at_, Function.update_eq_self]
  rw [gate_eq pcs, unmoved, rest]
  exact .stay

theorem runClose_gate {s s' : Shared T} {thread : T} {interrupt : Bool} {stage : Stage}
    (closing : s.pc thread = .close stage) (taken : runClose s thread interrupt stage = some s') :
    Step s.gate thread s'.gate := by
  have at_ := gate_phase closing
  cases stage <;> simp only [runClose] at taken
  case enter =>
    split_ifs at taken with free
    cases taken
    exact step_of rfl (.enter at_ free)
  case test =>
    cases taken
    split
    · exact step_same closing rfl rfl rfl
    · exact step_same closing rfl rfl rfl
  case wait =>
    cases taken
    exact step_of rfl (.exit at_)
  case waiting =>
    split_ifs at taken with free
    · cases taken
      exact step_same closing rfl rfl rfl
    · cases taken
      exact step_of rfl (.enter at_ free)
  case checkLock =>
    split_ifs at taken with locked
    · cases taken
      exact step_of rfl (.exit at_)
    · cases taken
      exact step_of rfl (.pass at_ (Bool.eq_false_iff.mpr locked))
  case takeLock =>
    cases taken
    exact step_of rfl (.take at_)
  case checkFd =>
    split_ifs at taken with bad
    · cases taken
      have none : s.gate.armed = false := by simpa [Shared.gate] using Int32.not_lt.mpr bad
      exact step_of rfl (.refuse at_ none)
    · cases taken
      have some : s.gate.armed = true := by simpa [Shared.gate] using Int32.not_le.mp bad
      exact step_of rfl (.commit at_ some)
  case setDTR =>
    cases taken
    exact step_same closing rfl rfl rfl
  case setDSR =>
    cases taken
    exact step_same closing rfl rfl rfl
  case checkInterrupted =>
    cases taken
    split
    · exact step_same closing rfl rfl rfl
    · exact step_same closing rfl rfl rfl
  case removeEventListener =>
    split_ifs at taken
    cases taken
    exact step_same closing rfl rfl rfl
  case nativeClose =>
    cases taken
    exact step_of rfl (.act at_)
  case superClose =>
    cases taken
    exact step_same closing rfl rfl rfl
  case resetFd =>
    cases taken
    exact step_of rfl (.disarm at_)
  case resetLock =>
    cases taken
    exact step_of rfl (.release at_)

theorem closeStep_gate {label : CloseLabel T} {s s' : Shared T}
    (taken : closeStep label s = some s') : ∃ thread, Step s.gate thread s'.gate := by
  cases closeStep_moves taken with
  | call thread method idle stream same =>
    subst same
    exact ⟨thread, step_same idle rfl rfl rfl⟩
  | returned thread throws synchronized stream running same =>
    subst same
    exact ⟨thread, step_same running rfl rfl rfl⟩
  | ran thread throws synchronized code next count running step same =>
    subst same
    exact ⟨thread, step_same running rfl rfl rfl⟩
  | started label thread idle same =>
    subst same
    exact ⟨thread, step_same idle rfl rfl rfl⟩
  | stayed thread same =>
    subst same
    exact ⟨thread, .stay⟩
  | advanced thread interrupt stage closing ran => exact ⟨thread, runClose_gate closing ran⟩

omit [DecidableEq T] in
theorem Shared.Opened.fresh {s : Shared T} (opened : s.Opened) : Fresh s.gate where
  unlocked := opened.closeLock
  undone := opened.closes
  out := by simp [Shared.gate, opened.idle, Pc.phase]

/-- Any number of threads may close the port any number of times, be interrupted in their waits
    and find I/O under way: `nativeClose` is called once at most. -/
theorem nativeClose_once {start s : Shared T} {labels : List (CloseLabel T)}
    (opened : start.Opened) (path : Path (Takes closeStep) start labels s) : s.closes ≤ 1 := by
  obtain ⟨threads, moves⟩ := path.map Shared.gate fun _ _ _ taken => closeStep_gate taken
  exact done_once opened.fresh moves

theorem nativeClose_once_of_two :
    let start : Shared Bool :=
      ⟨5, 9600, 0, 0, false, false, false, none, none, 0, fun _ => .idle⟩
    let next (thread : Bool) : CloseLabel Bool := .advance thread false
    ∃ s, Path (Takes closeStep) start ([.close true, next true, next true, next true, next true,
        .close false, next false, next false, next false] ++ List.replicate 9 (next true)) s ∧
      s.closes = 1 ∧ s.closes ≤ 1 := by
  intro start next
  have run : ∃ s, follow closeStep ([.close true, next true, next true, next true, next true,
      .close false, next false, next false, next false] ++ List.replicate 9 (next true)) start =
      some s ∧ s.closes = 1 := ⟨_, rfl, rfl⟩
  rcases run with ⟨s, followed, closed⟩
  have path := follow_path followed
  exact ⟨s, path, closed, nativeClose_once ⟨rfl, rfl, rfl, rfl, fun _ => rfl⟩ path⟩

end Rxtx.RXTXPort
