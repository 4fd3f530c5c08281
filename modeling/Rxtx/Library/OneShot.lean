import Mathlib.Logic.Function.Basic
import Rxtx.Library.Runs

open Runs

namespace OneShot

/-- A thread takes the lock inside the monitor and gives it back outside. -/
inductive Phase where
  | out | inside | taking | entered | committed | acted | leaving
  deriving DecidableEq, Repr

structure Gate (T : Type) where
  monitor : Option T
  lock : Bool
  armed : Bool
  done : Nat
  phase : T → Phase

variable {T : Type} [DecidableEq T]

def Gate.move (g : Gate T) (thread : T) (phase : Phase) : Gate T :=
  { g with phase := Function.update g.phase thread phase }

theorem move_phase (g : Gate T) (thread other : T) (phase : Phase) :
    (g.move thread phase).phase other = if other = thread then phase else g.phase other :=
  Function.update_apply g.phase thread phase other

inductive Step (g : Gate T) (thread : T) : Gate T → Prop
  | stay : Step g thread g
  | enter (at_ : g.phase thread = .out) (free : g.monitor = none) :
      Step g thread { g.move thread .inside with monitor := some thread }
  | exit (at_ : g.phase thread = .inside) :
      Step g thread { g.move thread .out with monitor := none }
  | pass (at_ : g.phase thread = .inside) (unlocked : g.lock = false) :
      Step g thread (g.move thread .taking)
  | take (at_ : g.phase thread = .taking) :
      Step g thread { g.move thread .entered with lock := true, monitor := none }
  | refuse (at_ : g.phase thread = .entered) (disarmed : g.armed = false) :
      Step g thread (g.move thread .out)
  | commit (at_ : g.phase thread = .entered) (armed : g.armed = true) :
      Step g thread (g.move thread .committed)
  | act (at_ : g.phase thread = .committed) :
      Step g thread { g.move thread .acted with done := g.done + 1 }
  | disarm (at_ : g.phase thread = .acted) :
      Step g thread { g.move thread .leaving with armed := false }
  | release (at_ : g.phase thread = .leaving) :
      Step g thread { g.move thread .out with lock := false }

def Phase.monitors : Phase → Prop
  | .inside | .taking => True
  | _ => False

def Phase.owns : Phase → Prop
  | .entered | .committed | .acted | .leaving => True
  | _ => False

structure Exclusive (g : Gate T) : Prop where
  inside : ∀ thread, (g.phase thread).monitors → g.monitor = some thread
  free : ∀ thread, g.phase thread = .taking → g.lock = false
  locked : ∀ thread, (g.phase thread).owns → g.lock = true
  unique : ∀ thread other, (g.phase thread).owns → (g.phase other).owns → thread = other

/-- Where the gate is armed and nobody is past its test, the action is still to be done. -/
structure Counted (g : Gate T) : Prop where
  unlocked : g.lock = false → g.armed = true → g.done = 0
  entered : ∀ thread, g.phase thread = .entered → g.armed = true → g.done = 0
  committed : ∀ thread, g.phase thread = .committed → g.done = 0
  leaving : ∀ thread, g.phase thread = .leaving → g.armed = false
  once : g.done ≤ 1

theorem move_self (g : Gate T) (thread : T) (phase : Phase) :
    (g.move thread phase).phase thread = phase := by
  rw [move_phase, if_pos rfl]

theorem move_other {g : Gate T} {thread other : T} {phase : Phase} (differ : other ≠ thread) :
    (g.move thread phase).phase other = g.phase other := by
  rw [move_phase, if_neg differ]

theorem of_move {g : Gate T} {thread other : T} {phase : Phase} (holds : Phase → Prop)
    (after : holds ((g.move thread phase).phase other)) :
    other = thread ∧ holds phase ∨ other ≠ thread ∧ holds (g.phase other) := by
  by_cases same : other = thread
  · rw [same, move_self] at after
    exact .inl ⟨same, after⟩
  · rw [move_other same] at after
    exact .inr ⟨same, after⟩

omit [DecidableEq T] in
theorem Exclusive.alone_inside {g : Gate T} (exclusive : Exclusive g) {thread other : T}
    (inside : (g.phase thread).monitors) (other_ : (g.phase other).monitors) : other = thread := by
  have mine := exclusive.inside thread inside
  rw [exclusive.inside other other_] at mine
  exact Option.some.inj mine

theorem Exclusive.move {g : Gate T} (exclusive : Exclusive g) (thread : T) (phase : Phase)
    (monitors : phase.monitors → g.monitor = some thread)
    (taking : phase = .taking → g.lock = false) (owns : phase.owns → (g.phase thread).owns) :
    Exclusive (g.move thread phase) := by
  have before {other : T} (after : ((g.move thread phase).phase other).owns) :
      (g.phase other).owns := by
    rcases of_move Phase.owns after with ⟨same, after⟩ | ⟨-, before⟩
    · rw [same]
      exact owns after
    · exact before
  refine ⟨?_, ?_, ?_, ?_⟩
  · intro other after
    rcases of_move Phase.monitors after with ⟨same, after⟩ | ⟨-, before⟩
    · rw [same]
      exact monitors after
    · exact exclusive.inside other before
  · intro other after
    rcases of_move (· = .taking) after with ⟨-, after⟩ | ⟨-, before⟩
    · exact taking after
    · exact exclusive.free other before
  · exact fun other after => exclusive.locked other (before after)
  · exact fun first second afterFirst afterSecond =>
      exclusive.unique first second (before afterFirst) (before afterSecond)

theorem Exclusive.step {g g' : Gate T} {thread : T} (exclusive : Exclusive g)
    (step : Step g thread g') : Exclusive g' := by
  cases step with
  | stay => exact exclusive
  | enter at_ nobody =>
    have entered : Exclusive { g with monitor := some thread } := by
      refine ⟨?_, exclusive.free, exclusive.locked, exclusive.unique⟩
      intro other inside
      have held := exclusive.inside other inside
      rw [nobody] at held
      cases held
    exact entered.move thread .inside (fun _ => rfl) nofun False.elim
  | exit at_ =>
    have inside : (g.phase thread).monitors := by simp [at_, Phase.monitors]
    have out := exclusive.move thread .out False.elim nofun False.elim
    refine ⟨?_, out.free, out.locked, out.unique⟩
    intro other after
    rcases of_move Phase.monitors after with ⟨-, after⟩ | ⟨differ, before⟩
    · exact after.elim
    · exact absurd (exclusive.alone_inside inside before) differ
  | pass at_ unlocked =>
    have inside : (g.phase thread).monitors := by simp [at_, Phase.monitors]
    exact exclusive.move thread .taking (fun _ => exclusive.inside thread inside)
      (fun _ => unlocked) False.elim
  | take at_ =>
    have inside : (g.phase thread).monitors := by simp [at_, Phase.monitors]
    have unlocked := exclusive.free thread at_
    have alone {other : T} (after : ((g.move thread .entered).phase other).owns) :
        other = thread := by
      rcases of_move Phase.owns after with ⟨same, -⟩ | ⟨-, before⟩
      · exact same
      · rw [exclusive.locked other before] at unlocked
        cases unlocked
    refine ⟨?_, ?_, fun _ _ => rfl, ?_⟩
    · intro other after
      rcases of_move Phase.monitors after with ⟨-, after⟩ | ⟨differ, before⟩
      · exact after.elim
      · exact absurd (exclusive.alone_inside inside before) differ
    · intro other after
      rcases of_move (· = .taking) after with ⟨-, after⟩ | ⟨differ, before⟩
      · cases after
      · exact absurd (exclusive.alone_inside inside (by simp [before, Phase.monitors])) differ
    · intro first second afterFirst afterSecond
      rw [alone afterFirst, alone afterSecond]
  | refuse at_ disarmed => exact exclusive.move thread .out False.elim nofun False.elim
  | commit at_ armed =>
    exact exclusive.move thread .committed False.elim nofun (by simp [at_, Phase.owns])
  | act at_ =>
    obtain ⟨inside, free, locked, unique⟩ :=
      exclusive.move thread .acted False.elim nofun (by simp [at_, Phase.owns])
    exact ⟨inside, free, locked, unique⟩
  | disarm at_ =>
    obtain ⟨inside, free, locked, unique⟩ :=
      exclusive.move thread .leaving False.elim nofun (by simp [at_, Phase.owns])
    exact ⟨inside, free, locked, unique⟩
  | release at_ =>
    have owner : (g.phase thread).owns := by simp [at_, Phase.owns]
    have out := exclusive.move thread .out False.elim nofun False.elim
    -- the owner was this thread, so none is left
    have nobody (other : T) : ¬ ((g.move thread .out).phase other).owns := by
      intro after
      rcases of_move Phase.owns after with ⟨-, after⟩ | ⟨differ, before⟩
      · exact after
      · exact differ (exclusive.unique other thread before owner)
    exact ⟨out.inside, fun _ _ => rfl, fun other after => absurd after (nobody other), out.unique⟩

theorem Counted.move {g : Gate T} (counted : Counted g) (thread : T) (phase : Phase)
    (entered : phase = .entered → g.armed = true → g.done = 0)
    (committed : phase = .committed → g.done = 0)
    (leaving : phase = .leaving → g.armed = false) : Counted (g.move thread phase) := by
  refine ⟨counted.unlocked, ?_, ?_, ?_, counted.once⟩
  · intro other after
    rcases of_move (· = .entered) after with ⟨-, after⟩ | ⟨-, before⟩
    · exact entered after
    · exact counted.entered other before
  · intro other after
    rcases of_move (· = .committed) after with ⟨-, after⟩ | ⟨-, before⟩
    · exact committed after
    · exact counted.committed other before
  · intro other after
    rcases of_move (· = .leaving) after with ⟨-, after⟩ | ⟨-, before⟩
    · exact leaving after
    · exact counted.leaving other before

theorem Counted.step {g g' : Gate T} {thread : T} (counted : Counted g) (exclusive : Exclusive g)
    (step : Step g thread g') : Counted g' := by
  cases step with
  | stay => exact counted
  | enter at_ free =>
    obtain ⟨unlocked, entered, committed, leaving, once⟩ :=
      counted.move thread .inside nofun nofun nofun
    exact ⟨unlocked, entered, committed, leaving, once⟩
  | exit at_ =>
    obtain ⟨unlocked, entered, committed, leaving, once⟩ :=
      counted.move thread .out nofun nofun nofun
    exact ⟨unlocked, entered, committed, leaving, once⟩
  | pass at_ free => exact counted.move thread .taking nofun nofun nofun
  | take at_ =>
    have undone := counted.unlocked (exclusive.free thread at_)
    obtain ⟨-, entered, committed, leaving, once⟩ :=
      counted.move thread .entered (fun _ => undone) nofun nofun
    exact ⟨nofun, entered, committed, leaving, once⟩
  | refuse at_ disarmed => exact counted.move thread .out nofun nofun nofun
  | commit at_ armed =>
    exact counted.move thread .committed nofun (fun _ => counted.entered thread at_ armed) nofun
  | act at_ =>
    have owner : (g.phase thread).owns := by simp [at_, Phase.owns]
    have only {other : T} (phase : Phase) (owns : phase.owns)
        (after : (g.move thread .acted).phase other = phase) : phase = .acted := by
      rcases of_move (· = phase) after with ⟨-, same⟩ | ⟨differ, before⟩
      · exact same.symm
      · rw [← before] at owns
        exact absurd (exclusive.unique other thread owns owner) differ
    refine ⟨?_, ?_, ?_, ?_, ?_⟩
    · intro unlocked
      have locked := exclusive.locked thread owner
      rw [show g.lock = false from unlocked] at locked
      cases locked
    · intro other after
      cases only .entered trivial after
    · intro other after
      cases only .committed trivial after
    · intro other after
      cases only .leaving trivial after
    · show g.done + 1 ≤ 1
      rw [counted.committed thread at_]
  | disarm at_ =>
    have disarmed : Counted { g with armed := false } :=
      ⟨fun _ => nofun, fun _ _ => nofun, counted.committed, fun _ _ => rfl, counted.once⟩
    exact disarmed.move thread .leaving nofun nofun fun _ => rfl
  | release at_ =>
    have disarmed := counted.leaving thread at_
    obtain ⟨-, entered, committed, leaving, once⟩ := counted.move thread .out nofun nofun nofun
    refine ⟨?_, entered, committed, leaving, once⟩
    intro _ armed
    rw [show g.armed = true from armed] at disarmed
    cases disarmed

structure Fresh (g : Gate T) : Prop where
  unlocked : g.lock = false
  undone : g.done = 0
  out : ∀ thread, g.phase thread = .out

omit [DecidableEq T] in
theorem Fresh.exclusive {g : Gate T} (fresh : Fresh g) : Exclusive g where
  inside := by simp [fresh.out, Phase.monitors]
  free := by simp [fresh.out]
  locked := by simp [fresh.out, Phase.owns]
  unique := by simp [fresh.out, Phase.owns]

omit [DecidableEq T] in
theorem Fresh.counted {g : Gate T} (fresh : Fresh g) : Counted g where
  unlocked := fun _ _ => fresh.undone
  entered := fun _ _ _ => fresh.undone
  committed := fun _ _ => fresh.undone
  leaving := by simp [fresh.out]
  once := by simp [fresh.undone]

/-- However the threads are interleaved, the action is done once at most. -/
theorem done_once {g g' : Gate T} {threads : List T} (fresh : Fresh g)
    (path : Path (fun g thread g' => Step g thread g') g threads g') : g'.done ≤ 1 := by
  have both := path.invariant (fun g => Exclusive g ∧ Counted g)
    (fun _ _ _ before step => ⟨before.1.step step, before.2.step before.1 step⟩)
    ⟨fresh.exclusive, fresh.counted⟩
  exact both.2.once

end OneShot
