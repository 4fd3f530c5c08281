import Mathlib.Data.List.Nodup
import Mathlib.Data.List.Infix
import Rxtx.Library.Runs

open Runs

namespace Ledger

inductive Phase where
  | idle | running | entered | ended
  deriving DecidableEq, Repr

def Phase.Before (phase : Phase) : Prop := phase = .idle ∨ phase = .running

structure Book (I E : Type) where
  phase : I → Phase
  log : List (I × E)

inductive Event (I E : Type) where
  | none
  | begins (call : I)
  | enters (call : I) (effect : E)
  | ends (call : I)

variable {I E : Type}

/-- The log has one entry for each call that has entered its effect, and none for one of which
    nothing has been seen. -/
structure Kept (book : Book I E) : Prop where
  once : (book.log.map Prod.fst).Nodup
  absent : ∀ entry ∈ book.log, ¬ (book.phase entry.1).Before
  entered : ∀ call, book.phase call = .entered → ∃ effect, (call, effect) ∈ book.log

/-- What is added later are effects of calls that had not entered theirs. -/
structure Extends (book later : Book I E) : Prop where
  added : ∃ more, later.log = book.log ++ more ∧ ∀ entry ∈ more, (book.phase entry.1).Before
  before : ∀ call, (later.phase call).Before → (book.phase call).Before

theorem Extends.refl (book : Book I E) : Extends book book where
  added := ⟨[], by simp⟩
  before _ before := before

theorem Extends.trans {book middle later : Book I E} (first : Extends book middle)
    (second : Extends middle later) : Extends book later where
  added := by
    obtain ⟨here, log, news⟩ := first.added
    obtain ⟨there, log', news'⟩ := second.added
    refine ⟨here ++ there, by rw [log', log, List.append_assoc], ?_⟩
    intro entry member
    rcases List.mem_append.mp member with early | late
    · exact news entry early
    · exact first.before entry.1 (news' entry late)
  before call before := first.before call (second.before call before)

variable [DecidableEq I]

def Book.at (book : Book I E) (call : I) (phase : Phase) : Book I E :=
  { book with phase := Function.update book.phase call phase }

inductive Moves : Book I E → Event I E → Book I E → Prop
  | none (book : Book I E) : Moves book .none book
  | begins {book : Book I E} {call : I} (idle : book.phase call = .idle) :
      Moves book (.begins call) (book.at call .running)
  | enters {book : Book I E} {call : I} (running : book.phase call = .running) (effect : E) :
      Moves book (.enters call effect)
        { book.at call .entered with log := book.log ++ [(call, effect)] }
  | ends {book : Book I E} {call : I} (goesOn : book.phase call ≠ .ended) :
      Moves book (.ends call) (book.at call .ended)

theorem Book.at_phase (book : Book I E) (call : I) (phase : Phase) (other : I) :
    (book.at call phase).phase other = if other = call then phase else book.phase other :=
  Function.update_apply book.phase call phase other

theorem Kept.at {book : Book I E} (kept : Kept book) {call : I} {phase : Phase}
    (absent : phase.Before → (book.phase call).Before) (other : phase ≠ .entered) :
    Kept (book.at call phase) where
  once := kept.once
  absent := by
    intro entry member before
    rw [Book.at_phase] at before
    by_cases same : entry.1 = call
    · rw [if_pos same] at before
      exact kept.absent entry member (same ▸ absent before)
    · rw [if_neg same] at before
      exact kept.absent entry member before
  entered := by
    intro caller entered
    rw [Book.at_phase] at entered
    by_cases same : caller = call
    · rw [if_pos same] at entered
      exact absurd entered other
    · rw [if_neg same] at entered
      exact kept.entered caller entered

theorem Kept.enters {book : Book I E} (kept : Kept book) {call : I}
    (running : book.phase call = .running) (effect : E) :
    Kept { book.at call .entered with log := book.log ++ [(call, effect)] } where
  once := by
    have fresh : ∀ entry ∈ book.log, entry.1 ≠ call := by
      intro entry member same
      exact kept.absent entry member (same ▸ .inr running)
    rw [List.map_append, List.nodup_append]
    refine ⟨kept.once, by simp, ?_⟩
    intro caller member other single
    obtain ⟨entry, logged, rfl⟩ := List.mem_map.mp member
    obtain rfl : other = call := by simpa using single
    exact fresh entry logged
  absent := by
    intro entry member before
    have phase := book.at_phase call .entered entry.1
    rcases List.mem_append.mp member with old | new
    · by_cases same : entry.1 = call
      · exact kept.absent entry old (same ▸ .inr running)
      · rw [if_neg same] at phase
        exact kept.absent entry old (phase ▸ before)
    · obtain rfl := List.mem_singleton.mp new
      rw [if_pos rfl] at phase
      rcases before with idle | running
      · cases phase.symm.trans idle
      · cases phase.symm.trans running
  entered := by
    intro caller entered
    have phase := book.at_phase call .entered caller
    by_cases same : caller = call
    · subst same
      exact ⟨effect, by simp⟩
    · rw [if_neg same] at phase
      obtain ⟨given, logged⟩ := kept.entered caller (phase.symm.trans entered)
      exact ⟨given, List.mem_append_left _ logged⟩

theorem Moves.kept {book book' : Book I E} {event : Event I E} (moves : Moves book event book')
    (kept : Kept book) : Kept book' := by
  cases moves with
  | none => exact kept
  | begins idle => exact kept.at (fun _ => .inl idle) (by simp)
  | enters running effect => exact kept.enters running effect
  | ends => exact kept.at (by rintro (idle | running) <;> cases ‹_›) (by simp)

theorem Extends.at (book : Book I E) {call : I} {phase : Phase}
    (before : phase.Before → (book.phase call).Before) : Extends book (book.at call phase) where
  added := ⟨[], (List.append_nil _).symm, by simp⟩
  before := by
    intro caller unseen
    rw [Book.at_phase] at unseen
    by_cases same : caller = call
    · rw [if_pos same] at unseen
      exact same ▸ before unseen
    · rw [if_neg same] at unseen
      exact unseen

theorem Moves.extends {book book' : Book I E} {event : Event I E} (moves : Moves book event book') :
    Extends book book' := by
  cases moves with
  | none => exact .refl book
  | begins idle => exact .at book fun _ => .inl idle
  | enters running effect =>
    have seen : Phase.entered.Before → (book.phase _).Before := fun _ => .inr running
    exact ⟨⟨_, rfl, by simpa using .inr running⟩, (Extends.at book seen).before⟩
  | ends => exact .at book (by rintro (idle | running) <;> cases ‹_›)

theorem kept_path {book book' : Book I E} {events : List (Event I E)}
    (path : Path Moves book events book') (kept : Kept book) : Kept book' :=
  path.invariant Kept (fun _ _ _ kept moves => moves.kept kept) kept

theorem extends_path {book book' : Book I E} {events : List (Event I E)}
    (path : Path Moves book events book') : Extends book book' := by
  induction path with
  | nil book => exact .refl book
  | cons moves _ ih => exact moves.extends.trans ih

end Ledger
