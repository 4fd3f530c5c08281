import Rxtx.Library.Runs

namespace Runs

variable {σ ι κ : Type}

structure Endless (step : σ → ι → σ → Prop) where
  state : Nat → σ
  label : Nat → ι
  takes : ∀ n, step (state n) (label n) (state (n + 1))

variable {step : σ → ι → σ → Prop}

def Endless.unguarded {ok : σ → ι → Prop} (run : Endless (Guarded ok step)) : Endless step where
  state := run.state
  label := run.label
  takes n := (run.takes n).2

theorem Endless.invariant (run : Endless step) (Inv : σ → Prop)
    (preserved : ∀ s label s', Inv s → step s label s' → Inv s') (start : Inv (run.state 0))
    (n : Nat) : Inv (run.state n) := by
  induction n with
  | zero => exact start
  | succ n ih => exact preserved _ _ _ ih (run.takes n)

/-- A state that only some steps leave, and never to come back. -/
theorem Endless.stays (run : Endless step) (P : σ → Prop)
    (kept : ∀ s label s', P s → step s label s' → P s') {n m : Nat} (later : n ≤ m)
    (holds : P (run.state n)) : P (run.state m) := by
  induction later with
  | refl => exact holds
  | step _ ih => exact kept _ _ _ ih (run.takes _)

/-- While `P` holds, each state has a thread whose next step lowers the rank; no other step raises
    the rank, nor changes the thread unless it lowers the rank. If that thread always runs, `Q`
    comes to hold. -/
theorem Endless.eventually (run : Endless step) (thread : ι → κ) (helper : σ → κ)
    (rank : σ → Nat) (P Q : σ → Prop)
    (fair : ∀ n, P (run.state n) → ∃ m, n ≤ m ∧ thread (run.label m) = helper (run.state n))
    (moves : ∀ n, P (run.state n) → Q (run.state (n + 1)) ∨ P (run.state (n + 1)) ∧
      (rank (run.state (n + 1)) < rank (run.state n) ∨
        rank (run.state (n + 1)) = rank (run.state n) ∧
          helper (run.state (n + 1)) = helper (run.state n) ∧
          thread (run.label n) ≠ helper (run.state n)))
    {n : Nat} (holds : P (run.state n)) : ∃ m, n ≤ m ∧ Q (run.state m) := by
  obtain ⟨r, atRank⟩ : ∃ r, r = rank (run.state n) := ⟨_, rfl⟩
  induction r using Nat.strongRecOn generalizing n with
  | ind r lower =>
    subst atRank
    obtain ⟨last, later, helps⟩ := fair n holds
    -- up to step `last` the helper of state `n` has not run unless one of the first two is so
    have until_last : ∀ m, n ≤ m → m ≤ last + 1 →
        (∃ k, n ≤ k ∧ Q (run.state k)) ∨
        (∃ k, n ≤ k ∧ P (run.state k) ∧ rank (run.state k) < rank (run.state n)) ∨
        m ≤ last ∧ P (run.state m) ∧ rank (run.state m) = rank (run.state n) ∧
          helper (run.state m) = helper (run.state n) := by
      intro m from_n
      induction from_n with
      | refl => exact fun _ => .inr (.inr ⟨later, holds, rfl, rfl⟩)
      | @step m from_n ih =>
        intro within
        rcases ih (by omega) with done | lowered | ⟨_, still, same, helped⟩
        · exact .inl done
        · exact .inr (.inl lowered)
        · rcases moves m still with
            reached | ⟨kept, less | ⟨equal, unchanged, other⟩⟩
          · exact .inl ⟨m + 1, Nat.le_succ_of_le from_n, reached⟩
          · exact .inr (.inl ⟨m + 1, Nat.le_succ_of_le from_n, kept, same ▸ less⟩)
          · have before : m ≠ last := by
              rintro rfl
              exact other (helps.trans helped.symm)
            exact .inr (.inr ⟨by omega, kept, equal.trans same, unchanged.trans helped⟩)
    rcases until_last (last + 1) (by omega) (by omega) with
      done | ⟨k, after, still, less⟩ | ⟨beyond, -⟩
    · exact done
    · obtain ⟨m, reached, goal⟩ := lower _ less still rfl
      exact ⟨m, by omega, goal⟩
    · omega

end Runs
