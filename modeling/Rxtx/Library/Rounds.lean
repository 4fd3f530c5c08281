import Mathlib.Order.Lattice

namespace Rounds

def Last (goesOn : Nat → Prop) (k : Nat) : Prop := (∀ i < k, goesOn i) ∧ ¬ goesOn k

variable {goesOn : Nat → Prop}

theorem Last.unique {j k : Nat} (first : Last goesOn j) (second : Last goesOn k) : j = k := by
  rcases Nat.lt_trichotomy j k with less | same | more
  · exact absurd (second.1 j less) first.2
  · exact same
  · exact absurd (first.1 k more) second.2

/-- A measure that grows with every round and has a bound gives the loop a last one. -/
theorem exists_last (measure : Nat → Nat) (bound : Nat)
    (grows : ∀ k, goesOn k → measure k < measure (k + 1))
    (within : ∀ k, goesOn k → measure k ≤ bound) : ∃ k, Last goesOn k := by
  by_contra none
  have always : ∀ k, goesOn k := by
    intro k
    induction k using Nat.strong_induction_on with
    | _ k before =>
      by_contra stops
      exact none ⟨k, before, stops⟩
  have many : ∀ k, k ≤ measure k := by
    intro k
    induction k with
    | zero => exact Nat.zero_le _
    | succ k ih =>
      have more := grows k (always k)
      omega
  have few := within (bound + 1) (always (bound + 1))
  have enough := many (bound + 1)
  omega

theorem reaches {α : Type} {f : Nat → α} (step : ∀ k, goesOn k → f k = f (k + 1)) {k : Nat}
    (before : ∀ i < k, goesOn i) : f 0 = f k := by
  induction k with
  | zero => rfl
  | succ k ih =>
    rw [ih fun i less => before i (by omega)]
    exact step k (before k (Nat.lt_succ_self k))

theorem Last.result {α : Type} {f : Nat → α} {k : Nat} (last : Last goesOn k) {result : α}
    (step : ∀ k, goesOn k → f k = f (k + 1)) (ends : f k = result) : f 0 = result :=
  (reaches step last.1).trans ends

end Rounds
