import Mathlib.Algebra.Order.Ring.Int
import Mathlib.Data.BitVec
import Mathlib.Data.List.Destutter

namespace Sampled

variable {w : Nat} {α : Type}

def distance (old new : BitVec w) : Nat := (new - old).toNat

@[simp] theorem distance_self (reading : BitVec w) : distance reading reading = 0 := by
  simp [distance]

theorem distance_step {old new : BitVec w} (differ : new ≠ old) :
    distance old new = distance (old + 1#w) new + 1 := by
  have nonzero : new - old ≠ 0#w := by
    intro zero
    exact differ (BitVec.sub_eq_iff_eq_add.mp zero |>.trans (BitVec.zero_add old))
  have positive : 0 < (new - old).toNat := by
    apply Nat.pos_of_ne_zero
    intro zero
    exact nonzero (BitVec.eq_of_toNat_eq (by simpa using zero))
  have wide : 1 < 2 ^ w := by
    have bound := (new - old).isLt
    omega
  have back : new - (old + 1#w) = (new - old) - 1#w := sub_add_eq_sub_sub new old 1#w
  have one : (1#w).toNat = 1 := by
    rw [BitVec.toNat_ofNat, Nat.mod_eq_of_lt wide]
  have least : 1#w ≤ new - old := by
    rw [BitVec.le_def, one]
    exact positive
  have less : ((new - old) - 1#w).toNat = (new - old).toNat - 1 := by
    rw [BitVec.toNat_sub_of_le least, one]
  unfold distance
  rw [back, less]
  omega

theorem add_distance (old new : BitVec w) : old + BitVec.ofNat w (distance old new) = new := by
  rw [distance, BitVec.ofNat_toNat, BitVec.setWidth_eq, BitVec.add_comm, BitVec.sub_add_cancel]

/-- What a counter has gone through over the readings that follow `first`. -/
def advance (first : BitVec w) : List (BitVec w) → Nat
  | [] => 0
  | reading :: later => distance first reading + advance reading later

/-- Readings of a count that advances by less than a full turn from one to the next lose
    nothing. -/
theorem advance_of_counts {count : Nat} {counts : List Nat}
    (slow : (count :: counts).IsChain fun old new => old ≤ new ∧ new < old + 2 ^ w) :
    count + advance (BitVec.ofNat w count) (counts.map (BitVec.ofNat w)) =
      counts.getLastD count := by
  induction counts generalizing count with
  | nil => simp [advance]
  | cons next counts ih =>
    rcases List.isChain_cons_cons.mp slow with ⟨⟨grows, turn⟩, rest⟩
    have one : distance (BitVec.ofNat w count) (BitVec.ofNat w next) = next - count := by
      have split : BitVec.ofNat w next = BitVec.ofNat w (next - count) + BitVec.ofNat w count := by
        rw [← BitVec.ofNat_add, Nat.sub_add_cancel grows]
      rw [distance, split, BitVec.add_sub_cancel, BitVec.toNat_ofNat]
      exact Nat.mod_eq_of_lt (by omega)
    have later := ih rest
    rw [List.map_cons, advance, one, List.getLastD_cons]
    omega

variable [DecidableEq α]

/-- The levels that follow `first` where they differ from the one before. -/
def edges (first : α) (levels : List α) : List α := (levels.destutter' (· ≠ ·) first).tail

theorem destutter'_head (first : α) (levels : List α) :
    (levels.destutter' (· ≠ ·) first).head? = some first := by
  induction levels with
  | nil => rfl
  | cons level levels ih =>
    rw [List.destutter'_cons]
    split
    · rfl
    · exact ih

theorem cons_edges (first : α) (levels : List α) :
    first :: edges first levels = levels.destutter' (· ≠ ·) first :=
  List.cons_head?_tail (destutter'_head first levels)

theorem edges_nil (first : α) : edges first [] = [] := rfl

theorem edges_cons (first level : α) (levels : List α) :
    edges first (level :: levels) =
      if level = first then edges first levels else level :: edges level levels := by
  unfold edges
  rw [List.destutter'_cons]
  by_cases same : level = first
  · simp [same]
  · have differ : first ≠ level := fun eq => same eq.symm
    rw [if_pos differ, if_neg same, List.tail_cons]
    exact (cons_edges level levels).symm

theorem edges_alternate (first : α) (levels : List α) :
    (first :: edges first levels).IsChain (· ≠ ·) := by
  rw [cons_edges]
  exact List.isChain_destutter' _ _ _

theorem edges_last (first : α) (levels : List α) :
    (edges first levels).getLastD first = levels.getLastD first := by
  induction levels generalizing first with
  | nil => rfl
  | cons level levels ih =>
    rw [edges_cons, List.getLastD_cons]
    split
    next same => rw [ih, same]
    · rw [List.getLastD_cons, ih]

theorem edges_append (first : α) (early late : List α) :
    edges first (early ++ late) = edges first early ++ edges (early.getLastD first) late := by
  induction early generalizing first with
  | nil => rfl
  | cons level early ih =>
    rw [List.cons_append, edges_cons, edges_cons, List.getLastD_cons]
    split
    next same => rw [ih, same]
    · rw [ih, List.cons_append]

end Sampled
