import Mathlib.Data.List.TakeWhile
import Rxtx.SerialImp.ForeignLocks

namespace Rxtx.SerialImp

/-- `while( *( p - 1 ) != '/' && j-- != 1 ) p--;`, with `p` counted from the first character. In
    front of that one there is nothing to read. -/
def backScan (filename : CString) : Nat → Int → Option Nat
  | 0, _ => none
  | p + 1, j =>
    if filename[p]? = some '/' then some (p + 1)
    else if j = 1 then some (p + 1)
    else backScan filename p (j - 1)

def lockSuffix (filename : CString) : Option CString :=
  (backScan filename filename.length filename.length).map fun p => filename.drop p

theorem backScan_eq (filename : CString) {p : Nat} (inside : 0 < p) :
    backScan filename p p = some (lockScan filename p) := by
  induction p with
  | zero => omega
  | succ p ih =>
    rw [backScan, lockScan]
    split_ifs with slash first zero zero
    · rfl
    · rw [show p = 0 by omega]
    · omega
    · omega
    · rw [← ih (by omega)]
      congr 1
      omega

theorem lockSuffix_eq {filename : CString} (some_ : filename ≠ []) :
    lockSuffix filename = some (scannedName filename) := by
  rw [lockSuffix, backScan_eq filename (List.length_pos_iff.mpr some_)]
  rfl

theorem scannedName_component (directory component : CString) (plain : '/' ∉ component) :
    scannedName (directory ++ '/' :: component) = component := by
  have length : (directory ++ '/' :: component).length =
      directory.length + 1 + component.length := by
    rw [List.length_append, List.length_cons]
    omega
  rw [scannedName, length, lockScan_slash directory component plain (Nat.le_refl _)]
  simp [List.drop_append]

theorem lastComponent_component (directory component : CString) (plain : '/' ∉ component) :
    lastComponent (directory ++ '/' :: component) = component := by
  have passed : ∀ c ∈ component.reverse, decide (c ≠ '/') = true := by
    intro c member
    exact decide_eq_true fun slash => plain (slash ▸ List.mem_reverse.mp member)
  rw [lastComponent, List.reverse_append, List.reverse_cons, List.append_assoc,
    List.takeWhile_append_of_pos passed, List.singleton_append,
    List.takeWhile_cons_of_neg (by simp), List.append_nil, List.reverse_reverse]

theorem lastComponent_unslashed {filename : CString} (plain : '/' ∉ filename) :
    lastComponent filename = filename := by
  have passed : filename.reverse.takeWhile (· ≠ '/') = filename.reverse := by
    rw [List.takeWhile_eq_self_iff]
    intro c member
    exact decide_eq_true fun slash => plain (slash ▸ List.mem_reverse.mp member)
  rw [lastComponent, passed, List.reverse_reverse]

theorem lockScan_unslashed {filename : CString} (plain : '/' ∉ filename) {p : Nat}
    (inside : 0 < p) : lockScan filename p = 1 := by
  induction p with
  | zero => omega
  | succ p ih =>
    have other : filename[p]? ≠ some '/' := fun slash => plain (List.mem_of_getElem? slash)
    rw [lockScan, if_neg other]
    split_ifs with zero
    · rfl
    · exact ih (by omega)

theorem scannedName_unslashed {filename : CString} (some_ : filename ≠ [])
    (plain : '/' ∉ filename) : scannedName filename = filename.tail := by
  rw [scannedName, lockScan_unslashed plain (List.length_pos_iff.mpr some_), List.drop_one]

/-- The scan keeps within the name, and ends at its last component just when that follows a
    slash. -/
theorem lock_suffix_last_iff (filename : CString) (some_ : filename ≠ []) :
    (lockSuffix filename).isSome = true ∧
      (lockSuffix filename = some (lastComponent filename) ↔ '/' ∈ filename) := by
  rw [lockSuffix_eq some_]
  refine ⟨rfl, ?_⟩
  rw [Option.some_inj]
  constructor
  · intro last
    by_contra plain
    rw [scannedName_unslashed some_ plain, lastComponent_unslashed plain] at last
    have shorter := congrArg List.length last
    have longer := List.length_pos_iff.mpr some_
    rw [List.length_tail] at shorter
    omega
  · intro slash
    obtain ⟨behind, front, split, plain⟩ :=
      List.eq_append_cons_of_mem (List.mem_reverse.mpr slash)
    have path : filename = front.reverse ++ '/' :: behind.reverse := by
      rw [← List.reverse_reverse filename, split]
      simp
    have plain' : '/' ∉ behind.reverse := fun member => plain (List.mem_reverse.mp member)
    rw [path, scannedName_component _ _ plain', lastComponent_component _ _ plain']

theorem lock_suffix_last_iff_ttyS0 :
    (lockSuffix "/dev/ttyS0".toList).isSome = true ∧
      (lockSuffix "/dev/ttyS0".toList = some (lastComponent "/dev/ttyS0".toList) ↔
        '/' ∈ "/dev/ttyS0".toList) :=
  lock_suffix_last_iff "/dev/ttyS0".toList (by decide)

/-- `ttyS0` is locked as `tyS0`. -/
theorem lock_suffix_not_last :
    ¬ ∀ filename : CString, filename ≠ [] →
      lockSuffix filename = some (lastComponent filename) := by
  intro last
  have whole := last "ttyS0".toList (by decide)
  exact absurd whole (by decide)

end Rxtx.SerialImp
