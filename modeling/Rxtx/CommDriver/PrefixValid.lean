import Rxtx.CommDriver.PortScan
import Rxtx.SerialImp.Preopened

open Rxtx.SerialImp (CString)

namespace Rxtx.CommDriver

abbrev Mode := BitVec 32

def sIfmt : Mode := 0o170000
def sIfchr : Mode := 0o020000

def sIsChr (mode : Mode) : Bool := mode &&& sIfmt = sIfchr

/-- The mode that `stat` finds, and the result of `open` at each of the checks in a call: which
    descriptor is free may differ from one to the next. -/
structure FileSystem where
  stat : CString → Option Mode
  descriptor : Nat → CString → Int
  stat_of_open : ∀ check path, 0 ≤ descriptor check path → (stat path).isSome = true

def teststringSize : Nat := 256

def snprintf (size : Nat) (text : CString) : CString := text.take (size - 1)

/-- `stat`, `S_ISCHR`, `OPEN` and the test of the descriptor. A `stat` that fails leaves `mystat` as
    it was. -/
def checkName (fs : FileSystem) (check : Nat) (teststring : CString) (mystat : Mode) :
    Bool × Mode :=
  let mystat := (fs.stat teststring).getD mystat
  (sIsChr mystat && 0 < fs.descriptor check teststring, mystat)

section

variable (deviceDir : CString) (fs : FileSystem) (name : CString)

def numberedName (i : Nat) : CString := deviceDir ++ name ++ Nat.toDigits 10 i

def probeNumbers : Nat → Nat → Mode → Bool × Mode
  | 0, _, mystat => (false, mystat)
  | left + 1, i, mystat =>
    match checkName fs i (snprintf teststringSize (numberedName deviceDir name i)) mystat with
    | (true, mystat) => (true, mystat)
    | (false, mystat) => probeNumbers left (i + 1) mystat

def isPortPrefixValid (mystat : Mode) : Bool × Mode :=
  let (result, mystat) := probeNumbers deviceDir fs name 64 0 mystat
  let (found, mystat) := checkName fs 64 (snprintf teststringSize (deviceDir ++ name)) mystat
  (if found then true else result, mystat)

def mystatBefore (mystat : Mode) (table : List CString) : Nat → Mode
  | 0 => mystat
  | j + 1 => (isPortPrefixValid deviceDir fs (table.getD j []) (mystatBefore mystat table j)).2

def validAt (mystat : Mode) (table : List CString) (j : Nat) : Bool :=
  (isPortPrefixValid deviceDir fs (table.getD j []) (mystatBefore deviceDir fs mystat table j)).1

def CharDevice (check : Nat) (path : CString) : Prop :=
  (fs.stat path).any sIsChr = true ∧ 0 < fs.descriptor check path

instance (check : Nat) (path : CString) : Decidable (CharDevice fs check path) :=
  inferInstanceAs (Decidable (_ ∧ _))

def HasDevice : Prop :=
  (∃ i < 64, CharDevice fs i (numberedName deviceDir name i)) ∨
    CharDevice fs 64 (deviceDir ++ name)

instance : Decidable (HasDevice deviceDir fs name) := inferInstanceAs (Decidable (_ ∨ _))

end

section

variable {deviceDir : CString} (fs : FileSystem) {name : CString}

theorem checkName_iff (check : Nat) (path : CString) (mystat : Mode) :
    (checkName fs check path mystat).1 = true ↔ CharDevice fs check path := by
  unfold checkName CharDevice
  cases found : fs.stat path with
  | none =>
    have absent : ¬ 0 ≤ fs.descriptor check path := by
      intro opened
      have there := fs.stat_of_open check path opened
      rw [found] at there
      cases there
    have none : ¬ 0 < fs.descriptor check path := by omega
    simp [none]
  | some mode => simp

theorem snprintf_fits {text : CString} (fits : text.length < teststringSize) :
    snprintf teststringSize text = text :=
  List.take_of_length_le (by unfold teststringSize at fits ⊢; omega)

theorem length_number {i : Nat} (small : i < 64) : (Nat.toDigits 10 i).length ≤ 2 :=
  (Nat.length_toDigits_le_iff (by decide) (by decide)).mpr (Nat.lt_trans small (by decide))

theorem numberedName_fits (fits : (deviceDir ++ name).length + 2 < teststringSize) {i : Nat}
    (small : i < 64) :
    snprintf teststringSize (numberedName deviceDir name i) = numberedName deviceDir name i := by
  apply snprintf_fits
  have digits := length_number small
  rw [numberedName, List.length_append]
  omega

theorem probeNumbers_iff (fits : (deviceDir ++ name).length + 2 < teststringSize)
    {left i : Nat} (within : i + left ≤ 64) (mystat : Mode) :
    (probeNumbers deviceDir fs name left i mystat).1 = true ↔
      ∃ j < i + left, i ≤ j ∧ CharDevice fs j (numberedName deviceDir name j) := by
  induction left generalizing i mystat with
  | zero =>
    refine iff_of_false (by simp [probeNumbers]) ?_
    rintro ⟨j, below, above, -⟩
    omega
  | succ left ih =>
    have here := checkName_iff fs i (numberedName deviceDir name i) mystat
    rw [probeNumbers, numberedName_fits fits (by omega)]
    rcases checked : checkName fs i (numberedName deviceDir name i) mystat with ⟨found, after⟩
    rw [checked] at here
    cases found with
    | true => exact iff_of_true rfl ⟨i, by omega, Nat.le_refl i, here.mp rfl⟩
    | false =>
      have missing : ¬ CharDevice fs i (numberedName deviceDir name i) :=
        fun device => Bool.false_ne_true (here.mpr device)
      refine (ih (by omega) after).trans ⟨?_, ?_⟩
      · rintro ⟨j, below, above, device⟩
        exact ⟨j, by omega, by omega, device⟩
      · rintro ⟨j, below, above, device⟩
        have later : i ≠ j := fun same => missing (same ▸ device)
        exact ⟨j, by omega, by omega, device⟩

end

/-- Whatever is in the buffer, a prefix is valid exactly when it has a device. -/
theorem port_prefix_valid_iff (deviceDir : CString) (fs : FileSystem) (name : CString)
    (fits : (deviceDir ++ name).length + 2 < teststringSize) (mystat : Mode) :
    (isPortPrefixValid deviceDir fs name mystat).1 = true ↔ HasDevice deviceDir fs name := by
  have numbers := probeNumbers_iff fs fits (Nat.le_refl (0 + 64)) mystat
  have base := checkName_iff fs 64 (deviceDir ++ name)
    (probeNumbers deviceDir fs name 64 0 mystat).2
  simp only [isPortPrefixValid, snprintf_fits (Nat.lt_of_add_right_lt fits)]
  rw [HasDevice, ← base]
  simp only [Nat.zero_add, Nat.zero_le, true_and] at numbers
  rw [← numbers]
  cases (checkName fs 64 (deviceDir ++ name) (probeNumbers deviceDir fs name 64 0 mystat).2).1 <;>
    simp

def oneTty : FileSystem where
  stat path := if path ∈ ["/dev/ttyS0".toList, "/dev/null".toList] then some sIfchr else none
  descriptor _ path := if path = "/dev/ttyS0".toList then 3 else -1
  stat_of_open check path opened := by
    split_ifs at opened with same
    · simp [same]
    · omega

theorem port_prefix_valid_iff_ttyS :
    (isPortPrefixValid "/dev/".toList oneTty "ttyS".toList sIfchr).1 = true ↔
      HasDevice "/dev/".toList oneTty "ttyS".toList :=
  port_prefix_valid_iff "/dev/".toList oneTty "ttyS".toList (by decide) sIfchr

theorem getValidPortPrefixes_devices (deviceDir : CString) (fs : FileSystem)
    {table : List CString} (few : table.length ≤ prefixSlots)
    (fits : ∀ name ∈ table, (deviceDir ++ name).length + 2 < teststringSize) (mystat : Mode) :
    getValidPortPrefixes (validAt deviceDir fs mystat table) (some table) =
      .ok (table.filter (HasDevice deviceDir fs)) := by
  have answers : ∀ entry ∈ table.zipIdx,
      validAt deviceDir fs mystat table entry.2 = decide (HasDevice deviceDir fs entry.1) := by
    intro entry member
    have there : table[entry.2]? = some entry.1 := List.mem_zipIdx_iff_getElem?.mp member
    have inside := fits entry.1 (List.mem_of_getElem? there)
    rw [validAt, List.getD_eq_getElem?_getD, there, Option.getD_some, Bool.eq_iff_iff,
      decide_eq_true_iff]
    exact port_prefix_valid_iff deviceDir fs entry.1 inside _
  show keepValid (validAt deviceDir fs mystat table) 0 [] table = _
  rw [keepValid_eq _ 0 [] table (by rw [List.length_nil]; omega), List.nil_append,
    List.filter_congr answers]
  have names := List.filter_map (f := Prod.fst)
    (p := fun name => decide (HasDevice deviceDir fs name)) (l := table.zipIdx)
  rw [List.zipIdx_map_fst] at names
  rw [names]
  rfl

end Rxtx.CommDriver
