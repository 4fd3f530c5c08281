import Rxtx.Library.Rounds
import Rxtx.SerialImp.ReadRounds
import Rxtx.WinCE.Helpers

open Rounds
open Rxtx.SerialImp (Store contents taken written)

namespace Rxtx.WinCE

/-- The loop from the `call`-th `ReadFile` on; `none` is one that fails. Before each of them
    `dwTotalRead` is at most `len`, so that no sum reaches 2^32. -/
def readArrayLoop (off : Int) (len : Nat) (threshold : Int32)
    (readFile : Nat → Option (List UInt8)) (call dwTotalRead : Nat) (stores : List Store) :
    Option Nat × List Store :=
  match readFile call with
  | none => (none, stores)
  | some data =>
    let total := dwTotalRead + data.length
    if _h : 0 < data.length ∧ threshold ≠ 0 ∧ total ≤ len ∧ total < threshold.toBitVec.toNat then
      -- the next chunk goes to `body+off` again
      readArrayLoop off len threshold readFile (call + 1) total (stores ++ [⟨off, data⟩])
    else (some total, stores ++ [⟨off, data⟩])
termination_by len + 1 - dwTotalRead

/-- `copied` says whether the elements are copied back into the array. -/
structure ArrayRun where
  result : Int32
  pending : Option Pending
  stores : List Store
  copied : Bool

def ArrayRun.array (run : ArrayRun) (b : Int → UInt8) : Int → UInt8 :=
  if run.copied then written run.stores b else b

def readArray (findClass : String → Bool) (errorMsg : String) (threshold : Option Int32)
    (readFile : Nat → Option (List UInt8)) (off len : Int32) : ArrayRun :=
  if len.toInt < 0 then
    ⟨-1, throwJavaExceptionW findClass arrayIndexOutOfBounds "readArray"
      "Negative number of character to read", [], false⟩
  else
    match readArrayLoop off.toInt len.toInt.toNat (getJavaIntVar threshold) readFile 0 0 [] with
    | (none, stores) =>
      ⟨-1, throwJavaExceptionW findClass ioException "readArray - WriteFile" errorMsg, stores, false⟩
    | (some total, stores) => ⟨Int32.ofNat total, none, stores, true⟩

section

variable (len : Nat) (threshold : Int32) (chunks : Nat → List UInt8)

def gathered : Nat → List UInt8
  | 0 => []
  | k + 1 => gathered k ++ chunks k

def GoesOn (k : Nat) : Prop :=
  0 < (chunks k).length ∧ threshold ≠ 0 ∧ (gathered chunks (k + 1)).length ≤ len ∧
    (gathered chunks (k + 1)).length < threshold.toBitVec.toNat

/-- The first chunk ends the call, or the one behind it is empty. -/
def OneChunk : Prop := ¬ GoesOn len threshold chunks 0 ∨ chunks 1 = []

/-- The byte that is at the offset `i` once the first chunks are all stored at offset 0. -/
def lastAt (b : Int → UInt8) (off : Int) : Nat → Nat → UInt8
  | 0, i => b (off + i)
  | k + 1, i => (chunks k).getD i (lastAt b off k i)

/-- Stored over each other, the chunks up to `k` happen to leave every byte where it belongs. -/
def Coincides (b : Int → UInt8) (off : Int) (k : Nat) : Prop :=
  (gathered chunks (k + 1)).length ≤ len ∧ ∀ i (inside : i < (gathered chunks (k + 1)).length),
    lastAt chunks b off (k + 1) i = (gathered chunks (k + 1))[i]

def storesUpTo (off : Int) (k : Nat) : List Store := (List.range k).map fun i => ⟨off, chunks i⟩

end

variable {len : Nat} {threshold : Int32} {chunks : Nat → List UInt8}

theorem storesUpTo_succ (off : Int) (k : Nat) :
    storesUpTo chunks off (k + 1) = storesUpTo chunks off k ++ [⟨off, chunks k⟩] := by
  simp [storesUpTo, List.range_succ]

theorem taken_storesUpTo (off : Int) (k : Nat) :
    taken (storesUpTo chunks off k) = gathered chunks k := by
  induction k with
  | zero => rfl
  | succ k ih =>
    rw [storesUpTo_succ, taken, List.flatMap_append, ← taken, ih, gathered]
    simp

theorem written_succ (b : Int → UInt8) (off : Int) (k : Nat) :
    written (storesUpTo chunks off (k + 1)) b =
      Store.write (written (storesUpTo chunks off k) b) ⟨off, chunks k⟩ := by
  rw [storesUpTo_succ, written, List.foldl_append]
  rfl

theorem written_storesUpTo (b : Int → UInt8) (off : Int) (k i : Nat) :
    written (storesUpTo chunks off k) b (off + i) = lastAt chunks b off k i := by
  induction k with
  | zero => rfl
  | succ k ih =>
    rw [written_succ, lastAt, ← ih, Store.write]
    by_cases inside : i < (chunks k).length
    · rw [if_pos (by simp only []; omega)]
      simp only [show (off + (i : Int) - off).toNat = i by omega]
      rw [List.getD_eq_getElem _ _ inside, List.getD_eq_getElem _ _ inside]
    · rw [if_neg (by simp only []; omega), List.getD_eq_default _ _ (by omega)]

theorem written_outside (b : Int → UInt8) (off : Int) (fits : ∀ k, (chunks k).length ≤ len)
    (k : Nat) {i : Int} (outside : i < off ∨ off + len ≤ i) :
    written (storesUpTo chunks off k) b i = b i := by
  induction k with
  | zero => rfl
  | succ k ih =>
    have small := fits k
    rw [written_succ, Store.write, if_neg (by simp only []; omega), ih]

theorem readArrayLoop_goesOn (off : Int) {k : Nat} (more : GoesOn len threshold chunks k) :
    readArrayLoop off len threshold (fun k => some (chunks k)) k (gathered chunks k).length
        (storesUpTo chunks off k) =
      readArrayLoop off len threshold (fun k => some (chunks k)) (k + 1)
        (gathered chunks (k + 1)).length (storesUpTo chunks off (k + 1)) := by
  unfold GoesOn at more
  rw [gathered, List.length_append] at more
  rw [readArrayLoop]
  simp only [dif_pos more]
  rw [gathered, List.length_append, storesUpTo_succ]

theorem readArrayLoop_stops (off : Int) {k : Nat} (last : ¬ GoesOn len threshold chunks k) :
    readArrayLoop off len threshold (fun k => some (chunks k)) k (gathered chunks k).length
        (storesUpTo chunks off k) =
      (some (gathered chunks (k + 1)).length, storesUpTo chunks off (k + 1)) := by
  unfold GoesOn at last
  rw [gathered, List.length_append] at last
  rw [readArrayLoop]
  simp only [dif_neg last]
  rw [gathered, List.length_append, storesUpTo_succ]

theorem exists_lastCall (len : Nat) (threshold : Int32) (chunks : Nat → List UInt8) :
    ∃ k, Last (GoesOn len threshold chunks) k := by
  refine exists_last (fun k => (gathered chunks k).length) len ?_ ?_ <;> intro k more
  · have some_ := more.1
    simp only [gathered, List.length_append]
    omega
  · have room := more.2.2.1
    rw [gathered, List.length_append] at room
    omega

theorem readArrayLoop_last (off : Int) {k : Nat} (last : Last (GoesOn len threshold chunks) k) :
    readArrayLoop off len threshold (fun k => some (chunks k)) 0 0 [] =
      (some (gathered chunks (k + 1)).length, storesUpTo chunks off (k + 1)) :=
  last.result (fun _ more => readArrayLoop_goesOn off more) (readArrayLoop_stops off last.2)

/-- The result counts the bytes in front of `off`, which are those of the chunks, and the array is
    what it was before and behind the `len` bytes from there. -/
structure Assembles (b : Int → UInt8) (off len : Int32) (run : ArrayRun) : Prop where
  returns : ∃ n : Nat, run.result.toInt = n ∧ (n : Int) ≤ len.toInt ∧
    contents (run.array b) off.toInt n = taken run.stores
  outside : ∀ i, i < off.toInt ∨ off.toInt + len.toInt ≤ i → run.array b i = b i

theorem coincides_of_oneChunk {b : Int → UInt8} {off : Int} {k : Nat}
    (fits : ∀ k, (chunks k).length ≤ len) (one : OneChunk len threshold chunks)
    (last : Last (GoesOn len threshold chunks) k) : Coincides len chunks b off k := by
  have first : gathered chunks 1 = chunks 0 := List.nil_append _
  match k with
  | 0 =>
    refine ⟨first ▸ fits 0, fun i inside => ?_⟩
    simp only [Nat.zero_add, first] at inside ⊢
    exact List.getD_eq_getElem _ _ inside
  | 1 =>
    have empty : chunks 1 = [] := by
      rcases one with stops | empty
      · exact absurd (last.1 0 (by decide)) stops
      · exact empty
    have both : gathered chunks 2 = chunks 0 := by
      rw [gathered, first, empty, List.append_nil]
    refine ⟨both ▸ fits 0, fun i inside => ?_⟩
    simp only [Nat.reduceAdd, both] at inside ⊢
    rw [lastAt, empty, List.getD_nil]
    exact List.getD_eq_getElem _ _ inside
  | k + 2 =>
    rcases one with stops | empty
    · exact absurd (last.1 0 (by omega)) stops
    · have more := (last.1 1 (by omega)).1
      rw [empty] at more
      cases more

theorem contents_eq_iff (b : Int → UInt8) (off : Int) (k : Nat) :
    contents (written (storesUpTo chunks off k) b) off (gathered chunks k).length =
        gathered chunks k ↔
      ∀ i (inside : i < (gathered chunks k).length),
        lastAt chunks b off k i = (gathered chunks k)[i] := by
  constructor
  · intro same i inside
    rw [← written_storesUpTo]
    have here := congrArg (·[i]?) same
    simpa [contents, inside] using here
  · intro same
    apply List.ext_getElem
    · simp [contents]
    · intro i _ inside
      rw [← same i inside, ← written_storesUpTo]
      simp [contents]

theorem few_of_last {k : Nat} (last : Last (GoesOn len threshold chunks) k)
    (fits : ∀ k, (chunks k).length ≤ len) : (gathered chunks (k + 1)).length ≤ 2 * len := by
  have chunk := fits k
  have before : (gathered chunks k).length ≤ len := by
    cases k with
    | zero => exact Nat.zero_le _
    | succ k => exact (last.1 k (Nat.lt_succ_self k)).2.2.1
  rw [gathered, List.length_append]
  omega

theorem readArray_assembles (findClass : String → Bool) (errorMsg : String)
    (threshold : Option Int32) (off len : Int32) (room : 0 ≤ len.toInt) {k : Nat}
    (fits : ∀ k, (chunks k).length ≤ len.toInt.toNat)
    (last : Last (GoesOn len.toInt.toNat (getJavaIntVar threshold) chunks) k) (b : Int → UInt8) :
    Assembles b off len
        (readArray findClass errorMsg threshold (fun k => some (chunks k)) off len) ↔
      Coincides len.toInt.toNat chunks b off.toInt k := by
  have few := few_of_last last fits
  have small := len.toInt_lt
  have returned : readArray findClass errorMsg threshold (fun k => some (chunks k)) off len =
      ⟨Int32.ofNat (gathered chunks (k + 1)).length, none, storesUpTo chunks off.toInt (k + 1),
        true⟩ := by
    rw [readArray, if_neg (by omega), readArrayLoop_last off.toInt last]
  have result := Int32.toInt_ofNat' (n := (gathered chunks (k + 1)).length)
  rw [Int.bmod_def, show Int32.size = 2 ^ 32 from rfl] at result
  rw [returned]
  constructor
  · rintro ⟨⟨n, counts, few', same⟩, -⟩
    have all : n = (gathered chunks (k + 1)).length := by
      simp only [] at counts
      split at result <;> omega
    subst all
    rw [taken_storesUpTo] at same
    exact ⟨by omega, (contents_eq_iff b off.toInt (k + 1)).mp same⟩
  · rintro ⟨within, same⟩
    refine ⟨⟨(gathered chunks (k + 1)).length, ?_, by omega, ?_⟩, ?_⟩
    · simp only []
      split at result <;> omega
    · rw [taken_storesUpTo]
      exact (contents_eq_iff b off.toInt (k + 1)).mpr same
    · intro i outside
      exact written_outside b off.toInt fits (k + 1) (by omega)

/-- The chunks are one behind the other where there is no second one, and otherwise only as far as
    the bytes happen to agree. -/
theorem readArray_assembles_iff (findClass : String → Bool) (errorMsg : String)
    (threshold : Option Int32) (off len : Int32) (room : 0 ≤ len.toInt)
    (chunks : Nat → List UInt8) (fits : ∀ k, (chunks k).length ≤ len.toInt.toNat)
    (b : Int → UInt8) :
    Assembles b off len
        (readArray findClass errorMsg threshold (fun k => some (chunks k)) off len) ↔
      OneChunk len.toInt.toNat (getJavaIntVar threshold) chunks ∨
        ∃ k, Last (GoesOn len.toInt.toNat (getJavaIntVar threshold) chunks) k ∧
          Coincides len.toInt.toNat chunks b off.toInt k := by
  obtain ⟨k, last⟩ := exists_lastCall len.toInt.toNat (getJavaIntVar threshold) chunks
  rw [readArray_assembles findClass errorMsg threshold off len room fits last b]
  constructor
  · exact fun coincides => .inr ⟨k, last, coincides⟩
  · rintro (one | ⟨j, first, coincides⟩)
    · exact coincides_of_oneChunk fits one last
    · obtain rfl := last.unique first
      exact coincides

def splitInput : Nat → List UInt8
  | 0 => [1, 2]
  | 1 => [3]
  | _ => []

theorem splitInput_fits (k : Nat) : (splitInput k).length ≤ (4 : Int32).toInt.toNat := by
  unfold splitInput
  split <;> decide

theorem readArray_assembles_iff_split :
    Assembles (fun _ => 0) 0 4
        (readArray (fun _ => true) "" (some 3) (fun k => some (splitInput k)) 0 4) ↔
      OneChunk 4 3 splitInput ∨
        ∃ k, Last (GoesOn 4 3 splitInput) k ∧ Coincides 4 splitInput (fun _ => 0) 0 k :=
  readArray_assembles_iff (fun _ => true) "" (some 3) 0 4 (by decide) splitInput splitInput_fits
    fun _ => 0

/-- The 3 is stored over the 1. -/
theorem readArray_not_assembles :
    ¬ ∀ (threshold : Option Int32) (off len : Int32) (_ : 0 ≤ len.toInt)
      (chunks : Nat → List UInt8) (_ : ∀ k, (chunks k).length ≤ len.toInt.toNat)
      (b : Int → UInt8), Assembles b off len
        (readArray (fun _ => true) "" threshold (fun k => some (chunks k)) off len) := by
  intro assembles
  have split := assembles (some 3) 0 4 (by decide) splitInput splitInput_fits fun _ => 0
  have last : Last (GoesOn 4 3 splitInput) 1 := by
    unfold Last GoesOn
    decide
  have same := ((readArray_assembles (fun _ => true) "" (some 3) 0 4 (by decide) splitInput_fits
    last fun _ => 0).mp split).2 0 (by decide)
  exact absurd same (by decide)

end Rxtx.WinCE
