import Mathlib.Algebra.Order.Ring.Int
import Rxtx.Library.Decimal

namespace Rxtx.SerialImp

/-- `sprintf( lockinfo, "%10d\n", getpid() )`, of which eleven bytes are written. -/
def lockinfo (pid : Nat) : List Char := (Decimal.padded 10 pid ++ ['\n']).take 11

/-- Eleven bytes read into a buffer that was never initialised. -/
def readOver (content buffer : List Char) : List Char :=
  content.take 11 ++ buffer.drop (content.take 11).length

/-- A scanned number as an `int`: it is held within the bounds of a `long`, of which the `int` keeps
    the low half. -/
def longToInt (n : Int) : Int := (max (-2 ^ 63) (min n (2 ^ 63 - 1))).bmod (2 ^ 32)

/-- `sscanf( pid_buffer, "%d", &pid )` leaves `pid` as it was when there is no number. -/
def sscanfPid (pidBuffer : List Char) (pid : Int) : Int :=
  ((Decimal.scan pidBuffer).map longToInt).getD pid

def atolPid (pidBuffer : List Char) : Int :=
  longToInt ((Decimal.scan (pidBuffer.take 11)).getD 0)

theorem longToInt_small {n : Nat} (small : n < 2 ^ 31) : longToInt n = n := by
  unfold longToInt
  rw [min_eq_left (by omega), max_eq_right (by omega)]
  apply Int.bmod_eq_of_le <;> omega

theorem lockinfo_eq {pid : Nat} (small : pid < 10 ^ 10) :
    lockinfo pid = Decimal.padded 10 pid ++ ['\n'] ∧ (lockinfo pid).length = 11 := by
  have digits : (Nat.toDigits 10 pid).length ≤ 10 :=
    (Nat.length_toDigits_le_iff (by decide) (by decide)).mpr small
  have length : (Decimal.padded 10 pid ++ ['\n']).length = 11 := by
    simp [Decimal.padded]
    omega
  have whole : lockinfo pid = Decimal.padded 10 pid ++ ['\n'] := by
    unfold lockinfo
    rw [← length, List.take_length]
  exact ⟨whole, by rw [whole, length]⟩

theorem lockinfo_scan {pid : Nat} (small : pid < 2 ^ 31) (rest : List Char) :
    Decimal.scan (lockinfo pid ++ rest) = some (pid : Int) := by
  rw [(lockinfo_eq (Nat.lt_trans small (by decide))).1, List.append_assoc]
  exact Decimal.scan_padded 10 pid rfl

theorem lockinfo_read {pid : Nat} (small : pid < 2 ^ 31) (buffer : List Char) (old : Int) :
    sscanfPid (readOver (lockinfo pid) buffer) old = pid ∧
      atolPid (readOver (lockinfo pid) buffer) = pid := by
  have length := (lockinfo_eq (Nat.lt_trans small (by decide))).2
  have all : (lockinfo pid).take 11 = lockinfo pid := by
    rw [← length, List.take_length]
  constructor
  · rw [sscanfPid, readOver, all, lockinfo_scan small, Option.map_some, longToInt_small small]
    rfl
  · have first : (lockinfo pid ++ buffer.drop (lockinfo pid).length).take 11 = lockinfo pid := by
      rw [← length]
      exact List.take_left
    have alone := lockinfo_scan small []
    rw [List.append_nil] at alone
    rw [atolPid, readOver, all, first, alone, Option.getD_some, longToInt_small small]

end Rxtx.SerialImp
