import Rxtx.SerialImp.FhsLock

open LinkedHeap

namespace Rxtx.SerialImp

/-- The processes that `kill` finds. Another pid is always to be had. -/
structure ProcessTable (proc : Process) where
  running : Nat → Bool
  groupless : Int → Bool
  running_pid : ∀ p, running p = true → 0 < p ∧ p < 2 ^ 31
  own : running proc.pid = true
  spare : ∃ p, 0 < p ∧ p < 2 ^ 31 ∧ running p = false

variable {proc : Process}

/-- `kill( pid, 0 ) && errno == ESRCH`; 0 is the own group, and what is negative a group. -/
def ProcessTable.esrch (table : ProcessTable proc) (pid : Int) : Bool :=
  if 0 < pid then !table.running pid.toNat else if pid = 0 then false else table.groupless pid

theorem ProcessTable.esrch_pid (table : ProcessTable proc) {p : Nat} (positive : 0 < p) :
    table.esrch p = !table.running p := by
  rw [esrch, if_pos (by omega), Int.toNat_natCast]

/-- The content begins with the number of no process. -/
def ProcessTable.Stale (table : ProcessTable proc) (content : List Char) : Prop :=
  ∃ n, Decimal.scan content = some n ∧ ∀ p, table.running p = true → (p : Int) ≠ n

def ProcessTable.outcome (table : ProcessTable proc) (readable : Bool) (pidBuffer : List Char)
    (pid : Int) : LockOutcome proc where
  passes := .ok true
  readable := readable
  pidBuffer := pidBuffer
  pidBefore := pid
  esrch := table.esrch
  alive := by rw [table.esrch_pid proc.pid_pos, table.own, Bool.not_true]
  unlinks := true
  creates := true
  strerror := []
  written := 11
  survives := false

def Removes (table : ProcessTable proc) (readable : Bool) (file : CString) (dir : LockDir)
    (pidBuffer : List Char) (pid : Int) : Prop :=
  (isDeviceLocked (table.outcome readable pidBuffer pid) file dir).2 file = none

/-- Whatever the local variables held before, the file goes only if it begins with the number of no
    process, and it goes with all of their values or with none. -/
structure OnlyStale (table : ProcessTable proc) (readable : Bool) (file : CString) (dir : LockDir)
    (content : List Char) : Prop where
  stale : ∀ pidBuffer pid, Removes table readable file dir pidBuffer pid → table.Stale content
  determined : ∀ pidBuffer pid pidBuffer' pid', Removes table readable file dir pidBuffer pid ↔
    Removes table readable file dir pidBuffer' pid'

/-- The part of the content that is read, its number, and what more digits would make of it. -/
def readText (content : List Char) : List Char := content.take 11

def numberRead (content more : List Char) : Int :=
  longToInt (Decimal.signed (readText content) (Decimal.numeral (readText content) ++ more))

theorem removes_iff {table : ProcessTable proc} {readable : Bool} {file : CString} {dir : LockDir}
    {content : List Char} (entry : dir file = some content) (pidBuffer : List Char) (pid : Int) :
    Removes table readable file dir pidBuffer pid ↔
      table.esrch ((table.outcome readable pidBuffer pid).lockPid content) = true := by
  unfold Removes isDeviceLocked
  simp only [entry]
  by_cases stale : table.esrch ((table.outcome readable pidBuffer pid).lockPid content) = true
  · refine iff_of_true ?_ stale
    show (if table.esrch _ then _ else _ : Int × LockDir).2 file = none
    rw [if_pos stale]
    exact Function.update_self ..
  · refine iff_of_false ?_ stale
    show ¬ (if table.esrch _ then _ else _ : Int × LockDir).2 file = none
    rw [if_neg stale]
    simp [entry]

theorem lockPid_uninitialised {table : ProcessTable proc} {readable : Bool} {content : List Char}
    (unread : readable = true → Decimal.numeral (readText content) = []) (pid : Int) :
    (table.outcome readable [] pid).lockPid content = pid := by
  have none : Decimal.scan (if readable then readOver content [] else []) = none := by
    cases readable with
    | false => rfl
    | true =>
      have text : readOver content [] = readText content := by simp [readOver, readText]
      rw [if_pos rfl, text, Decimal.scan_eq, if_pos (unread rfl)]
  show sscanfPid (if readable then readOver content [] else []) pid = pid
  rw [sscanfPid, none]
  rfl

def digitsBehind (content behind : List Char) : List Char :=
  if Decimal.afterNumeral (readText content) = [] then behind.takeWhile Char.isDigit else []

theorem digitsBehind_digits (content behind : List Char) :
    ∀ c ∈ digitsBehind content behind, c.isDigit = true := by
  intro c member
  unfold digitsBehind at member
  split at member
  · exact List.mem_takeWhile_imp member
  · cases member

theorem scan_readText {content : List Char} (some : Decimal.numeral (readText content) ≠ [])
    (behind : List Char) : Decimal.scan (readText content ++ behind) =
      Option.some (Decimal.signed (readText content)
        (Decimal.numeral (readText content) ++ digitsBehind content behind)) := by
  rw [Decimal.scan_append some, digitsBehind]
  split <;> simp

theorem lockPid_number {table : ProcessTable proc} {content : List Char}
    (some : Decimal.numeral (readText content) ≠ []) (pidBuffer : List Char) (pid : Int) :
    (table.outcome true pidBuffer pid).lockPid content =
      numberRead content (digitsBehind content (pidBuffer.drop (readText content).length)) := by
  show sscanfPid (readText content ++ pidBuffer.drop (readText content).length) pid = _
  rw [sscanfPid, scan_readText some]
  rfl

theorem ProcessTable.dead_of_esrch {table : ProcessTable proc} {n : Int}
    (esrch : table.esrch (longToInt n) = true) {p : Nat} (running : table.running p = true) :
    (p : Int) ≠ n := by
  rintro rfl
  have range := table.running_pid p running
  rw [longToInt_small range.2, table.esrch_pid range.1, running] at esrch
  cases esrch

theorem not_determined {table : ProcessTable proc} {readable : Bool} {file : CString}
    {dir : LockDir} {content : List Char} (entry : dir file = some content)
    (unread : readable = true → Decimal.numeral (readText content) = []) :
    ¬ OnlyStale table readable file dir content := by
  intro only
  obtain ⟨p, positive, -, dead⟩ := table.spare
  have removed : Removes table readable file dir [] p := by
    rw [removes_iff entry, lockPid_uninitialised unread, table.esrch_pid positive, dead]
    rfl
  have kept : ¬ Removes table readable file dir [] proc.pid := by
    rw [removes_iff entry, lockPid_uninitialised unread, table.esrch_pid proc.pid_pos, table.own]
    decide
  exact kept ((only.determined _ _ _ _).mp removed)

theorem OnlyStale.settled {table : ProcessTable proc} {file : CString} {dir : LockDir}
    {content : List Char} (only : OnlyStale table true file dir content)
    (entry : dir file = some content) (some : Decimal.numeral (readText content) ≠ [])
    (unended : Decimal.afterNumeral (readText content) = []) {more : List Char}
    (digits : ∀ c ∈ more, c.isDigit = true) :
    table.esrch (numberRead content more) = table.esrch (numberRead content []) := by
  have same := only.determined (readText content ++ more) 0 [] 0
  rw [removes_iff entry, removes_iff entry, lockPid_number some, lockPid_number some,
    List.drop_left, List.drop_nil] at same
  have longer : digitsBehind content more = more := by
    rw [digitsBehind, if_pos unended, List.takeWhile_eq_self_iff]
    exact digits
  have alone : digitsBehind content [] = [] := by simp [digitsBehind]
  rw [longer, alone] at same
  exact Bool.eq_iff_iff.mpr same

theorem onlyStale_of_settled {table : ProcessTable proc} {file : CString} {dir : LockDir}
    {content : List Char} (entry : dir file = some content)
    (some : Decimal.numeral (readText content) ≠ [])
    (settled : ∀ behind, table.esrch (numberRead content (digitsBehind content behind)) =
      table.esrch (numberRead content [])) : OnlyStale table true file dir content := by
  have removes (pidBuffer : List Char) (pid : Int) : Removes table true file dir pidBuffer pid ↔
      table.esrch (numberRead content []) = true := by
    rw [removes_iff entry, lockPid_number some, settled]
  refine ⟨?_, ?_⟩
  · intro pidBuffer pid removed
    have whole := scan_readText some (content.drop 11)
    rw [readText, List.take_append_drop] at whole
    refine ⟨_, whole, ?_⟩
    intro p running
    have dead := (settled (content.drop 11)).trans ((removes pidBuffer pid).mp removed)
    exact table.dead_of_esrch dead running
  · intro pidBuffer pid pidBuffer' pid'
    rw [removes, removes]

/-- Only stale locks are removed, whatever the stack held, exactly where the file can be read and
    begins, within the eleven bytes, with a number that is ended there, or that no further digits
    would turn from a process into none or back. -/
theorem only_stale_removed_iff (table : ProcessTable proc) (readable : Bool) (file : CString)
    (dir : LockDir) (content : List Char) (entry : dir file = some content) :
    OnlyStale table readable file dir content ↔
      readable = true ∧ Decimal.numeral (readText content) ≠ [] ∧
        (Decimal.afterNumeral (readText content) ≠ [] ∨
          ∀ more : List Char, (∀ c ∈ more, c.isDigit = true) →
            table.esrch (numberRead content more) = table.esrch (numberRead content [])) := by
  constructor
  · intro only
    by_cases read : readable = true ∧ Decimal.numeral (readText content) ≠ []
    · rcases read with ⟨rfl, some⟩
      refine ⟨rfl, some, ?_⟩
      by_cases unended : Decimal.afterNumeral (readText content) = []
      · exact .inr fun more digits => only.settled entry some unended digits
      · exact .inl unended
    · refine absurd only (not_determined entry ?_)
      intro readable
      by_contra some
      exact read ⟨readable, some⟩
  · rintro ⟨rfl, some, ended⟩
    apply onlyStale_of_settled entry some
    intro behind
    rcases ended with stopped | extended
    · rw [digitsBehind, if_neg stopped]
    · exact extended _ (digitsBehind_digits content behind)

def onlyTwelve : ProcessTable process12 where
  running := fun p => p = 12
  groupless := fun pid => pid ≠ -12
  running_pid := by
    intro p same
    cases of_decide_eq_true same
    decide
  own := by decide
  spare := ⟨1, by decide⟩

def lockName : CString := lockPrefix ++ "ttyS1".toList

def holding (content : List Char) : LockDir :=
  Function.update (fun _ => none) lockName (some content)

theorem only_stale_removed_iff_ended :
    OnlyStale onlyTwelve true lockName (holding "   999 uucp\n".toList) "   999 uucp\n".toList ↔
      true = true ∧ Decimal.numeral (readText "   999 uucp\n".toList) ≠ [] ∧
        (Decimal.afterNumeral (readText "   999 uucp\n".toList) ≠ [] ∨
          ∀ more : List Char, (∀ c ∈ more, c.isDigit = true) →
            onlyTwelve.esrch (numberRead "   999 uucp\n".toList more) =
              onlyTwelve.esrch (numberRead "   999 uucp\n".toList [])) :=
  only_stale_removed_iff onlyTwelve true lockName _ _ (Function.update_self ..)

/-- An empty lock file goes or stays as the variable `pid` happens to have been. -/
theorem not_only_stale_removed :
    ¬ ∀ (proc : Process) (table : ProcessTable proc) (readable : Bool) (file : CString)
      (dir : LockDir) (content : List Char), dir file = some content →
      OnlyStale table readable file dir content := by
  intro only
  have entry : holding [] lockName = some [] := Function.update_self ..
  have same := (only _ onlyTwelve true lockName (holding []) [] entry).determined [] 999 [] 12
  have gone : Removes onlyTwelve true lockName (holding []) [] 999 := by
    rw [removes_iff entry]
    decide
  have stays : ¬ Removes onlyTwelve true lockName (holding []) [] 12 := by
    rw [removes_iff entry]
    decide
  exact stays (same.mp gone)

end Rxtx.SerialImp
