import Rxtx.SerialImp.FhsLock

open LinkedHeap

namespace Rxtx.SerialImp

variable {proc : Process}

/-- Nothing comes between the two calls and the directory: the text of the lock is stored whole, and
    the file can be read and removed again. -/
structure Undisturbed (o : LockOutcome proc) (u : UnlockOutcome) : Prop where
  written : 11 ≤ o.written
  readable : u.readable = true
  unlinks : u.unlinks = true

/-- Between `dir` and `dir'` a lock was taken whose text either reader decodes to the pid of the
    process, and which the process gives back. -/
def GivenBack (proc : Process) (u : UnlockOutcome) (filename : CString) (dir dir' : LockDir) :
    Prop :=
  ∃ file content, lockFile filename = .ok file ∧ dir' file = some content ∧
    (∀ buffer old, atolPid (readOver content buffer) = proc.pid ∧
      sscanfPid (readOver content buffer) old = proc.pid) ∧
    fhsUnlock proc u filename proc.pid dir' = .ok (Function.update dir' file none) ∧
    ∀ other, other ≠ file → dir' other = dir other

/-- The content begins with blanks and the digits of a pid, and what ends the number is among the
    first eleven bytes. -/
def PidText (content : List Char) (pid : Nat) : Prop :=
  ∃ blanks digits stop rest, content = blanks ++ (digits ++ stop :: rest) ∧
    (∀ c ∈ blanks, Decimal.isSpace c = true) ∧ (∀ c ∈ digits, c.isDigit = true) ∧ digits ≠ [] ∧
    stop.isDigit = false ∧ blanks.length + digits.length < 11 ∧
    Nat.ofDigitChars 10 digits 0 = pid

/-- The lock file stays: it cannot be read; or its number, taken as an `int`, is that of none of the
    three processes and the report of that fits; or it cannot be removed. -/
def Stays (proc : Process) (u : UnlockOutcome) (content : List Char) (pid : Nat) (openpid : Int) :
    Prop :=
  u.readable = false ∨
    (longToInt pid ∉ [(proc.pid : Int), (proc.ppid : Int), openpid] ∧
      Reported u.survives (otherLockPid proc (readOver content u.pidBuffer) openpid)) ∨
    (longToInt pid ∈ [(proc.pid : Int), (proc.ppid : Int), openpid] ∧ u.unlinks = false)

theorem fhsLock_zero {o : LockOutcome proc} {filename : CString} {dir dir' : LockDir}
    (locks : fhsLock o filename dir = .ok (0, dir')) :
    ∃ file, lockFile filename = .ok file ∧
      dir' = Function.update dir file (some ((lockinfo proc.pid).take o.written)) := by
  cases named : lockFile filename with
  | error fault => simp [fhsLock, named, Bind.bind, Except.bind] at locks
  | ok file =>
    refine ⟨file, rfl, ?_⟩
    have told := fhsLock_told named locks
    cases granted : o.grants file dir with
    | true =>
      rw [fhsLock_granted named told granted] at locks
      exact (Prod.mk.inj (Except.ok.inj locks)).2.symm
    | false =>
      obtain ⟨other, refused, -⟩ := fhsLock_refused named told granted
      rw [refused] at locks
      exact absurd (Prod.mk.inj (Except.ok.inj locks)).1 (by decide)

theorem readOver_prefix {front content : List Char} (begins : front <+: content)
    (short : front.length ≤ 11) (buffer : List Char) :
    front <+: (readOver content buffer).take 11 := by
  rw [List.prefix_take_iff]
  refine ⟨?_, short⟩
  have read : front <+: content.take 11 := List.prefix_take_iff.mpr ⟨begins, short⟩
  exact read.trans (List.prefix_append _ _)

theorem PidText.atol {content : List Char} {pid : Nat} (text : PidText content pid)
    (buffer : List Char) : atolPid (readOver content buffer) = longToInt pid := by
  rcases text with ⟨blanks, digits, stop, rest, rfl, space, all, some, ended, within, rfl⟩
  have begins : blanks ++ (digits ++ [stop]) <+: blanks ++ (digits ++ stop :: rest) := by
    refine ⟨rest, ?_⟩
    simp
  have short : (blanks ++ (digits ++ [stop])).length ≤ 11 := by
    simp only [List.length_append, List.length_singleton]
    omega
  obtain ⟨more, read⟩ := readOver_prefix begins short buffer
  have stops : (stop :: more).head?.all (!·.isDigit) := by simp [ended]
  rw [atolPid, ← read, List.append_assoc, List.append_assoc, List.singleton_append,
    Decimal.scan_number space all some stops, Option.getD_some]

theorem fhsUnlock_stays_iff {u : UnlockOutcome} {filename file : CString} {dir : LockDir}
    {content : List Char} {pid : Nat} (named : lockFile filename = .ok file)
    (entry : dir file = some content) (text : PidText content pid) (openpid : Int) :
    fhsUnlock proc u filename openpid dir = .ok dir ↔ Stays proc u content pid openpid := by
  have foreign : u.foreign proc content openpid = true ↔
      longToInt pid ∉ [(proc.pid : Int), (proc.ppid : Int), openpid] := by
    rw [UnlockOutcome.foreign, text.atol, decide_eq_true_eq]
  have gone : Function.update dir file none ≠ dir := by
    intro same
    have absent := congrFun same file
    rw [Function.update_self, entry] at absent
    cases absent
  by_cases told : u.Told proc content openpid
  · rw [fhsUnlock_eq named entry told]
    by_cases removes : u.removes proc content openpid = true
    · have checks := removes
      simp only [UnlockOutcome.removes, Bool.and_eq_true, Bool.not_eq_true'] at checks
      rcases checks with ⟨⟨readable, ours⟩, unlinks⟩
      rw [← Bool.not_eq_true, foreign, not_not] at ours
      simp [removes, gone, Stays, readable, ours, unlinks]
    · rw [if_neg removes]
      refine iff_of_true rfl ?_
      cases readable : u.readable with
      | false => exact .inl readable
      | true =>
        cases other : u.foreign proc content openpid with
        | true => exact .inr (.inl ⟨foreign.mp other, told readable other⟩)
        | false =>
          refine .inr (.inr ⟨not_not.mp fun outside => ?_, ?_⟩)
          · rw [foreign.mpr outside] at other
            cases other
          · simpa [UnlockOutcome.removes, readable, other] using removes
  · constructor
    · intro unlocks
      exact absurd (fhsUnlock_told named entry unlocks) told
    · rintro (unreadable | ⟨-, reported⟩ | ⟨ours, -⟩)
      · refine absurd (fun readable => ?_) told
        rw [unreadable] at readable
        cases readable
      · exact absurd (fun _ _ => reported) told
      · exact absurd (fun _ other => absurd ours (foreign.mp other)) told

def ttyS1 : CString := "/dev/ttyS1".toList

def ttyS1Lock : CString := lockPrefix ++ "ttyS1".toList

def lockedAs (content : List Char) : LockDir := fun file =>
  if file = ttyS1Lock then some content else none

def unlocks12 : UnlockOutcome := ⟨true, [], true, false⟩

end Rxtx.SerialImp
