import Rxtx.SerialImp.LockFile
import Rxtx.SerialImp.Preopened

open LinkedHeap

namespace Rxtx.SerialImp

abbrev LockDir := CString → Option (List Char)

def lockPrefix : CString :=
  ['/', 'v', 'a', 'r', '/', 'l', 'o', 'c', 'k', '/', 'L', 'C', 'K', '.', '.']

def lockScan (filename : CString) : Nat → Nat
  | 0 => 0
  | j + 1 =>
    if filename[j]? = some '/' then j + 1 else if j = 0 then 1 else lockScan filename j

def fileSize : Nat := 80

def lockFile (filename : CString) : Except Fault CString :=
  strcpy fileSize (lockPrefix ++ filename.drop (lockScan filename filename.length))

structure Process where
  pid : Nat
  ppid : Nat
  pid_pos : 0 < pid
  pid_small : pid < 2 ^ 31

def process12 : Process := ⟨12, 1, by decide, by decide⟩

/-- What the system answers during `fhs_lock`. `passes` is what the part of `check_lock_status`
    before the own lock file comes to, `pidBuffer` and `pidBefore` are the variables that were not
    initialised, and `survives` tells whether the process lives on behind a text that is too long
    for `message`. -/
structure LockOutcome (proc : Process) where
  passes : Except Fault Bool
  readable : Bool
  pidBuffer : List Char
  pidBefore : Int
  esrch : Int → Bool
  alive : esrch proc.pid = false
  unlinks : Bool
  creates : Bool
  strerror : CString
  written : Nat
  survives : Bool

def takes12 : LockOutcome process12 :=
  ⟨.ok true, true, [], 0, fun pid => pid ≠ 12, by decide, true, true, [], 11, false⟩

variable {proc : Process}

def LockOutcome.lockPid (o : LockOutcome proc) (content : List Char) : Int :=
  sscanfPid (if o.readable then readOver content o.pidBuffer else o.pidBuffer) o.pidBefore

def removingStaleLock (file : CString) : CString :=
  "RXTX Warning:  Removing stale lock file. ".toList ++ file ++ ['\n']

def creatingLockFailed (file strerror : CString) : CString :=
  "RXTX fhs_lock() Error: creating lock file: ".toList ++ file ++ (':' :: ' ' :: strerror ++ ['\n'])

def reportStale (o : LockOutcome proc) (file : CString) (dir : LockDir) : Except Fault Unit :=
  match dir file with
  | none => return ()
  | some content =>
    if o.esrch (o.lockPid content) then sprintf o.survives (removingStaleLock file) else return ()

def isDeviceLocked (o : LockOutcome proc) (file : CString) (dir : LockDir) : Int × LockDir :=
  match dir file with
  | none => (0, dir)
  | some content =>
    if o.esrch (o.lockPid content) then
      if o.unlinks then (0, Function.update dir file none) else (1, dir)
    else (0, dir)

/-- The report of what it writes always fits: it is of eleven characters. -/
def fhsLock (o : LockOutcome proc) (filename : CString) (dir : LockDir) :
    Except Fault (Int × LockDir) := do
  let file ← lockFile filename
  if !(← o.passes) then return (1, dir)
  reportStale o file dir
  let (locked, dir) := isDeviceLocked o file dir
  if locked ≠ 0 then return (1, dir)
  if !o.creates || (dir file).isSome then
    sprintf o.survives (creatingLockFailed file o.strerror)
    return (1, dir)
  return (0, Function.update dir file (some ((lockinfo proc.pid).take o.written)))

structure UnlockOutcome where
  readable : Bool
  pidBuffer : List Char
  unlinks : Bool
  survives : Bool
  deriving DecidableEq, Repr

/-- `pid_buffer` is printed up to its first NUL. -/
def otherLockPid (proc : Process) (pidBuffer : List Char) (openpid : Int) : CString :=
  "check_lock_pid: lock = ".toList ++ (pidBuffer.take 11).takeWhile (· ≠ '\x00') ++
    " pid = ".toList ++ Decimal.decimal proc.pid ++ " gpid=".toList ++ Decimal.decimal proc.ppid ++
    " openpid=".toList ++ Decimal.decimal openpid ++ ['\n']

def checkLockPid (proc : Process) (o : UnlockOutcome) (file : CString) (openpid : Int)
    (dir : LockDir) : Except Fault Int :=
  match dir file with
  | none => return 1
  | some content =>
    if !o.readable then return 1
    else do
      let pidBuffer := readOver content o.pidBuffer
      let lockpid := atolPid pidBuffer
      if lockpid ≠ proc.pid ∧ lockpid ≠ proc.ppid ∧ lockpid ≠ openpid then
        sprintf o.survives (otherLockPid proc pidBuffer openpid)
        return 1
      return 0

def fhsUnlock (proc : Process) (o : UnlockOutcome) (filename : CString) (openpid : Int)
    (dir : LockDir) : Except Fault LockDir := do
  let file ← lockFile filename
  let other ← checkLockPid proc o file openpid dir
  if other = 0 ∧ o.unlinks then return Function.update dir file none
  return dir

theorem lockScan_slash (directory component : CString) (plain : '/' ∉ component) {k : Nat}
    (within : k ≤ component.length) :
    lockScan (directory ++ '/' :: component) (directory.length + 1 + k) = directory.length + 1 := by
  induction k with
  | zero => simp [lockScan]
  | succ k ih =>
    have below : k < component.length := within
    have other : (directory ++ '/' :: component)[directory.length + 1 + k]? ≠ some '/' := by
      rw [List.getElem?_append_right (by omega)]
      have offset : directory.length + 1 + k - directory.length = k + 1 := by omega
      rw [offset, List.getElem?_cons_succ, List.getElem?_eq_getElem below]
      intro slash
      exact plain (Option.some.inj slash ▸ List.getElem_mem below)
    show lockScan _ (directory.length + 1 + k + 1) = _
    rw [lockScan, if_neg other, if_neg (by omega)]
    exact ih (Nat.le_of_lt below)

theorem lockFile_component (directory component : CString) (plain : '/' ∉ component)
    (fits : component.length < 65) :
    lockFile (directory ++ '/' :: component) = .ok (lockPrefix ++ component) := by
  have whole : (directory ++ '/' :: component).length =
      directory.length + 1 + component.length := by
    simp only [List.length_append, List.length_cons]
    omega
  have rest : (directory ++ '/' :: component).drop (directory.length + 1) = component := by
    simp [List.drop_append]
  have short : (lockPrefix ++ component).length < fileSize := by
    simp only [List.length_append, lockPrefix, List.length_cons, List.length_nil, fileSize]
    omega
  rw [lockFile, whole, lockScan_slash directory component plain (Nat.le_refl _), rest, strcpy,
    if_pos short]

/-- The lock file is absent or can be removed as stale, and can then be created. -/
def LockOutcome.grants (o : LockOutcome proc) (file : CString) (dir : LockDir) : Bool :=
  o.passes = .ok true && o.creates && match dir file with
    | none => true
    | some content => o.esrch (o.lockPid content) && o.unlinks

def LockOutcome.removes (o : LockOutcome proc) (file : CString) (dir : LockDir) : Bool :=
  o.passes = .ok true && match dir file with
    | none => false
    | some content => o.esrch (o.lockPid content) && o.unlinks

def LockOutcome.stale (o : LockOutcome proc) (file : CString) (dir : LockDir) : Bool :=
  (dir file).any fun content => o.esrch (o.lockPid content)

/-- The lock file cannot be created, or is there although it is not stale. -/
def LockOutcome.collides (o : LockOutcome proc) (file : CString) (dir : LockDir) : Bool :=
  match dir file with
  | none => !o.creates
  | some content => !o.esrch (o.lockPid content) || (o.unlinks && !o.creates)

/-- The checks before the own lock file come to an end, and what is said of that file fits into
    `message`. -/
structure LockOutcome.Told (o : LockOutcome proc) (file : CString) (dir : LockDir) : Prop where
  checked : ∃ passes, o.passes = .ok passes
  stale : o.passes = .ok true → o.stale file dir = true →
    Reported o.survives (removingStaleLock file)
  collides : o.passes = .ok true → o.collides file dir = true →
    Reported o.survives (creatingLockFailed file o.strerror)

theorem fhsLock_eq {o : LockOutcome proc} {filename file : CString} {dir : LockDir}
    (named : lockFile filename = .ok file) (told : o.Told file dir) :
    fhsLock o filename dir = .ok (if o.grants file dir then
        (0, Function.update dir file (some ((lockinfo proc.pid).take o.written)))
      else (1, if o.removes file dir then Function.update dir file none else dir)) := by
  rcases told with ⟨⟨passed, passes⟩, stale, collides⟩
  simp only [passes, Except.ok.injEq, LockOutcome.stale, LockOutcome.collides] at stale collides
  cases passed with
  | false =>
    simp [fhsLock, named, passes, LockOutcome.grants, LockOutcome.removes, Bind.bind, Except.bind,
      Pure.pure, Except.pure]
  | true =>
    simp only [true_implies] at stale collides
    cases entry : dir file with
    | none =>
      cases creates : o.creates with
      | false =>
        have failed := sprintf_reported (collides (by simp [entry, creates]))
        simp [fhsLock, named, passes, creates, isDeviceLocked, reportStale, entry, failed,
          LockOutcome.grants, LockOutcome.removes, Bind.bind, Except.bind, Pure.pure, Except.pure]
      | true =>
        simp [fhsLock, named, passes, creates, isDeviceLocked, reportStale, entry,
          LockOutcome.grants, Bind.bind, Except.bind, Pure.pure, Except.pure]
    | some content =>
      by_cases dead : o.esrch (o.lockPid content) = true
      · have removing := sprintf_reported (stale (by simp [entry, dead]))
        cases unlinks : o.unlinks with
        | false =>
          simp [fhsLock, named, passes, isDeviceLocked, reportStale, entry, dead, removing, unlinks,
            LockOutcome.grants, LockOutcome.removes, Bind.bind, Except.bind, Pure.pure, Except.pure]
        | true =>
          cases creates : o.creates with
          | false =>
            have failed := sprintf_reported (collides (by simp [entry, unlinks, creates]))
            simp [fhsLock, named, passes, creates, isDeviceLocked, reportStale, entry, dead,
              removing, unlinks, failed, LockOutcome.grants, LockOutcome.removes, Bind.bind,
              Except.bind, Pure.pure, Except.pure]
          | true =>
            simp [fhsLock, named, passes, creates, isDeviceLocked, reportStale, entry, dead,
              removing, unlinks, LockOutcome.grants, Bind.bind, Except.bind, Pure.pure, Except.pure]
      · have failed := sprintf_reported (collides (by simp [entry, dead]))
        simp [fhsLock, named, passes, isDeviceLocked, reportStale, entry, dead, failed,
          LockOutcome.grants, LockOutcome.removes, Bind.bind, Except.bind, Pure.pure, Except.pure]

theorem reportStale_overruns {o : LockOutcome proc} {file : CString} {dir : LockDir}
    (stale : o.stale file dir = true) (overruns : ¬ Reported o.survives (removingStaleLock file)) :
    reportStale o file dir = .error .overflow := by
  unfold reportStale
  cases entry : dir file with
  | none => simp [LockOutcome.stale, entry] at stale
  | some content =>
    have dead : o.esrch (o.lockPid content) = true := by simpa [LockOutcome.stale, entry] using stale
    simp [dead, sprintf_overruns overruns]

theorem isDeviceLocked_collides {o : LockOutcome proc} {file : CString} {dir : LockDir}
    (collides : o.collides file dir = true) : (isDeviceLocked o file dir).1 = 0 ∧
      (!o.creates || ((isDeviceLocked o file dir).2 file).isSome) = true := by
  unfold isDeviceLocked
  unfold LockOutcome.collides at collides
  cases entry : dir file with
  | none => simpa [entry] using collides
  | some content =>
    by_cases dead : o.esrch (o.lockPid content) = true
    · simp only [entry, dead, Bool.not_true, Bool.false_or, Bool.and_eq_true] at collides
      simp [dead, collides.1, collides.2]
    · simp [dead, entry]

theorem fhsLock_told {o : LockOutcome proc} {filename file : CString} {dir : LockDir}
    {result : Int × LockDir} (named : lockFile filename = .ok file)
    (locks : fhsLock o filename dir = .ok result) : o.Told file dir := by
  simp only [fhsLock, named, Bind.bind, Except.bind] at locks
  cases passes : o.passes with
  | error fault => simp [passes] at locks
  | ok passed =>
    refine ⟨⟨passed, passes⟩, ?_, ?_⟩
    · intro same stale
      by_contra overruns
      simp [same, reportStale_overruns stale overruns] at locks
    · intro same collides
      by_contra overruns
      obtain ⟨unlocked, fails⟩ := isDeviceLocked_collides collides
      cases told : reportStale o file dir with
      | error fault => simp [same, told] at locks
      | ok => simp [same, told, unlocked, fails, sprintf_overruns overruns] at locks

theorem fhsLock_granted {o : LockOutcome proc} {filename file : CString} {dir : LockDir}
    (named : lockFile filename = .ok file) (told : o.Told file dir)
    (granted : o.grants file dir = true) : fhsLock o filename dir =
      .ok (0, Function.update dir file (some ((lockinfo proc.pid).take o.written))) := by
  rw [fhsLock_eq named told, if_pos granted]

theorem fhsLock_refused {o : LockOutcome proc} {filename file : CString} {dir : LockDir}
    (named : lockFile filename = .ok file) (told : o.Told file dir)
    (refused : o.grants file dir = false) :
    ∃ dir', fhsLock o filename dir = .ok (1, dir') ∧ (dir' = dir ∨
      dir' = Function.update dir file none ∧
        ∃ content, dir file = some content ∧ o.esrch (o.lockPid content) = true) := by
  rw [fhsLock_eq named told, if_neg (by simp [refused])]
  refine ⟨_, rfl, ?_⟩
  cases removed : o.removes file dir with
  | false => exact .inl rfl
  | true =>
    refine .inr ⟨rfl, ?_⟩
    cases entry : dir file with
    | none => simp [LockOutcome.removes, entry] at removed
    | some content =>
      simp only [LockOutcome.removes, entry, Bool.and_eq_true] at removed
      exact ⟨content, rfl, removed.2.1⟩

theorem fhsLock_other {o : LockOutcome proc} {filename file : CString} {dir dir' : LockDir}
    {result : Int} (named : lockFile filename = .ok file)
    (locks : fhsLock o filename dir = .ok (result, dir')) {other : CString}
    (different : other ≠ file) : dir' other = dir other := by
  rw [fhsLock_eq named (fhsLock_told named locks)] at locks
  have same : _ = dir' := congrArg Prod.snd (Except.ok.inj locks)
  rw [← same]
  split_ifs
  · exact Function.update_of_ne different _ _
  · exact Function.update_of_ne different _ _
  · rfl

theorem Process.pid_digits (proc : Process) : proc.pid < 10 ^ 10 :=
  Nat.lt_trans proc.pid_small (by decide)

theorem LockOutcome.own_alive {o : LockOutcome proc} (readable : o.readable = true) :
    o.esrch (o.lockPid (lockinfo proc.pid)) = false := by
  rw [LockOutcome.lockPid, if_pos readable,
    (lockinfo_read proc.pid_small o.pidBuffer o.pidBefore).1]
  exact o.alive

theorem fhsLock_own {o : LockOutcome proc} {filename file : CString} {dir : LockDir}
    (named : lockFile filename = .ok file) (told : o.Told file dir)
    (own : dir file = some (lockinfo proc.pid)) (readable : o.readable = true) :
    o.grants file dir = false ∧ fhsLock o filename dir = .ok (1, dir) := by
  have alive := o.own_alive readable
  have refused : o.grants file dir = false := by simp [LockOutcome.grants, own, alive]
  refine ⟨refused, ?_⟩
  obtain ⟨dir', locks, same | ⟨-, content, entry, stale⟩⟩ := fhsLock_refused named told refused
  · rw [locks, same]
  · rw [own, Option.some.injEq] at entry
    rw [← entry, alive] at stale
    cases stale

/-- The lock file is read as that of another process than the three. -/
def UnlockOutcome.foreign (proc : Process) (o : UnlockOutcome) (content : List Char)
    (openpid : Int) : Bool :=
  atolPid (readOver content o.pidBuffer) ∉ [(proc.pid : Int), (proc.ppid : Int), openpid]

/-- The lock file can be read, names one of the three processes, and can be removed. -/
def UnlockOutcome.removes (proc : Process) (o : UnlockOutcome) (content : List Char)
    (openpid : Int) : Bool :=
  o.readable && !o.foreign proc content openpid && o.unlinks

/-- That the lock file is of another process is said where it fits. -/
def UnlockOutcome.Told (proc : Process) (o : UnlockOutcome) (content : List Char) (openpid : Int) :
    Prop :=
  o.readable = true → o.foreign proc content openpid = true →
    Reported o.survives (otherLockPid proc (readOver content o.pidBuffer) openpid)

theorem checkLockPid_eq {o : UnlockOutcome} {file : CString} {dir : LockDir} {content : List Char}
    (entry : dir file = some content) (openpid : Int) :
    checkLockPid proc o file openpid dir =
      if o.readable = false then .ok 1
      else if o.foreign proc content openpid then
        sprintf o.survives (otherLockPid proc (readOver content o.pidBuffer) openpid) >>= fun _ =>
          .ok 1
      else .ok 0 := by
  cases readable : o.readable with
  | false => simp [checkLockPid, entry, readable, Pure.pure, Except.pure]
  | true =>
    simp only [checkLockPid, entry, readable, UnlockOutcome.foreign, List.mem_cons,
      List.not_mem_nil, or_false, not_or, decide_eq_true_eq, Bool.not_true, Bool.false_eq_true,
      Bool.true_eq_false, if_false]
    rfl

theorem fhsUnlock_absent {o : UnlockOutcome} {filename file : CString} {dir : LockDir}
    (named : lockFile filename = .ok file) (absent : dir file = none) (openpid : Int) :
    fhsUnlock proc o filename openpid dir = .ok dir := by
  simp [fhsUnlock, named, checkLockPid, absent, Bind.bind, Except.bind, Pure.pure, Except.pure]

theorem fhsUnlock_eq {o : UnlockOutcome} {filename file : CString} {dir : LockDir}
    {content : List Char} (named : lockFile filename = .ok file) (entry : dir file = some content)
    {openpid : Int} (told : o.Told proc content openpid) :
    fhsUnlock proc o filename openpid dir = .ok
      (if o.removes proc content openpid then Function.update dir file none else dir) := by
  cases readable : o.readable with
  | false =>
    simp [fhsUnlock, named, checkLockPid_eq entry, readable, UnlockOutcome.removes, Bind.bind,
      Except.bind, Pure.pure, Except.pure]
  | true =>
    cases foreign : o.foreign proc content openpid with
    | true =>
      have reports := sprintf_reported (told readable foreign)
      simp [fhsUnlock, named, checkLockPid_eq entry, readable, foreign, reports,
        UnlockOutcome.removes, Bind.bind, Except.bind, Pure.pure, Except.pure]
    | false =>
      cases unlinks : o.unlinks <;>
        simp [fhsUnlock, named, checkLockPid_eq entry, readable, foreign, unlinks,
          UnlockOutcome.removes, Bind.bind, Except.bind, Pure.pure, Except.pure]

theorem fhsUnlock_told {o : UnlockOutcome} {filename file : CString} {dir dir' : LockDir}
    {content : List Char} {openpid : Int} (named : lockFile filename = .ok file)
    (entry : dir file = some content)
    (unlocks : fhsUnlock proc o filename openpid dir = .ok dir') : o.Told proc content openpid := by
  intro readable foreign
  by_contra overruns
  simp [fhsUnlock, named, checkLockPid_eq entry, readable, foreign, sprintf_overruns overruns,
    Bind.bind, Except.bind] at unlocks

theorem fhsUnlock_other {u : UnlockOutcome} {filename file : CString} {openpid : Int}
    {dir dir' : LockDir} (named : lockFile filename = .ok file)
    (unlocks : fhsUnlock proc u filename openpid dir = .ok dir') {other : CString}
    (different : other ≠ file) : dir' other = dir other := by
  cases entry : dir file with
  | none =>
    rw [fhsUnlock_absent named entry] at unlocks
    rw [Except.ok.inj unlocks]
  | some content =>
    rw [fhsUnlock_eq named entry (fhsUnlock_told named entry unlocks)] at unlocks
    rw [← Except.ok.inj unlocks]
    split_ifs
    · exact Function.update_of_ne different _ _
    · rfl

theorem foreign_own {u : UnlockOutcome} {content : List Char} :
    u.foreign proc content proc.pid = false ↔
      atolPid (readOver content u.pidBuffer) ∈ [(proc.pid : Int), (proc.ppid : Int)] := by
  simp [UnlockOutcome.foreign]
  tauto

theorem fhsUnlock_own {o : UnlockOutcome} {filename file : CString} {dir : LockDir}
    (named : lockFile filename = .ok file) (own : dir file = some (lockinfo proc.pid))
    (readable : o.readable = true) (unlinks : o.unlinks = true) (openpid : Int) :
    fhsUnlock proc o filename openpid dir = .ok (Function.update dir file none) := by
  have read := (lockinfo_read proc.pid_small o.pidBuffer 0).2
  have ours : o.foreign proc (lockinfo proc.pid) openpid = false := by
    simp [UnlockOutcome.foreign, read]
  have told : o.Told proc (lockinfo proc.pid) openpid := by
    intro _ foreign
    rw [ours] at foreign
    cases foreign
  have removes : o.removes proc (lockinfo proc.pid) openpid = true := by
    simp [UnlockOutcome.removes, readable, ours, unlinks]
  rw [fhsUnlock_eq named own told, if_pos removes]

end Rxtx.SerialImp
