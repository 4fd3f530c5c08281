import Rxtx.SerialImp.LockProtocol
import Rxtx.SerialImp.UucpLock

open LinkedHeap Runs Decimal

namespace Rxtx.SerialImp

variable {proc : Process}

def uucpLockCalled (filename : CString) : CString :=
  "uucp_lock( ".toList ++ filename ++ " );\n".toList

def uucpLockIsThere (file : CString) : CString :=
  "RXTX uucp_lock() ".toList ++ file ++ " is there\n".toList

def uucpCreatingFailed (file : CString) : CString :=
  "RXTX uucp_lock() Error: creating lock file: ".toList ++ file ++ ['\n']

/-- `stat` answers as it did in `is_device_locked`, so that the name that was not initialised is not
    printed. -/
def uucpLock (system : UucpSystem) (stat : FileSystem) (o : LockOutcome proc) (filename : CString)
    (dir : LockDir) : Except Fault (Int × LockDir) := do
  sprintf o.survives (uucpLockCalled filename)
  if !(← o.passes) then return (1, dir)
  match ← uucpFile system stat filename with
  | none => return (1, dir)
  | some file =>
    reportStale o file dir
    let (locked, dir) := isDeviceLocked o file dir
    if locked ≠ 0 then return (1, dir)
    if (dir file).isSome then
      sprintf o.survives (uucpLockIsThere file)
      return (1, dir)
    if !o.creates then
      sprintf o.survives (uucpCreatingFailed file)
      return (1, dir)
    return (0, Function.update dir file (some ((lockinfo proc.pid).take o.written)))

def uucpUnlockCalled (filename : CString) : CString :=
  "uucp_unlock( ".toList ++ filename ++ " );\n".toList

def uucpUnlinking (file : CString) : CString :=
  "uucp_unlock: unlinking ".toList ++ file ++ ['\n']

def uucpUnlinkingFailed (file : CString) : CString :=
  "uucp_unlock: unlinking failed ".toList ++ file ++ ['\n']

def uucpUnlock (system : UucpSystem) (stat : FileSystem) (proc : Process) (u : UnlockOutcome)
    (filename : CString) (openpid : Int) (dir : LockDir) : Except Fault LockDir := do
  sprintf u.survives (uucpUnlockCalled filename)
  match ← uucpFile system stat filename with
  | none => return dir
  | some file =>
    if (dir file).isNone then return dir
    if (← checkLockPid proc u file openpid dir) = 0 then
      sprintf u.survives (uucpUnlinking file)
      return if u.unlinks then Function.update dir file none else dir
    sprintf u.survives (uucpUnlinkingFailed file)
    return dir

abbrev Device := BitVec 32 × DevT

def Stat.device (buf : Stat) : Device := (buf.stDev.major, buf.stRdev)

def deviceFile (system : UucpSystem) (device : Device) : CString :=
  uucpText system ⟨⟨device.1, 0⟩, device.2⟩

theorem uucpFile_device {system : UucpSystem} {stat : FileSystem} {filename : CString} {buf : Stat}
    (found : stat filename = some buf) :
    uucpFile system stat filename = .ok (some (deviceFile system buf.device)) := by
  rw [uucpFile_of_stat found]
  rfl

theorem deviceFile_injective (system : UucpSystem) : Function.Injective (deviceFile system) := by
  intro device device' same
  have texts := same
  unfold deviceFile uucpText at same
  have numbers := List.append_cancel_left same
  have first (n : Int) (rest : CString) :
      (zeroPadded 3 n ++ '.' :: rest).takeWhile (· ≠ '.') = zeroPadded 3 n := by
    have plain : ∀ c ∈ zeroPadded 3 n, decide (c ≠ '.') = true := by
      intro c member
      apply decide_eq_true
      rintro rfl
      exact not_mem_zeroPadded (by decide) (by decide) member
    rw [List.takeWhile_append_of_pos plain]
    simp
  have disks : zeroPadded 3 device.1.toInt = zeroPadded 3 device'.1.toInt := by
    rw [← first device.1.toInt, numbers, first]
  have disk : device.1 = device'.1 := BitVec.toInt_inj.mp (zeroPadded_injective 3 disks)
  have major : (⟨⟨device.1, 0⟩, device.2⟩ : Stat).stDev =
      (⟨⟨device'.1, 0⟩, device'.2⟩ : Stat).stDev := by rw [disk]
  have special := (uucpText_same_iff system major).mp texts
  exact Prod.ext disk special

/-- The search for other locks comes to an end, and whatever `uucp_lock` may report fits. -/
structure LockOutcome.UucpTold (o : LockOutcome proc) (filename file : CString) : Prop where
  checked : ∃ passes, o.passes = .ok passes
  texts : ∀ text ∈ [uucpLockCalled filename, removingStaleLock file, uucpLockIsThere file,
    uucpCreatingFailed file], Reported o.survives text

/-- Whatever `uucp_unlock` may report of a lock of the process fits. -/
def UnlockOutcome.UucpTold (u : UnlockOutcome) (filename file : CString) : Prop :=
  ∀ text ∈ [uucpUnlockCalled filename, uucpUnlinking file], Reported u.survives text

section

variable {system : UucpSystem} {stat : FileSystem} {filename file : CString}

theorem uucpLock_returned {o : LockOutcome proc} {dir : LockDir} {result : Int × LockDir}
    (named : uucpFile system stat filename = .ok (some file))
    (returned : uucpLock system stat o filename dir = .ok result) :
    result = if o.grants file dir then
        (0, Function.update dir file (some ((lockinfo proc.pid).take o.written)))
      else (1, if o.removes file dir then Function.update dir file none else dir) := by
  obtain ⟨_, -, rest⟩ := bind_eq_ok.mp returned
  obtain ⟨passed, passes, rest⟩ := bind_eq_ok.mp rest
  cases passed with
  | false =>
    cases rest
    simp [LockOutcome.grants, LockOutcome.removes, passes]
  | true =>
    obtain ⟨_, same, rest⟩ := bind_eq_ok.mp rest
    obtain rfl := Except.ok.inj (named.symm.trans same)
    obtain ⟨_, -, rest⟩ := bind_eq_ok.mp rest
    cases entry : dir file with
    | none =>
      cases creates : o.creates with
      | false =>
        simp only [isDeviceLocked, entry, creates, Option.isSome_none] at rest
        obtain ⟨_, -, rest⟩ := bind_eq_ok.mp rest
        cases rest
        simp [LockOutcome.grants, LockOutcome.removes, creates, entry]
      | true =>
        simp only [isDeviceLocked, entry, creates, Option.isSome_none] at rest
        cases rest
        simp [LockOutcome.grants, passes, creates, entry]
    | some content =>
      by_cases stale : o.esrch (o.lockPid content) = true
      · cases unlinks : o.unlinks with
        | false =>
          simp only [isDeviceLocked, entry, stale, unlinks] at rest
          cases rest
          simp [LockOutcome.grants, LockOutcome.removes, unlinks, entry]
        | true =>
          cases creates : o.creates with
          | false =>
            simp only [isDeviceLocked, entry, stale, unlinks, creates, if_true, ne_eq,
              not_true_eq_false, if_false, Function.update_self, Option.isSome_none] at rest
            obtain ⟨_, -, rest⟩ := bind_eq_ok.mp rest
            cases rest
            simp [LockOutcome.grants, LockOutcome.removes, passes, creates, unlinks, stale, entry]
          | true =>
            simp only [isDeviceLocked, entry, stale, unlinks, creates, if_true, ne_eq,
              not_true_eq_false, if_false, Function.update_self, Option.isSome_none] at rest
            cases rest
            simp [LockOutcome.grants, passes, creates, unlinks, stale, entry]
      · simp only [isDeviceLocked, entry, stale, Bool.false_eq_true, if_false, ne_eq,
          not_true_eq_false, Option.isSome_some, if_true] at rest
        obtain ⟨_, -, rest⟩ := bind_eq_ok.mp rest
        cases rest
        simp [LockOutcome.grants, LockOutcome.removes, stale, entry]

theorem uucpLock_told {o : LockOutcome proc} (dir : LockDir)
    (named : uucpFile system stat filename = .ok (some file)) (told : o.UucpTold filename file) :
    ∃ result, uucpLock system stat o filename dir = .ok result := by
  rcases told with ⟨⟨passed, passes⟩, texts⟩
  have called := sprintf_reported (texts (uucpLockCalled filename) (by simp))
  have removing := sprintf_reported (texts (removingStaleLock file) (by simp))
  have there := sprintf_reported (texts (uucpLockIsThere file) (by simp))
  have failed := sprintf_reported (texts (uucpCreatingFailed file) (by simp))
  have stale : reportStale o file dir = .ok () := by
    unfold reportStale
    rw [removing]
    split
    · rfl
    · exact ite_self _
  simp only [uucpLock, called, passes, named, stale, there, failed, Bind.bind, Except.bind,
    Pure.pure, Except.pure]
  cases passed with
  | false => exact ⟨_, rfl⟩
  | true => split_ifs <;> exact ⟨_, rfl⟩

theorem uucpLock_unfound {o : LockOutcome proc} {dir : LockDir} {result : Int × LockDir}
    (unfound : stat filename = none)
    (returned : uucpLock system stat o filename dir = .ok result) : result = (1, dir) := by
  obtain ⟨_, -, rest⟩ := bind_eq_ok.mp returned
  obtain ⟨passed, -, rest⟩ := bind_eq_ok.mp rest
  cases passed with
  | false => exact (Except.ok.inj rest).symm
  | true =>
    simp only [uucpFile, unfound] at rest
    exact (Except.ok.inj rest).symm

theorem uucpUnlock_returned {u : UnlockOutcome} {openpid : Int} {dir dir' : LockDir}
    (named : uucpFile system stat filename = .ok (some file))
    (returned : uucpUnlock system stat proc u filename openpid dir = .ok dir') :
    dir' = if (dir file).any (u.removes proc · openpid) then Function.update dir file none
      else dir := by
  obtain ⟨_, -, rest⟩ := bind_eq_ok.mp returned
  obtain ⟨_, same, rest⟩ := bind_eq_ok.mp rest
  obtain rfl := Except.ok.inj (named.symm.trans same)
  cases entry : dir file with
  | none =>
    simp only [entry, Option.isNone_none, if_true] at rest
    exact (Except.ok.inj rest).symm
  | some content =>
    simp only [entry, Option.isNone_some, Bool.false_eq_true, if_false] at rest
    obtain ⟨other, checks, rest⟩ := bind_eq_ok.mp rest
    rw [checkLockPid_eq entry] at checks
    cases readable : u.readable with
    | false =>
      rw [readable, if_pos rfl] at checks
      cases checks
      obtain ⟨_, -, rest⟩ := bind_eq_ok.mp rest
      cases rest
      simp [UnlockOutcome.removes, readable]
    | true =>
      rw [readable, if_neg (by decide)] at checks
      cases foreign : u.foreign proc content openpid with
      | true =>
        rw [foreign, if_pos rfl] at checks
        obtain ⟨_, -, checks⟩ := bind_eq_ok.mp checks
        cases checks
        obtain ⟨_, -, rest⟩ := bind_eq_ok.mp rest
        cases rest
        simp [UnlockOutcome.removes, foreign]
      | false =>
        rw [foreign, if_neg (by decide)] at checks
        cases checks
        obtain ⟨_, -, rest⟩ := bind_eq_ok.mp rest
        cases rest
        simp [UnlockOutcome.removes, readable, foreign]

theorem uucpUnlock_unfound {u : UnlockOutcome} {openpid : Int} {dir dir' : LockDir}
    (unfound : stat filename = none)
    (returned : uucpUnlock system stat proc u filename openpid dir = .ok dir') : dir' = dir := by
  obtain ⟨_, -, rest⟩ := bind_eq_ok.mp returned
  simp only [uucpFile, unfound] at rest
  exact (Except.ok.inj rest).symm

end

variable {P : Type} [DecidableEq P]

def Processes.process (procs : Processes P) (p : P) : Process :=
  ⟨procs.pid p, procs.ppid p, procs.pid_pos p, procs.pid_small p⟩

/-- The lock directory, and who has locked a device and not called `uucp_unlock` on it since. A step
    is a whole call. -/
structure UucpWorld (P : Type) where
  dir : LockDir
  holds : P → Device → Bool

inductive UucpCall (procs : Processes P) where
  | lock (p : P) (filename : CString) (o : LockOutcome (procs.process p))
  | unlock (p : P) (filename : CString) (openpid : Int) (u : UnlockOutcome)

def UucpCall.filename {procs : Processes P} : UucpCall procs → CString
  | .lock _ filename _ => filename
  | .unlock _ filename _ _ => filename

section

variable (system : UucpSystem) (stat : FileSystem) {procs : Processes P}

def UucpWorld.setHolds (s : UucpWorld P) (p : P) (filename : CString) (holds : Bool) :
    UucpWorld P :=
  match stat filename with
  | none => s
  | some buf =>
    let held := Function.update (s.holds p) buf.device holds
    { s with holds := Function.update s.holds p held }

def uucpStep (call : UucpCall procs) (s : UucpWorld P) : Option (UucpWorld P) :=
  match call with
  | .lock p filename o =>
    match uucpLock system stat o filename s.dir with
    | .error _ => none
    | .ok (result, dir) =>
      let s := { s with dir := dir }
      some (if result = 0 then s.setHolds stat p filename true else s)
  | .unlock p filename openpid u =>
    match uucpUnlock system stat (procs.process p) u filename openpid s.dir with
    | .error _ => none
    | .ok dir => some ({ s with dir := dir }.setHolds stat p filename false)

/-- The process table finds every process, a lock is written whole, and nobody gives back the lock
    that its parent, or the process `openpid`, still holds. -/
def KeepsUucp (s : UucpWorld P) : UucpCall procs → Prop
  | .lock _ _ o => o.readable = true ∧ 11 ≤ o.written ∧ ∀ q, o.esrch (procs.pid q) = false
  | .unlock p filename openpid _ => ∀ buf, stat filename = some buf → ∀ q, q ≠ p →
      s.holds q buf.device = true → procs.pid q ≠ procs.ppid p ∧ (procs.pid q : Int) ≠ openpid

def Held (procs : Processes P) (s : UucpWorld P) : Prop :=
  ∀ p device, s.holds p device = true →
    s.dir (deviceFile system device) = some (lockinfo (procs.pid p))

theorem setHolds_found {filename : CString} {buf : Stat} (found : stat filename = some buf)
    (s : UucpWorld P) (p : P) (holds : Bool) (q : P) (device : Device) :
    (s.setHolds stat p filename holds).holds q device =
      if q = p ∧ device = buf.device then holds else s.holds q device := by
  simp only [UucpWorld.setHolds, found]
  by_cases same : q = p
  · subst same
    by_cases here : device = buf.device
    · simp [here]
    · simp [here]
  · simp [same]

omit [DecidableEq P] in
theorem LockOutcome.keeps_live {p : P} {o : LockOutcome (procs.process p)}
    (readable : o.readable = true) (alive : ∀ q, o.esrch (procs.pid q) = false) (q : P) :
    o.esrch (o.lockPid (lockinfo (procs.pid q))) = false := by
  rw [LockOutcome.lockPid, if_pos readable,
    (lockinfo_read (procs.pid_small q) o.pidBuffer o.pidBefore).1]
  exact alive q

omit [DecidableEq P] in
theorem LockOutcome.respects {p q : P} {o : LockOutcome (procs.process p)} {file : CString}
    {dir : LockDir} (readable : o.readable = true) (alive : ∀ q, o.esrch (procs.pid q) = false)
    (entry : dir file = some (lockinfo (procs.pid q))) :
    o.grants file dir = false ∧ o.removes file dir = false := by
  have live := LockOutcome.keeps_live readable alive q
  constructor
  · simp [LockOutcome.grants, entry, live]
  · simp [LockOutcome.removes, entry, live]

omit [DecidableEq P] in
theorem uucpLock_held {s : UucpWorld P} (held : Held system procs s) {p q : P} {filename : CString}
    {buf : Stat} (found : stat filename = some buf) (holds : s.holds p buf.device = true)
    {o : LockOutcome (procs.process q)} (readable : o.readable = true)
    (alive : ∀ q, o.esrch (procs.pid q) = false)
    (told : o.UucpTold filename (deviceFile system buf.device)) :
    uucpLock system stat o filename s.dir = .ok (1, s.dir) := by
  obtain ⟨refused, kept⟩ := LockOutcome.respects readable alive (held p buf.device holds)
  obtain ⟨result, locks⟩ := uucpLock_told s.dir (uucpFile_device found) told
  rw [locks, uucpLock_returned (uucpFile_device found) locks, refused, kept]
  rfl

omit [DecidableEq P] in
theorem uucpUnlock_holder {s : UucpWorld P} (held : Held system procs s) {p : P}
    {filename : CString} {buf : Stat} (found : stat filename = some buf)
    (holds : s.holds p buf.device = true) {u : UnlockOutcome} (readable : u.readable = true)
    (unlinks : u.unlinks = true) (told : u.UucpTold filename (deviceFile system buf.device))
    (openpid : Int) :
    uucpUnlock system stat (procs.process p) u filename openpid s.dir =
      .ok (Function.update s.dir (deviceFile system buf.device) none) := by
  have entry := held p buf.device holds
  have read := (lockinfo_read (procs.pid_small p) u.pidBuffer 0).2
  have ours : u.foreign (procs.process p) (lockinfo (procs.pid p)) openpid = false := by
    simp [UnlockOutcome.foreign, read, Processes.process]
  have called := sprintf_reported (told (uucpUnlockCalled filename) (by simp))
  have unlinking := sprintf_reported (told (uucpUnlinking (deviceFile system buf.device)) (by simp))
  have checks : checkLockPid (procs.process p) u _ openpid s.dir = _ := checkLockPid_eq entry openpid
  rw [readable, if_neg (by decide), ours, if_neg (by decide)] at checks
  simp only [uucpUnlock, called, uucpFile_device found, entry, checks, unlinking, unlinks,
    Option.isNone_some, Bool.false_eq_true, if_true, if_false, Bind.bind, Except.bind, Pure.pure,
    Except.pure]

variable {system} in
omit [DecidableEq P] in
theorem Held.update {s s' : UucpWorld P} (held : Held system procs s) (device : Device)
    (dir : ∀ other, other ≠ device →
      s'.dir (deviceFile system other) = s.dir (deviceFile system other))
    (others : ∀ p other, other ≠ device → s'.holds p other = s.holds p other)
    (here : ∀ p, s'.holds p device = true →
      s'.dir (deviceFile system device) = some (lockinfo (procs.pid p))) :
    Held system procs s' := by
  intro p other holds
  by_cases same : other = device
  · subst same
    exact here p holds
  · rw [others p other same] at holds
    rw [dir other same]
    exact held p other holds

theorem setHolds_dir (s : UucpWorld P) (p : P) (filename : CString) (holds : Bool) :
    (s.setHolds stat p filename holds).dir = s.dir := by
  unfold UucpWorld.setHolds
  split <;> rfl

theorem uucpStep_lock {s s' : UucpWorld P} {p : P} {filename file : CString}
    {o : LockOutcome (procs.process p)}
    (named : uucpFile system stat filename = .ok (some file))
    (taken : uucpStep system stat (.lock p filename o) s = some s') :
    o.grants file s.dir = true ∧ s' = UucpWorld.setHolds stat
        ⟨Function.update s.dir file (some ((lockinfo (procs.pid p)).take o.written)), s.holds⟩ p
        filename true ∨
      s' = ⟨if o.removes file s.dir then Function.update s.dir file none else s.dir, s.holds⟩ := by
  cases locks : uucpLock system stat o filename s.dir with
  | error fault => simp [uucpStep, locks] at taken
  | ok result =>
    rw [uucpStep, locks, uucpLock_returned named locks] at taken
    cases granted : o.grants file s.dir with
    | true =>
      rw [granted, if_pos rfl] at taken
      exact .inl ⟨rfl, (Option.some.inj taken).symm⟩
    | false =>
      rw [granted, if_neg (by decide)] at taken
      exact .inr (Option.some.inj taken).symm

theorem uucpStep_unlock {s s' : UucpWorld P} {p : P} {filename file : CString} {openpid : Int}
    {u : UnlockOutcome} (named : uucpFile system stat filename = .ok (some file))
    (taken : uucpStep system stat (.unlock p filename openpid u : UucpCall procs) s = some s') :
    s' = UucpWorld.setHolds stat
      ⟨if (s.dir file).any (u.removes (procs.process p) · openpid) then
        Function.update s.dir file none else s.dir, s.holds⟩ p filename false := by
  cases unlocks : uucpUnlock system stat (procs.process p) u filename openpid s.dir with
  | error fault => simp [uucpStep, unlocks] at taken
  | ok dir =>
    rw [uucpStep, unlocks, uucpUnlock_returned named unlocks] at taken
    exact (Option.some.inj taken).symm

theorem uucpStep_unfound {s s' : UucpWorld P} {call : UucpCall procs}
    (taken : uucpStep system stat call s = some s') (unfound : stat call.filename = none) :
    s' = s := by
  cases call with
  | lock p filename o =>
    cases locks : uucpLock system stat o filename s.dir with
    | error fault => simp [uucpStep, locks] at taken
    | ok result =>
      rw [uucpStep, locks, uucpLock_unfound unfound locks] at taken
      exact (Option.some.inj taken).symm
  | unlock p filename openpid u =>
    cases unlocks : uucpUnlock system stat (procs.process p) u filename openpid s.dir with
    | error fault => simp [uucpStep, unlocks] at taken
    | ok dir =>
      rw [uucpStep, unlocks, uucpUnlock_unfound unfound unlocks] at taken
      have none : stat filename = none := unfound
      simp only [UucpWorld.setHolds, none] at taken
      exact (Option.some.inj taken).symm

theorem Held.lock {s s' : UucpWorld P} {p : P} {filename : CString}
    {o : LockOutcome (procs.process p)} (held : Held system procs s)
    (keeps : KeepsUucp stat s (.lock p filename o))
    (taken : uucpStep system stat (.lock p filename o) s = some s') : Held system procs s' := by
  obtain ⟨readable, written, alive⟩ := keeps
  cases found : stat filename with
  | none => exact uucpStep_unfound system stat taken found ▸ held
  | some buf =>
    have whole : (lockinfo (procs.pid p)).take o.written = lockinfo (procs.pid p) := by
      apply List.take_of_length_le
      have length := (lockinfo_eq (procs.process p).pid_digits).2
      exact le_of_eq_of_le length written
    rcases uucpStep_lock system stat (uucpFile_device found) taken with ⟨granted, rfl⟩ | rfl
    · apply held.update buf.device
      · intro other differ
        rw [setHolds_dir]
        exact Function.update_of_ne ((deviceFile_injective system).ne differ) _ _
      · intro q other differ
        rw [setHolds_found stat found, if_neg (fun both => differ both.2)]
      · intro q holds
        rw [setHolds_dir, whole]
        rw [setHolds_found stat found] at holds
        by_cases own : q = p
        · rw [own]
          exact Function.update_self ..
        · rw [if_neg (fun both => own both.1)] at holds
          have refused := (LockOutcome.respects readable alive (held q buf.device holds)).1
          rw [granted] at refused
          cases refused
    · refine held.update buf.device ?_ (fun _ _ _ => rfl) ?_
      · intro other differ
        dsimp only
        split
        · exact Function.update_of_ne ((deviceFile_injective system).ne differ) _ _
        · rfl
      · intro q holds
        have entry := held q buf.device holds
        have kept := (LockOutcome.respects readable alive entry).2
        dsimp only
        rw [kept]
        exact entry

theorem Held.unlock {s s' : UucpWorld P} {p : P} {filename : CString} {openpid : Int}
    {u : UnlockOutcome} (held : Held system procs s)
    (keeps : KeepsUucp stat s (.unlock p filename openpid u : UucpCall procs))
    (taken : uucpStep system stat (.unlock p filename openpid u : UucpCall procs) s = some s') :
    Held system procs s' := by
  cases found : stat filename with
  | none => exact uucpStep_unfound system stat taken found ▸ held
  | some buf =>
    obtain rfl := uucpStep_unlock system stat (uucpFile_device found) taken
    apply held.update buf.device
    · intro other differ
      rw [setHolds_dir]
      dsimp only
      split
      · exact Function.update_of_ne ((deviceFile_injective system).ne differ) _ _
      · rfl
    · intro q other differ
      rw [setHolds_found stat found, if_neg (fun both => differ both.2)]
    · intro q holds
      rw [setHolds_found stat found] at holds
      by_cases own : q = p
      · simp [own] at holds
      · rw [if_neg (fun both => own both.1)] at holds
        obtain ⟨parent, opener⟩ := keeps buf found q own holds
        have entry := held q buf.device holds
        have read := (lockinfo_read (procs.pid_small q) u.pidBuffer 0).2
        have different : procs.pid q ≠ procs.pid p := fun same => own (procs.pid_injective same)
        have foreign : u.foreign (procs.process p) (lockinfo (procs.pid q)) openpid = true := by
          simpa [UnlockOutcome.foreign, read, Processes.process, different, parent] using opener
        rw [setHolds_dir, if_neg (by simp [entry, UnlockOutcome.removes, foreign])]
        exact entry

theorem Held.step {s s' : UucpWorld P} {call : UucpCall procs} (held : Held system procs s)
    (keeps : KeepsUucp stat s call) (taken : uucpStep system stat call s = some s') :
    Held system procs s' := by
  cases call with
  | lock p filename o => exact held.lock system stat keeps taken
  | unlock p filename openpid u => exact held.unlock system stat keeps taken

/-- Where no process gives back what its parent or the process `openpid` holds, whatever calls
    return, by whatever paths: a device has one holder at most; and if their reports fit, nobody can
    lock it while it is held, and its holder gives it back with every other lock file left as it
    was. -/
theorem uucp_locks_are_exclusive (dir : LockDir) {calls : List (UucpCall procs)} {s : UucpWorld P}
    (path : Path (Guarded (KeepsUucp stat) (Takes (uucpStep system stat))) ⟨dir, fun _ _ => false⟩
      calls s) :
    (∀ p q device, s.holds p device = true → s.holds q device = true → p = q) ∧
    ∀ p filename buf, stat filename = some buf → s.holds p buf.device = true →
      (∀ q (o : LockOutcome (procs.process q)), KeepsUucp stat s (.lock q filename o) →
        o.UucpTold filename (deviceFile system buf.device) →
        uucpLock system stat o filename s.dir = .ok (1, s.dir)) ∧
      ∀ u openpid, u.readable = true → u.unlinks = true →
        UnlockOutcome.UucpTold u filename (deviceFile system buf.device) →
        uucpUnlock system stat (procs.process p) u filename openpid s.dir =
          .ok (Function.update s.dir (deviceFile system buf.device) none) := by
  have held : Held system procs s := by
    apply path.invariant (Held system procs)
      (fun _ _ _ before taken => before.step system stat taken.1 taken.2)
    intro p device holds
    cases holds
  constructor
  · intro p q device first second
    have same := (held p device first).symm.trans (held q device second)
    have pids : lockinfo (procs.pid p) = lockinfo (procs.pid q) := Option.some.inj same
    have read := (lockinfo_read (procs.pid_small p) [] 0).2
    rw [pids, (lockinfo_read (procs.pid_small q) [] 0).2] at read
    exact procs.pid_injective (Int.ofNat.inj read.symm)
  · intro p filename buf found holds
    constructor
    · intro q o keeps told
      exact uucpLock_held system stat held found holds keeps.1 keeps.2.2 told
    · intro u openpid readable unlinks told
      exact uucpUnlock_holder system stat held found holds readable unlinks told openpid

end

def takes (p : Bool) : LockOutcome (twoProcesses.process p) where
  passes := .ok true
  readable := true
  pidBuffer := []
  pidBefore := 0
  esrch pid := pid ≠ twoProcesses.pid false && pid ≠ twoProcesses.pid true
  alive := by cases p <;> decide
  unlinks := true
  creates := true
  strerror := []
  written := 11
  survives := false

theorem uucp_locks_are_exclusive_two :
    ∃ s : UucpWorld Bool,
      Path (Guarded (KeepsUucp someDevices) (Takes (uucpStep .freeBSD someDevices)))
        ⟨fun _ => none, fun _ _ => false⟩
        [(.lock false "/dev/ttyS0".toList (takes false) : UucpCall twoProcesses)] s ∧
      uucpLock .freeBSD someDevices (takes true) "/dev/modem".toList s.dir = .ok (1, s.dir) := by
  have alive (p : Bool) : ∀ q : Bool, (takes p).esrch (twoProcesses.pid q) = false := by
    cases p <;> decide
  have found : someDevices "/dev/ttyS0".toList = some ⟨disk, ⟨4, 64⟩⟩ := by decide
  have other : someDevices "/dev/modem".toList = some ⟨disk, ⟨4, 64⟩⟩ := by decide
  have named : uucpFile .freeBSD someDevices "/dev/ttyS0".toList = _ := uucpFile_device found
  let call : UucpCall twoProcesses := .lock false "/dev/ttyS0".toList (takes false)
  let locked : UucpWorld Bool := ⟨Function.update (fun _ => none) (deviceFile .freeBSD (8, ⟨4, 64⟩))
    (some ((lockinfo 101).take 11)), fun _ _ => false⟩
  have taken : uucpStep .freeBSD someDevices call ⟨fun _ => none, fun _ _ => false⟩ =
      some (locked.setHolds someDevices false "/dev/ttyS0".toList true) := by
    obtain ⟨result, locks⟩ := uucpLock_told (o := takes false) (fun _ => none) named
      ⟨⟨true, rfl⟩, by decide⟩
    have ends := uucpLock_returned named locks
    have granted : (takes false).grants (deviceFile .freeBSD (⟨disk, ⟨4, 64⟩⟩ : Stat).device)
      (fun _ => none) = true := rfl
    rw [granted, if_pos rfl] at ends
    simp only [call, uucpStep, locks, ends]
    rfl
  have path : Path (Guarded (KeepsUucp someDevices) (Takes (uucpStep .freeBSD someDevices)))
      ⟨fun _ => none, fun _ _ => false⟩ [call] _ :=
    .cons ⟨⟨rfl, Nat.le_refl _, alive false⟩, taken⟩ (.nil _)
  have holds : (locked.setHolds someDevices false "/dev/ttyS0".toList true).holds false
      (8, ⟨4, 64⟩) = true := by
    rw [setHolds_found someDevices found]
    rfl
  have exclusive := uucp_locks_are_exclusive .freeBSD someDevices (fun _ => none) path
  exact ⟨_, path, (exclusive.2 false _ _ other holds).1 true (takes true)
    ⟨rfl, Nat.le_refl _, alive true⟩ ⟨⟨true, rfl⟩, by decide⟩⟩

end Rxtx.SerialImp
