import Rxtx.SerialImp.FlowControl
import Rxtx.SerialImp.StaleLock

open LinkedHeap

namespace Rxtx.SerialImp

def portSerial : Int := 1

structure ProbeWorld where
  dir : LockDir
  descriptors : List Int
  termios : UnixTermios

/-- What the system answers during `testRead`. `foreign` is what the search for locks in other
    directories comes to, `descriptor` is what the `OPEN` gave that was not interrupted, `tcsetattr`
    sets the raw mode and tells what it leaves, and `restores` is the call that puts the settings
    back. -/
structure ProbeOutcome (proc : Process) where
  table : ProcessTable proc
  lockdir : Bool
  calloc : Bool
  suffix : CString
  fopen : Bool
  unlinksTemp : Bool
  foreign : Except Fault Bool
  lock : LockOutcome proc
  kill : lock.esrch = table.esrch
  descriptor : Int
  tcgetattr : Bool
  getfl : Bool
  setfl : Bool
  cfmakeraw : UnixTermios → UnixTermios
  tcsetattr : UnixTermios → Bool × UnixTermios
  restores : Bool
  readFails : Bool
  again : Bool
  unlock : UnlockOutcome

def vmin : Nat := 6
def vtime : Nat := 5

def tempPrefix : CString :=
  ['/', 'v', 'a', 'r', '/', 'l', 'o', 'c', 'k', '/', 't', 'm', 'p']

variable {proc : Process} (o : ProbeOutcome proc)

def ProbeOutcome.temp : CString := tempPrefix ++ o.suffix

/-- The way in which the directory is tested: a file is created in it. A name that is taken is none
    for `mktemp`. -/
def checkGroupUucp (dir : LockDir) : Int × LockDir :=
  if !o.calloc then (1, dir)
  else if (dir o.temp).isSome || !o.fopen then (1, dir)
  else
    let dir := Function.update dir o.temp (some [])
    (0, if o.unlinksTemp then Function.update dir o.temp none else dir)

def groupCheck (dir : LockDir) : Int × LockDir :=
  if o.lockdir then checkGroupUucp o dir else (1, dir)

def ProbeOutcome.locking (dir : LockDir) : LockOutcome proc :=
  { o.lock with passes := if (groupCheck o dir).1 = 0 then o.foreign.map (!·) else .ok false }

def probeLock (name : CString) (dir : LockDir) : Except Fault (Int × LockDir) :=
  fhsLock (o.locking dir) name (groupCheck o dir).2

def probeSerial (termios : UnixTermios) : Bool × UnixTermios :=
  if !o.tcgetattr then (false, termios)
  else if !o.getfl then (false, termios)
  else
    let savedTermios := termios
    if !o.setfl then (false, termios)
    else
      let ttyset := o.cfmakeraw termios
      let cc := Function.update (Function.update ttyset.cc vtime 0) vmin 0
      let (set, termios) := o.tcsetattr { ttyset with cc }
      let restored := if o.restores then savedTermios else termios
      if !set then (false, restored)
      else (!o.readFails || o.again, restored)

def closeDescriptor (fd : Int) (descriptors : List Int) : List Int :=
  if fd < 0 then descriptors else descriptors.erase fd

def testRead (name : CString) (portType : Int) (w : ProbeWorld) :
    Except Fault (Bool × ProbeWorld) := do
  let (failed, dir) ← probeLock o name w.dir
  let w := { w with dir }
  if failed ≠ 0 then return (false, w)
  let fd := o.descriptor
  let descriptors := if fd < 0 then w.descriptors else fd :: w.descriptors
  let (ret, termios) :=
    if fd < 0 then (false, w.termios)
    else if portType = portSerial then probeSerial o w.termios
    else (true, w.termios)
  let dir ← fhsUnlock proc o.unlock name proc.pid w.dir
  return (ret, { dir, descriptors := closeDescriptor fd descriptors, termios })

/-- Everything is as before, except that a stale lock file may be gone. -/
structure NoTrace (table : ProcessTable proc) (before after : ProbeWorld) : Prop where
  dir : after.dir = before.dir ∨ ∃ file content, before.dir file = some content ∧
    table.Stale content ∧ after.dir = Function.update before.dir file none
  descriptors : after.descriptors = before.descriptors
  termios : after.termios = before.termios

/-- The file that tests the directory is created and cannot be removed. -/
def ProbeOutcome.LeavesTemp (dir : LockDir) : Prop :=
  o.lockdir = true ∧ o.calloc = true ∧ dir o.temp = none ∧ o.fopen = true ∧ o.unlinksTemp = false

def ProbeOutcome.text : List Char := (lockinfo proc.pid).take o.lock.written

/-- The lock file as `fhs_lock` wrote it can be read, names the process or its parent, and can be
    removed. -/
structure ProbeOutcome.Unlocks : Prop where
  readable : o.unlock.readable = true
  own : atolPid (readOver o.text o.unlock.pidBuffer) ∈ [(proc.pid : Int), (proc.ppid : Int)]
  unlinks : o.unlock.unlinks = true

/-- A lock file that is removed before is stale, and the own one can be removed; or what is left of
    the own one is the very text that a removed one had. -/
def ProbeOutcome.LeavesLock (file : CString) (dir : LockDir) : Prop :=
  ((∀ content, (o.locking dir).removes file dir = true → dir file = some content →
      o.table.Stale content) ∧ ((o.locking dir).grants file dir = true → o.Unlocks)) ∨
    ((o.locking dir).grants file dir = true ∧ ¬ o.Unlocks ∧ dir file = some o.text)

theorem probeSerial_restores (restores : o.restores = true) (termios : UnixTermios) :
    (probeSerial o termios).2 = termios := by
  simp only [probeSerial, restores, if_true]
  split_ifs <;> rfl

theorem closeDescriptor_opened (fd : Int) (descriptors : List Int) :
    closeDescriptor fd (if fd < 0 then descriptors else fd :: descriptors) = descriptors := by
  unfold closeDescriptor
  split
  · rfl
  · exact List.erase_cons_head fd descriptors

theorem testRead_returns {name : CString} {portType : Int} {w w' : ProbeWorld} {ret : Bool}
    (restores : o.restores = true) (returned : testRead o name portType w = .ok (ret, w')) :
    w'.descriptors = w.descriptors ∧ w'.termios = w.termios ∧
      ∃ failed dir, probeLock o name w.dir = .ok (failed, dir) ∧
        (failed ≠ 0 ∧ w'.dir = dir ∨
          failed = 0 ∧ fhsUnlock proc o.unlock name proc.pid dir = .ok w'.dir) := by
  obtain ⟨⟨failed, dir⟩, locked, rest⟩ := bind_eq_ok.mp returned
  by_cases refused : failed ≠ 0
  · simp only [refused, ne_eq, not_false_eq_true, if_true] at rest
    cases rest
    exact ⟨rfl, rfl, failed, dir, locked, .inl ⟨refused, rfl⟩⟩
  · simp only [ne_eq, not_not] at refused
    simp only [refused, ne_eq, not_true_eq_false, if_false] at rest
    obtain ⟨last, unlocked, rest⟩ := bind_eq_ok.mp rest
    cases rest
    refine ⟨closeDescriptor_opened _ _, ?_, failed, dir, locked, .inr ⟨refused, unlocked⟩⟩
    show (if o.descriptor < 0 then (false, w.termios) else
      if portType = portSerial then probeSerial o w.termios else (true, w.termios)).2 = w.termios
    split_ifs
    · rfl
    · exact probeSerial_restores o restores w.termios
    · rfl

theorem groupCheck_left {dir : LockDir} (left : o.LeavesTemp dir) :
    (groupCheck o dir).2 o.temp = some [] := by
  rcases left with ⟨lockdir, calloc, fresh, fopen, stays⟩
  simp [groupCheck, checkGroupUucp, lockdir, calloc, fresh, fopen, stays]

theorem groupCheck_clean {dir : LockDir} (clean : ¬ o.LeavesTemp dir) :
    (groupCheck o dir).2 = dir := by
  unfold groupCheck checkGroupUucp
  by_cases lockdir : o.lockdir = true
  · by_cases calloc : o.calloc = true
    · by_cases made : dir o.temp = none ∧ o.fopen = true
      · have removed : o.unlinksTemp = true := by
          by_contra stays
          exact clean ⟨lockdir, calloc, made.1, made.2, by simpa using stays⟩
        have same := Function.update_eq_self o.temp dir
        rw [made.1] at same
        simp [lockdir, calloc, made, removed, same]
      · have refused : ((dir o.temp).isSome || !o.fopen) = true := by
          cases taken : dir o.temp with
          | none => simpa [taken] using made
          | some content => simp
        simp [lockdir, calloc, refused]
    · simp [lockdir, calloc]
  · simp [lockdir]

theorem temp_ne_lockFile {name file : CString} (named : lockFile name = .ok file) :
    o.temp ≠ file := by
  intro same
  have begins : file = lockPrefix ++ name.drop (lockScan name name.length) := by
    unfold lockFile strcpy at named
    split_ifs at named
    exact (Except.ok.inj named).symm
  have letter := congrArg (fun text : CString => text[10]?) (same.trans begins)
  simp [ProbeOutcome.temp, tempPrefix, lockPrefix] at letter

theorem created_traces {table : ProcessTable proc} {before after : ProbeWorld} {file : CString}
    {text : List Char} (created : after.dir file = some text)
    (other : before.dir file ≠ some text) : ¬ NoTrace table before after := by
  intro clean
  rcases clean.dir with same | ⟨name, content, -, -, gone⟩
  · exact other (same ▸ created)
  · by_cases own : file = name
    · rw [gone, own, Function.update_self] at created
      cases created
    · rw [gone, Function.update_of_ne own] at created
      exact other created

theorem removed_traces_iff {table : ProcessTable proc} {before after : ProbeWorld} {file : CString}
    {content : List Char} (entry : before.dir file = some content)
    (gone : after.dir = Function.update before.dir file none)
    (descriptors : after.descriptors = before.descriptors)
    (termios : after.termios = before.termios) :
    NoTrace table before after ↔ table.Stale content := by
  constructor
  · intro clean
    have none : after.dir file = none := by rw [gone, Function.update_self]
    rcases clean.dir with same | ⟨name, other, otherEntry, stale, removed⟩
    · rw [same, entry] at none
      cases none
    · by_cases own : name = file
      · rw [own, entry] at otherEntry
        cases otherEntry
        exact stale
      · rw [removed, Function.update_of_ne (Ne.symm own), entry] at none
        cases none
  · intro stale
    exact ⟨.inr ⟨file, content, entry, stale, gone⟩, descriptors, termios⟩

theorem ProbeOutcome.unlocks_iff :
    o.unlock.removes proc o.text proc.pid = true ↔ o.Unlocks := by
  rw [UnlockOutcome.removes, Bool.and_eq_true, Bool.and_eq_true, Bool.not_eq_true', foreign_own]
  constructor
  · rintro ⟨⟨readable, own⟩, unlinks⟩
    exact ⟨readable, own, unlinks⟩
  · intro unlocks
    exact ⟨⟨unlocks.readable, unlocks.own⟩, unlocks.unlinks⟩

theorem refused_traces_iff {file : CString} {w w' : ProbeWorld}
    (refused : (o.locking w.dir).grants file w.dir = false)
    (last : w'.dir = if (o.locking w.dir).removes file w.dir then Function.update w.dir file none
      else w.dir)
    (descriptors : w'.descriptors = w.descriptors) (termios : w'.termios = w.termios) :
    NoTrace o.table w w' ↔ o.LeavesLock file w.dir := by
  simp only [ProbeOutcome.LeavesLock, refused, Bool.false_eq_true, false_implies, and_true,
    false_and, or_false]
  cases removes : (o.locking w.dir).removes file w.dir with
  | false =>
    rw [removes, if_neg Bool.false_ne_true] at last
    exact iff_of_true ⟨.inl last, descriptors, termios⟩ (by simp)
  | true =>
    rw [removes, if_pos rfl] at last
    cases entry : w.dir file with
    | none => simp [LockOutcome.removes, entry] at removes
    | some content =>
      rw [removed_traces_iff entry last descriptors termios]
      simp

theorem granted_traces_iff {file : CString} {w w' : ProbeWorld}
    (granted : (o.locking w.dir).grants file w.dir = true)
    (removed : o.Unlocks → w'.dir = Function.update w.dir file none)
    (stays : ¬ o.Unlocks → w'.dir = Function.update w.dir file (some o.text))
    (descriptors : w'.descriptors = w.descriptors) (termios : w'.termios = w.termios) :
    NoTrace o.table w w' ↔ o.LeavesLock file w.dir := by
  simp only [ProbeOutcome.LeavesLock, granted, true_implies, true_and]
  by_cases unlocks : o.Unlocks
  · have last := removed unlocks
    simp only [unlocks, not_true_eq_false, false_and, or_false, and_true]
    cases entry : w.dir file with
    | none =>
      have same : w'.dir = w.dir := by
        rw [last, ← entry]
        exact Function.update_eq_self file w.dir
      exact iff_of_true ⟨.inl same, descriptors, termios⟩ (by simp)
    | some content =>
      have removes : (o.locking w.dir).removes file w.dir = true := by
        simp only [LockOutcome.grants, entry, Bool.and_eq_true] at granted
        simp [LockOutcome.removes, entry, granted]
      rw [removed_traces_iff entry last descriptors termios]
      simp [removes]
  · have last := stays unlocks
    simp only [unlocks, and_false, not_false_eq_true, true_and, false_or]
    constructor
    · intro clean
      by_contra other
      exact created_traces (by rw [last, Function.update_self]) other clean
    · intro same
      have kept : w'.dir = w.dir := by
        rw [last, ← same]
        exact Function.update_eq_self file w.dir
      exact ⟨.inl kept, descriptors, termios⟩

/-- `testRead` leaves no trace exactly where its test of the directory can be undone, what it takes
    for a stale lock file is one, and its own lock file can be taken back. -/
theorem testRead_no_trace_iff (name : CString) (portType : Int) (w w' : ProbeWorld) (ret : Bool)
    (restores : o.restores = true) (returned : testRead o name portType w = .ok (ret, w')) :
    NoTrace o.table w w' ↔ ¬ o.LeavesTemp w.dir ∧
      ∀ file, lockFile name = .ok file → o.LeavesLock file w.dir := by
  obtain ⟨descriptors, termios, failed, dir, locked, ending⟩ :=
    testRead_returns o restores returned
  obtain ⟨file, named, -⟩ := bind_eq_ok.mp locked
  have only : (∀ other, lockFile name = .ok other → o.LeavesLock other w.dir) ↔
      o.LeavesLock file w.dir := by
    simp [named]
  rw [only]
  by_cases left : o.LeavesTemp w.dir
  · have different := temp_ne_lockFile o named
    have stays : w'.dir o.temp = some [] := by
      have before := (fhsLock_other named locked different).trans (groupCheck_left o left)
      rcases ending with ⟨-, same⟩ | ⟨-, unlocked⟩
      · rw [same, before]
      · rw [fhsUnlock_other named unlocked different, before]
    have traces : ¬ NoTrace o.table w w' := created_traces stays (by simp [left.2.2.1])
    simp [traces, left]
  · rw [probeLock, groupCheck_clean o left] at locked
    rw [fhsLock_eq named (fhsLock_told named locked)] at locked
    simp only [left, not_false_eq_true, true_and]
    cases granted : (o.locking w.dir).grants file w.dir with
    | false =>
      rw [granted, if_neg Bool.false_ne_true] at locked
      cases locked
      rcases ending with ⟨-, same⟩ | ⟨zero, -⟩
      · exact refused_traces_iff o granted same descriptors termios
      · exact absurd zero (by decide)
    | true =>
      rw [granted, if_pos rfl] at locked
      cases locked
      rcases ending with ⟨nonzero, -⟩ | ⟨-, unlocked⟩
      · exact absurd rfl nonzero
      · have written : Function.update w.dir file (some o.text) file = some o.text :=
          Function.update_self ..
        have ends := fhsUnlock_eq named written (fhsUnlock_told named written unlocked)
        have last := Except.ok.inj (unlocked.symm.trans ends)
        apply granted_traces_iff o granted _ _ descriptors termios
        · intro unlocks
          exact (last.trans (if_pos (o.unlocks_iff.mpr unlocks))).trans
            (Function.update_idem ..)
        · intro stays
          exact last.trans (if_neg (mt o.unlocks_iff.mp stays))

def probes (written : Nat) : ProbeOutcome process12 where
  table := onlyTwelve
  lockdir := true
  calloc := true
  suffix := ['a', 'b', 'c', 'd', 'e', 'f']
  fopen := true
  unlinksTemp := true
  foreign := .ok false
  lock := { onlyTwelve.outcome true [] 0 with written := written }
  kill := rfl
  descriptor := 4
  tcgetattr := true
  getfl := true
  setfl := true
  cfmakeraw := id
  tcsetattr := fun ttyset => (true, ttyset)
  restores := true
  readFails := true
  again := true
  unlock := ⟨true, [], true, false⟩

def probed : ProbeWorld := ⟨fun _ => none, [], .bare⟩

def ttyS1Path : CString := "/dev/ttyS1".toList

theorem probes_locks (written : Nat) : probeLock (probes written) ttyS1Path probed.dir =
    .ok (0, Function.update probed.dir lockName (some ((lockinfo 12).take written))) := by
  have named : lockFile ttyS1Path = .ok lockName := rfl
  have clean : ¬ (probes written).LeavesTemp probed.dir := fun left => nomatch left.2.2.2.2
  rw [probeLock, groupCheck_clean _ clean]
  have told : ((probes written).locking probed.dir).Told lockName probed.dir :=
    ⟨⟨true, rfl⟩, fun _ stale => (by cases stale), fun _ collides => (by cases collides)⟩
  exact fhsLock_granted named told rfl

theorem testRead_no_trace_iff_probed : ∃ ret w', testRead (probes 11) ttyS1Path 1 probed =
    .ok (ret, w') ∧ (NoTrace onlyTwelve probed w' ↔ ¬ (probes 11).LeavesTemp probed.dir ∧
      ∀ file, lockFile ttyS1Path = .ok file → (probes 11).LeavesLock file probed.dir) := by
  have returned : ∃ result, testRead (probes 11) ttyS1Path 1 probed = .ok result := by
    unfold testRead
    rw [probes_locks]
    exact ⟨_, rfl⟩
  obtain ⟨⟨ret, w'⟩, returned⟩ := returned
  exact ⟨ret, w', returned,
    testRead_no_trace_iff (probes 11) ttyS1Path 1 probed w' ret rfl returned⟩

/-- On a full disk an empty lock file stays. -/
theorem testRead_leaves_lock :
    ¬ ∀ (proc : Process) (o : ProbeOutcome proc) (name : CString) (portType : Int)
      (w w' : ProbeWorld) (ret : Bool), o.restores = true →
      testRead o name portType w = .ok (ret, w') → NoTrace o.table w w' := by
  intro clean
  have returned : ∃ ret w', testRead (probes 0) ttyS1Path 1 probed = .ok (ret, w') ∧
      w'.dir lockName = some [] := by
    unfold testRead
    rw [probes_locks]
    exact ⟨_, _, rfl, rfl⟩
  obtain ⟨ret, w', returned, stays⟩ := returned
  exact created_traces stays (by simp [probed])
    (clean _ (probes 0) ttyS1Path 1 probed w' ret rfl returned)

end Rxtx.SerialImp
