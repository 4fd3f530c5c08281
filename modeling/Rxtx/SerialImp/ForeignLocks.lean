import Rxtx.SerialImp.UucpLock

open LinkedHeap Decimal

namespace Rxtx.SerialImp

structure FileStat extends Stat where
  stIno : Nat
  deriving DecidableEq, Repr

structure LockFiles where
  stat : CString → Option FileStat
  content : CString → List Char

/-- `lockdir` is `LOCKDIR`, which `USER_LOCK_DIRECTORY` may set, and `fhs` is what `#ifdef FHS`
    tests. -/
structure LockBuild where
  lockdir : CString
  fhs : Bool

/-- What the system answers besides: what `buf` and `lockbuf` hold if `stat` fails on the device or
    on `LOCKDIR`. -/
structure LockedOutcome (proc : Process) where
  buf : Stat
  lockbufIno : Nat
  last : LockOutcome proc

def knownLockdirs : List CString :=
  ["/etc/locks".toList, "/usr/spool/kermit".toList, "/usr/spool/locks".toList,
    "/usr/spool/uucp".toList, "/usr/spool/uucp/".toList, "/usr/spool/uucp/LCK".toList,
    "/var/lock".toList, "/var/lock/modem".toList, "/var/spool/lock".toList,
    "/var/spool/locks".toList, "/var/spool/uucp".toList]

def LockBuild.lockdirs (build : LockBuild) : List CString := knownLockdirs ++ [build.lockdir]

def lockprefixes : List CString := ["LCK..".toList, "lk..".toList, "LK.".toList]

def unexpectedLockFile (file : CString) : CString :=
  "RXTX Error:  Unexpected lock file: ".toList ++ file ++
    "\n Please report to the RXTX developers\n".toList

def deviceNumbers (buf : Stat) : CString :=
  zeroPadded 3 buf.stDev.major.toInt ++ '.' :: (zeroPadded 3 buf.stRdev.major.toInt ++ '.' ::
    zeroPadded 3 buf.stRdev.minor.toInt)

def scannedName (portFilename : CString) : CString :=
  portFilename.drop (lockScan portFilename portFilename.length)

variable {proc : Process} (build : LockBuild) (files : LockFiles) (o : LockedOutcome proc)

def lookFor (name : CString) : Except Fault Bool := do
  let file ← strcpy fileSize name
  if (files.stat file).isSome then
    sprintf o.last.survives (unexpectedLockFile file)
    return true
  return false

def searchPrefixes (buf : Stat) (p lockdir : CString) : List CString → Except Fault Bool
  | [] => return false
  | pre :: rest => do
    if ← lookFor files o (lockdir ++ '/' :: (pre ++ p)) then return true
    if ← lookFor files o (lockdir ++ '/' :: (pre ++ deviceNumbers buf)) then return true
    searchPrefixes buf p lockdir rest

/-- The directory is there, has another inode number than `LOCKDIR`, and `LOCKDIR` does not begin
    with it. -/
def suspect (lockdir : CString) : Bool :=
  match files.stat lockdir with
  | none => false
  | some buf2 =>
    let lockbufIno := (files.stat build.lockdir).elim o.lockbufIno (·.stIno)
    buf2.stIno ≠ lockbufIno && !lockdir.isPrefixOf build.lockdir

def searchDirs (buf : Stat) (p : CString) : List CString → Except Fault Bool
  | [] => return false
  | lockdir :: rest => do
    if suspect build files o lockdir then
      if ← searchPrefixes files o buf p lockdir lockprefixes then return true
    searchDirs buf p rest

def LockBuild.ownLock (buf : Stat) (p : CString) : CString :=
  if build.fhs then build.lockdir ++ '/' :: ("LCK..".toList ++ p)
  else build.lockdir ++ '/' :: ("LK.".toList ++ deviceNumbers buf)

def LockFiles.dir : LockDir := fun file =>
  if (files.stat file).isSome then some (files.content file) else none

def LockBuild.isDeviceLocked (portFilename : CString) : Except Fault (Int × LockDir) := do
  let p := scannedName portFilename
  let buf := (files.stat portFilename).elim o.buf (·.toStat)
  if ← searchDirs build files o buf p build.lockdirs then return (1, files.dir)
  if !build.fhs && (files.stat portFilename).isNone then return (1, files.dir)
  let file ← strcpy fileSize (build.ownLock buf p)
  reportStale o.last file files.dir
  return SerialImp.isDeviceLocked o.last file files.dir

def lastComponent (path : CString) : CString :=
  (path.reverse.takeWhile (· ≠ '/')).reverse

/-- A directory of the table that is not `LOCKDIR`: its device or its inode differs. -/
def Foreign (lockdir : CString) : Prop :=
  lockdir ∈ build.lockdirs ∧ ∃ other, files.stat lockdir = some other ∧
    ∀ own, files.stat build.lockdir = some own →
      (other.stDev, other.stIno) ≠ (own.stDev, own.stIno)

def ForeignLock (buf : Stat) (portFilename : CString) : Prop :=
  ∃ lockdir pre name, Foreign build files lockdir ∧ pre ∈ lockprefixes ∧
    name ∈ [lastComponent portFilename, deviceNumbers buf] ∧
    (files.stat (lockdir ++ '/' :: (pre ++ name))).isSome = true

def namesIn (buf : Stat) (p lockdir : CString) (prefixes : List CString) : List CString :=
  prefixes.flatMap fun pre =>
    [lockdir ++ '/' :: (pre ++ p), lockdir ++ '/' :: (pre ++ deviceNumbers buf)]

def searchedNames (buf : Stat) (portFilename : CString) : List CString :=
  (build.lockdirs.filter (suspect build files o)).flatMap fun lockdir =>
    namesIn buf (scannedName portFilename) lockdir lockprefixes

/-- The search ends at a name that does not fit into `file`, or that is there. -/
def stops (name : CString) : Bool := fileSize ≤ name.length || (files.stat name).isSome

/-- The first name at which the search ends fits, so that a lock is found there, and the process
    lives through its report. -/
def Seen (buf : Stat) (portFilename : CString) : Prop :=
  o.last.survives = true ∧ ∃ name,
    (searchedNames build files o buf portFilename).find? (stops files) = some name ∧
      name.length < fileSize

/-- Nothing is found, and the own lock file is stale but cannot be removed, after a report that the
    process lives through. -/
def OwnLockStuck (buf : Stat) (portFilename : CString) : Prop :=
  (searchedNames build files o buf portFilename).find? (stops files) = none ∧
    (build.ownLock buf (scannedName portFilename)).length < fileSize ∧
    Reported o.last.survives (removingStaleLock (build.ownLock buf (scannedName portFilename))) ∧
    ∃ content, files.dir (build.ownLock buf (scannedName portFilename)) = some content ∧
      o.last.esrch (o.last.lockPid content) = true ∧ o.last.unlinks = false

def scanNames : List CString → Except Fault Bool
  | [] => .ok false
  | name :: rest => do
    if ← lookFor files o name then return true
    scanNames rest

theorem scanNames_append (first second : List CString) :
    scanNames files o (first ++ second) = (do
      if ← scanNames files o first then return true
      scanNames files o second) := by
  induction first with
  | nil => rfl
  | cons name rest ih =>
    simp only [List.cons_append, scanNames, ih]
    cases lookFor files o name with
    | error fault => rfl
    | ok found => cases found <;> rfl

theorem searchPrefixes_eq (buf : Stat) (p lockdir : CString) (prefixes : List CString) :
    searchPrefixes files o buf p lockdir prefixes =
      scanNames files o (namesIn buf p lockdir prefixes) := by
  induction prefixes with
  | nil => rfl
  | cons pre rest ih =>
    simp only [searchPrefixes, ih, namesIn, List.flatMap_cons, List.cons_append, List.nil_append,
      scanNames]

theorem searchDirs_eq (buf : Stat) (p : CString) (dirs : List CString) :
    searchDirs build files o buf p dirs =
      scanNames files o ((dirs.filter (suspect build files o)).flatMap fun lockdir =>
        namesIn buf p lockdir lockprefixes) := by
  induction dirs with
  | nil => rfl
  | cons lockdir rest ih =>
    rw [searchDirs, ih]
    by_cases suspected : suspect build files o lockdir = true
    · rw [if_pos suspected, List.filter_cons_of_pos suspected, List.flatMap_cons,
        scanNames_append, searchPrefixes_eq]
    · rw [if_neg suspected, List.filter_cons_of_neg suspected]

theorem lookFor_of_not_stops {name : CString} (goes : stops files name = false) :
    lookFor files o name = .ok false := by
  simp only [stops, Bool.or_eq_false_iff, decide_eq_false_iff_not, Nat.not_le] at goes
  simp [lookFor, strcpy, goes.1, goes.2, Bind.bind, Except.bind, Pure.pure, Except.pure]

theorem lookFor_of_stops {name : CString} (ends : stops files name = true) :
    lookFor files o name = (if name.length < fileSize ∧
      Reported o.last.survives (unexpectedLockFile name) then .ok true
      else .error .overflow) := by
  by_cases short : name.length < fileSize
  · have there : (files.stat name).isSome = true := by
      simpa [stops, Nat.not_le.mpr short] using ends
    by_cases reported : Reported o.last.survives (unexpectedLockFile name)
    · simp [lookFor, strcpy, short, there, sprintf_reported reported, reported, Bind.bind,
        Except.bind, Pure.pure, Except.pure]
    · simp [lookFor, strcpy, short, there, sprintf_overruns reported, reported, Bind.bind,
        Except.bind]
  · simp [lookFor, strcpy, short, Bind.bind, Except.bind]

theorem scanNames_eq (names : List CString) :
    scanNames files o names = match names.find? (stops files) with
      | none => .ok false
      | some name => lookFor files o name := by
  induction names with
  | nil => rfl
  | cons name rest ih =>
    rw [scanNames]
    by_cases ends : stops files name = true
    · rw [List.find?_cons_of_pos ends]
      show (lookFor files o name >>= _) = lookFor files o name
      rw [lookFor_of_stops files o ends]
      split <;> rfl
    · rw [List.find?_cons_of_neg ends, lookFor_of_not_stops files o (Bool.eq_false_iff.mpr ends)]
      exact ih

theorem unexpectedLockFile_length (file : CString) :
    (unexpectedLockFile file).length = file.length + 74 := by
  have total (before behind : CString) (hb : before.length = 35) (ha : behind.length = 39) :
      (before ++ file ++ behind).length = file.length + 74 := by
    simp only [List.length_append, hb, ha]
    omega
  exact total _ _ (by decide) (by decide)

theorem report_overruns {buf : Stat} {portFilename name : CString}
    (searched : name ∈ searchedNames build files o buf portFilename) :
    ¬ (unexpectedLockFile name).length < messageSize := by
  simp only [searchedNames, List.mem_flatMap, List.mem_filter] at searched
  rcases searched with ⟨lockdir, ⟨listed, suspected⟩, inside⟩
  have other : lockdir ≠ build.lockdir := by
    rintro rfl
    have own : build.lockdir.isPrefixOf build.lockdir = true :=
      List.isPrefixOf_iff_prefix.mpr List.prefix_rfl
    unfold suspect at suspected
    split at suspected
    · cases suspected
    · simp [own] at suspected
  have long : 9 ≤ lockdir.length := by
    have known : lockdir ∈ knownLockdirs := by
      rcases List.mem_append.mp listed with known | own
      · exact known
      · exact absurd (List.mem_singleton.mp own) other
    have all : ∀ known ∈ knownLockdirs, 9 ≤ known.length := by decide
    exact all lockdir known
  have within : lockdir.length ≤ name.length := by
    simp only [namesIn, List.mem_flatMap, List.mem_cons, List.not_mem_nil, or_false] at inside
    rcases inside with ⟨pre, -, rfl | rfl⟩
    · simp
    · simp
  rw [unexpectedLockFile_length, messageSize]
  omega

theorem searchDirs_found (buf : Stat) (portFilename : CString) :
    searchDirs build files o buf (scannedName portFilename) build.lockdirs = .ok true ↔
      Seen build files o buf portFilename := by
  rw [searchDirs_eq, scanNames_eq]
  unfold Seen
  show (match (searchedNames build files o buf portFilename).find? (stops files) with
    | none => Except.ok false
    | some name => lookFor files o name) = Except.ok true ↔ _
  cases found : (searchedNames build files o buf portFilename).find? (stops files) with
  | none => simp
  | some name =>
    have overruns := report_overruns build files o (List.mem_of_find?_eq_some found)
    have ends : stops files name = true := List.find?_some found
    simp only [lookFor_of_stops files o ends, Reported, overruns, false_or, Option.some.injEq]
    split
    next both => exact iff_of_true rfl ⟨both.2, name, rfl, both.1⟩
    next neither =>
      refine iff_of_false nofun ?_
      rintro ⟨survives, other, rfl, fits⟩
      exact neither ⟨fits, survives⟩

theorem searchDirs_none (buf : Stat) (portFilename : CString) :
    searchDirs build files o buf (scannedName portFilename) build.lockdirs = .ok false ↔
      (searchedNames build files o buf portFilename).find? (stops files) = none := by
  rw [searchDirs_eq, scanNames_eq]
  show (match (searchedNames build files o buf portFilename).find? (stops files) with
    | none => Except.ok false
    | some name => lookFor files o name) = Except.ok false ↔ _
  cases found : (searchedNames build files o buf portFilename).find? (stops files) with
  | none => simp
  | some name =>
    have ends : stops files name = true := List.find?_some found
    simp only [lookFor_of_stops files o ends]
    split <;> simp

theorem ownLock_one_iff {o : LockOutcome proc} {file : CString} {dir : LockDir} :
    (isDeviceLocked o file dir).1 = 1 ↔ ∃ content, dir file = some content ∧
      o.esrch (o.lockPid content) = true ∧ o.unlinks = false := by
  unfold isDeviceLocked
  cases dir file with
  | none => simp
  | some content =>
    simp only [Option.some.injEq, exists_eq_left']
    split_ifs with stale unlinks
    · simp [unlinks]
    · simp [stale, unlinks]
    · simp [stale]

theorem reportStale_one_iff (o : LockOutcome proc) (file : CString) (dir : LockDir) :
    (∃ dir', (reportStale o file dir >>= fun _ => .ok (isDeviceLocked o file dir)) =
        .ok (1, dir')) ↔
      Reported o.survives (removingStaleLock file) ∧ ∃ content, dir file = some content ∧
        o.esrch (o.lockPid content) = true ∧ o.unlinks = false := by
  rw [← ownLock_one_iff]
  constructor
  · rintro ⟨dir', locked⟩
    obtain ⟨_, told, ends⟩ := bind_eq_ok.mp locked
    have one : (isDeviceLocked o file dir).1 = 1 := congrArg Prod.fst (Except.ok.inj ends)
    refine ⟨?_, one⟩
    by_contra overruns
    obtain ⟨content, entry, dead, -⟩ := ownLock_one_iff.mp one
    have stale : o.stale file dir = true := by simp [LockOutcome.stale, entry, dead]
    rw [reportStale_overruns stale overruns] at told
    cases told
  · rintro ⟨reported, one⟩
    obtain ⟨content, entry, dead, -⟩ := ownLock_one_iff.mp one
    have told : reportStale o file dir = .ok () := by
      simp [reportStale, entry, dead, sprintf_reported reported]
    exact ⟨_, by rw [told]; exact congrArg Except.ok (Prod.ext one rfl)⟩

theorem isDeviceLocked_device {portFilename : CString} {buf : FileStat}
    (device : files.stat portFilename = some buf) :
    build.isDeviceLocked files o portFilename = (do
      if ← searchDirs build files o buf.toStat (scannedName portFilename) build.lockdirs then
        return (1, files.dir)
      let file ← strcpy fileSize (build.ownLock buf.toStat (scannedName portFilename))
      reportStale o.last file files.dir
      return SerialImp.isDeviceLocked o.last file files.dir) := by
  simp only [LockBuild.isDeviceLocked, device, Option.elim_some, Option.isNone_some, Bool.and_false]
  rfl

theorem isDeviceLocked_one_iff {portFilename : CString} {buf : FileStat}
    (device : files.stat portFilename = some buf) :
    (∃ dir, build.isDeviceLocked files o portFilename = .ok (1, dir)) ↔
      Seen build files o buf.toStat portFilename ∨
        OwnLockStuck build files o buf.toStat portFilename := by
  have found := searchDirs_found build files o buf.toStat portFilename
  have nothing := searchDirs_none build files o buf.toStat portFilename
  rw [isDeviceLocked_device build files o device]
  cases searched :
      searchDirs build files o buf.toStat (scannedName portFilename) build.lockdirs with
  | error fault =>
    have unseen : ¬ Seen build files o buf.toStat portFilename := by
      intro seen
      cases (found.mpr seen).symm.trans searched
    have unstuck : ¬ OwnLockStuck build files o buf.toStat portFilename := by
      intro stuck
      cases (nothing.mpr stuck.1).symm.trans searched
    simp [unseen, unstuck, Bind.bind, Except.bind]
  | ok result =>
    cases result with
    | true =>
      have seen := found.mp searched
      simp [seen, Bind.bind, Except.bind, Pure.pure, Except.pure]
    | false =>
      have unseen : ¬ Seen build files o buf.toStat portFilename := by
        intro seen
        cases (found.mpr seen).symm.trans searched
      have none := nothing.mp searched
      rw [or_iff_right unseen, OwnLockStuck]
      by_cases fits : (build.ownLock buf.toStat (scannedName portFilename)).length < fileSize
      · have named : strcpy fileSize (build.ownLock buf.toStat (scannedName portFilename)) =
            .ok (build.ownLock buf.toStat (scannedName portFilename)) := if_pos fits
        have own := reportStale_one_iff o.last
          (build.ownLock buf.toStat (scannedName portFilename)) files.dir
        rw [named, and_iff_right none, and_iff_right fits, ← own]
        rfl
      · simp [strcpy, fits, Bind.bind, Except.bind]

def linuxLocks : LockBuild := ⟨"/var/lock".toList, true⟩

def ttyS0Path : CString := "/dev/ttyS0".toList

def uucpLocks (rootIno : Nat) : LockFiles where
  stat path :=
    if path = ttyS0Path then some ⟨⟨⟨0, 5⟩, ⟨4, 64⟩⟩, 87⟩
    else if path = "/var/lock".toList then some ⟨⟨⟨8, 1⟩, ⟨0, 0⟩⟩, 2⟩
    else if path = "/var/spool/uucp".toList then some ⟨⟨⟨8, 2⟩, ⟨0, 0⟩⟩, rootIno⟩
    else if path = "/var/spool/uucp/LCK..ttyS0".toList then some ⟨⟨⟨8, 2⟩, ⟨0, 0⟩⟩, 12⟩
    else none
  content _ := []

def answers12 : LockedOutcome process12 :=
  ⟨⟨⟨0, 0⟩, ⟨0, 0⟩⟩, 0, { takes12 with survives := true }⟩

theorem uucpLocks_foreign (rootIno : Nat) :
    ForeignLock linuxLocks (uucpLocks rootIno) ⟨⟨0, 5⟩, ⟨4, 64⟩⟩ ttyS0Path := by
  refine ⟨"/var/spool/uucp".toList, "LCK..".toList, "ttyS0".toList, ⟨by decide, _, rfl, ?_⟩,
    by decide, by decide, rfl⟩
  intro own same
  cases same
  simp

end Rxtx.SerialImp
