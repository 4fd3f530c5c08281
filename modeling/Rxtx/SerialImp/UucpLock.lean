import Rxtx.Library.Decimal
import Rxtx.SerialImp.FhsLock

open LinkedHeap Decimal

namespace Rxtx.SerialImp

/-- The systems with lock names of UUCP (`SerialImp.h`). For Solaris, where `UUCP` is commented out,
    no lock is taken by them. -/
inductive UucpSystem where
  | sgi
  | freeBSD
  | netBSD
  | hpux
  | osf
  | sun
  | beos
  deriving DecidableEq, Repr

def UucpSystem.lockdir : UucpSystem → CString
  | .sgi => "/usr/spool/uucp".toList
  | .freeBSD => "/var/spool/lock".toList
  | .netBSD => "/var/lock".toList
  | .hpux => "/var/spool/uucp".toList
  | .osf => []
  | .sun => "/var/spool/locks".toList
  | .beos => []

structure DevT where
  major : BitVec 32
  minor : BitVec 32
  deriving DecidableEq, Repr

structure Stat where
  stDev : DevT
  stRdev : DevT
  deriving DecidableEq, Repr

/-- What `stat` gives for the paths of character devices. -/
abbrev FileSystem := CString → Option Stat

/-- `"%s/LK.%03d.%03d.%03d"`, where the numbers are cast to `int`. -/
def uucpText (system : UucpSystem) (buf : Stat) : CString :=
  system.lockdir ++ ['/', 'L', 'K', '.'] ++ (zeroPadded 3 buf.stDev.major.toInt ++ '.' ::
    (zeroPadded 3 buf.stRdev.major.toInt ++ '.' :: zeroPadded 3 buf.stRdev.minor.toInt))

/-- The name that `uucp_lock` and `uucp_unlock` build, if the device is there. -/
def uucpFile (system : UucpSystem) (stat : FileSystem) (filename : CString) :
    Except Fault (Option CString) :=
  match stat filename with
  | none => return none
  | some buf => return some (← strcpy fileSize (uucpText system buf))

theorem length_zeroPadded (n : BitVec 32) : (zeroPadded 3 n.toInt).length ≤ 11 := by
  have low := BitVec.le_toInt n
  have high := BitVec.toInt_lt (x := n)
  cases number : n.toInt with
  | ofNat k =>
    rw [number] at high
    have few := (Nat.length_toDigits_le_iff (b := 10) (n := k) (k := 10) (by decide)
      (by decide)).mpr (by simp at high; omega)
    simp only [zeroPadded, List.length_append, List.length_replicate]
    omega
  | negSucc k =>
    rw [number] at low
    have few := (Nat.length_toDigits_le_iff (b := 10) (n := k + 1) (k := 10) (by decide)
      (by decide)).mpr (by simp at low; omega)
    simp only [zeroPadded, List.length_cons, List.length_append, List.length_replicate]
    omega

theorem uucpText_fits (system : UucpSystem) (buf : Stat) :
    (uucpText system buf).length < fileSize := by
  have device := length_zeroPadded buf.stDev.major
  have major := length_zeroPadded buf.stRdev.major
  have minor := length_zeroPadded buf.stRdev.minor
  have directory : system.lockdir.length ≤ 16 := by
    cases system <;> decide
  simp only [uucpText, List.length_append, List.length_cons, List.length_nil, fileSize]
  omega

theorem uucpFile_of_stat {system : UucpSystem} {stat : FileSystem} {filename : CString} {buf : Stat}
    (found : stat filename = some buf) :
    uucpFile system stat filename = .ok (some (uucpText system buf)) := by
  simp [uucpFile, found, strcpy, uucpText_fits system buf, Bind.bind, Except.bind, Pure.pure,
    Except.pure]

theorem uucpText_same_iff (system : UucpSystem) {buf buf' : Stat} (same : buf.stDev = buf'.stDev) :
    uucpText system buf = uucpText system buf' ↔ buf.stRdev = buf'.stRdev := by
  have separates (n : Int) : '.' ∉ zeroPadded 3 n := not_mem_zeroPadded (by decide) (by decide)
  constructor
  · intro texts
    unfold uucpText at texts
    rw [same] at texts
    have numbers := (List.cons.inj
      (List.append_cancel_left (List.append_cancel_left texts))).2
    obtain ⟨majors, -, minors⟩ :=
      (List.append_cons_inj_of_notMem (separates _) (separates _)).mp numbers
    have major := BitVec.toInt_inj.mp (zeroPadded_injective 3 majors)
    have minor := BitVec.toInt_inj.mp (zeroPadded_injective 3 minors)
    cases device : buf.stRdev
    cases device' : buf'.stRdev
    simp only [device, device'] at major minor
    rw [major, minor]
  · intro devices
    simp only [uucpText, same, devices]

/-- Two paths on one file system have one name exactly where they name one device. -/
def OneNamePerDevice {ν : Type} (stat : FileSystem) (name : CString → ν) : Prop :=
  ∀ p q buf buf', stat p = some buf → stat q = some buf' → buf.stDev = buf'.stDev →
    (name p = name q ↔ buf.stRdev = buf'.stRdev)

theorem uucp_one_name_per_device (system : UucpSystem) (stat : FileSystem) :
    OneNamePerDevice stat (uucpFile system stat) := by
  intro p q buf buf' found found' same
  rw [uucpFile_of_stat found, uucpFile_of_stat found', ← uucpText_same_iff system same]
  simp

theorem fhs_name_of_component {directory directory' component component' : CString}
    (plain : '/' ∉ component) (plain' : '/' ∉ component') (fits : component.length < 65)
    (fits' : component'.length < 65) :
    lockFile (directory ++ '/' :: component) = lockFile (directory' ++ '/' :: component') ↔
      component = component' := by
  rw [lockFile_component directory component plain fits,
    lockFile_component directory' component' plain' fits']
  simp

/-- The names of UUCP are those of the devices. The names of the File System Hierarchy are those of
    the paths in a directory, so two devices there never share one. -/
theorem lock_names (system : UucpSystem) (stat : FileSystem) :
    OneNamePerDevice stat (uucpFile system stat) ∧
      ∀ directory component component' : CString, '/' ∉ component → '/' ∉ component' →
        component.length < 65 → component'.length < 65 →
        (lockFile (directory ++ '/' :: component) = lockFile (directory ++ '/' :: component') ↔
          directory ++ '/' :: component = directory ++ '/' :: component') ∧
        ∀ buf buf', stat (directory ++ '/' :: component) = some buf →
          stat (directory ++ '/' :: component') = some buf' → buf.stRdev ≠ buf'.stRdev →
          lockFile (directory ++ '/' :: component) ≠ lockFile (directory ++ '/' :: component') := by
  refine ⟨uucp_one_name_per_device system stat, ?_⟩
  intro directory component component' plain plain' fits fits'
  have names : lockFile (directory ++ '/' :: component) =
        lockFile (directory ++ '/' :: component') ↔
      directory ++ '/' :: component = directory ++ '/' :: component' := by
    rw [fhs_name_of_component plain plain' fits fits']
    simp
  refine ⟨names, ?_⟩
  intro buf buf' found found' differ same
  rw [names.mp same, found'] at found
  exact differ (congrArg Stat.stRdev (Option.some.inj found).symm)

def disk : DevT := ⟨8, 1⟩

def someDevices : FileSystem := fun path =>
  if path = "/dev/ttyS0".toList ∨ path = "/dev/modem".toList ∨ path = "/dev/tts/0".toList then
    some ⟨disk, ⟨4, 64⟩⟩
  else if path = "/dev/cua/0".toList then some ⟨disk, ⟨5, 64⟩⟩
  else none

theorem lock_names_some :
    uucpFile .sun someDevices "/dev/modem".toList = uucpFile .sun someDevices "/dev/ttyS0".toList ∧
      lockFile "/dev/modem".toList ≠ lockFile "/dev/ttyS0".toList := by
  obtain ⟨uucp, fhs⟩ := lock_names .sun someDevices
  constructor
  · exact (uucp "/dev/modem".toList "/dev/ttyS0".toList ⟨disk, ⟨4, 64⟩⟩ ⟨disk, ⟨4, 64⟩⟩ (by decide)
      (by decide) rfl).mpr rfl
  · intro same
    have paths := (fhs "/dev".toList "modem".toList "ttyS0".toList (by decide) (by decide)
      (by decide) (by decide)).1.mp same
    exact absurd paths (by decide)

/-- An alias has a name of its own, and the same component in two directories has one name. -/
theorem fhs_name_not_of_device :
    ¬ (∀ stat : FileSystem, OneNamePerDevice stat lockFile) ∧
      ∃ (stat : FileSystem) (p q : CString) (buf buf' : Stat), stat p = some buf ∧
        stat q = some buf' ∧ buf.stDev = buf'.stDev ∧ lockFile p = lockFile q ∧
        buf.stRdev ≠ buf'.stRdev := by
  constructor
  · intro holds
    have same := (holds someDevices "/dev/modem".toList "/dev/ttyS0".toList ⟨disk, ⟨4, 64⟩⟩
      ⟨disk, ⟨4, 64⟩⟩ (by decide) (by decide) rfl).mpr rfl
    exact absurd same (by decide)
  · have names : lockFile ("/dev/tts".toList ++ '/' :: ['0']) =
        lockFile ("/dev/cua".toList ++ '/' :: ['0']) :=
      (fhs_name_of_component (by decide) (by decide) (by decide) (by decide)).mpr rfl
    exact ⟨someDevices, "/dev/tts".toList ++ '/' :: ['0'], "/dev/cua".toList ++ '/' :: ['0'],
      ⟨disk, ⟨4, 64⟩⟩, ⟨disk, ⟨5, 64⟩⟩, by decide, by decide, rfl, names, by decide⟩

end Rxtx.SerialImp
