import Mathlib.Logic.Function.Basic
import Rxtx.Library.Runs
import Rxtx.SerialImp.LockFile

open Runs

namespace Rxtx.SerialImp

structure Processes (P : Type) where
  pid : P → Nat
  ppid : P → Nat
  pid_pos : ∀ p, 0 < pid p
  pid_small : ∀ p, pid p < 2 ^ 31
  pid_injective : Function.Injective pid

/-- Where a process is between two steps on the file system. `source` is the file the pid was read
    from, when it was complete. -/
inductive Stage where
  | idle
  | statting
  | reading
  | probing (pid : Int) (source : Option Nat)
  | unlinking (source : Option Nat)
  | creating
  | writing (inode : Nat)
  | checking (openpid : Int)
  | releasing
  deriving DecidableEq, Repr

structure LockText (P : Type) where
  content : List Char
  creator : Option P

/-- The lock directory: the inode that the name of the lock file has, and every inode so far.
    `holds` is the file of a process that has returned 0 from `fhs_lock` and has not called
    `fhs_unlock` since. -/
structure LockWorld (P : Type) where
  entry : Option Nat
  files : Nat → LockText P
  next : Nat
  stage : P → Stage
  holds : P → Option Nat

inductive LockLabel (P : Type) where
  | lock (p : P) (passes : Bool)
  | stat (p : P)
  | read (p : P) (pidBuffer : List Char) (pid : Int)
  | probe (p : P) (esrch : Bool)
  | unlinkStale (p : P) (fails : Bool)
  | create (p : P) (fails : Bool)
  | writePid (p : P)
  | unlock (p : P) (openpid : Int)
  | checkPid (p : P) (pidBuffer : List Char)
  | unlinkOwn (p : P)

variable {P : Type} [DecidableEq P]

/-- `stale` is what stands in a lock file that was left, whole or not, by none of the processes. -/
def LockWorld.start (stale : Option (List Char)) : LockWorld P where
  entry := stale.map fun _ => 0
  files _ := ⟨stale.getD [], none⟩
  next := 1
  stage _ := .idle
  holds _ := none

def LockWorld.setStage (s : LockWorld P) (p : P) (stage : Stage) : LockWorld P :=
  { s with stage := Function.update s.stage p stage }

/-- `check_lock_status` up to the stale lock: the directory, the permission and foreign locks. -/
def lockBegins (p : P) (passes : Bool) (s : LockWorld P) : Option (LockWorld P) :=
  if s.stage p = .idle then some (if passes then s.setStage p .statting else s) else none

def statLock (p : P) (s : LockWorld P) : Option (LockWorld P) :=
  if s.stage p = .statting then
    some (s.setStage p (if s.entry.isSome then .reading else .creating))
  else none

/-- `open`, `read` and `sscanf`; where the file is gone, the buffer is as it was. -/
def readStale (p : P) (pidBuffer : List Char) (pid : Int) (s : LockWorld P) :
    Option (LockWorld P) :=
  if s.stage p = .reading then
    match s.entry with
    | none => some (s.setStage p (.probing (sscanfPid pidBuffer pid) none))
    | some inode =>
      let content := (s.files inode).content
      some (s.setStage p (.probing (sscanfPid (readOver content pidBuffer) pid)
        (if content = [] then none else some inode)))
  else none

def probePid (p : P) (esrch : Bool) (s : LockWorld P) : Option (LockWorld P) :=
  match s.stage p with
  | .probing _ source => some (s.setStage p (if esrch then .unlinking source else .creating))
  | _ => none

/-- A failing `unlink` ends `fhs_lock`. -/
def unlinkStale (p : P) (fails : Bool) (s : LockWorld P) : Option (LockWorld P) :=
  match s.stage p with
  | .unlinking _ =>
    if fails || s.entry.isNone then some (s.setStage p .idle)
    else some { s.setStage p .creating with entry := none }
  | _ => none

def createLock (p : P) (fails : Bool) (s : LockWorld P) : Option (LockWorld P) :=
  if s.stage p = .creating then
    if fails || s.entry.isSome then some (s.setStage p .idle)
    else some { s.setStage p (.writing s.next) with
      entry := some s.next
      files := Function.update s.files s.next ⟨[], some p⟩
      next := s.next + 1 }
  else none

def writePid (procs : Processes P) (p : P) (s : LockWorld P) : Option (LockWorld P) :=
  match s.stage p with
  | .writing inode =>
    some { s.setStage p .idle with
      files := Function.update s.files inode
        { s.files inode with content := lockinfo (procs.pid p) }
      holds := Function.update s.holds p (some inode) }
  | _ => none

def unlockBegins (p : P) (openpid : Int) (s : LockWorld P) : Option (LockWorld P) :=
  if s.stage p = .idle then
    some { s.setStage p (.checking openpid) with holds := Function.update s.holds p none }
  else none

def checkPid (procs : Processes P) (p : P) (pidBuffer : List Char) (s : LockWorld P) :
    Option (LockWorld P) :=
  match s.stage p, s.entry with
  | .checking _, none => some (s.setStage p .idle)
  | .checking openpid, some inode =>
    let lockpid := atolPid (readOver (s.files inode).content pidBuffer)
    if lockpid ≠ procs.pid p ∧ lockpid ≠ procs.ppid p ∧ lockpid ≠ openpid then
      some (s.setStage p .idle)
    else some (s.setStage p .releasing)
  | _, _ => none

def unlinkOwn (p : P) (s : LockWorld P) : Option (LockWorld P) :=
  if s.stage p = .releasing then some { s.setStage p .idle with entry := none } else none

def lockStep (procs : Processes P) : LockLabel P → LockWorld P → Option (LockWorld P)
  | .lock p passes => lockBegins p passes
  | .stat p => statLock p
  | .read p pidBuffer pid => readStale p pidBuffer pid
  | .probe p esrch => probePid p esrch
  | .unlinkStale p fails => unlinkStale p fails
  | .create p fails => createLock p fails
  | .writePid p => writePid procs p
  | .unlock p openpid => unlockBegins p openpid
  | .checkPid p pidBuffer => checkPid procs p pidBuffer
  | .unlinkOwn p => unlinkOwn p

/-- The process table answers `ESRCH` for no pid of a live process. -/
def Answerable (procs : Processes P) (s : LockWorld P) : LockLabel P → Prop
  | .probe p true => ∀ pid source, s.stage p = .probing pid source → ∀ q, (procs.pid q : Int) ≠ pid
  | _ => True

def LockStep (procs : Processes P) (s : LockWorld P) (label : LockLabel P) (s' : LockWorld P) :
    Prop :=
  Answerable procs s label ∧ lockStep procs label s = some s'

/-- A process has created the file, and is about to write its pid or holds the lock with it. -/
def LockWorld.Claims (s : LockWorld P) (p : P) (inode : Nat) : Prop :=
  s.stage p = .writing inode ∨ s.holds p = some inode

/-- No `unlink` takes away a file that some process claims. -/
def Unraced (s : LockWorld P) : LockLabel P → Prop
  | .unlinkStale _ _ | .unlinkOwn _ => ∀ inode, s.entry = some inode → ∀ q, ¬ s.Claims q inode
  | _ => True

def StageOk (procs : Processes P) (s : LockWorld P) (p : P) : Stage → Prop
  | .writing inode => inode < s.next ∧ (s.files inode).creator = some p
  | .probing pid (some inode) =>
    inode < s.next ∧ ∀ q, (s.files inode).creator = some q → pid = procs.pid q
  | .unlinking (some inode) => inode < s.next ∧ (s.files inode).creator = none
  | _ => True

structure Recorded (procs : Processes P) (s : LockWorld P) : Prop where
  entry : ∀ inode, s.entry = some inode → inode < s.next
  text : ∀ inode q, (s.files inode).creator = some q →
    (s.files inode).content = [] ∨ (s.files inode).content = lockinfo (procs.pid q)
  stages : ∀ p, StageOk procs s p (s.stage p)
  holds : ∀ p inode, s.holds p = some inode →
    inode < s.next ∧ (s.files inode).creator = some p

omit [DecidableEq P] in
theorem start_recorded (procs : Processes P) (stale : Option (List Char)) :
    Recorded procs (LockWorld.start stale) where
  entry := by
    intro inode entered
    cases stale with
    | none => cases entered
    | some content =>
      cases entered
      exact Nat.zero_lt_one
  text := by
    intro inode q created
    cases created
  stages _ := trivial
  holds := by
    intro p inode held
    cases held

omit [DecidableEq P] in
theorem StageOk.grow {procs : Processes P} {s s' : LockWorld P} {p : P} {stage : Stage}
    (ok : StageOk procs s p stage) (more : s.next ≤ s'.next)
    (keeps : ∀ inode, inode < s.next → (s'.files inode).creator = (s.files inode).creator) :
    StageOk procs s' p stage := by
  have below {inode : Nat} (h : inode < s.next) : inode < s'.next := Nat.lt_of_lt_of_le h more
  match stage, ok with
  | .writing inode, ok => exact ⟨below ok.1, by rw [keeps inode ok.1]; exact ok.2⟩
  | .probing pid (some inode), ok => exact ⟨below ok.1, by rw [keeps inode ok.1]; exact ok.2⟩
  | .unlinking (some inode), ok => exact ⟨below ok.1, by rw [keeps inode ok.1]; exact ok.2⟩
  | .probing _ none, _ | .unlinking none, _ | .idle, _ | .statting, _ | .reading, _
  | .creating, _ | .checking _, _ | .releasing, _ => trivial

theorem Recorded.setStage {procs : Processes P} {s : LockWorld P} (recorded : Recorded procs s)
    (p : P) (stage : Stage) (ok : StageOk procs s p stage) :
    Recorded procs (s.setStage p stage) where
  entry := recorded.entry
  text := recorded.text
  stages := by
    intro q
    show StageOk procs _ q (Function.update s.stage p stage q)
    by_cases same : q = p
    · subst same
      rw [Function.update_self]
      exact ok.grow (Nat.le_refl _) fun _ _ => rfl
    · rw [Function.update_of_ne same]
      exact (recorded.stages q).grow (Nat.le_refl _) fun _ _ => rfl
  holds := recorded.holds

omit [DecidableEq P] in
theorem readStale_ok {procs : Processes P} {s : LockWorld P} (recorded : Recorded procs s) {p : P}
    {inode : Nat} (entered : s.entry = some inode) (complete : (s.files inode).content ≠ [])
    (pidBuffer : List Char) (pid : Int) :
    StageOk procs s p
      (.probing (sscanfPid (readOver (s.files inode).content pidBuffer) pid) (some inode)) := by
  refine ⟨recorded.entry inode entered, ?_⟩
  intro q created
  rcases recorded.text inode q created with none | written
  · exact absurd none complete
  · rw [written]
    exact (lockinfo_read (procs.pid_small q) pidBuffer pid).1

omit [DecidableEq P] in
theorem probePid_ok {procs : Processes P} {s : LockWorld P} (recorded : Recorded procs s) {p : P}
    {pid : Int} {source : Option Nat} (probing : s.stage p = .probing pid source)
    (dead : ∀ q, (procs.pid q : Int) ≠ pid) : StageOk procs s p (.unlinking source) := by
  have ok := recorded.stages p
  rw [probing] at ok
  cases source with
  | none => trivial
  | some inode =>
    refine ⟨ok.1, ?_⟩
    cases created : (s.files inode).creator with
    | none => rfl
    | some q => exact absurd (ok.2 q created).symm (dead q)

def LockWorld.created (s : LockWorld P) (p : P) : LockWorld P :=
  { s.setStage p (.writing s.next) with
    entry := some s.next
    files := Function.update s.files s.next ⟨[], some p⟩
    next := s.next + 1 }

def LockWorld.written (s : LockWorld P) (procs : Processes P) (p : P) (inode : Nat) :
    LockWorld P :=
  { s.setStage p .idle with
    files := Function.update s.files inode
      { s.files inode with content := lockinfo (procs.pid p) }
    holds := Function.update s.holds p (some inode) }

def LockWorld.unlocking (s : LockWorld P) (p : P) (openpid : Int) : LockWorld P :=
  { s.setStage p (.checking openpid) with holds := Function.update s.holds p none }

inductive Moves (procs : Processes P) (s : LockWorld P) : LockLabel P → LockWorld P → Prop
  | unchanged (label : LockLabel P) : Moves procs s label s
  | staged {label : LockLabel P} (p : P) (stage : Stage) (quiet : ∀ inode, stage ≠ .writing inode)
      (ok : Recorded procs s → Answerable procs s label → StageOk procs s p stage) :
      Moves procs s label (s.setStage p stage)
  | unlinked {label : LockLabel P} (p : P) (stage : Stage) (quiet : ∀ inode, stage ≠ .writing inode)
      (ok : StageOk procs s p stage)
      (unraced : Unraced s label → ∀ inode, s.entry = some inode → ∀ q, ¬ s.Claims q inode) :
      Moves procs s label { s.setStage p stage with entry := none }
  | created (p : P) (fails : Bool) (absent : s.entry = none) :
      Moves procs s (.create p fails) (s.created p)
  | written (p : P) (inode : Nat) (writing : s.stage p = .writing inode) :
      Moves procs s (.writePid p) (s.written procs p inode)
  | unlocking (p : P) (openpid : Int) : Moves procs s (.unlock p openpid) (s.unlocking p openpid)

theorem lockStep_moves {procs : Processes P} {s s' : LockWorld P} {label : LockLabel P}
    (taken : lockStep procs label s = some s') : Moves procs s label s' := by
  cases label with
  | lock p passes =>
    simp only [lockStep, lockBegins] at taken
    split_ifs at taken
    · cases taken
      exact .staged p _ (by simp) fun _ _ => trivial
    · cases taken
      exact .unchanged _
  | stat p =>
    simp only [lockStep, statLock] at taken
    split_ifs at taken
    · cases taken
      exact .staged p _ (by simp) fun _ _ => trivial
    · cases taken
      exact .staged p _ (by simp) fun _ _ => trivial
  | read p pidBuffer pid =>
    simp only [lockStep, readStale] at taken
    split_ifs at taken
    split at taken
    · cases taken
      exact .staged p _ (by simp) fun _ _ => trivial
    next inode entered =>
      cases taken
      apply Moves.staged p _ (by simp)
      intro recorded _
      split_ifs with empty
      · trivial
      · exact readStale_ok recorded entered empty pidBuffer pid
  | probe p esrch =>
    simp only [lockStep, probePid] at taken
    split at taken
    next pid source probing =>
      cases taken
      cases esrch with
      | false => exact .staged p _ (by simp) fun _ _ => trivial
      | true =>
        apply Moves.staged p _ (by simp)
        intro recorded answerable
        exact probePid_ok recorded probing (answerable pid source probing)
    · cases taken
  | unlinkStale p fails =>
    simp only [lockStep, unlinkStale] at taken
    split at taken
    · split_ifs at taken
      · cases taken
        exact .staged p _ (by simp) fun _ _ => trivial
      · cases taken
        exact .unlinked p _ (by simp) trivial fun unraced => unraced
    · cases taken
  | create p fails =>
    simp only [lockStep, createLock] at taken
    split_ifs at taken with creating refused
    · cases taken
      exact .staged p _ (by simp) fun _ _ => trivial
    · cases taken
      apply Moves.created p fails
      cases entered : s.entry with
      | none => rfl
      | some inode => simp [entered] at refused
  | writePid p =>
    simp only [lockStep, writePid] at taken
    split at taken
    next inode writing =>
      cases taken
      exact .written p inode writing
    · cases taken
  | unlock p openpid =>
    simp only [lockStep, unlockBegins] at taken
    split_ifs at taken
    cases taken
    exact .unlocking p openpid
  | checkPid p pidBuffer =>
    simp only [lockStep, checkPid] at taken
    split at taken
    · cases taken
      exact .staged p _ (by simp) fun _ _ => trivial
    · split_ifs at taken
      · cases taken
        exact .staged p _ (by simp) fun _ _ => trivial
      · cases taken
        exact .staged p _ (by simp) fun _ _ => trivial
    · cases taken
  | unlinkOwn p =>
    simp only [lockStep, unlinkOwn] at taken
    split_ifs at taken
    cases taken
    exact .unlinked p _ (by simp) trivial fun unraced => unraced

theorem Recorded.created {procs : Processes P} {s : LockWorld P} (recorded : Recorded procs s)
    (p : P) : Recorded procs (s.created p) := by
  have other {inode : Nat} (old : inode < s.next) : inode ≠ s.next := Nat.ne_of_lt old
  have kept (inode : Nat) (old : inode < s.next) :
      (Function.update s.files s.next ⟨[], some p⟩ inode).creator = (s.files inode).creator := by
    rw [Function.update_of_ne (other old)]
  constructor
  · intro inode entered
    cases entered
    exact Nat.lt_succ_self _
  · intro inode q
    show (Function.update s.files s.next ⟨[], some p⟩ inode).creator = some q →
      (Function.update s.files s.next ⟨[], some p⟩ inode).content = [] ∨
      (Function.update s.files s.next ⟨[], some p⟩ inode).content = _
    by_cases new : inode = s.next
    · subst new
      simp
    · rw [Function.update_of_ne new]
      exact recorded.text inode q
  · intro q
    show StageOk procs _ q (Function.update s.stage p (.writing s.next) q)
    by_cases same : q = p
    · subst same
      rw [Function.update_self]
      refine ⟨Nat.lt_succ_self _, ?_⟩
      show (Function.update s.files s.next ⟨[], some q⟩ s.next).creator = some q
      rw [Function.update_self]
    · rw [Function.update_of_ne same]
      exact (recorded.stages q).grow (Nat.le_succ _) kept
  · intro q inode held
    obtain ⟨old, created⟩ := recorded.holds q inode held
    refine ⟨Nat.lt_succ_of_lt old, ?_⟩
    show (Function.update s.files s.next ⟨[], some p⟩ inode).creator = some q
    rw [kept inode old]
    exact created

theorem Recorded.written {procs : Processes P} {s : LockWorld P} (recorded : Recorded procs s)
    {p : P} {inode : Nat} (writing : s.stage p = .writing inode) :
    Recorded procs (s.written procs p inode) := by
  have ok := recorded.stages p
  rw [writing] at ok
  have kept (other : Nat) : (Function.update s.files inode
      { s.files inode with content := lockinfo (procs.pid p) } other).creator =
      (s.files other).creator := by
    by_cases same : other = inode
    · subst same
      rw [Function.update_self]
    · rw [Function.update_of_ne same]
  refine ⟨recorded.entry, ?_, ?_, ?_⟩
  · intro other q created
    have creator : (s.files other).creator = some q := (kept other).symm.trans created
    show (Function.update s.files inode _ other).content = [] ∨
      (Function.update s.files inode _ other).content = _
    by_cases same : other = inode
    · subst same
      rw [Function.update_self]
      rw [ok.2] at creator
      cases creator
      exact .inr rfl
    · rw [Function.update_of_ne same]
      exact recorded.text other q creator
  · intro q
    show StageOk procs _ q (Function.update s.stage p .idle q)
    by_cases same : q = p
    · subst same
      rw [Function.update_self]
      trivial
    · rw [Function.update_of_ne same]
      exact (recorded.stages q).grow (Nat.le_refl _) fun other _ => kept other
  · intro q other
    show Function.update s.holds p (some inode) q = some other → other < s.next ∧
      (Function.update s.files inode _ other).creator = some q
    rw [kept other]
    by_cases same : q = p
    · subst same
      rw [Function.update_self]
      intro held
      cases held
      exact ok
    · rw [Function.update_of_ne same]
      exact recorded.holds q other

theorem Recorded.unlocking {procs : Processes P} {s : LockWorld P} (recorded : Recorded procs s)
    (p : P) (openpid : Int) : Recorded procs (s.unlocking p openpid) := by
  have staged := recorded.setStage p (.checking openpid) trivial
  refine ⟨staged.entry, staged.text,
    fun q => (staged.stages q).grow (Nat.le_refl _) fun _ _ => rfl, ?_⟩
  intro q inode
  show Function.update s.holds p none q = some inode → _
  by_cases same : q = p
  · subst same
    rw [Function.update_self]
    intro held
    cases held
  · rw [Function.update_of_ne same]
    exact recorded.holds q inode

omit [DecidableEq P] in
theorem Recorded.unlink {procs : Processes P} {s : LockWorld P} (recorded : Recorded procs s) :
    Recorded procs { s with entry := none } where
  entry := by
    intro inode entered
    cases entered
  text := recorded.text
  stages p := (recorded.stages p).grow (Nat.le_refl _) fun _ _ => rfl
  holds := recorded.holds

theorem lockStep_recorded {procs : Processes P} {s s' : LockWorld P} {label : LockLabel P}
    (recorded : Recorded procs s) (taken : LockStep procs s label s') : Recorded procs s' := by
  cases lockStep_moves taken.2 with
  | unchanged => exact recorded
  | staged p stage quiet ok => exact recorded.setStage p stage (ok recorded taken.1)
  | unlinked p stage quiet ok => exact (recorded.setStage p stage ok).unlink
  | created p => exact recorded.created p
  | written p inode writing => exact recorded.written writing
  | unlocking p openpid => exact recorded.unlocking p openpid

/-- A process that removes as stale the file that it read, complete, removes no claimed one: only a
    file that was put in its place, or that was read half-written, can be. -/
theorem unlink_source_unraced {procs : Processes P} {stale : Option (List Char)}
    {labels : List (LockLabel P)} {s : LockWorld P}
    (path : Path (LockStep procs) (LockWorld.start stale) labels s) {p : P} {inode : Nat}
    (stage : s.stage p = .unlinking (some inode)) (q : P) : ¬ s.Claims q inode := by
  have recorded := path.invariant (Recorded procs)
    (fun _ _ _ recorded taken => lockStep_recorded recorded taken) (start_recorded procs stale)
  have dead := recorded.stages p
  rw [stage] at dead
  intro claims
  have creator : (s.files inode).creator = some q := by
    rcases claims with writing | held
    · have ok := recorded.stages q
      rw [writing] at ok
      exact ok.2
    · exact (recorded.holds q inode held).2
  rw [dead.2] at creator
  cases creator

def Present (s : LockWorld P) : Prop := ∀ p inode, s.Claims p inode → s.entry = some inode

theorem claims_of_setStage {s : LockWorld P} {p q : P} {stage : Stage} {inode : Nat}
    (other : ∀ inode, stage ≠ .writing inode) (claims : (s.setStage p stage).Claims q inode) :
    s.Claims q inode := by
  rcases claims with writing | held
  · have staged : Function.update s.stage p stage q = .writing inode := writing
    by_cases same : q = p
    · subst same
      rw [Function.update_self] at staged
      exact absurd staged (other inode)
    · rw [Function.update_of_ne same] at staged
      exact .inl staged
  · exact .inr held

theorem Present.setStage {s : LockWorld P} (present : Present s) (p : P) {stage : Stage}
    (other : ∀ inode, stage ≠ .writing inode) : Present (s.setStage p stage) :=
  fun q inode claims => present q inode (claims_of_setStage other claims)

theorem Present.unlink {s : LockWorld P} (present : Present s) (p : P) {stage : Stage}
    (other : ∀ inode, stage ≠ .writing inode)
    (unraced : ∀ inode, s.entry = some inode → ∀ q, ¬ s.Claims q inode) :
    Present { s.setStage p stage with entry := none } := by
  intro q inode claims
  have before : s.Claims q inode := claims_of_setStage other claims
  exact absurd before (unraced inode (present q inode before) q)

theorem Present.created {s : LockWorld P} (present : Present s) (p : P)
    (absent : s.entry = none) : Present (s.created p) := by
  have unclaimed (q : P) (inode : Nat) : ¬ s.Claims q inode := by
    intro claims
    have entered := present q inode claims
    rw [absent] at entered
    cases entered
  intro q inode claims
  rcases claims with writing | held
  · have staged : Function.update s.stage p (.writing s.next) q = .writing inode := writing
    by_cases same : q = p
    · subst same
      rw [Function.update_self] at staged
      cases staged
      rfl
    · rw [Function.update_of_ne same] at staged
      exact absurd (.inl staged) (unclaimed q inode)
  · exact absurd (.inr held) (unclaimed q inode)

theorem Present.written {s : LockWorld P} (present : Present s) (procs : Processes P) {p : P}
    {inode : Nat} (writing : s.stage p = .writing inode) : Present (s.written procs p inode) := by
  intro q other claims
  rcases claims with staged | held
  · exact present q other (claims_of_setStage (by simp) (.inl staged))
  · have holds : Function.update s.holds p (some inode) q = some other := held
    by_cases same : q = p
    · subst same
      rw [Function.update_self] at holds
      cases holds
      exact present q inode (.inl writing)
    · rw [Function.update_of_ne same] at holds
      exact present q other (.inr holds)

theorem Present.unlocking {s : LockWorld P} (present : Present s) (p : P) (openpid : Int) :
    Present (s.unlocking p openpid) := by
  intro q inode claims
  rcases claims with staged | held
  · exact present q inode (claims_of_setStage (by simp) (.inl staged))
  · have holds : Function.update s.holds p none q = some inode := held
    by_cases same : q = p
    · subst same
      rw [Function.update_self] at holds
      cases holds
    · rw [Function.update_of_ne same] at holds
      exact present q inode (.inr holds)

theorem lockStep_present {procs : Processes P} {s s' : LockWorld P} {label : LockLabel P}
    (present : Present s) (unraced : Unraced s label) (taken : lockStep procs label s = some s') :
    Present s' := by
  cases lockStep_moves taken with
  | unchanged => exact present
  | staged p stage quiet => exact present.setStage p quiet
  | unlinked p stage quiet ok spares => exact present.unlink p quiet (spares unraced)
  | created p fails absent => exact present.created p absent
  | written p inode writing => exact present.written procs writing
  | unlocking p openpid => exact present.unlocking p openpid

/-- In a run without raced removals no two processes hold the lock. -/
theorem fhs_lock_exclusive {P : Type} [DecidableEq P] (procs : Processes P)
    (stale : Option (List Char)) (labels : List (LockLabel P)) (s : LockWorld P)
    (path : Path (Guarded Unraced (LockStep procs)) (LockWorld.start stale) labels s) (p q : P)
    (holdsP : s.holds p ≠ none) (holdsQ : s.holds q ≠ none) : p = q := by
  have start : Recorded procs (LockWorld.start stale) ∧
      Present (LockWorld.start stale : LockWorld P) := by
    refine ⟨start_recorded procs stale, ?_⟩
    intro q inode claims
    rcases claims with staged | held
    · cases staged
    · cases held
  obtain ⟨recorded, present⟩ := path.invariant (fun s => Recorded procs s ∧ Present s)
    (fun _ _ _ inv taken => ⟨lockStep_recorded inv.1 taken.2,
      lockStep_present inv.2 taken.1 taken.2.2⟩) start
  obtain ⟨inode, heldP⟩ := Option.ne_none_iff_exists'.mp holdsP
  obtain ⟨other, heldQ⟩ := Option.ne_none_iff_exists'.mp holdsQ
  have same : some inode = some other :=
    (present p inode (.inr heldP)).symm.trans (present q other (.inr heldQ))
  have creatorP := (recorded.holds p inode heldP).2
  have creatorQ := (recorded.holds q other heldQ).2
  rw [Option.some.inj same, creatorQ] at creatorP
  exact (Option.some.inj creatorP).symm

def twoProcesses : Processes Bool where
  pid second := if second then 102 else 101
  ppid _ := 1
  pid_pos second := by cases second <;> decide
  pid_small second := by cases second <;> decide
  pid_injective first second same := by
    cases first <;> cases second <;> simp at same <;> rfl

theorem fhs_lock_exclusive_first : ∃ s : LockWorld Bool, s.holds false = some 1 ∧
    ∀ q, s.holds q ≠ none → false = q := by
  have path : ∃ s, Path (Guarded Unraced (LockStep twoProcesses)) (LockWorld.start none)
      [.lock false true, .stat false, .create false false, .writePid false] s ∧
      s.holds false = some 1 :=
    ⟨_, .cons ⟨trivial, trivial, rfl⟩ (.cons ⟨trivial, trivial, rfl⟩
      (.cons ⟨trivial, trivial, rfl⟩ (.cons ⟨trivial, trivial, rfl⟩ (.nil _)))), rfl⟩
  rcases path with ⟨s, path, holds⟩
  exact ⟨s, holds, fun q holdsQ =>
    fhs_lock_exclusive twoProcesses none _ s path false q (by simp [holds]) holdsQ⟩

theorem twoProcesses_dead (second : Bool) : twoProcesses.pid second ≠ 999 := by
  cases second <;> decide

/-- Both find the lock of a dead process; the second removes what the first has just created. -/
theorem fhs_lock_not_exclusive :
    ¬ ∀ (P : Type) [DecidableEq P] (procs : Processes P) (stale : Option Nat)
      (labels : List (LockLabel P)) (s : LockWorld P) (p q : P),
      (∀ pid ∈ stale, ∀ p, procs.pid p ≠ pid) →
      Path (LockStep procs) (LockWorld.start (stale.map lockinfo)) labels s →
      s.holds p ≠ none → s.holds q ≠ none → p = q := by
  intro exclusive
  have read : sscanfPid (readOver (lockinfo 999) []) 0 = 999 :=
    (lockinfo_read (by decide) [] 0).1
  have dead (q : Bool) : (twoProcesses.pid q : Int) ≠ sscanfPid (readOver (lockinfo 999) []) 0 := by
    rw [read]
    cases q <;> decide
  have path : ∃ s, Path (LockStep twoProcesses) (LockWorld.start (some (lockinfo 999)))
      [.lock false true, .lock true true, .stat false, .stat true, .read false [] 0,
        .read true [] 0, .probe false true, .probe true true, .unlinkStale false false,
        .create false false, .writePid false, .unlinkStale true false, .create true false,
        .writePid true] s ∧
      s.holds false = some 1 ∧ s.holds true = some 2 := by
    refine ⟨_, .cons ⟨trivial, rfl⟩ (.cons ⟨trivial, rfl⟩ (.cons ⟨trivial, rfl⟩
      (.cons ⟨trivial, rfl⟩ (.cons ⟨trivial, rfl⟩ (.cons ⟨trivial, rfl⟩ (.cons ⟨?_, rfl⟩
      (.cons ⟨?_, rfl⟩ (.cons ⟨trivial, rfl⟩ (.cons ⟨trivial, rfl⟩ (.cons ⟨trivial, rfl⟩
      (.cons ⟨trivial, rfl⟩ (.cons ⟨trivial, rfl⟩ (.cons ⟨trivial, rfl⟩ (.nil _)))))))))))))), rfl,
      rfl⟩
    · intro pid source probing q
      cases probing
      exact dead q
    · intro pid source probing q
      cases probing
      exact dead q
  rcases path with ⟨s, path, first, second⟩
  have same := exclusive Bool twoProcesses (some 999) _ s false true
    (fun pid stale p => by cases stale; exact twoProcesses_dead p) path (by simp [first])
    (by simp [second])
  cases same

end Rxtx.SerialImp
