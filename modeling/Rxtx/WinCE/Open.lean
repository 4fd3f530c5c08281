import Mathlib.Logic.Function.Basic
import Rxtx.Win32.Settings
import Rxtx.WinCE.EventFlags
import Rxtx.WinCE.Helpers

open Rxtx.Win32 (CommTimeouts DWord Dcb maxDWord)

namespace Rxtx.WinCE

/-- Handles are returned as descriptors: "32 bits are 32 bits". -/
abbrev Handle := BitVec 32

abbrev Addr := Nat

def invalidHandleValue : Handle := -1

def errorNotEnoughMemory : DWord := 8
def errorAlreadyExists : DWord := 183

def dtrControlHandshake : BitVec 2 := 2
def rtsControlEnable : BitVec 2 := 1

structure PortDcb extends Dcb where
  fErrorChar : Bool
  fNull : Bool
  fAbortOnError : Bool
  deriving DecidableEq, Inhabited, Repr

structure PortComm where
  dcb : PortDcb
  timeouts : CommTimeouts
  deriving DecidableEq, Inhabited, Repr

structure EventInfo extends EventInfoStruct where
  fd : Handle
  eventHandle : Handle
  deriving DecidableEq, Repr

/-- The handles of ports and of events that are open, the structures that are allocated, and the
    state of the ports. -/
structure System where
  ports : List (Handle × String)
  events : List (Handle × String)
  blocks : List (Addr × EventInfo)
  comm : Handle → PortComm

/-- What the system and Java answer; `portDcb` and `commTimeouts` are the variables that were not
    initialised. -/
structure OpenAnswers where
  createFile : Handle
  getCommState : Bool
  portDcb : PortDcb
  setCommState : Bool
  getCommTimeouts : Bool
  commTimeouts : CommTimeouts
  setCommTimeouts : Bool
  malloc : Option Addr
  createEvent : Option Handle
  lastError : DWord
  fieldId : Bool
  errorMsg : String

/-- With share mode 0 a port that is open is not opened again. -/
def System.createFileW (s : System) (answer : Handle) (name : String) : Handle × System :=
  if (s.ports.any fun port => port.2 = name) || answer = invalidHandleValue then
    (invalidHandleValue, s)
  else (answer, { s with ports := (answer, name) :: s.ports })

def openDcb (dcb : PortDcb) : PortDcb :=
  { dcb with
    fBinary := true
    fParity := true
    fOutxDsrFlow := false
    fDtrControl := dtrControlHandshake
    fDsrSensitivity := false
    fTXContinueOnXoff := true
    fErrorChar := false
    fNull := false
    fRtsControl := rtsControlEnable
    fAbortOnError := false }

def openTimeouts (timeouts : CommTimeouts) : CommTimeouts :=
  { timeouts with
    readIntervalTimeout := 0
    readTotalTimeoutMultiplier := 0
    readTotalTimeoutConstant := maxDWord
    writeTotalTimeoutMultiplier := 10
    writeTotalTimeoutConstant := 1000 }

/-- `PortDCB` behind `GetCommState`, whose result is not looked at. -/
def System.portDcb (s : System) (answers : OpenAnswers) (hPort : Handle) : PortDcb :=
  if answers.getCommState then (s.comm hPort).dcb else answers.portDcb

def System.commTimeouts (s : System) (answers : OpenAnswers) (hPort : Handle) : CommTimeouts :=
  if answers.getCommTimeouts then (s.comm hPort).timeouts else answers.commTimeouts

def System.setComm (s : System) (hPort : Handle) (comm : PortComm) : System :=
  { s with comm := Function.update s.comm hPort comm }

def eventName (hPort : Handle) : String :=
  "rxtxPort.SerEvt" ++ String.ofList (Nat.toDigits 16 hPort.toNat)

def System.createEventW (s : System) (answer : Option Handle) (name : String) : System :=
  match answer with
  | none => s
  | some event => { s with events := (event, name) :: s.events }

def System.free (s : System) (block : Addr) : System :=
  { s with blocks := s.blocks.filter fun other => other.1 ≠ block }

/-- The error, and the structure. Where the event is there already, its handle is not closed. -/
def System.initialiseEventInfoStruct (s : System) (answers : OpenAnswers) (hPort : Handle) :
    DWord × Option Addr × System :=
  match answers.malloc with
  | none => (errorNotEnoughMemory, none, s)
  | some block =>
    let s := s.createEventW answers.createEvent (eventName hPort)
    let info : EventInfo :=
      { WinCE.initialiseEventInfoStruct with
        fd := hPort
        eventHandle := answers.createEvent.getD 0 }
    let s := { s with blocks := (block, info) :: s.blocks }
    if answers.createEvent = none ∨ answers.lastError = errorAlreadyExists then
      (answers.lastError, some block, s.free block)
    else (0, some block, s)

/-- `eis` is what was stored in the field, where it was. -/
structure OpenRun where
  result : Handle
  pending : Option Pending
  eis : Option Addr
  system : System

def rxtxPortOpen (findClass : String → Bool) (answers : OpenAnswers) (name : String)
    (s : System) : OpenRun :=
  let fails (exc foo : String) (s : System) : OpenRun :=
    ⟨invalidHandleValue, throwJavaExceptionW findClass exc foo answers.errorMsg, none, s⟩
  let (hPort, s) := s.createFileW answers.createFile name
  if hPort = invalidHandleValue then fails portInUseException "open - CreateFile" s
  else
    let dcb := openDcb (s.portDcb answers hPort)
    if !answers.setCommState then fails portInUseException "open - SetCommState" s
    else
      let s := s.setComm hPort { s.comm hPort with dcb }
      let timeouts := openTimeouts (s.commTimeouts answers hPort)
      if !answers.setCommTimeouts then fails portInUseException "open - SetCommTimeouts" s
      else
        let s := s.setComm hPort { s.comm hPort with timeouts }
        let (error, eventInfo, s) := s.initialiseEventInfoStruct answers hPort
        if error ≠ 0 then fails ioException "open - InitialiseEventInfoStruct" s
        else if !answers.fieldId then ⟨invalidHandleValue, none, none, s⟩
        else ⟨hPort, none, eventInfo, s⟩

/-- The handles and the structures of `s'` are those of `s`, and the port can be opened in the one as
    in the other. -/
structure Releases (name : String) (s s' : System) : Prop where
  ports : s'.ports = s.ports
  events : s'.events = s.events
  blocks : s'.blocks = s.blocks
  reopens : ∀ answer, (s'.createFileW answer name).1 = (s.createFileW answer name).1

theorem Releases.refl (name : String) (s : System) : Releases name s s :=
  ⟨rfl, rfl, rfl, fun _ => rfl⟩

@[simp] theorem createEventW_ports (s : System) (answer : Option Handle) (name : String) :
    (s.createEventW answer name).ports = s.ports := by
  cases answer <;> rfl

def OpenAnswers.eventError (answers : OpenAnswers) : DWord :=
  if answers.malloc = none then errorNotEnoughMemory
  else if answers.createEvent = none ∨ answers.lastError = errorAlreadyExists then
    answers.lastError
  else 0

theorem initialiseEventInfoStruct_error (s : System) (answers : OpenAnswers) (hPort : Handle) :
    (s.initialiseEventInfoStruct answers hPort).1 = answers.eventError ∧
      (s.initialiseEventInfoStruct answers hPort).2.2.ports = s.ports := by
  unfold System.initialiseEventInfoStruct OpenAnswers.eventError
  cases answers.malloc with
  | none => exact ⟨rfl, rfl⟩
  | some block =>
    simp only [reduceCtorEq, if_false]
    split_ifs
    · exact ⟨rfl, createEventW_ports ..⟩
    · exact ⟨rfl, createEventW_ports ..⟩

def System.Refuses (s : System) (answers : OpenAnswers) (name : String) : Prop :=
  (∃ port ∈ s.ports, port.2 = name) ∨ answers.createFile = invalidHandleValue

structure OpenAnswers.Succeed (answers : OpenAnswers) : Prop where
  setCommState : answers.setCommState = true
  setCommTimeouts : answers.setCommTimeouts = true
  eventError : answers.eventError = 0
  fieldId : answers.fieldId = true

theorem createFileW_refused {s : System} {answers : OpenAnswers} {name : String}
    (refused : s.Refuses answers name) :
    s.createFileW answers.createFile name = (invalidHandleValue, s) := by
  unfold System.createFileW
  rw [if_pos]
  simpa [System.Refuses] using refused

theorem createFileW_opened {s : System} {answers : OpenAnswers} {name : String}
    (opened : ¬ s.Refuses answers name) :
    s.createFileW answers.createFile name =
      (answers.createFile, { s with ports := (answers.createFile, name) :: s.ports }) := by
  unfold System.createFileW
  rw [if_neg]
  simpa [System.Refuses] using opened

variable (findClass : String → Bool)

theorem rxtxPortOpen_refused {s : System} {answers : OpenAnswers} {name : String}
    (refused : s.Refuses answers name) :
    (rxtxPortOpen findClass answers name s).result = invalidHandleValue ∧
      (rxtxPortOpen findClass answers name s).system = s := by
  simp [rxtxPortOpen, createFileW_refused refused]

theorem rxtxPortOpen_opened {s : System} {answers : OpenAnswers} {name : String}
    (opened : ¬ s.Refuses answers name) :
    (rxtxPortOpen findClass answers name s).system.ports =
        (answers.createFile, name) :: s.ports ∧
      ((rxtxPortOpen findClass answers name s).result = invalidHandleValue ↔
        ¬ answers.Succeed) := by
  have valid : answers.createFile ≠ invalidHandleValue := fun refused => opened (.inr refused)
  simp only [rxtxPortOpen, createFileW_opened opened, if_neg valid]
  split_ifs with state timeouts error field
  · exact ⟨rfl, iff_of_true rfl fun succeed => by simp [succeed.setCommState] at state⟩
  · exact ⟨rfl, iff_of_true rfl fun succeed => by simp [succeed.setCommTimeouts] at timeouts⟩
  · obtain ⟨returned, ports⟩ := initialiseEventInfoStruct_error _ answers answers.createFile
    rw [returned] at error
    exact ⟨ports, iff_of_true rfl fun succeed => error succeed.eventError⟩
  · obtain ⟨-, ports⟩ := initialiseEventInfoStruct_error _ answers answers.createFile
    exact ⟨ports, iff_of_true rfl fun succeed => by simp [succeed.fieldId] at field⟩
  · obtain ⟨returned, ports⟩ := initialiseEventInfoStruct_error _ answers answers.createFile
    rw [returned] at error
    refine ⟨ports, iff_of_false valid (not_not_intro ⟨?_, ?_, not_not.mp error, ?_⟩)⟩
    · simpa using state
    · simpa using timeouts
    · simpa using field

/-- Exactly an open that fails behind `CreateFileW` leaves something behind: the handle of the port
    at least. -/
theorem open_releases_iff (answers : OpenAnswers) (name : String) (s : System) :
    ((rxtxPortOpen findClass answers name s).result = invalidHandleValue →
        Releases name s (rxtxPortOpen findClass answers name s).system) ↔
      s.Refuses answers name ∨ answers.Succeed := by
  by_cases refused : s.Refuses answers name
  · obtain ⟨-, same⟩ := rxtxPortOpen_refused findClass refused
    refine iff_of_true (fun _ => ?_) (.inl refused)
    rw [same]
    exact Releases.refl name s
  · obtain ⟨ports, failed⟩ := rxtxPortOpen_opened findClass refused
    rw [failed]
    constructor
    · intro releases
      by_contra neither
      have kept := (releases fun succeed => neither (.inr succeed)).ports
      rw [ports] at kept
      exact List.cons_ne_self _ _ kept
    · rintro (refuses | succeed) fails
      · exact absurd refuses refused
      · exact absurd succeed fails

theorem open_refused_after_failure {answers : OpenAnswers} {name : String} {s : System}
    (opened : ¬ s.Refuses answers name) (again : OpenAnswers) :
    (rxtxPortOpen findClass again name (rxtxPortOpen findClass answers name s).system).result =
      invalidHandleValue := by
  obtain ⟨ports, -⟩ := rxtxPortOpen_opened findClass opened
  have taken : (rxtxPortOpen findClass answers name s).system.Refuses again name :=
    .inl ⟨(answers.createFile, name), by rw [ports]; exact List.mem_cons_self, rfl⟩
  exact (rxtxPortOpen_refused findClass taken).1

def noIntField : OpenAnswers where
  createFile := 5
  getCommState := true
  portDcb := default
  setCommState := true
  getCommTimeouts := true
  commTimeouts := default
  setCommTimeouts := true
  malloc := some 0x1000
  createEvent := some 6
  lastError := 0
  fieldId := false
  errorMsg := ""

theorem open_not_releases :
    ¬ ∀ (answers : OpenAnswers) (name : String) (s : System),
      (rxtxPortOpen (fun _ => true) answers name s).result = invalidHandleValue →
        Releases name s (rxtxPortOpen (fun _ => true) answers name s).system := by
  intro releases
  have kept := (releases noIntField "COM1:" ⟨[], [], [], fun _ => default⟩ rfl).ports
  cases kept

end Rxtx.WinCE
