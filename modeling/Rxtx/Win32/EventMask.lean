import Mathlib.Data.BitVec
import Rxtx.Library.FlagWord
import Rxtx.Library.Runs
import Rxtx.Library.SaveRestore
import Rxtx.RXTXPort.Fields

open FlagWord Runs SaveRestore
open Rxtx.RXTXPort (EventType)

namespace Rxtx.Win32

def evTxempty : BitVec 32 := 0x004

/-- The trailing edge of ring, which newer systems do not report. -/
def trailingRing : BitVec 32 := 0x2000

def windowsFlags : EventType → BitVec 32
  | .dataAvailable => 0x001
  | .outputBufferEmpty => evTxempty
  | .cts => 0x008
  | .dsr => 0x010
  | .ri => 0x100 ||| trailingRing
  | .cd => 0x020
  | .oe => 0x080
  | .pe => 0x080
  | .fe => 0x080
  | .bi => 0x040

def events : List EventType :=
  [.dataAvailable, .outputBufferEmpty, .cts, .dsr, .ri, .cd, .oe, .pe, .fe, .bi]

def eventMask (termiosFlags : EventType → Bool) : BitVec 32 :=
  events.foldl (fun mask event => if termiosFlags event then mask ||| windowsFlags event else mask)
    0#32

inductive OutputCall where
  | serialWrite
  | tcdrain
  | tcflush (queueSelector : Int32)
  deriving DecidableEq

/-- How the transfer of `serial_write` goes: at once, overlapped or not at all. -/
inductive WriteReply where
  | finished (nBytes : Int32)
  | pending (overlapped : Option Int32)
  | refused

structure OutputReply where
  writeFile : WriteReply
  flushFileBuffers : Bool
  lastError : Nat
  purgeTxabort : Bool
  purgeRxabort : Bool

/-- `commMask` is the mask that the driver was given last, `last` what the last `termios_setflags`
    has computed, and `since` what that was when the output call began. -/
structure MaskPort where
  eventFlag : BitVec 32
  commMask : BitVec 32
  txHappened : Bool
  output : Option (OutputCall × BitVec 32)
  returned : Option Int32
  last : BitVec 32
  since : BitVec 32
  deriving DecidableEq

def termiosSetflags (termiosFlags : EventType → Bool) (accepted : Bool) (index : MaskPort) :
    MaskPort :=
  let index := { index with eventFlag := eventMask termiosFlags }
  let index := if accepted then { index with commMask := index.eventFlag } else index
  let index :=
    if index.eventFlag &&& trailingRing ≠ 0 ∧ accepted = false then
      let index := { index with eventFlag := clear index.eventFlag trailingRing }
      { index with commMask := index.eventFlag }
    else index
  { index with last := index.eventFlag }

def serialWriteResult : WriteReply → Int32
  | .finished nBytes => nBytes
  | .pending (some nBytes) => nBytes
  | .pending none => -1
  | .refused => -1

def tcdrainResult (reply : OutputReply) : Bool × Int32 :=
  if ! reply.flushFileBuffers then
    if reply.lastError = 0 then (false, 0) else (false, -1)
  else (true, 0)

def tciflush : Int32 := 0
def tcoflush : Int32 := 1
def tcioflush : Int32 := 2

def tcflushResult (queueSelector : Int32) (reply : OutputReply) : Bool × Int32 :=
  if queueSelector = tciflush then
    if reply.purgeRxabort then (true, 0) else (false, -1)
  else if queueSelector = tcoflush then
    if reply.purgeTxabort then (true, 0) else (false, -1)
  else if queueSelector = tcioflush then
    if ! reply.purgeTxabort then (false, -1)
    else if ! reply.purgeRxabort then (false, -1)
    else (true, 0)
  else (false, -1)

/-- Whether the call comes to the restoring end of its function, and what it returns. -/
def OutputCall.result (call : OutputCall) (reply : OutputReply) : Bool × Int32 :=
  match call with
  | .serialWrite => (true, serialWriteResult reply.writeFile)
  | .tcdrain => tcdrainResult reply
  | .tcflush queueSelector => tcflushResult queueSelector reply

def OutputCall.entersWithTx : OutputCall → Bool
  | .tcflush _ => true
  | _ => false

def OutputCall.leavesWithTx : OutputCall → Bool
  | .tcdrain => false
  | _ => true

def enterOutput (call : OutputCall) (index : MaskPort) : Option MaskPort :=
  match index.output with
  | some _ => none
  | none => some { index with
      output := some (call, index.eventFlag)
      txHappened := index.txHappened || call.entersWithTx
      since := index.last }

/-- `EV_TXEMPTY` is published but not kept: the mask saved on entry is put back. -/
def leaveOutput (reply : OutputReply) (index : MaskPort) : Option MaskPort :=
  match index.output with
  | none => none
  | some (call, oldFlag) =>
    let (restores, result) := call.result reply
    if restores then some { index with
      commMask := index.eventFlag ||| evTxempty
      eventFlag := oldFlag
      txHappened := index.txHappened || call.leavesWithTx
      output := none
      returned := some result }
    else some { index with output := none, returned := some result }

inductive MaskLabel where
  | enter (call : OutputCall)
  | leave (reply : OutputReply)
  | setflags (termiosFlags : EventType → Bool) (accepted : Bool)

def maskStep (label : MaskLabel) (index : MaskPort) : Option MaskPort :=
  match label with
  | .enter call => enterOutput call index
  | .leave reply => leaveOutput reply index
  | .setflags termiosFlags accepted => some (termiosSetflags termiosFlags accepted index)

def MaskPort.cell (index : MaskPort) : Cell (BitVec 32) :=
  ⟨index.eventFlag, index.output.map Prod.snd, index.last, index.since⟩

def MaskPort.Agrees (index : MaskPort) : Prop := index.output = none → index.eventFlag = index.last

/-- The reply ends the call under way where it puts the mask back. -/
def MaskPort.Restores (index : MaskPort) (reply : OutputReply) : Prop :=
  ∃ call oldFlag, index.output = some (call, oldFlag) ∧ (call.result reply).1 = true

/-- A call that puts its mask back ends under the mask it began with. -/
def KeepsMask (index : MaskPort) (label : MaskLabel) : Prop :=
  match label with
  | .leave reply => index.Restores reply → index.last = index.since
  | _ => True

theorem termiosSetflags_cell (termiosFlags : EventType → Bool) (accepted : Bool)
    (index : MaskPort) : (termiosSetflags termiosFlags accepted index).cell =
      index.cell.set (termiosSetflags termiosFlags accepted index).eventFlag := by
  unfold termiosSetflags
  cases accepted
  · simp only [Bool.false_eq_true, if_false, ne_eq, and_true]
    split <;> rfl
  · simp only [if_true, Bool.true_eq_false, and_false, if_false]
    rfl

inductive MaskMoves (index index' : MaskPort) : MaskLabel → Prop
  | enter (call : OutputCall) (idle : index.cell.saved = none)
      (cell : index'.cell = index.cell.borrow id) : MaskMoves index index' (.enter call)
  | restore (reply : OutputReply) (restores : index.Restores reply)
      (busy : index.cell.saved ≠ none) (cell : index'.cell = index.cell.restore) :
      MaskMoves index index' (.leave reply)
  | release (reply : OutputReply) (stays : ¬ index.Restores reply)
      (cell : index'.cell = index.cell.release) : MaskMoves index index' (.leave reply)
  | set (termiosFlags : EventType → Bool) (accepted : Bool)
      (cell : index'.cell = index.cell.set index'.eventFlag) :
      MaskMoves index index' (.setflags termiosFlags accepted)

theorem maskStep_moves {label : MaskLabel} {index index' : MaskPort}
    (taken : maskStep label index = some index') : MaskMoves index index' label := by
  cases label with
  | enter call =>
    simp only [maskStep, enterOutput] at taken
    split at taken
    · cases taken
    next idle =>
      cases taken
      apply MaskMoves.enter
      · simp [MaskPort.cell, idle]
      · simp [MaskPort.cell, Cell.borrow]
  | leave reply =>
    simp only [maskStep, leaveOutput] at taken
    split at taken
    · cases taken
    next call oldFlag busy =>
      split_ifs at taken with restores
      · cases taken
        apply MaskMoves.restore
        · exact ⟨call, oldFlag, busy, restores⟩
        · simp [MaskPort.cell, busy]
        · simp [MaskPort.cell, Cell.restore, busy]
      · cases taken
        apply MaskMoves.release
        · intro restored
          obtain ⟨other, flag, same, does⟩ := restored
          rw [busy] at same
          cases same
          exact restores does
        · simp [MaskPort.cell, Cell.release]
  | setflags termiosFlags accepted =>
    cases taken
    exact .set _ _ (termiosSetflags_cell termiosFlags accepted index)

theorem MaskMoves.clear {index index' : MaskPort} {label : MaskLabel}
    (moves : MaskMoves index index' label) (clear : index.cell.Clear)
    (keeps : KeepsMask index label) : index'.cell.Clear := by
  cases moves with
  | enter call idle cell =>
    rw [cell]
    exact clear.borrow idle
  | restore reply restores busy cell =>
    rw [cell]
    exact (clear.restore_clear_iff busy).mpr (keeps restores)
  | release reply stays cell =>
    rw [cell]
    exact clear.release
  | set termiosFlags accepted cell =>
    rw [cell]
    exact clear.set _

/-- While every call that puts its mask back ends under the mask it began with, the mask between
    calls is the one `termios_setflags` computed last; the first that does not loses it. -/
theorem mask_kept {start index : MaskPort} {labels : List MaskLabel}
    (idle : start.output = none) (agrees : start.Agrees)
    (path : Path (Guarded KeepsMask (Takes maskStep)) start labels index) :
    index.Agrees ∧
    ∀ reply index', maskStep (.leave reply) index = some index' →
      (index'.Agrees ↔ KeepsMask index (.leave reply)) := by
  have first : start.cell.Clear := by
    have same := agrees idle
    exact ⟨(Cell.sound_iff (by simp [MaskPort.cell, idle])).mpr same, same⟩
  have clear := path.invariant (fun index => index.cell.Clear)
    (fun _ _ _ before step => (maskStep_moves step.2).clear before step.1) first
  constructor
  · exact fun _ => clear.agrees
  · intro reply index' left
    cases maskStep_moves left with
    | restore reply restores busy cell =>
      have iff := clear.sound.restore_sound_iff busy
      rw [← cell] at iff
      have saved : index'.cell.saved = none := by rw [cell, Cell.restore_saved]
      have ended : index'.output = none := by simpa [MaskPort.cell] using saved
      calc index'.Agrees
          ↔ index'.cell.value = index'.cell.last := by simp [MaskPort.Agrees, ended, MaskPort.cell]
        _ ↔ index'.cell.Sound := (Cell.sound_iff saved).symm
        _ ↔ index.last = index.since := iff
        _ ↔ KeepsMask index (.leave reply) := by simp [KeepsMask, restores]
    | release reply stays cell =>
      have after : index'.cell.Clear := by
        rw [cell]
        exact clear.release
      have agrees : index'.Agrees := fun _ => after.agrees
      simp [agrees, KeepsMask, stays]

theorem mask_kept_over_a_drain :
    let start : MaskPort := ⟨0, 0, false, none, none, 0, 0⟩
    let carrier : EventType → Bool := fun event => event = .cd
    let drained : OutputReply := ⟨.finished 3, true, 0, true, true⟩
    ∃ index, Path (Guarded KeepsMask (Takes maskStep)) start
        [.setflags carrier true, .enter .tcdrain, .leave drained] index ∧
      index.Agrees ∧ index.eventFlag = 0x020 := by
  intro start carrier drained
  have set : maskStep (.setflags carrier true) start =
      some ⟨0x020, 0x020, false, none, none, 0x020, 0⟩ := by decide
  obtain ⟨index, path, flag⟩ : ∃ index, Path (Guarded KeepsMask (Takes maskStep)) start
      [.setflags carrier true, .enter .tcdrain, .leave drained] index ∧
      index.eventFlag = 0x020 :=
    ⟨_, .cons ⟨trivial, set⟩ (.cons ⟨trivial, rfl⟩ (.cons ⟨fun _ => rfl, rfl⟩ (.nil _))), rfl⟩
  exact ⟨index, path, (mask_kept rfl (fun _ => rfl) path).1, flag⟩

theorem mask_lost_to_a_write :
    let start : MaskPort := ⟨0, 0, false, none, none, 0, 0⟩
    let carrier : EventType → Bool := fun event => event = .cd
    let written : OutputReply := ⟨.finished 3, true, 0, true, true⟩
    ∃ index, start.Agrees ∧ Path (Takes maskStep) start
        [.enter .serialWrite, .setflags carrier true, .leave written] index ∧
      index.output = none ∧ index.eventFlag = 0 ∧ index.last = 0x020 ∧ ¬ index.Agrees := by
  intro start carrier written
  have set : maskStep (.setflags carrier true) ⟨0, 0, false, some (.serialWrite, 0), none, 0, 0⟩ =
      some ⟨0x020, 0x020, false, some (.serialWrite, 0), none, 0x020, 0⟩ := by decide
  refine ⟨_, fun _ => rfl, .cons rfl (.cons set (.cons rfl (.nil _))), rfl, rfl, rfl, ?_⟩
  have lost : ¬ 0#32 = 0x020#32 := by decide
  exact fun agrees => lost (agrees rfl)

end Rxtx.Win32
