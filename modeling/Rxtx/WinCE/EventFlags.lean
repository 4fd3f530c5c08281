import Rxtx.Library.Runs
import Rxtx.Win32.EventMask

open FlagWord Runs
open Rxtx.RXTXPort (EventType)

namespace Rxtx.WinCE

def evRxchar : BitVec 32 := 0x0001
def evTxempty : BitVec 32 := 0x0004
def evCts : BitVec 32 := 0x0008
def evDsr : BitVec 32 := 0x0010
def evRlsd : BitVec 32 := 0x0020
def evBreak : BitVec 32 := 0x0040
def evErr : BitVec 32 := 0x0080
def evRing : BitVec 32 := 0x0100
def evPower : BitVec 32 := 0x2000

structure EventInfoStruct where
  ef : BitVec 32
  event : BitVec 32
  eventThreadReady : Bool
  deriving DecidableEq, Repr

/-- `commMask` is the mask that the driver was given last. -/
structure EventPort where
  eis : EventInfoStruct
  commMask : BitVec 32
  deriving DecidableEq, Repr

def initialiseEventInfoStruct : EventInfoStruct := ⟨evPower, 0, false⟩

def newFlag : EventType → BitVec 32
  | .dataAvailable => evRxchar
  | .outputBufferEmpty => evTxempty
  | .cts => evCts
  | .dsr => evDsr
  | .ri => evRing
  | .cd => evRlsd
  | .oe | .pe | .fe => evErr
  | .bi => evBreak

def setCommMask (accepted : Bool) (port : EventPort) : EventPort :=
  if accepted then { port with commMask := port.eis.ef } else port

def nativeSetEventFlag (event : EventType) (flag accepted : Bool) (port : EventPort) : EventPort :=
  let ef := if flag then port.eis.ef ||| newFlag event else port.eis.ef &&& ~~~newFlag event
  setCommMask accepted { port with eis := { port.eis with ef } }

structure FlagCall where
  event : EventType
  flag : Bool
  accepted : Bool
  deriving DecidableEq, Repr

/-- The flag that each event was given last is kept beside the port. -/
structure Subscription where
  port : EventPort
  flags : EventType → Bool

def flagCall (c : FlagCall) (s : Subscription) : Unit × Subscription :=
  ((), ⟨nativeSetEventFlag c.event c.flag c.accepted s.port,
    Function.update s.flags c.event c.flag⟩)

def Subscription.initial (commMask : BitVec 32) : Subscription :=
  ⟨⟨initialiseEventInfoStruct, commMask⟩, fun _ => false⟩

/-- Apart from `EV_POWER` and the trailing edge of ring, the mask is what `termios_setflags`
    computes from the flags. -/
def Subscription.Agrees (s : Subscription) : Prop :=
  clear s.port.eis.ef evPower = clear (Win32.eventMask s.flags) Win32.trailingRing

def errorEvents : List EventType := [.oe, .pe, .fe]

/-- An error event is disabled only when no other is enabled. -/
def AloneInError (s : Subscription) (c : FlagCall) : Prop :=
  c.flag = true ∨ c.event ∉ errorEvents ∨
    ∀ other ∈ errorEvents, other ≠ c.event → s.flags other = false

instance (s : Subscription) (c : FlagCall) : Decidable (AloneInError s c) :=
  inferInstanceAs (Decidable (_ ∨ _ ∨ _))

theorem mem_events (event : EventType) : event ∈ Win32.events := by
  cases event <;> decide

theorem windowsFlags_clear (event : EventType) :
    clear (Win32.windowsFlags event) Win32.trailingRing = newFlag event := by
  cases event <;> decide

theorem eventMask_clear (flags : EventType → Bool) :
    clear (Win32.eventMask flags) Win32.trailingRing = union Win32.events newFlag flags := by
  have masks : (fun event => clear (Win32.windowsFlags event) Win32.trailingRing) = newFlag := by
    funext event
    exact windowsFlags_clear event
  show clear (union Win32.events Win32.windowsFlags flags) Win32.trailingRing = _
  rw [clear_union, masks]

theorem newFlag_apart_iff {event other : EventType} (different : other ≠ event) :
    Apart (newFlag other) (newFlag event) ↔ event ∉ errorEvents ∨ other ∉ errorEvents := by
  cases event <;> cases other <;> first | exact absurd rfl different | decide

theorem newFlag_power (event : EventType) : Apart (newFlag event) evPower := by
  cases event <;> decide

theorem clear_assign {word mask other : BitVec 32} (apart : Apart mask other) (on : Bool) :
    clear (assign word mask on) other = assign (clear word other) mask on := by
  cases on
  · show clear (clear word mask) other = clear (clear word other) mask
    rw [clear_clear, clear_clear, BitVec.or_comm]
  · show clear (word ||| mask) other = clear word other ||| mask
    rw [clear_or, clear_of_and apart]

theorem nativeSetEventFlag_ef (event : EventType) (flag accepted : Bool) (port : EventPort) :
    (nativeSetEventFlag event flag accepted port).eis.ef =
      assign port.eis.ef (newFlag event) flag := by
  cases accepted <;> rfl

theorem flagCall_agrees_iff (c : FlagCall) (s : Subscription) (agrees : s.Agrees) :
    (flagCall c s).2.Agrees ↔ AloneInError s c := by
  have before : clear s.port.eis.ef evPower = union Win32.events newFlag s.flags :=
    agrees.trans (eventMask_clear s.flags)
  have after : (flagCall c s).2.Agrees ↔
      assign (union Win32.events newFlag s.flags) (newFlag c.event) c.flag =
        union Win32.events newFlag (Function.update s.flags c.event c.flag) := by
    unfold Subscription.Agrees
    rw [eventMask_clear, show (flagCall c s).2.port.eis.ef = _ from
      nativeSetEventFlag_ef c.event c.flag c.accepted s.port,
      clear_assign (newFlag_power c.event), before]
    rfl
  rw [after, assign_union_iff (mem_events c.event)]
  apply or_congr Iff.rfl
  constructor
  · intro apart
    by_cases error : c.event ∈ errorEvents
    · refine .inr fun other member different => ?_
      by_contra on
      have enabled : s.flags other = true := by simpa using on
      have masks := apart other (mem_events other) different enabled
      rcases (newFlag_apart_iff different).mp masks with noError | noError
      · exact noError error
      · exact noError member
    · exact .inl error
  · intro alone other _ different enabled
    rw [newFlag_apart_iff different]
    rcases alone with noError | alone
    · exact .inl noError
    · refine .inr fun member => ?_
      rw [alone other member different] at enabled
      cases enabled

theorem initial_agrees (commMask : BitVec 32) : (Subscription.initial commMask).Agrees := by
  show clear evPower evPower = clear (Win32.eventMask fun _ => false) Win32.trailingRing
  decide

/-- The mask is the union of the enabled events after every call exactly where no error event is
    disabled while another is enabled. -/
theorem flags_agree_iff (commMask : BitVec 32) (calls : List FlagCall) :
    Throughout flagCall Subscription.Agrees calls (.initial commMask) ↔
      EachMeets flagCall AloneInError calls (.initial commMask) :=
  throughout_iff flagCall_agrees_iff (initial_agrees commMask)

/-- Overruns and parity errors are enabled, then parity errors disabled: overruns are lost too. -/
theorem flags_disagree :
    ¬ ∀ (commMask : BitVec 32) (calls : List FlagCall),
      Throughout flagCall Subscription.Agrees calls (.initial commMask) := by
  intro agree
  have throughout := agree 0 [⟨.oe, true, true⟩, ⟨.pe, true, true⟩, ⟨.pe, false, true⟩]
  have last : ((flagCall ⟨.pe, false, true⟩ (flagCall ⟨.pe, true, true⟩
      (flagCall ⟨.oe, true, true⟩ (.initial 0)).2).2).2).Agrees := throughout.2.2.2
  exact absurd last (by unfold Subscription.Agrees; decide)

end Rxtx.WinCE
