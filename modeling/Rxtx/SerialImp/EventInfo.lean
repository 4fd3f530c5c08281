import Rxtx.Library.FlagWord
import Rxtx.RXTXPort.Fields

open FlagWord Rxtx.RXTXPort

namespace Rxtx.SerialImp

structure Icounter where
  cts : BitVec 32
  dsr : BitVec 32
  rng : BitVec 32
  dcd : BitVec 32
  rx : BitVec 32
  tx : BitVec 32
  frame : BitVec 32
  overrun : BitVec 32
  parity : BitVec 32
  brk : BitVec 32
  bufOverrun : BitVec 32
  deriving DecidableEq, Repr

def Icounter.zero : Icounter := ⟨0, 0, 0, 0, 0, 0, 0, 0, 0, 0, 0⟩

/-- The calls of `send_event` and what Java's `sendEvent` was handed are kept beside the fields. -/
structure EventInfo where
  fd : Int32
  eventflags : EventType → Bool
  initialised : Bool
  ret : Int32
  change : BitVec 32
  omflags : BitVec 32
  hasTiocsergetlsr : Bool
  hasTiocgicount : Bool
  eventloopInterrupted : Int
  jclazz : Bool
  closing : Bool
  writing : Bool
  outputBufferEmptyFlag : Bool
  osis : Icounter
  calls : List (EventType × BitVec 32)
  delivered : List (EventType × Bool)

def sendEvent (type : EventType) (flag : BitVec 32) (eis : EventInfo) : EventInfo :=
  let eis := { eis with calls := eis.calls ++ [(type, flag)] }
  if 1 < eis.eventloopInterrupted then eis
  else if eis.jclazz = false then eis
  else { eis with delivered := eis.delivered ++ [(type, decide (0 < flag.toInt))] }

def EventInfo.callsOf (eis : EventInfo) (type : EventType) : Nat :=
  (eis.calls.map Prod.fst).count type

def EventInfo.deliveredOf (eis : EventInfo) (type : EventType) : List Bool :=
  (eis.delivered.filter fun event => event.1 = type).map Prod.snd

structure Opening where
  fd : Int32
  tiocsergetlsr : Bool
  icount : Option Icounter
  tiocmget : Option (BitVec 32)
  methodFound : Bool

def hasLineStatusRegisterAccess (tiocsergetlsr : Bool) (opening : Opening) : Bool :=
  tiocsergetlsr && opening.tiocsergetlsr

def driverHasTiocgicount (opening : Opening) (eis : EventInfo) : Bool × EventInfo :=
  match opening.icount with
  | none => (false, eis)
  | some osis => (true, { eis with osis := osis })

def eventLoopEntry (stack : EventInfo) : EventInfo :=
  { stack with jclazz := true, initialised := false, calls := [], delivered := [] }

def initialiseEventInfoStruct (tiocsergetlsr : Bool) (opening : Opening) (eis : EventInfo) :
    Option EventInfo :=
  if eis.initialised then some eis
  else
    let eis := { eis with osis := .zero, eventflags := fun _ => false }
    let eis :=
      if tiocsergetlsr then eis else { eis with outputBufferEmptyFlag := false, writing := false }
    let eis := { eis with eventloopInterrupted := 0, closing := false, fd := opening.fd }
    let eis :=
      { eis with hasTiocsergetlsr := hasLineStatusRegisterAccess tiocsergetlsr opening }
    let (has, eis) := driverHasTiocgicount opening eis
    let eis := { eis with hasTiocgicount := has }
    let eis :=
      match opening.tiocmget with
      | none => eis
      | some omflags => { eis with omflags := omflags }
    if opening.methodFound then some { eis with initialised := true } else none

def nativeSetEventFlag (event : EventType) (flag : Bool) (eis : EventInfo) : EventInfo :=
  { eis with eventflags := Function.update eis.eventflags event flag }

/-- Without `TIOCSERGETLSR` it is the end of `drain_loop`, or this after it, that sets `closing`. -/
def interruptStruct (eis : EventInfo) : EventInfo :=
  { eis with eventloopInterrupted := 1, closing := true }

section

variable (type : EventType) (flag : BitVec 32) (eis : EventInfo)

theorem sendEvent_eq : ∃ delivered, sendEvent type flag eis =
    { eis with calls := eis.calls ++ [(type, flag)], delivered := delivered } := by
  unfold sendEvent
  simp only []
  split_ifs
  · exact ⟨eis.delivered, rfl⟩
  · exact ⟨eis.delivered, rfl⟩
  · exact ⟨_, rfl⟩

@[simp] theorem sendEvent_osis : (sendEvent type flag eis).osis = eis.osis := by
  obtain ⟨_, sent⟩ := sendEvent_eq type flag eis
  rw [sent]

@[simp] theorem sendEvent_omflags : (sendEvent type flag eis).omflags = eis.omflags := by
  obtain ⟨_, sent⟩ := sendEvent_eq type flag eis
  rw [sent]

@[simp] theorem sendEvent_hasTiocgicount :
    (sendEvent type flag eis).hasTiocgicount = eis.hasTiocgicount := by
  obtain ⟨_, sent⟩ := sendEvent_eq type flag eis
  rw [sent]

theorem sendEvent_callsOf (other : EventType) :
    (sendEvent type flag eis).callsOf other =
      eis.callsOf other + if other = type then 1 else 0 := by
  obtain ⟨_, sent⟩ := sendEvent_eq type flag eis
  rw [sent]
  simp only [EventInfo.callsOf, List.map_append, List.count_append, List.map_cons, List.map_nil,
    List.count_singleton]
  by_cases same : type = other
  · simp [same]
  · have differ : other ≠ type := fun eq => same eq.symm
    simp [same, differ]

end

/-- Nothing sets `eventloop_interrupted` above one, and the class is there from the start. -/
def EventInfo.Listening (eis : EventInfo) : Prop :=
  eis.eventloopInterrupted ≤ 1 ∧ eis.jclazz = true

theorem sendEvent_listening (type : EventType) (flag : BitVec 32) {eis : EventInfo}
    (listening : eis.Listening) : sendEvent type flag eis =
      { eis with
        calls := eis.calls ++ [(type, flag)]
        delivered := eis.delivered ++ [(type, decide (0 < flag.toInt))] } := by
  have low : ¬ 1 < eis.eventloopInterrupted := by
    have bound := listening.1
    omega
  have present : ¬ eis.jclazz = false := by simp [listening.2]
  simp [sendEvent, low, present]

def Grows {β : Type} (types : List EventType) (before after : List (EventType × β)) : Prop :=
  ∃ more, after = before ++ more ∧ ∀ event ∈ more, event.1 ∈ types

section

variable {β : Type} {few many : List EventType} {before middle after : List (EventType × β)}

theorem Grows.refl (types : List EventType) (record : List (EventType × β)) :
    Grows types record record := ⟨[], by simp, by simp⟩

theorem Grows.trans (first : Grows few before middle) (second : Grows few middle after) :
    Grows few before after := by
  rcases first with ⟨early, rfl, earlyTypes⟩
  rcases second with ⟨late, rfl, lateTypes⟩
  exact ⟨early ++ late, by simp, List.forall_mem_append.mpr ⟨earlyTypes, lateTypes⟩⟩

theorem Grows.mono (grows : Grows few before after) (more : few ⊆ many) :
    Grows many before after := by
  rcases grows with ⟨events, same, types⟩
  exact ⟨events, same, fun event member => more (types event member)⟩

theorem Grows.filter_eq (grows : Grows few before after) {wanted : EventType → Bool}
    (away : ∀ type ∈ few, wanted type = false) :
    after.filter (fun event => wanted event.1) = before.filter fun event => wanted event.1 := by
  rcases grows with ⟨events, rfl, types⟩
  have none : events.filter (fun event => wanted event.1) = [] := by
    apply List.filter_eq_nil_iff.mpr
    intro event member
    simp [away event.1 (types event member)]
  rw [List.filter_append, none, List.append_nil]

end

structure SendsOnly (types : List EventType) (eis eis' : EventInfo) : Prop where
  initialised : eis'.initialised = eis.initialised
  counting : eis'.hasTiocgicount = eis.hasTiocgicount
  listening : eis.Listening → eis'.Listening
  calls : Grows types eis.calls eis'.calls
  delivered : Grows types eis.delivered eis'.delivered

theorem SendsOnly.refl (types : List EventType) (eis : EventInfo) : SendsOnly types eis eis :=
  ⟨rfl, rfl, id, .refl _ _, .refl _ _⟩

theorem SendsOnly.trans {types : List EventType} {eis middle eis' : EventInfo}
    (first : SendsOnly types eis middle) (second : SendsOnly types middle eis') :
    SendsOnly types eis eis' where
  initialised := second.initialised.trans first.initialised
  counting := second.counting.trans first.counting
  listening := fun listening => second.listening (first.listening listening)
  calls := first.calls.trans second.calls
  delivered := first.delivered.trans second.delivered

theorem SendsOnly.mono {few many : List EventType} {eis eis' : EventInfo}
    (sends : SendsOnly few eis eis') (more : few ⊆ many) : SendsOnly many eis eis' where
  initialised := sends.initialised
  counting := sends.counting
  listening := sends.listening
  calls := sends.calls.mono more
  delivered := sends.delivered.mono more

theorem SendsOnly.callsOf {types : List EventType} {eis eis' : EventInfo}
    (sends : SendsOnly types eis eis') {type : EventType} (away : type ∉ types) :
    eis'.callsOf type = eis.callsOf type := by
  rcases sends.calls with ⟨more, same, of⟩
  have none : (more.map Prod.fst).count type = 0 := by
    apply List.count_eq_zero.mpr
    intro member
    obtain ⟨call, called, rfl⟩ := List.mem_map.mp member
    exact away (of call called)
  rw [EventInfo.callsOf, same, List.map_append, List.count_append, none, Nat.add_zero]
  rfl

theorem sendEvent_sendsOnly (type : EventType) (flag : BitVec 32) (eis : EventInfo) :
    SendsOnly [type] eis (sendEvent type flag eis) where
  initialised := by
    obtain ⟨_, sent⟩ := sendEvent_eq type flag eis
    rw [sent]
  counting := by simp
  listening := by
    intro listening
    rw [sendEvent_listening type flag listening]
    exact listening
  calls := by
    obtain ⟨_, sent⟩ := sendEvent_eq type flag eis
    rw [sent]
    exact ⟨[(type, flag)], rfl, by simp⟩
  delivered := by
    unfold sendEvent
    simp only []
    split_ifs
    · exact .refl _ _
    · exact .refl _ _
    · exact ⟨_, rfl, by simp⟩

end Rxtx.SerialImp
