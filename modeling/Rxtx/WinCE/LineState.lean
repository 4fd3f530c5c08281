import Rxtx.WinCE.EventFlags

open Runs
open Rxtx.RXTXPort (EventType)

namespace Rxtx.WinCE

inductive Line where
  | cts
  | dsr
  | cd
  | ri
  deriving DecidableEq, Repr

def Line.msOn : Line → BitVec 32
  | .cts => 0x0010
  | .dsr => 0x0020
  | .cd => 0x0080
  | .ri => 0x0040

def Line.event : Line → EventType
  | .cts => .cts
  | .dsr => .dsr
  | .cd => .cd
  | .ri => .ri

/-- The four getters; `none` where `GetCommModemStatus` fails. -/
def isOn (line : Line) (modemStat : Option (BitVec 32)) : Bool :=
  match modemStat with
  | none => false
  | some modemStat => if modemStat ||| line.msOn ≠ 0 then true else false

def isCTS : Option (BitVec 32) → Bool := isOn .cts
def isDSR : Option (BitVec 32) → Bool := isOn .dsr
def isCD : Option (BitVec 32) → Bool := isOn .cd
def isRI : Option (BitVec 32) → Bool := isOn .ri

def Line.getter : Line → Option (BitVec 32) → Bool
  | .cts => isCTS
  | .dsr => isDSR
  | .cd => isCD
  | .ri => isRI

structure ComStat where
  fCtsHold : Bool
  fDsrHold : Bool
  fRlsdHold : Bool
  deriving DecidableEq, Repr

def ceOverrun : BitVec 32 := 0x0002
def ceRxparity : BitVec 32 := 0x0004
def ceFrame : BitVec 32 := 0x0008

def errorHas (dwErrors : BitVec 32) : EventType → Bool
  | .oe => dwErrors &&& ceOverrun ≠ 0
  | .pe => dwErrors &&& ceRxparity ≠ 0
  | .fe => dwErrors &&& ceFrame ≠ 0
  | _ => true

def asked (dwEvent dwErrors : BitVec 32) (event : EventType) : Bool :=
  dwEvent &&& newFlag event ≠ 0 && errorHas dwErrors event

/-- The state that an event is sent with: `Stat.fCtsHold?JNI_TRUE:JNI_TRUE` and its like. -/
def eventState (stat : ComStat) : EventType → Bool
  | .cts => if stat.fCtsHold then true else true
  | .dsr => if stat.fDsrHold then true else true
  | .cd => if stat.fRlsdHold then true else true
  | _ => true

def eventNumber : EventType → Int
  | .dataAvailable => 1
  | .outputBufferEmpty => 2
  | .cts => 3
  | .dsr => 4
  | .ri => 5
  | .cd => 6
  | .oe => 7
  | .pe => 8
  | .fe => 9
  | .bi => 10

/-- Each event that is due is sent, up to the first that Java's `sendEvent` returns true for. -/
def sendFrom (due : EventType → Bool) (stat : ComStat) (reply : EventType → Bool) :
    List EventType → Int × List (EventType × Bool)
  | [] => (0, [])
  | event :: rest =>
    if due event then
      if reply event then (eventNumber event, [(event, eventState stat event)])
      else
        let (result, sent) := sendFrom due stat reply rest
        (result, (event, eventState stat event) :: sent)
    else sendFrom due stat reply rest

/-- `SendEvents` and what it has sent; `none` where `ClearCommError` fails. -/
def sendEvents (dwEvent : BitVec 32) (comm : Option (BitVec 32 × ComStat))
    (reply : EventType → Bool) (eis : EventInfoStruct) : Int × List (EventType × Bool) :=
  match comm with
  | none => (-1, [])
  | some (dwErrors, stat) =>
    sendFrom (asked (dwEvent &&& eis.ef) dwErrors) stat reply Win32.events

/-- `modemStatus` is the state of the lines in the bits of `GetCommModemStatus`. -/
structure LinePort where
  port : EventPort
  modemStatus : BitVec 32
  deriving DecidableEq, Repr

inductive LineCall where
  | transition (modemStatus : BitVec 32)
  | setEventFlag (event : EventType) (flag accepted : Bool)
  | getter (line : Line) (answers : Bool)
  | sendEvents (dwEvent : BitVec 32) (comm : Option (BitVec 32 × ComStat))
      (reply : EventType → Bool)

inductive LineResult where
  | none
  | read (on : Bool)
  | sent (result : Int) (events : List (EventType × Bool))

def lineCall : LineCall → LinePort → LineResult × LinePort
  | .transition modemStatus, s => (.none, { s with modemStatus })
  | .setEventFlag event flag accepted, s =>
    (.none, { s with port := nativeSetEventFlag event flag accepted s.port })
  | .getter line answers, s =>
    (.read (line.getter (if answers then some s.modemStatus else none)), s)
  | .sendEvents dwEvent comm reply, s =>
    let (result, events) := sendEvents dwEvent comm reply s.port.eis
    (.sent result events, s)

def LinePort.asserted (s : LinePort) (line : Line) : Prop := s.modemStatus &&& line.msOn ≠ 0

instance (s : LinePort) (line : Line) : Decidable (s.asserted line) :=
  inferInstanceAs (Decidable (_ ≠ _))

def stateLines : List Line := [.cts, .dsr, .cd]

/-- What a call reports of a line is true exactly where the line is asserted. -/
def Truthful (s : LinePort) (c : LineCall) : Prop :=
  match c, (lineCall c s).1 with
  | .getter line answers, .read on => answers = true → (on = true ↔ s.asserted line)
  | .sendEvents _ _ _, .sent _ events =>
    ∀ line ∈ stateLines, ∀ state, (line.event, state) ∈ events → (state = true ↔ s.asserted line)
  | _, _ => True

def earlier (event : EventType) : List EventType := Win32.events.takeWhile fun e => e ≠ event

/-- The event is due, and Java stops at none that comes before it. -/
def Reaches (due reply : EventType → Bool) (event : EventType) : Prop :=
  due event = true ∧ ∀ e ∈ earlier event, due e = true → reply e = false

/-- A getter whose status call answers is asked, and an event of CTS, DSR or CD reached, only while
    the line is asserted. -/
def Asserted (s : LinePort) : LineCall → Prop
  | .getter line answers => answers = true → s.asserted line
  | .sendEvents dwEvent (some (dwErrors, _)) reply =>
    ∀ line ∈ stateLines, Reaches (asked (dwEvent &&& s.port.eis.ef) dwErrors) reply line.event →
      s.asserted line
  | _ => True

theorem getter_some (line : Line) (modemStat : BitVec 32) :
    line.getter (some modemStat) = true := by
  have set : modemStat ||| line.msOn ≠ 0 := by
    apply FlagWord.ne_of_and line.msOn
    rw [FlagWord.set_and_same]
    cases line <;> decide
  have on : isOn line (some modemStat) = true := by simp only [isOn, if_pos set]
  cases line <;> exact on

theorem eventState_true (stat : ComStat) (event : EventType) : eventState stat event = true := by
  cases event <;> simp [eventState]

theorem mem_sendFrom {due reply : EventType → Bool} {stat : ComStat} {events : List EventType}
    (distinct : events.Nodup) {event : EventType} {state : Bool} :
    (event, state) ∈ (sendFrom due stat reply events).2 ↔
      state = true ∧ event ∈ events ∧ due event = true ∧
        ∀ e ∈ events.takeWhile (fun e => e ≠ event), due e = true → reply e = false := by
  induction events with
  | nil => simp [sendFrom]
  | cons first rest ih =>
    obtain ⟨notLater, restDistinct⟩ := List.nodup_cons.mp distinct
    have later := ih restDistinct
    by_cases same : first = event
    · subst same
      have notSent : (first, state) ∉ (sendFrom due stat reply rest).2 :=
        fun sent => notLater (later.mp sent).2.1
      by_cases isDue : due first = true
      · cases stops : reply first <;>
          simp [sendFrom, isDue, stops, eventState_true, notSent]
      · simp [sendFrom, isDue, notSent]
    · have other : event ≠ first := fun equal => same equal.symm
      by_cases isDue : due first = true
      · cases stops : reply first with
        | true => simp [sendFrom, isDue, stops, same, other]
        | false => simp [sendFrom, isDue, stops, same, other, later]
      · simp [sendFrom, isDue, same, other, later]

theorem mem_sendEvents {dwEvent dwErrors : BitVec 32} {stat : ComStat} {reply : EventType → Bool}
    {eis : EventInfoStruct} {event : EventType} {state : Bool} :
    (event, state) ∈ (sendEvents dwEvent (some (dwErrors, stat)) reply eis).2 ↔
      state = true ∧ Reaches (asked (dwEvent &&& eis.ef) dwErrors) reply event := by
  rw [sendEvents, mem_sendFrom (by decide)]
  simp [Reaches, earlier, mem_events]

theorem truthful_iff (s : LinePort) (c : LineCall) : Truthful s c ↔ Asserted s c := by
  cases c with
  | transition modemStatus => exact Iff.rfl
  | setEventFlag event flag accepted => exact Iff.rfl
  | getter line answers =>
    cases answers with
    | false => simp [Truthful, lineCall, Asserted]
    | true => simp [Truthful, lineCall, Asserted, getter_some]
  | sendEvents dwEvent comm reply =>
    cases comm with
    | none => simp [Truthful, lineCall, Asserted, sendEvents]
    | some answer =>
      rcases answer with ⟨dwErrors, stat⟩
      simp only [Truthful, lineCall, Asserted, mem_sendEvents]
      constructor
      · intro truthful line member reaches
        exact (truthful line member true ⟨rfl, reaches⟩).mp rfl
      · intro asserted line member state sent
        exact iff_of_true sent.1 (asserted line member sent.2)

/-- In every run the getters and the events report truthfully exactly where none of them reports a
    line that is not asserted. -/
theorem line_state_truthful_iff (s : LinePort) (calls : List LineCall) :
    EachMeets lineCall Truthful calls s ↔ EachMeets lineCall Asserted calls s :=
  eachMeets_congr truthful_iff calls s

/-- With no line asserted `isCTS` is true, and so is the state of the event of CTS. -/
theorem line_state_not_truthful :
    ¬ (∀ (s : LinePort) (line : Line), EachMeets lineCall Truthful [.getter line true] s) ∧
      ¬ ∀ (s : LinePort) (dwEvent : BitVec 32) (comm : Option (BitVec 32 × ComStat))
        (reply : EventType → Bool),
        EachMeets lineCall Truthful [.sendEvents dwEvent comm reply] s := by
  constructor
  · intro truthful
    have getter := truthful ⟨⟨initialiseEventInfoStruct, 0⟩, 0⟩ .cts
    have asserted := (truthful_iff _ _).mp getter.1 rfl
    exact absurd asserted (by decide)
  · intro truthful
    have event := truthful ⟨⟨⟨evCts, 0, true⟩, evCts⟩, 0⟩ evCts
      (some (0, ⟨true, false, false⟩)) (fun _ => false)
    have asserted := (truthful_iff _ _).mp event.1 .cts (by decide) ⟨by decide, by decide⟩
    exact absurd asserted (by decide)

end Rxtx.WinCE
