import Mathlib.Data.Fin.Basic
import Rxtx.Library.FlagWord
import Rxtx.SerialImp.StaticQueries

open FlagWord Runs

namespace Rxtx.SerialImp

inductive LineSetter where
  | setDTR
  | setRTS
  | setDSR
  deriving DecidableEq, Repr

def LineSetter.mask : LineSetter → BitVec 32
  | .setDTR => tiocmDtr
  | .setRTS => tiocmRts
  | .setDSR => tiocmDsr

inductive LineGetter where
  | isDTR
  | isRTS
  | isCTS
  | isDSR
  | isCD
  | isRI
  deriving DecidableEq, Repr

def LineGetter.mask : LineGetter → BitVec 32
  | .isDTR => tiocmDtr
  | .isRTS => tiocmRts
  | .isCTS => tiocmCts
  | .isDSR => tiocmDsr
  | .isCD => tiocmCd
  | .isRI => tiocmRi

/-- What is in `result` after the `ioctl`, which sets nothing where it fails. -/
def tiocmgetResult (level : BitVec 32) (succeeds : Bool) : BitVec 32 := if succeeds then level else 0

def LineGetter.get (getter : LineGetter) (result : BitVec 32) : Bool := result &&& getter.mask ≠ 0

structure SetterCall where
  setter : LineSetter
  state : Bool
  result : BitVec 32
  deriving DecidableEq, Repr

def SetterCall.word (call : SetterCall) : BitVec 32 :=
  assign call.result call.setter.mask call.state

/-- `asked` has the lines as the setters want them whose `TIOCMSET` has succeeded. -/
structure ModemThreads (T : Type) where
  level : BitVec 32
  calls : T → Option SetterCall
  asked : BitVec 32

inductive ModemEvent (T : Type) where
  | tiocmget (thread : T) (setter : LineSetter) (state succeeds : Bool)
  | tiocmset (thread : T) (succeeds : Bool)
  | getter (getter : LineGetter) (succeeds : Bool)
  | inputs (level : BitVec 32)

section

variable {T : Type} [DecidableEq T]

/-- The driver puts the lines `outputs` as `TIOCMSET` says and leaves the others to the cable. -/
def modemEvent (outputs : BitVec 32) : ModemEvent T → ModemThreads T → Option Bool × ModemThreads T
  | .tiocmget thread setter state succeeds, s =>
    match s.calls thread with
    | some _ => (none, s)
    | none =>
      let call := ⟨setter, state, tiocmgetResult s.level succeeds⟩
      (none, { s with calls := Function.update s.calls thread (some call) })
  | .tiocmset thread succeeds, s =>
    match s.calls thread with
    | none => (none, s)
    | some call =>
      let s := { s with calls := Function.update s.calls thread none }
      if succeeds then
        (none, { s with
          level := clear s.level outputs ||| (call.word &&& outputs)
          asked := assign s.asked call.setter.mask call.state })
      else (none, s)
  | .getter getter succeeds, s => (some (getter.get (tiocmgetResult s.level succeeds)), s)
  | .inputs level, s => (none, { s with level := clear level outputs ||| (s.level &&& outputs) })

end

variable {T : Type}

def ModemThreads.AsAsked (outputs : BitVec 32) (s : ModemThreads T) : Prop :=
  s.level &&& outputs = s.asked &&& outputs

/-- A call has seen the other lines as they are. -/
def SetterCall.Current (outputs : BitVec 32) (level : BitVec 32) (call : SetterCall) : Prop :=
  call.result &&& clear outputs call.setter.mask = level &&& clear outputs call.setter.mask

def PutsBack (outputs : BitVec 32) (s : ModemThreads T) : ModemEvent T → Prop
  | .tiocmset thread true => ∀ call, s.calls thread = some call → call.Current outputs s.level
  | _ => True

/-- Only one thread at a time is in a setter, and its `TIOCMGET` does not fail. -/
def Alone (s : ModemThreads T) : ModemEvent T → Prop
  | .tiocmget _ _ _ succeeds => succeeds = true ∧ ∀ thread, s.calls thread = none
  | _ => True

theorem driven_and (outputs level word : BitVec 32) :
    (clear level outputs ||| (word &&& outputs)) &&& outputs = word &&& outputs := by
  apply put_and_same
  rw [Within, BitVec.and_assoc, BitVec.and_self]

variable {outputs : BitVec 32} {s : ModemThreads T}

def ModemThreads.Lone (outputs : BitVec 32) (s : ModemThreads T) : Prop :=
  ∀ thread call, s.calls thread = some call →
    (∀ other, other ≠ thread → s.calls other = none) ∧ call.Current outputs s.level

theorem putsBack_of_lone {event : ModemEvent T} (lone : s.Lone outputs) :
    PutsBack outputs s event := by
  cases event with
  | tiocmset thread succeeds =>
    cases succeeds with
    | false => trivial
    | true =>
      intro call called
      exact (lone thread call called).2
  | _ => trivial

variable [DecidableEq T]

theorem modemEvent_asAsked_iff (event : ModemEvent T) (s : ModemThreads T)
    (asAsked : s.AsAsked outputs) :
    (modemEvent outputs event s).2.AsAsked outputs ↔ PutsBack outputs s event := by
  cases event with
  | tiocmget thread setter state succeeds =>
    apply iff_of_true _ trivial
    rw [modemEvent]
    cases s.calls thread <;> exact asAsked
  | getter getter succeeds => exact iff_of_true asAsked trivial
  | inputs level =>
    apply iff_of_true _ trivial
    have kept := driven_and outputs level s.level
    exact kept.trans asAsked
  | tiocmset thread succeeds =>
    cases called : s.calls thread with
    | none =>
      apply iff_of_true
      · simpa only [modemEvent, called] using asAsked
      · cases succeeds
        · trivial
        · intro call here
          rw [called] at here
          cases here
    | some call =>
      cases succeeds with
      | false =>
        apply iff_of_true _ trivial
        simp only [modemEvent, called, if_false, Bool.false_eq_true]
        exact asAsked
      | true =>
        have put : (modemEvent outputs (.tiocmset thread true) s).2.AsAsked outputs ↔
            assign call.result call.setter.mask call.state &&& outputs =
              assign s.asked call.setter.mask call.state &&& outputs := by
          simp only [modemEvent, called, if_true, ModemThreads.AsAsked, driven_and, SetterCall.word]
        rw [put, assign_and_eq_iff, ← and_clear_of_and call.setter.mask asAsked]
        constructor
        · intro current call' here
          rw [called] at here
          cases here
          exact current
        · intro current
          exact current call called

theorem modemEvent_lone {event : ModemEvent T} (lone : s.Lone outputs) (alone : Alone s event) :
    (modemEvent outputs event s).2.Lone outputs := by
  cases event with
  | getter getter succeeds => exact lone
  | inputs level =>
    intro thread call called
    obtain ⟨others, current⟩ := lone thread call called
    refine ⟨others, ?_⟩
    have kept := and_clear_of_and call.setter.mask (driven_and outputs level s.level)
    exact current.trans kept.symm
  | tiocmget thread setter state succeeds =>
    obtain ⟨succeeds, idle⟩ := alone
    subst succeeds
    simp only [modemEvent, idle thread]
    intro other call called
    have here : Function.update s.calls thread (some ⟨setter, state, s.level⟩) other = some call :=
      called
    by_cases same : other = thread
    · rw [same, Function.update_self] at here
      cases here
      refine ⟨?_, rfl⟩
      intro third differ
      have elsewhere : third ≠ thread := by rwa [same] at differ
      exact (Function.update_of_ne elsewhere _ _).trans (idle third)
    · rw [Function.update_of_ne same, idle other] at here
      cases here
  | tiocmset thread succeeds =>
    cases called : s.calls thread with
    | none => simpa only [modemEvent, called] using lone
    | some call =>
      have none_left : ∀ other, Function.update s.calls thread none other = none := by
        intro other
        by_cases same : other = thread
        · rw [same, Function.update_self]
        · rw [Function.update_of_ne same]
          exact (lone thread call called).1 other same
      have ended : (modemEvent outputs (.tiocmset thread succeeds) s).2.calls =
          Function.update s.calls thread none := by
        simp only [modemEvent, called]
        cases succeeds <;> rfl
      intro other call' here
      rw [ended, none_left other] at here
      cases here

/-- The lines that the driver drives are throughout a run as the setters asked for whose `TIOCMSET`
    succeeded exactly where each such `TIOCMSET` puts the other lines back as they are then, as it
    does where no setter begins before the last one has ended and no `TIOCMGET` fails. -/
theorem lines_as_asked_iff (outputs : BitVec 32) (s : ModemThreads T) (start : s.AsAsked outputs)
    (events : List (ModemEvent T)) :
    (Throughout (modemEvent outputs) (ModemThreads.AsAsked outputs) events s ↔
      EachMeets (modemEvent outputs) (PutsBack outputs) events s) ∧
    ((∀ thread, s.calls thread = none) → EachMeets (modemEvent outputs) Alone events s →
      Throughout (modemEvent outputs) (ModemThreads.AsAsked outputs) events s) := by
  constructor
  · exact throughout_iff modemEvent_asAsked_iff start
  · intro idle alone
    have lone : s.Lone outputs := by
      intro thread call called
      rw [idle thread] at called
      cases called
    refine throughout_of_meets (fun s => s.AsAsked outputs ∧ s.Lone outputs) ?_
      (fun _ kept => kept.1) ⟨start, lone⟩ alone
    intro event s kept alone
    refine ⟨?_, modemEvent_lone kept.2 alone⟩
    exact (modemEvent_asAsked_iff event s kept.1).mpr (putsBack_of_lone kept.2)

def idleLines : ModemThreads Bool := ⟨tiocmDsr ||| tiocmCts, fun _ => none, 0⟩

theorem lines_as_asked_in_turn :
    Throughout (modemEvent (tiocmDtr ||| tiocmRts)) (ModemThreads.AsAsked (tiocmDtr ||| tiocmRts))
      [.tiocmget false .setDTR true true, .tiocmset false true, .inputs tiocmCd,
        .tiocmget true .setRTS true true, .tiocmset true true] idleLines :=
  (lines_as_asked_iff (tiocmDtr ||| tiocmRts) idleLines rfl _).2 (fun _ => rfl)
    ⟨⟨rfl, by decide⟩, trivial, trivial, ⟨rfl, by decide⟩, trivial, trivial⟩

/-- The second of two setters takes back what the first has set in between. -/
example : (specified (modemEvent (tiocmDtr ||| tiocmRts))
    [.tiocmget false .setDTR true true, .tiocmget true .setRTS true true, .tiocmset false true,
      .getter .isDTR true, .tiocmset true true, .getter .isDTR true] idleLines).1 =
    [none, none, none, some true, none, some false] := by decide

/-- No call from now on is about the line, and none sees it otherwise than it is. -/
def LeavesLine (line : BitVec 32) (s : ModemThreads T) : ModemEvent T → Prop
  | .tiocmget _ setter _ succeeds =>
    Apart setter.mask line ∧ tiocmgetResult s.level succeeds &&& line = s.level &&& line
  | _ => True

structure ModemThreads.Settled (line level : BitVec 32) (s : ModemThreads T) : Prop where
  here : s.level &&& line = level
  seen : ∀ thread call, s.calls thread = some call →
    Apart call.setter.mask line ∧ call.result &&& line = level

theorem driven_and_within {outputs line : BitVec 32} (driven : Within line outputs)
    (level word : BitVec 32) :
    (clear level outputs ||| (word &&& outputs)) &&& line = word &&& line := by
  have same := driven_and outputs level word
  rw [and_eq_iff] at same ⊢
  intro i inside
  exact same i (within_iff.mp driven i inside)

theorem ModemThreads.Settled.event {line level : BitVec 32} (driven : Within line outputs)
    {event : ModemEvent T} (settled : s.Settled line level) (leaves : LeavesLine line s event) :
    (modemEvent outputs event s).2.Settled line level := by
  cases event with
  | getter getter succeeds => exact settled
  | inputs word =>
    refine ⟨?_, settled.seen⟩
    exact (driven_and_within driven word s.level).trans settled.here
  | tiocmget thread setter state succeeds =>
    obtain ⟨apart, sees⟩ := leaves
    cases called : s.calls thread with
    | some call => simpa only [modemEvent, called] using settled
    | none =>
      simp only [modemEvent, called]
      refine ⟨settled.here, ?_⟩
      intro other call now
      have here : Function.update s.calls thread
          (some ⟨setter, state, tiocmgetResult s.level succeeds⟩) other = some call := now
      by_cases same : other = thread
      · rw [same, Function.update_self] at here
        cases here
        exact ⟨apart, sees.trans settled.here⟩
      · rw [Function.update_of_ne same] at here
        exact settled.seen other call here
  | tiocmset thread succeeds =>
    cases called : s.calls thread with
    | none => simpa only [modemEvent, called] using settled
    | some call =>
      have others : ∀ other call', Function.update s.calls thread none other = some call' →
          Apart call'.setter.mask line ∧ call'.result &&& line = level := by
        intro other call' now
        by_cases same : other = thread
        · rw [same, Function.update_self] at now
          cases now
        · rw [Function.update_of_ne same] at now
          exact settled.seen other call' now
      cases succeeds with
      | false =>
        simp only [modemEvent, called, if_false, Bool.false_eq_true]
        exact ⟨settled.here, others⟩
      | true =>
        simp only [modemEvent, called, if_true]
        refine ⟨?_, others⟩
        obtain ⟨apart, sees⟩ := settled.seen thread call called
        calc (clear s.level outputs ||| (call.word &&& outputs)) &&& line
            = call.word &&& line := driven_and_within driven s.level call.word
          _ = call.result &&& line := assign_and_apart apart call.result call.state
          _ = level := sees

/-- Once the setters under way are about other lines and have seen this one where it is, it stays
    there for as long as nobody sets it and no `TIOCMGET` of a setter fails while it is up. -/
theorem settled_line_stays {outputs line : BitVec 32} (driven : Within line outputs)
    {s : ModemThreads T} (settled : s.Settled line (s.level &&& line))
    {events : List (ModemEvent T)}
    (leaves : EachMeets (modemEvent outputs) (LeavesLine line) events s) :
    Throughout (modemEvent outputs) (fun s' => s'.level &&& line = s.level &&& line) events s :=
  throughout_of_meets (ModemThreads.Settled line (s.level &&& line))
    (fun _ _ before leaves => before.event driven leaves) (fun _ settled => settled.here) settled
    leaves

def settledLines : ModemThreads Bool :=
  ⟨tiocmDtr, fun thread => if thread then some ⟨.setRTS, true, tiocmDtr⟩ else none, tiocmDtr⟩

theorem settledLines_settled : settledLines.Settled tiocmDtr tiocmDtr := by
  refine ⟨rfl, ?_⟩
  intro thread call called
  cases thread with
  | false => cases called
  | true =>
    cases called
    decide

theorem settled_line_stays_dtr :
    Throughout (modemEvent (tiocmDtr ||| tiocmRts))
      (fun s' => s'.level &&& tiocmDtr = settledLines.level &&& tiocmDtr)
      [.tiocmget false .setDSR false true, .tiocmset true true, .tiocmset false true]
      settledLines :=
  settled_line_stays (by decide) settledLines_settled
    ⟨⟨by decide, rfl⟩, trivial, trivial, trivial⟩

end Rxtx.SerialImp
