import Rxtx.Library.Sampled
import Rxtx.SerialImp.EventInfo

open FlagWord Sampled Rxtx.RXTXPort

namespace Rxtx.SerialImp

/-- What the build has: `TIOCSERGETLSR`, and `FIONREAD` as on Solaris and UnixWare. -/
structure PollBuild where
  tiocsergetlsr : Bool
  sun : Bool

structure Poll where
  fstatFails : Bool
  lsr : Option (BitVec 32)
  icount : Option Icounter
  tiocmget : Option (BitVec 32)
  fionread : Int32 × BitVec 32

def checkLineStatusRegister (build : PollBuild) (poll : Poll) (eis : EventInfo) :
    Int32 × EventInfo :=
  if build.tiocsergetlsr then
    if ! eis.eventflags .outputBufferEmpty then (0, eis)
    else if poll.fstatFails then (1, eis)
    else
      match poll.lsr with
      | none => (1, eis)
      | some change =>
        let eis := { eis with change := change }
        if eis.change ≠ 0 then (0, sendEvent .outputBufferEmpty 1 eis) else (0, eis)
  else if eis.outputBufferEmptyFlag && eis.eventflags .outputBufferEmpty then
    (0, { sendEvent .outputBufferEmpty 1 eis with outputBufferEmptyFlag := false })
  else (0, eis)

inductive ErrorCounter where
  | frame | overrun | parity | brk
  deriving DecidableEq, Repr

def ErrorCounter.event : ErrorCounter → EventType
  | .frame => .fe
  | .overrun => .oe
  | .parity => .pe
  | .brk => .bi

def Icounter.get (sis : Icounter) : ErrorCounter → BitVec 32
  | .frame => sis.frame
  | .overrun => sis.overrun
  | .parity => sis.parity
  | .brk => sis.brk

def Icounter.increment (sis : Icounter) : ErrorCounter → Icounter
  | .frame => { sis with frame := sis.frame + 1#32 }
  | .overrun => { sis with overrun := sis.overrun + 1#32 }
  | .parity => { sis with parity := sis.parity + 1#32 }
  | .brk => { sis with brk := sis.brk + 1#32 }

theorem Icounter.get_increment (sis : Icounter) (counter other : ErrorCounter) :
    (sis.increment counter).get other =
      if other = counter then sis.get counter + 1#32 else sis.get other := by
  cases counter <;> cases other <;> rfl

def EventInfo.count (eis : EventInfo) (counter : ErrorCounter) : EventInfo :=
  { eis with osis := eis.osis.increment counter }

@[simp] theorem EventInfo.count_osis (eis : EventInfo) (counter : ErrorCounter) :
    (eis.count counter).osis = eis.osis.increment counter := rfl

@[simp] theorem EventInfo.count_omflags (eis : EventInfo) (counter : ErrorCounter) :
    (eis.count counter).omflags = eis.omflags := rfl

@[simp] theorem EventInfo.count_callsOf (eis : EventInfo) (counter : ErrorCounter)
    (type : EventType) : (eis.count counter).callsOf type = eis.callsOf type := rfl

/-- `while( sis.frame != eis->osis.frame ) …`, and the loops after it. -/
def reportCounter (counter : ErrorCounter) (sis : Icounter) (eis : EventInfo) : EventInfo :=
  if sis.get counter = eis.osis.get counter then eis
  else reportCounter counter sis ((sendEvent counter.event 1 eis).count counter)
termination_by distance (eis.osis.get counter) (sis.get counter)
decreasing_by
  have step := distance_step ‹sis.get counter ≠ eis.osis.get counter›
  simp only [EventInfo.count_osis, sendEvent_osis, Icounter.get_increment, if_true]
  exact step ▸ Nat.lt_succ_self _

def checkCgiCount (poll : Poll) (eis : EventInfo) : EventInfo :=
  match poll.icount with
  | none => eis
  | some sis =>
    let eis := reportCounter .frame sis eis
    let eis := reportCounter .overrun sis eis
    let eis := reportCounter .parity sis eis
    let eis := reportCounter .brk sis eis
    { eis with osis := sis }

inductive ModemLine where
  | cts | dsr | rng | cd
  deriving DecidableEq, Repr

def ModemLine.event : ModemLine → EventType
  | .cts => .cts
  | .dsr => .dsr
  | .rng => .ri
  | .cd => .cd

/-- The system's `TIOCM_*` flags, each of one bit and none of them the sign bit. -/
structure TiocmFlags where
  flag : ModemLine → BitVec 32
  single : ∀ line, Single (flag line)
  positive : ∀ line, (flag line).msb = false

def tiocm : ModemLine → BitVec 32
  | .cts => 0x020
  | .dsr => 0x100
  | .rng => 0x080
  | .cd => 0x040

def TiocmFlags.common : TiocmFlags where
  flag := tiocm
  single := by
    intro line
    cases line
    · exact ⟨5, by decide⟩
    · exact ⟨8, by decide⟩
    · exact ⟨7, by decide⟩
    · exact ⟨6, by decide⟩
  positive := by
    intro line
    cases line <;> decide

/-- `change` is the unsigned difference of the masked words, read as an `int`. -/
def reportLine (flags : TiocmFlags) (line : ModemLine) (mflags : BitVec 32) (eis : EventInfo) :
    EventInfo :=
  let change := (mflags &&& flags.flag line) - (eis.omflags &&& flags.flag line)
  if change ≠ 0 then sendEvent line.event change eis else eis

def checkTiocmgetChanges (flags : TiocmFlags) (poll : Poll) (eis : EventInfo) : EventInfo :=
  match poll.tiocmget with
  | none => eis
  | some mflags =>
    let eis := reportLine flags .cts mflags eis
    let eis := reportLine flags .dsr mflags eis
    let eis := reportLine flags .rng mflags eis
    let eis := reportLine flags .cd mflags eis
    { eis with omflags := mflags }

def portHasChangedFionread (build : PollBuild) (poll : Poll) (eis : EventInfo) : Bool :=
  let (rc, change) := poll.fionread
  if build.sun then decide (rc ≠ -1 ∧ change ≠ 0) || decide (rc = -1 ∧ 0 < eis.ret)
  else decide (change ≠ 0)

def reportSerialEvents (build : PollBuild) (flags : TiocmFlags) (poll : Poll) (eis : EventInfo) :
    EventInfo :=
  let (ret, eis) := checkLineStatusRegister build poll eis
  if ret ≠ 0 then eis
  else
    let eis := if eis.hasTiocgicount then checkCgiCount poll eis else eis
    let eis := checkTiocmgetChanges flags poll eis
    if portHasChangedFionread build poll eis then
      if ! eis.eventflags .dataAvailable then eis
      else sendEvent .dataAvailable 1 eis
    else eis

theorem checkLineStatusRegister_cases (build : PollBuild) (poll : Poll) (eis : EventInfo) :
    (checkLineStatusRegister build poll eis).2.osis = eis.osis ∧
    (checkLineStatusRegister build poll eis).2.omflags = eis.omflags ∧
    SendsOnly [.outputBufferEmpty] eis (checkLineStatusRegister build poll eis).2 := by
  have same := SendsOnly.refl [.outputBufferEmpty] eis
  have sent (eis : EventInfo) := sendEvent_sendsOnly .outputBufferEmpty 1 eis
  unfold checkLineStatusRegister
  simp only []
  split_ifs with lsr unset failed flag
  · exact ⟨rfl, rfl, same⟩
  · exact ⟨rfl, rfl, same⟩
  · split
    · exact ⟨rfl, rfl, same⟩
    next change _ =>
      have stored : SendsOnly [.outputBufferEmpty] eis { eis with change := change } :=
        ⟨rfl, rfl, id, .refl _ _, .refl _ _⟩
      split_ifs
      · exact ⟨by simp, by simp, stored.trans (sent _)⟩
      · exact ⟨rfl, rfl, stored⟩
  · have cleared : SendsOnly [.outputBufferEmpty] (sendEvent .outputBufferEmpty 1 eis)
        { sendEvent .outputBufferEmpty 1 eis with outputBufferEmptyFlag := false } :=
      ⟨rfl, rfl, id, .refl _ _, .refl _ _⟩
    exact ⟨by simp, by simp, (sent eis).trans cleared⟩
  · exact ⟨rfl, rfl, same⟩

theorem reportCounter_get (counter : ErrorCounter) (sis : Icounter) (eis : EventInfo)
    (other : ErrorCounter) : (reportCounter counter sis eis).osis.get other =
      if other = counter then sis.get counter else eis.osis.get other := by
  fun_induction reportCounter counter sis eis with
  | case1 eis equal =>
    split
    next same => rw [same, equal]
    · rfl
  | case2 eis differ ih =>
    rw [ih]
    split
    · rfl
    next away => simp [Icounter.get_increment, away]

theorem reportCounter_callsOf (counter : ErrorCounter) (sis : Icounter) (eis : EventInfo)
    (type : EventType) : (reportCounter counter sis eis).callsOf type = eis.callsOf type +
      if type = counter.event then distance (eis.osis.get counter) (sis.get counter) else 0 := by
  fun_induction reportCounter counter sis eis with
  | case1 eis equal => simp [equal]
  | case2 eis differ ih =>
    have step := distance_step differ
    rw [ih, EventInfo.count_callsOf, sendEvent_callsOf, EventInfo.count_osis, sendEvent_osis,
      Icounter.get_increment, if_pos rfl]
    split_ifs <;> omega

theorem reportCounter_kept (counter : ErrorCounter) (sis : Icounter) (eis : EventInfo) :
    (reportCounter counter sis eis).omflags = eis.omflags ∧
    SendsOnly [counter.event] eis (reportCounter counter sis eis) := by
  fun_induction reportCounter counter sis eis with
  | case1 eis equal => exact ⟨rfl, .refl _ _⟩
  | case2 eis differ ih =>
    have counted (eis : EventInfo) : SendsOnly [counter.event] eis (eis.count counter) :=
      ⟨rfl, rfl, id, .refl _ _, .refl _ _⟩
    have sent := sendEvent_sendsOnly counter.event 1 eis
    exact ⟨ih.1.trans (by simp), (sent.trans (counted _)).trans ih.2⟩

theorem ErrorCounter.event_inj {counter other : ErrorCounter} :
    counter.event = other.event ↔ counter = other := by
  cases counter <;> cases other <;> decide

theorem checkCgiCount_osis (poll : Poll) (eis : EventInfo) :
    (checkCgiCount poll eis).osis = poll.icount.getD eis.osis := by
  unfold checkCgiCount
  cases poll.icount <;> rfl

theorem checkCgiCount_callsOf (poll : Poll) (eis : EventInfo) (counter : ErrorCounter) :
    (checkCgiCount poll eis).callsOf counter.event = eis.callsOf counter.event +
      advance (eis.osis.get counter) (poll.icount.toList.map (·.get counter)) := by
  unfold checkCgiCount
  cases poll.icount with
  | none => rfl
  | some sis =>
    have whole (eis : EventInfo) :
        ({ eis with osis := sis } : EventInfo).callsOf counter.event =
          eis.callsOf counter.event := rfl
    simp only [whole, reportCounter_callsOf, reportCounter_get, ErrorCounter.event_inj,
      Option.toList_some, List.map_cons, List.map_nil, advance, Nat.add_zero]
    cases counter <;> simp

theorem checkCgiCount_kept (poll : Poll) (eis : EventInfo) :
    (checkCgiCount poll eis).omflags = eis.omflags ∧
    SendsOnly [.fe, .oe, .pe, .bi] eis (checkCgiCount poll eis) := by
  have loop (counter : ErrorCounter) (sis : Icounter) (eis : EventInfo) :
      SendsOnly [.fe, .oe, .pe, .bi] eis (reportCounter counter sis eis) := by
    apply (reportCounter_kept counter sis eis).2.mono
    cases counter <;> simp [ErrorCounter.event]
  have whole (sis : Icounter) (eis : EventInfo) :
      SendsOnly [.fe, .oe, .pe, .bi] eis { eis with osis := sis } :=
    ⟨rfl, rfl, id, .refl _ _, .refl _ _⟩
  unfold checkCgiCount
  cases poll.icount with
  | none => exact ⟨rfl, .refl _ _⟩
  | some sis =>
    constructor
    · simp only [(reportCounter_kept _ _ _).1]
    · exact ((((loop _ _ _).trans (loop _ _ _)).trans (loop _ _ _)).trans (loop _ _ _)).trans
        (whole _ _)

def raised (flags : TiocmFlags) (line : ModemLine) (word : BitVec 32) : Bool :=
  decide (word &&& flags.flag line ≠ 0)

theorem change_eq_zero (flags : TiocmFlags) (line : ModemLine) (new old : BitVec 32) :
    (new &&& flags.flag line) - (old &&& flags.flag line) = 0 ↔
      raised flags line new = raised flags line old := by
  have present := (flags.single line).ne_zero
  rcases (flags.single line).cases new with down | up <;>
    rcases (flags.single line).cases old with before | before
  · simp [raised, down, before]
  · simp [raised, down, before, present]
  · simp [raised, up, before, present]
  · simp [raised, up, before]

theorem change_positive (flags : TiocmFlags) (line : ModemLine) {new old : BitVec 32}
    (differ : raised flags line new ≠ raised flags line old) :
    decide (0 < ((new &&& flags.flag line) - (old &&& flags.flag line)).toInt) =
      raised flags line new := by
  have present := (flags.single line).ne_zero
  have positive := flags.positive line
  have nonneg := BitVec.toInt_eq_toNat_of_msb positive
  have above : 0 < (flags.flag line).toNat := by
    apply Nat.pos_of_ne_zero
    intro zero
    exact present (BitVec.eq_of_toNat_eq (by simpa using zero))
  rcases (flags.single line).cases new with down | up <;>
    rcases (flags.single line).cases old with before | before
  · simp [raised, down, before] at differ
  · have below : (0#32 - flags.flag line).toInt < 0 := by
      have size := (flags.flag line).isLt
      rw [BitVec.msb_eq_decide] at positive
      simp only [BitVec.zero_sub, BitVec.toInt_eq_toNat_cond, BitVec.toNat_neg] at positive ⊢
      split <;> simp at positive <;> omega
    have off : ¬ 0 < (0#32 - flags.flag line).toInt := by omega
    simp only [raised, down, before, off]
    simp
  · have on : 0 < (flags.flag line - 0#32).toInt := by
      rw [BitVec.sub_zero, nonneg]
      omega
    simp only [raised, up, before, on]
    simp [present]
  · simp [raised, up, before] at differ

def lineEvent (flags : TiocmFlags) (old new : BitVec 32) (line : ModemLine) :
    List (EventType × Bool) :=
  if raised flags line new = raised flags line old then []
  else [(line.event, raised flags line new)]

theorem reportLine_kept (flags : TiocmFlags) (line : ModemLine) (mflags : BitVec 32)
    (eis : EventInfo) :
    (reportLine flags line mflags eis).osis = eis.osis ∧
    (reportLine flags line mflags eis).omflags = eis.omflags ∧
    SendsOnly [line.event] eis (reportLine flags line mflags eis) := by
  unfold reportLine
  simp only []
  split_ifs
  · exact ⟨by simp, by simp, sendEvent_sendsOnly _ _ _⟩
  · exact ⟨rfl, rfl, .refl _ _⟩

theorem reportLine_delivered (flags : TiocmFlags) (line : ModemLine) (mflags : BitVec 32)
    {eis : EventInfo} (listening : eis.Listening) :
    (reportLine flags line mflags eis).delivered =
      eis.delivered ++ lineEvent flags eis.omflags mflags line := by
  have edge := change_eq_zero flags line mflags eis.omflags
  unfold reportLine lineEvent
  simp only []
  by_cases same : raised flags line mflags = raised flags line eis.omflags
  · rw [if_pos same, List.append_nil, if_neg (not_not.mpr (edge.mpr same))]
  · rw [if_neg same, if_pos (mt edge.mp same), sendEvent_listening _ _ listening]
    simp only [change_positive flags line same]

def modemLines : List ModemLine := [.cts, .dsr, .rng, .cd]

theorem checkTiocmgetChanges_kept (flags : TiocmFlags) (poll : Poll) (eis : EventInfo) :
    (checkTiocmgetChanges flags poll eis).osis = eis.osis ∧
    (checkTiocmgetChanges flags poll eis).omflags = poll.tiocmget.getD eis.omflags ∧
    SendsOnly [.cts, .dsr, .ri, .cd] eis (checkTiocmgetChanges flags poll eis) := by
  have line (line : ModemLine) (mflags : BitVec 32) (eis : EventInfo) :
      SendsOnly [.cts, .dsr, .ri, .cd] eis (reportLine flags line mflags eis) := by
    apply (reportLine_kept flags line mflags eis).2.2.mono
    cases line <;> simp [ModemLine.event]
  have whole (mflags : BitVec 32) (eis : EventInfo) :
      SendsOnly [.cts, .dsr, .ri, .cd] eis { eis with omflags := mflags } :=
    ⟨rfl, rfl, id, .refl _ _, .refl _ _⟩
  unfold checkTiocmgetChanges
  cases poll.tiocmget with
  | none => exact ⟨rfl, rfl, .refl _ _⟩
  | some mflags =>
    and_intros
    · simp only [(reportLine_kept _ _ _ _).1]
    · rfl
    · exact ((((line _ _ _).trans (line _ _ _)).trans (line _ _ _)).trans (line _ _ _)).trans
        (whole _ _)

theorem checkTiocmgetChanges_delivered (flags : TiocmFlags) (poll : Poll) {eis : EventInfo}
    (listening : eis.Listening) :
    (checkTiocmgetChanges flags poll eis).delivered = eis.delivered ++
      poll.tiocmget.toList.flatMap fun mflags =>
        modemLines.flatMap (lineEvent flags eis.omflags mflags) := by
  unfold checkTiocmgetChanges
  cases poll.tiocmget with
  | none => simp
  | some mflags =>
    have first := (reportLine_kept flags .cts mflags eis).2
    have second := (reportLine_kept flags .dsr mflags (reportLine flags .cts mflags eis)).2
    have third := (reportLine_kept flags .rng mflags
      (reportLine flags .dsr mflags (reportLine flags .cts mflags eis))).2
    have afterFirst := first.2.listening listening
    have afterSecond := second.2.listening afterFirst
    have afterThird := third.2.listening afterSecond
    simp only [reportLine_delivered flags .cd mflags afterThird,
      reportLine_delivered flags .rng mflags afterSecond,
      reportLine_delivered flags .dsr mflags afterFirst,
      reportLine_delivered flags .cts mflags listening, first.1, second.1, third.1]
    simp [modemLines]

theorem ModemLine.event_inj {line other : ModemLine} :
    line.event = other.event ↔ line = other := by
  cases line <;> cases other <;> decide

def EventInfo.lineEvents (eis : EventInfo) : List (EventType × Bool) :=
  eis.delivered.filter fun event => event.1 ∈ modemLines.map ModemLine.event

theorem lineEvents_deliveredOf (eis : EventInfo) (line : ModemLine) :
    ((eis.lineEvents).filter fun event => event.1 = line.event).map Prod.snd =
      eis.deliveredOf line.event := by
  have member : line.event ∈ modemLines.map ModemLine.event := by
    cases line <;> decide
  unfold EventInfo.lineEvents EventInfo.deliveredOf
  rw [List.filter_filter]
  congr 1
  apply List.filter_congr
  intro event _
  by_cases same : event.1 = line.event
  · simp only [same, member]
    simp
  · simp [same]

def passes (build : PollBuild) (poll : Poll) (eis : EventInfo) : Prop :=
  (checkLineStatusRegister build poll eis).1 = 0

instance (build : PollBuild) (poll : Poll) (eis : EventInfo) : Decidable (passes build poll eis) :=
  inferInstanceAs (Decidable ((checkLineStatusRegister build poll eis).1 = 0))

def reportFionread (build : PollBuild) (poll : Poll) (eis : EventInfo) : EventInfo :=
  if portHasChangedFionread build poll eis then
    if ! eis.eventflags .dataAvailable then eis
    else sendEvent .dataAvailable 1 eis
  else eis

theorem reportFionread_kept (build : PollBuild) (poll : Poll) (eis : EventInfo) :
    (reportFionread build poll eis).osis = eis.osis ∧
    (reportFionread build poll eis).omflags = eis.omflags ∧
    SendsOnly [.dataAvailable] eis (reportFionread build poll eis) := by
  unfold reportFionread
  split_ifs
  · exact ⟨rfl, rfl, .refl _ _⟩
  · exact ⟨by simp, by simp, sendEvent_sendsOnly _ _ _⟩
  · exact ⟨rfl, rfl, .refl _ _⟩

theorem reportSerialEvents_eq (build : PollBuild) (flags : TiocmFlags) (poll : Poll)
    (eis : EventInfo) : reportSerialEvents build flags poll eis =
      let checked := (checkLineStatusRegister build poll eis).2
      if passes build poll eis then
        reportFionread build poll (checkTiocmgetChanges flags poll
          (if checked.hasTiocgicount then checkCgiCount poll checked else checked))
      else checked := by
  unfold reportSerialEvents passes
  by_cases passed : (checkLineStatusRegister build poll eis).1 = 0
  · simp only [passed, ne_eq, not_true_eq_false, if_false, if_true]
    rfl
  · simp only [passed, ne_eq, not_false_eq_true, if_true, if_false]

end Rxtx.SerialImp
