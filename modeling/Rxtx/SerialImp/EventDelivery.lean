import Rxtx.SerialImp.ReportEvents

open Sampled Rxtx.RXTXPort

namespace Rxtx.SerialImp

variable (build : PollBuild) (flags : TiocmFlags)

structure Passed (poll : Poll) (eis counted eis' : EventInfo) : Prop where
  omflags : counted.omflags = eis.omflags
  before : SendsOnly [.outputBufferEmpty, .fe, .oe, .pe, .bi] eis counted
  icounts : eis.hasTiocgicount = true → counted.osis = poll.icount.getD eis.osis ∧
    ∀ counter : ErrorCounter, counted.callsOf counter.event = eis.callsOf counter.event +
      advance (eis.osis.get counter) (poll.icount.toList.map (·.get counter))
  osis : eis'.osis = (checkTiocmgetChanges flags poll counted).osis
  words : eis'.omflags = (checkTiocmgetChanges flags poll counted).omflags
  after : SendsOnly [.dataAvailable] (checkTiocmgetChanges flags poll counted) eis'

theorem poll_passed {poll : Poll} {eis : EventInfo} (passed : passes build poll eis) :
    ∃ counted, Passed flags poll eis counted (reportSerialEvents build flags poll eis) := by
  have checked := checkLineStatusRegister_cases build poll eis
  have widen := checked.2.2.mono
    (show [EventType.outputBufferEmpty] ⊆ [.outputBufferEmpty, .fe, .oe, .pe, .bi] by simp)
  rw [reportSerialEvents_eq]
  simp only [passed, if_true]
  by_cases counts : (checkLineStatusRegister build poll eis).2.hasTiocgicount = true
  · have cgi := checkCgiCount_kept poll (checkLineStatusRegister build poll eis).2
    have more := cgi.2.mono
      (show [EventType.fe, .oe, .pe, .bi] ⊆ [.outputBufferEmpty, .fe, .oe, .pe, .bi] by simp)
    have fionread := reportFionread_kept build poll (checkTiocmgetChanges flags poll
      (checkCgiCount poll (checkLineStatusRegister build poll eis).2))
    simp only [counts, if_true]
    have icounts (counter : ErrorCounter) :=
      checkCgiCount_callsOf poll (checkLineStatusRegister build poll eis).2 counter
    have before (counter : ErrorCounter) : (checkLineStatusRegister build poll eis).2.callsOf
        counter.event = eis.callsOf counter.event := by
      have notEmpty : counter.event ∉ [EventType.outputBufferEmpty] := by cases counter <;> decide
      exact checked.2.2.callsOf notEmpty
    simp only [before, checked.1] at icounts
    have osis : (checkCgiCount poll (checkLineStatusRegister build poll eis).2).osis =
        poll.icount.getD eis.osis := by
      rw [checkCgiCount_osis, checked.1]
    exact ⟨_, cgi.1.trans checked.2.1, widen.trans more, fun _ => ⟨osis, icounts⟩, fionread.1,
      fionread.2.1, fionread.2.2⟩
  · have fionread := reportFionread_kept build poll
      (checkTiocmgetChanges flags poll (checkLineStatusRegister build poll eis).2)
    have without : ¬ eis.hasTiocgicount = true := by
      rw [← checked.2.2.counting]
      exact counts
    rw [if_neg counts]
    exact ⟨_, checked.2.1, widen, fun counting => absurd counting without, fionread.1,
      fionread.2.1, fionread.2.2⟩

theorem poll_stopped {poll : Poll} {eis : EventInfo} (stopped : ¬ passes build poll eis) :
    (reportSerialEvents build flags poll eis).osis = eis.osis ∧
    (reportSerialEvents build flags poll eis).omflags = eis.omflags ∧
    SendsOnly [.outputBufferEmpty] eis (reportSerialEvents build flags poll eis) := by
  rw [reportSerialEvents_eq]
  simp only [stopped, if_false]
  exact checkLineStatusRegister_cases build poll eis

def reading {α : Type} (answer : Poll → Option α) (poll : Poll) (eis : EventInfo) : Option α :=
  if passes build poll eis then answer poll else none

theorem poll_counters (poll : Poll) {eis : EventInfo} (counting : eis.hasTiocgicount = true) :
    (reportSerialEvents build flags poll eis).osis =
      (reading build Poll.icount poll eis).getD eis.osis ∧
    ∀ counter : ErrorCounter,
      (reportSerialEvents build flags poll eis).callsOf counter.event =
        eis.callsOf counter.event + advance (eis.osis.get counter)
          ((reading build Poll.icount poll eis).toList.map (·.get counter)) := by
  unfold reading
  by_cases passed : passes build poll eis
  · obtain ⟨counted, stages⟩ := poll_passed build flags passed
    have lines := checkTiocmgetChanges_kept flags poll counted
    obtain ⟨osis, calls⟩ := stages.icounts counting
    simp only [passed, if_true]
    constructor
    · exact stages.osis.trans (lines.1.trans osis)
    · intro counter
      have notData : counter.event ∉ [EventType.dataAvailable] := by cases counter <;> decide
      have notLine : counter.event ∉ [EventType.cts, .dsr, .ri, .cd] := by
        cases counter <;> decide
      rw [stages.after.callsOf notData, lines.2.2.callsOf notLine, calls]
  · have stopped := poll_stopped build flags passed
    simp only [passed, if_false]
    constructor
    · exact stopped.1
    · intro counter
      have notEmpty : counter.event ∉ [EventType.outputBufferEmpty] := by cases counter <;> decide
      rw [stopped.2.2.callsOf notEmpty]
      rfl

theorem SendsOnly.lineEvents {types : List EventType} {eis eis' : EventInfo}
    (sends : SendsOnly types eis eis')
    (away : ∀ type ∈ types, type ∉ modemLines.map ModemLine.event) :
    eis'.lineEvents = eis.lineEvents := by
  have wanted : ∀ type ∈ types, decide (type ∈ modemLines.map ModemLine.event) = false :=
    fun type member => decide_eq_false (away type member)
  exact sends.delivered.filter_eq wanted

theorem checkTiocmgetChanges_lineEvents (poll : Poll) {eis : EventInfo}
    (listening : eis.Listening) :
    (checkTiocmgetChanges flags poll eis).lineEvents = eis.lineEvents ++
      poll.tiocmget.toList.flatMap fun mflags =>
        modemLines.flatMap (lineEvent flags eis.omflags mflags) := by
  unfold EventInfo.lineEvents
  rw [checkTiocmgetChanges_delivered flags poll listening, List.filter_append]
  congr 1
  apply List.filter_eq_self.mpr
  intro event member
  obtain ⟨mflags, -, line⟩ := List.mem_flatMap.mp member
  obtain ⟨line, of, told⟩ := List.mem_flatMap.mp line
  unfold lineEvent at told
  split at told
  · cases told
  · rcases List.mem_singleton.mp told with rfl
    exact decide_eq_true (List.mem_map_of_mem of)

theorem poll_lines (poll : Poll) {eis : EventInfo} (listening : eis.Listening) :
    (reportSerialEvents build flags poll eis).omflags =
      (reading build Poll.tiocmget poll eis).getD eis.omflags ∧
    (reportSerialEvents build flags poll eis).lineEvents = eis.lineEvents ++
      (reading build Poll.tiocmget poll eis).toList.flatMap fun mflags =>
        modemLines.flatMap (lineEvent flags eis.omflags mflags) := by
  unfold reading
  by_cases passed : passes build poll eis
  · obtain ⟨counted, stages⟩ := poll_passed build flags passed
    have lines := checkTiocmgetChanges_kept flags poll counted
    have told := checkTiocmgetChanges_lineEvents flags poll
      (stages.before.listening listening)
    have first := stages.before.lineEvents (by decide)
    have last := stages.after.lineEvents (by decide)
    simp only [passed, if_true]
    constructor
    · rw [stages.words, lines.2.1, stages.omflags]
    · rw [last, told, first, stages.omflags]
  · have stopped := poll_stopped build flags passed
    have same := stopped.2.2.lineEvents (by decide)
    simp only [passed, if_false]
    constructor
    · exact stopped.2.1
    · simp [same]

structure Ready (eis : EventInfo) : Prop where
  initialised : eis.initialised = true
  listening : eis.Listening

theorem SendsOnly.ready {types : List EventType} {eis eis' : EventInfo}
    (sends : SendsOnly types eis eis') (ready : Ready eis) : Ready eis' :=
  ⟨sends.initialised.trans ready.initialised, sends.listening ready.listening⟩

theorem poll_ready (poll : Poll) {eis : EventInfo} (ready : Ready eis) :
    Ready (reportSerialEvents build flags poll eis) ∧
    (reportSerialEvents build flags poll eis).hasTiocgicount = eis.hasTiocgicount := by
  by_cases passed : passes build poll eis
  · obtain ⟨counted, stages⟩ := poll_passed build flags passed
    have lines := (checkTiocmgetChanges_kept flags poll counted).2.2
    constructor
    · exact stages.after.ready (lines.ready (stages.before.ready ready))
    · rw [stages.after.counting, lines.counting, stages.before.counting]
  · have stopped := (poll_stopped build flags passed).2.2
    exact ⟨stopped.ready ready, stopped.counting⟩

/-- What happens to the struct: the event loop polls and resets it, Java subscribes and
    interrupts, and where there is one the `drain_loop` and the writers set its two flags. -/
inductive PollLabel where
  | poll (poll : Poll)
  | reset (opening : Opening)
  | setEventFlag (event : EventType) (flag : Bool)
  | interrupt
  | drainFlags (writing outputBufferEmpty : Bool)

theorem PollLabel.poll_or_quiet (label : PollLabel) :
    (∃ poll, label = .poll poll) ∨ ∀ poll, label ≠ .poll poll := by
  cases label with
  | poll poll => exact .inl ⟨poll, rfl⟩
  | reset | setEventFlag | interrupt | drainFlags => exact .inr nofun

/-- `eventLoop` ignores the result of the later `initialise_event_info_struct`. -/
def pollStep (label : PollLabel) (eis : EventInfo) : EventInfo :=
  match label with
  | .poll poll => reportSerialEvents build flags poll eis
  | .reset opening => (initialiseEventInfoStruct build.tiocsergetlsr opening eis).getD eis
  | .setEventFlag event flag => nativeSetEventFlag event flag eis
  | .interrupt => interruptStruct eis
  | .drainFlags writing outputBufferEmpty =>
    { eis with writing := writing, outputBufferEmptyFlag := outputBufferEmpty }

def pollRun (labels : List PollLabel) (eis : EventInfo) : EventInfo :=
  labels.foldl (fun eis label => pollStep build flags label eis) eis

def labelReading {α : Type} (answer : Poll → Option α) (label : PollLabel) (eis : EventInfo) :
    Option α :=
  match label with
  | .poll poll => reading build answer poll eis
  | _ => none

theorem labelReading_quiet {α : Type} {answer : Poll → Option α} {label : PollLabel}
    {eis : EventInfo} (quiet : ∀ poll, label ≠ .poll poll) :
    labelReading build answer label eis = none := by
  cases label with
  | poll poll => exact absurd rfl (quiet poll)
  | _ => rfl

def readings {α : Type} (answer : Poll → Option α) : List PollLabel → EventInfo → List α
  | [], _ => []
  | label :: labels, eis =>
    match labelReading build answer label eis with
    | none => readings answer labels (pollStep build flags label eis)
    | some snapshot => snapshot :: readings answer labels (pollStep build flags label eis)

theorem pollStep_quiet {label : PollLabel} {eis : EventInfo} (ready : Ready eis)
    (quiet : ∀ poll, label ≠ .poll poll) :
    (pollStep build flags label eis).osis = eis.osis ∧
    (pollStep build flags label eis).omflags = eis.omflags ∧
    SendsOnly [] eis (pollStep build flags label eis) := by
  cases label with
  | poll poll => exact absurd rfl (quiet poll)
  | reset opening =>
    have again : initialiseEventInfoStruct build.tiocsergetlsr opening eis = some eis := by
      rw [initialiseEventInfoStruct, if_pos ready.initialised]
    simp only [pollStep, again]
    exact ⟨rfl, rfl, .refl _ _⟩
  | setEventFlag event flag => exact ⟨rfl, rfl, rfl, rfl, id, .refl _ _, .refl _ _⟩
  | interrupt =>
    have listening : (interruptStruct eis).Listening := ⟨le_refl _, ready.listening.2⟩
    exact ⟨rfl, rfl, rfl, rfl, fun _ => listening, .refl _ _, .refl _ _⟩
  | drainFlags writing outputBufferEmpty =>
    exact ⟨rfl, rfl, rfl, rfl, id, .refl _ _, .refl _ _⟩

theorem pollStep_ready (label : PollLabel) {eis : EventInfo} (ready : Ready eis) :
    Ready (pollStep build flags label eis) ∧
    (pollStep build flags label eis).hasTiocgicount = eis.hasTiocgicount := by
  rcases label.poll_or_quiet with ⟨poll, rfl⟩ | quiet
  · exact poll_ready build flags poll ready
  · obtain ⟨-, -, sends⟩ := pollStep_quiet build flags ready quiet
    exact ⟨sends.ready ready, sends.counting⟩

theorem pollStep_counters (label : PollLabel) {eis : EventInfo} (ready : Ready eis)
    (counting : eis.hasTiocgicount = true) :
    (pollStep build flags label eis).osis =
      (labelReading build Poll.icount label eis).getD eis.osis ∧
    ∀ counter : ErrorCounter, (pollStep build flags label eis).callsOf counter.event =
      eis.callsOf counter.event + advance (eis.osis.get counter)
        ((labelReading build Poll.icount label eis).toList.map (·.get counter)) := by
  rcases label.poll_or_quiet with ⟨poll, rfl⟩ | quiet
  · exact poll_counters build flags poll counting
  · obtain ⟨osis, -, sends⟩ := pollStep_quiet build flags ready quiet
    rw [labelReading_quiet build quiet]
    refine ⟨osis, ?_⟩
    intro counter
    rw [sends.callsOf (List.not_mem_nil)]
    rfl

theorem pollStep_lines (label : PollLabel) {eis : EventInfo} (ready : Ready eis) :
    (pollStep build flags label eis).omflags =
      (labelReading build Poll.tiocmget label eis).getD eis.omflags ∧
    (pollStep build flags label eis).lineEvents = eis.lineEvents ++
      (labelReading build Poll.tiocmget label eis).toList.flatMap fun mflags =>
        modemLines.flatMap (lineEvent flags eis.omflags mflags) := by
  rcases label.poll_or_quiet with ⟨poll, rfl⟩ | quiet
  · exact poll_lines build flags poll ready.listening
  · obtain ⟨-, omflags, sends⟩ := pollStep_quiet build flags ready quiet
    rw [labelReading_quiet build quiet]
    refine ⟨omflags, ?_⟩
    rw [sends.lineEvents (by simp)]
    simp

theorem pollRun_ready (labels : List PollLabel) {eis : EventInfo} (ready : Ready eis) :
    Ready (pollRun build flags labels eis) ∧
    (pollRun build flags labels eis).hasTiocgicount = eis.hasTiocgicount := by
  induction labels generalizing eis with
  | nil => exact ⟨ready, rfl⟩
  | cons label labels ih =>
    have step := pollStep_ready build flags label ready
    have rest := ih step.1
    exact ⟨rest.1, rest.2.trans step.2⟩

theorem pollRun_counters (labels : List PollLabel) {eis : EventInfo} (ready : Ready eis)
    (counting : eis.hasTiocgicount = true) :
    (pollRun build flags labels eis).osis =
      (readings build flags Poll.icount labels eis).getLastD eis.osis ∧
    ∀ counter : ErrorCounter, (pollRun build flags labels eis).callsOf counter.event =
      eis.callsOf counter.event + advance (eis.osis.get counter)
        ((readings build flags Poll.icount labels eis).map (·.get counter)) := by
  induction labels generalizing eis with
  | nil => exact ⟨rfl, fun counter => rfl⟩
  | cons label labels ih =>
    have step := pollStep_ready build flags label ready
    have counted := pollStep_counters build flags label ready counting
    have rest := ih step.1 (step.2.trans counting)
    rw [readings]
    cases read : labelReading build Poll.icount label eis with
    | none =>
      simp only [read, Option.getD_none, Option.toList_none, List.map_nil, advance,
        Nat.add_zero] at counted
      rw [counted.1] at rest
      constructor
      · exact rest.1
      · intro counter
        rw [← counted.2 counter]
        exact rest.2 counter
    | some snapshot =>
      simp only [read, Option.getD_some, Option.toList_some, List.map_cons, List.map_nil, advance,
        Nat.add_zero] at counted
      rw [counted.1] at rest
      constructor
      · rw [List.getLastD_cons]
        exact rest.1
      · intro counter
        rw [List.map_cons, advance, ← Nat.add_assoc, ← counted.2 counter]
        exact rest.2 counter

theorem deliveredOf_lineEvent (line other : ModemLine) (old new : BitVec 32) :
    ((lineEvent flags old new other).filter fun event => event.1 = line.event).map Prod.snd =
      if other = line ∧ raised flags line new ≠ raised flags line old then [raised flags line new]
      else [] := by
  unfold lineEvent
  by_cases same : other = line
  · subst same
    by_cases edge : raised flags other new = raised flags other old
    · simp [edge]
    · simp [edge]
  · have differ : other.event ≠ line.event := mt ModemLine.event_inj.mp same
    split <;> simp [same, differ]

theorem deliveredOf_edge (line : ModemLine) (old new : BitVec 32) :
    ((modemLines.flatMap (lineEvent flags old new)).filter
        fun event => event.1 = line.event).map Prod.snd =
      edges (raised flags line old) [raised flags line new] := by
  have each (other : ModemLine) := deliveredOf_lineEvent flags line other old new
  have one : edges (raised flags line old) [raised flags line new] =
      if raised flags line new ≠ raised flags line old then [raised flags line new] else [] := by
    rw [edges_cons, edges_nil, edges_nil]
    by_cases same : raised flags line new = raised flags line old <;> simp [same]
  simp only [modemLines, List.flatMap_cons, List.flatMap_nil, List.filter_append, List.map_append,
    List.append_nil, each, one]
  cases line <;> simp

theorem pollRun_lines (labels : List PollLabel) {eis : EventInfo} (ready : Ready eis) :
    (pollRun build flags labels eis).omflags =
      (readings build flags Poll.tiocmget labels eis).getLastD eis.omflags ∧
    ∀ line : ModemLine, (pollRun build flags labels eis).deliveredOf line.event =
      eis.deliveredOf line.event ++ edges (raised flags line eis.omflags)
        ((readings build flags Poll.tiocmget labels eis).map (raised flags line)) := by
  induction labels generalizing eis with
  | nil => exact ⟨rfl, fun line => (List.append_nil _).symm⟩
  | cons label labels ih =>
    have step := pollStep_lines build flags label ready
    have rest := ih (pollStep_ready build flags label ready).1
    rw [readings]
    cases read : labelReading build Poll.tiocmget label eis with
    | none =>
      simp only [read, Option.getD_none, Option.toList_none, List.flatMap_nil,
        List.append_nil] at step
      rw [step.1] at rest
      constructor
      · exact rest.1
      · intro line
        rw [← lineEvents_deliveredOf eis, ← step.2, lineEvents_deliveredOf]
        exact rest.2 line
    | some mflags =>
      simp only [read, Option.getD_some, Option.toList_some, List.flatMap_cons, List.flatMap_nil,
        List.append_nil] at step
      rw [step.1] at rest
      constructor
      · rw [List.getLastD_cons]
        exact rest.1
      · intro line
        have one : (pollStep build flags label eis).deliveredOf line.event =
            eis.deliveredOf line.event ++
              edges (raised flags line eis.omflags) [raised flags line mflags] := by
          rw [← lineEvents_deliveredOf, step.2, List.filter_append, List.map_append,
            lineEvents_deliveredOf, deliveredOf_edge]
        have split := edges_append (raised flags line eis.omflags) [raised flags line mflags]
          ((readings build flags Poll.tiocmget labels (pollStep build flags label eis)).map
            (raised flags line))
        calc (pollRun build flags labels (pollStep build flags label eis)).deliveredOf line.event
            = (pollStep build flags label eis).deliveredOf line.event ++
                edges (raised flags line mflags) ((readings build flags Poll.tiocmget labels
                  (pollStep build flags label eis)).map (raised flags line)) := rest.2 line
          _ = eis.deliveredOf line.event ++ edges (raised flags line eis.omflags)
                ([raised flags line mflags] ++ (readings build flags Poll.tiocmget labels
                  (pollStep build flags label eis)).map (raised flags line)) := by
            rw [one, split, List.append_assoc]
            rfl

structure Started (opening : Opening) (eis : EventInfo) : Prop where
  ready : Ready eis
  calls : eis.calls = []
  delivered : eis.delivered = []
  osis : ∀ snapshot, opening.icount = some snapshot → eis.osis = snapshot
  counting : eis.hasTiocgicount = opening.icount.isSome
  omflags : ∀ word, opening.tiocmget = some word → eis.omflags = word

theorem initialise_started {tiocsergetlsr : Bool} {opening : Opening} {stack eis : EventInfo}
    (started : initialiseEventInfoStruct tiocsergetlsr opening (eventLoopEntry stack) = some eis) :
    Started opening eis := by
  unfold initialiseEventInfoStruct driverHasTiocgicount at started
  rw [if_neg (by simp [eventLoopEntry])] at started
  cases snapshot : opening.icount <;> cases word : opening.tiocmget <;>
    cases tiocsergetlsr <;> cases found : opening.methodFound <;>
    simp only [snapshot, word, found, Bool.false_eq_true, if_true, if_false, Option.some.injEq,
      reduceCtorEq] at started <;>
    subst started <;>
    exact ⟨⟨rfl, zero_le_one, rfl⟩, rfl, rfl, by simp [snapshot], by simp [snapshot],
      by simp [word]⟩

/-- Every error the driver counts between two snapshots is told once: a poll that reads a snapshot
    sends for each kind what its counter has advanced since the last one, the others send
    nothing, and over the run the events add up to the whole advance. -/
theorem error_events_are_the_advance (labels : List PollLabel) {opening : Opening}
    {first : Icounter} {stack eis : EventInfo}
    (started : initialiseEventInfoStruct build.tiocsergetlsr opening (eventLoopEntry stack) =
      some eis)
    (counts : opening.icount = some first) :
    let snapshots := readings build flags Poll.icount labels eis
    let last := pollRun build flags labels eis
    eis.hasTiocgicount = true ∧ last.hasTiocgicount = true ∧
    last.osis = snapshots.getLastD first ∧
    (∀ counter : ErrorCounter,
      last.callsOf counter.event = advance (first.get counter) (snapshots.map (·.get counter))) ∧
    ∀ poll, match reading build Poll.icount poll last with
      | some snapshot => (reportSerialEvents build flags poll last).osis = snapshot ∧
        ∀ counter : ErrorCounter, (reportSerialEvents build flags poll last).callsOf counter.event =
          last.callsOf counter.event + (snapshot.get counter - last.osis.get counter).toNat
      | none => (reportSerialEvents build flags poll last).osis = last.osis ∧
        ∀ counter : ErrorCounter, (reportSerialEvents build flags poll last).callsOf counter.event =
          last.callsOf counter.event := by
  have opened := initialise_started started
  have counting : eis.hasTiocgicount = true := by rw [opened.counting, counts, Option.isSome_some]
  have ready := pollRun_ready build flags labels opened.ready
  have run := pollRun_counters build flags labels opened.ready counting
  rw [opened.osis first counts] at run
  have none (counter : ErrorCounter) : eis.callsOf counter.event = 0 := by
    simp [EventInfo.callsOf, opened.calls]
  have lastCounting := ready.2.trans counting
  refine ⟨counting, lastCounting, run.1, ?_, ?_⟩
  · intro counter
    rw [run.2 counter, none, Nat.zero_add]
  · intro poll
    have counters := poll_counters build flags poll lastCounting
    cases read : reading build Poll.icount poll (pollRun build flags labels eis) with
    | none =>
      simp only [read] at counters
      exact counters
    | some snapshot =>
      simp only [read] at counters
      exact counters

theorem error_events_across_zero :
    let build : PollBuild := ⟨true, false⟩
    let opening : Opening := ⟨5, true, some { Icounter.zero with frame := 4294967295 }, none, true⟩
    let stack : EventInfo :=
      ⟨0, fun _ => true, true, 0, 0, 0, true, true, 2, false, true, true, true, .zero, [], []⟩
    let poll (frame : BitVec 32) : PollLabel :=
      .poll ⟨false, none, some { Icounter.zero with frame := frame }, none, 0, 0⟩
    ∃ eis, initialiseEventInfoStruct build.tiocsergetlsr opening (eventLoopEntry stack) =
        some eis ∧ (pollRun build .common [poll 1] eis).callsOf .fe = 2 := by
  intro build opening stack poll
  have started : initialiseEventInfoStruct build.tiocsergetlsr opening (eventLoopEntry stack) =
      some _ := rfl
  have told := error_events_are_the_advance build .common [poll 1] started rfl
  exact ⟨_, started, (told.2.2.2.1 .frame).trans rfl⟩

theorem errors_all_told (labels : List PollLabel) {eis : EventInfo} (ready : Ready eis)
    (counting : eis.hasTiocgicount = true) (counter : ErrorCounter) {errors : Nat}
    {later : List Nat} (first : eis.osis.get counter = BitVec.ofNat 32 errors)
    (rest : (readings build flags Poll.icount labels eis).map (·.get counter) =
      later.map (BitVec.ofNat 32))
    (slow : (errors :: later).IsChain fun old new => old ≤ new ∧ new < old + 2 ^ 32) :
    errors + (pollRun build flags labels eis).callsOf counter.event =
      later.getLastD errors + eis.callsOf counter.event := by
  have run := (pollRun_counters build flags labels ready counting).2 counter
  have all := advance_of_counts slow
  rw [rest, first] at run
  omega

theorem flatMap_lineEvent (old new : BitVec 32) (lines : List ModemLine) :
    lines.flatMap (lineEvent flags old new) =
      (lines.filter fun line => raised flags line new ≠ raised flags line old).map
        fun line => (line.event, raised flags line new) := by
  induction lines with
  | nil => rfl
  | cons line lines ih =>
    rw [List.flatMap_cons, ih, lineEvent, List.filter_cons]
    by_cases same : raised flags line new = raised flags line old <;> simp [same]

/-- The events for the modem lines are the edges between the snapshots that were read. -/
theorem line_events_are_the_edges (labels : List PollLabel) {opening : Opening}
    {first : BitVec 32} {stack eis : EventInfo}
    (started : initialiseEventInfoStruct build.tiocsergetlsr opening (eventLoopEntry stack) =
      some eis)
    (sampled : opening.tiocmget = some first) :
    let words := readings build flags Poll.tiocmget labels eis
    let last := pollRun build flags labels eis
    last.omflags = words.getLastD first ∧
    (∀ poll, (reportSerialEvents build flags poll last).lineEvents = last.lineEvents ++
      match reading build Poll.tiocmget poll last with
      | some mflags =>
        (modemLines.filter fun line => raised flags line mflags ≠ raised flags line last.omflags).map
          fun line => (line.event, raised flags line mflags)
      | none => []) ∧
    ∀ line : ModemLine, (raised flags line first :: last.deliveredOf line.event).IsChain (· ≠ ·) ∧
      (last.deliveredOf line.event).getLastD (raised flags line first) =
        raised flags line last.omflags := by
  have opened := initialise_started started
  have ready := (pollRun_ready build flags labels opened.ready).1
  have run := pollRun_lines build flags labels opened.ready
  rw [opened.omflags first sampled] at run
  have none (line : ModemLine) : eis.deliveredOf line.event = [] := by
    simp [EventInfo.deliveredOf, opened.delivered]
  refine ⟨run.1, ?_, ?_⟩
  · intro poll
    have lines := (poll_lines build flags poll ready.listening).2
    rw [lines]
    congr 1
    cases reading build Poll.tiocmget poll (pollRun build flags labels eis) with
    | none => rfl
    | some mflags =>
      simp only [Option.toList_some, List.flatMap_cons, List.flatMap_nil, List.append_nil]
      exact flatMap_lineEvent flags _ mflags modemLines
  · intro line
    have delivered := run.2 line
    rw [none, List.nil_append] at delivered
    rw [delivered]
    constructor
    · exact edges_alternate _ _
    · rw [edges_last, run.1]
      exact List.getLastD_map

theorem line_events_of_a_poll :
    let build : PollBuild := ⟨false, false⟩
    let opening : Opening := ⟨5, true, none, some 0x040, true⟩
    let stack : EventInfo :=
      ⟨0, fun _ => true, true, 0, 0, 0, true, true, 2, false, true, true, true, .zero, [], []⟩
    let eis : EventInfo :=
      ⟨5, fun _ => false, true, 0, 0, 0x040, false, false, 0, true, false, false, false, .zero, [],
        []⟩
    let poll : PollLabel := .poll ⟨false, none, none, some 0x060, 0, 0⟩
    initialiseEventInfoStruct build.tiocsergetlsr opening (eventLoopEntry stack) = some eis ∧
      ((pollRun build .common [poll] eis).deliveredOf .cts).getLastD false = true := by
  intro build opening stack eis poll
  have started : initialiseEventInfoStruct build.tiocsergetlsr opening (eventLoopEntry stack) =
      some eis := rfl
  have words : readings build .common Poll.tiocmget [poll] eis = [0x060] := rfl
  have told := line_events_are_the_edges build .common [poll] started rfl
  have last := (told.2.2 .cts).2
  rw [told.1, words] at last
  exact ⟨started, last⟩

end Rxtx.SerialImp
