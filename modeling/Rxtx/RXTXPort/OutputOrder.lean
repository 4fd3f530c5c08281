import Rxtx.Library.Ledger
import Rxtx.RXTXPort.LifeCycle
import Rxtx.RXTXPort.OutputStream
import Rxtx.SerialImp.OutputEmpty
import Rxtx.SerialImp.WriteMarks

open Runs

namespace Rxtx.SerialImp

def NativeWrite.bytes : NativeWrite → List UInt8
  | .writeByte ji => [ji.toUInt32.toUInt8]
  | .writeArray body offset count => (body.drop offset).take count

def NativeWrite.offer (native : NativeWrite) (s : WriteLoop) (result : WriteResult) : WriteLoop :=
  match native with
  | .writeByte ji => writeOnce [ji.toUInt32.toUInt8] 0 1 ⟨0, none, 0, []⟩ result
  | .writeArray body offset count => writeOnce body offset count s result

def NativeWrite.again (s : WriteLoop) : NativeWrite → Bool
  | .writeByte _ => s.result < 0 && s.errno = some .eintr
  | .writeArray _ _ count => writeAgain count s

def NativeWrite.method : NativeWrite → String
  | .writeByte _ => "writeByte"
  | .writeArray _ _ _ => "writeArray"

def NativeWrite.loop (native : NativeWrite) : WriteLoop → List WriteResult → Option WriteLoop
  | _, [] => none
  | s, r :: results =>
    let s := native.offer s r
    if native.again s then native.loop s results else some s

def WriteLoop.start : WriteLoop := ⟨0, none, 0, []⟩

theorem writeByteLoop_eq (ji : Int32) (s : WriteLoop) (results : List WriteResult) :
    writeByteLoop ji.toUInt32.toUInt8 results = (NativeWrite.writeByte ji).loop s results := by
  induction results generalizing s with
  | nil => rfl
  | cons r results ih =>
    rw [NativeWrite.loop, ← ih]
    rfl

theorem writeLoop_eq (body : List UInt8) (offset count : Nat) (s : WriteLoop)
    (results : List WriteResult) :
    writeLoop body offset count s results =
      (NativeWrite.writeArray body offset count).loop s results := by
  induction results generalizing s with
  | nil => rfl
  | cons r results ih =>
    rw [NativeWrite.loop, ← ih]
    rfl

theorem NativeWrite.run_eq (native : NativeWrite) (context : WriteContext) (interrupted : Bool)
    (results : List WriteResult) :
    native.run context interrupted results =
      (native.loop .start results).map (afterLoop context interrupted native.method) := by
  cases native with
  | writeByte ji =>
    rw [← writeByteLoop_eq]
    apply writeByte_eq
  | writeArray body offset count =>
    rw [← writeLoop_eq]
    apply writeArray_eq

structure WriteLoop.Untaken (s : WriteLoop) : Prop where
  total : s.total = 0
  chunks : s.chunks = []

theorem WriteLoop.Untaken.offer_fails {s : WriteLoop} (untaken : s.Untaken) (native : NativeWrite)
    (errno : Errno) :
    (native.offer s (.fails errno)).Untaken ∧ (native.offer s (.fails errno)).result < 0 := by
  cases native with
  | writeByte ji => exact ⟨⟨rfl, rfl⟩, Int.negSucc_lt_zero 0⟩
  | writeArray body offset count =>
    exact ⟨⟨untaken.total, untaken.chunks⟩, Int.negSucc_lt_zero 0⟩

theorem NativeWrite.again_taken {s : WriteLoop} (taken : 0 ≤ s.result) (native : NativeWrite) :
    native.again s = false := by
  have noError : decide (s.result < 0) = false := decide_eq_false (Int.not_lt.mpr taken)
  cases native with
  | writeByte ji => rw [again, noError, Bool.false_and]
  | writeArray body offset count => rw [again, writeAgain, noError, Bool.false_and, Bool.and_false]

theorem WriteLoop.Untaken.offer_accepts {s : WriteLoop} (untaken : s.Untaken) (native : NativeWrite)
    (bytes : Nat) :
    (native.offer s (.accepts bytes)).chunks = [native.bytes.take bytes] ∧
      0 ≤ (native.offer s (.accepts bytes)).result := by
  cases native with
  | writeByte ji =>
    refine ⟨?_, Int.natCast_nonneg _⟩
    simp [NativeWrite.offer, NativeWrite.bytes, writeOnce, List.take_eq_take_iff]
  | writeArray body offset count =>
    refine ⟨?_, Int.natCast_nonneg _⟩
    simp [NativeWrite.offer, NativeWrite.bytes, writeOnce, untaken.total, untaken.chunks,
      List.take_take]

end Rxtx.SerialImp

namespace Rxtx.RXTXPort

open Ledger (Book Phase Event Moves)
open Rxtx.SerialImp

inductive NativeOutput where
  | write (native : NativeWrite)
  | drain

inductive OutputMethod where
  | write (args : WriteArgs)
  | flush

structure OutputCall where
  fields : Port
  method : OutputMethod

inductive Reached where
  | waits
  | ends (ending : Except JavaException Unit)
  | native (call : NativeOutput)

def WriteArgs.reached (p : Port) : WriteArgs → Reached
  | .int b =>
    if p.speed = 0 then .ends (.ok ())
    else if p.monThreadisInterrupted then .ends (.ok ())
    else if p.monitorThreadLock then .waits
    else if p.fd = 0 then .ends (.error .io)
    else .native (.write (.writeByte b))
  | .bytes b =>
    if p.speed = 0 then .ends (.ok ())
    else if p.monThreadisInterrupted then .ends (.ok ())
    else if p.fd = 0 then .ends (.error .io)
    else if p.monitorThreadLock then .waits
    else match b with
      | none => .ends (.error .nullPointer)
      | some b => .native (.write (.writeArray b.elements 0 b.elements.length))
  | .slice b off len =>
    if p.speed = 0 then .ends (.ok ())
    else match b with
      | none => .ends (.error .nullPointer)
      | some b =>
        if off + len > b.length then .ends (.error .indexOutOfBounds)
        else if len < 0 then .ends (.error .negativeArraySize)
        else if off < 0 ∨ (b.elements.length : Int) < off.toInt + len.toInt then
          .ends (.error .arrayIndexOutOfBounds) -- System.arraycopy
        else if p.fd = 0 then .ends (.error .io)
        else if p.monThreadisInterrupted then .ends (.ok ())
        else if p.monitorThreadLock then .waits
        else
          let send := (b.elements.drop off.toInt.toNat).take len.toInt.toNat
          .native (.write (.writeArray send 0 len.toInt.toNat))

def flushReached (p : Port) : Reached :=
  if p.speed = 0 then .ends (.ok ())
  else if p.fd = 0 then .ends (.error .io)
  else if p.monThreadisInterrupted then .ends (.ok ())
  else if p.monitorThreadLock then .waits
  else .native .drain

def OutputCall.reached (call : OutputCall) : Reached :=
  match call.method with
  | .write args => args.reached call.fields
  | .flush => flushReached call.fields

/-- What `write` makes of a call, where its native part ends like `native`. -/
def Reached.written (native : Except JavaException Unit) : Reached → Option WriteCall
  | .waits => none
  | .ends ending => some (.ends ending)
  | .native (.write call) => some ⟨call.bytes, native⟩
  | .native .drain => some (.ends native)

theorem lowByte (b : Int32) : b.toInt8.toUInt8 = b.toUInt32.toUInt8 := by
  apply UInt8.eq_of_toBitVec_eq
  simp [BitVec.signExtend_eq_setWidth_of_le]

theorem write_reached (p : Port) (native : Except JavaException Unit) (args : WriteArgs) :
    write p native args = (args.reached p).written native := by
  cases args with
  | int b =>
    simp only [write, writeInt, WriteArgs.reached, lowByte]
    split_ifs <;> rfl
  | bytes b =>
    simp only [write, writeBytes, WriteArgs.reached, Port.callNative]
    cases b with
    | none => split_ifs <;> rfl
    | some b =>
      simp only []
      split_ifs <;> simp [Reached.written, NativeWrite.bytes]
  | slice b off len =>
    simp only [write, writeSlice, WriteArgs.reached, Port.callNative]
    cases b with
    | none => split_ifs <;> rfl
    | some b =>
      simp only []
      split_ifs <;> simp [Reached.written, NativeWrite.bytes]

inductive OutputEnd where
  | returns
  | throws (exception : JavaException)
  | crashes
  deriving DecidableEq, Repr

def OutputEnd.ofJava : Except JavaException Unit → OutputEnd
  | .ok () => .returns
  | .error exception => .throws exception

def OutputEnd.ofNative : WriteEnd → OutputEnd
  | .returns _ => .returns
  | .throwsIOException _ _ => .throws .io
  | .nullDereference => .crashes

/-- Where a call stands: in the loop over `WRITE`, behind it, or at a `tcdrain`. -/
inductive OutputStage where
  | writes (native : NativeWrite) (s : WriteLoop)
  | wrote (native : NativeWrite) (s : WriteLoop)
  | drains (count : Nat)
  | ended (ending : OutputEnd)

/-- `line` are the bytes that the device took, of which the first `sent` have left. An observer logs
    what it took in one `WRITE`, and from whom. -/
structure OutputLine (I : Type) where
  call : I → Option (OutputCall × OutputStage)
  line : List UInt8
  sent : Nat
  log : List (I × List UInt8)

/-- What `nativeDrain` finds when its `tcdrain` is over: its argument, the field `eis`, and where
    there are structs. -/
structure DrainContext where
  interrupted : Bool
  eis : BitVec 64
  there : BitVec 64 → Bool

inductive LineMove (I : Type) where
  | begins (caller : I) (call : OutputCall)
  | writes (caller : I) (result : WriteResult)
  | returns (caller : I) (context : WriteContext)
  | drains (caller : I) (reply : Tcdrain) (context : DrainContext)
  | transmits (count : Nat)

def drainAgain (count : Nat) (reply : Tcdrain) : Bool := reply = .eintr ∧ count + 1 < 3

def tcdrainLoop : Nat → List Tcdrain → Option Tcdrain
  | _, [] => none
  | count, reply :: replies =>
    if drainAgain count reply then tcdrainLoop (count + 1) replies else some reply

/-- How `flush` ends behind the loop of `nativeDrain`, the listener of its event left out; `sun` is a
    build with `__sun__`. -/
def drainEnd (sun : Bool) (context : DrainContext) (last : Tcdrain) : OutputEnd :=
  let eis := getJavaVar context.eis
  if sun then .returns
  else if last ≠ .zero then .throws .io
  else if context.interrupted then .returns
  else if eis ≠ 0 && !context.there eis then .crashes
  else .returns

section

variable {I : Type} [DecidableEq I]

def OutputLine.opened : OutputLine I := ⟨fun _ => none, [], 0, []⟩

def OutputLine.goto (s : OutputLine I) (caller : I) (call : OutputCall) (stage : OutputStage) :
    OutputLine I :=
  { s with call := Function.update s.call caller (some (call, stage)) }

def Reached.stage : Reached → Option OutputStage
  | .waits => none
  | .ends ending => some (.ended (.ofJava ending))
  | .native (.write call) => some (.writes call .start)
  | .native .drain => some (.drains 0)

def OutputLine.takes (s : OutputLine I) (caller : I) (result : WriteResult) (chunk : List UInt8) :
    OutputLine I :=
  match result with
  | .accepts _ => { s with line := s.line ++ chunk, log := s.log ++ [(caller, chunk)] }
  | .fails _ => s

def drainStage (sun : Bool) (context : DrainContext) (count : Nat) (reply : Tcdrain) :
    OutputStage :=
  if drainAgain count reply then .drains (count + 1) else .ended (drainEnd sun context reply)

/-- One `WRITE`, or one `tcdrain`, is one step; the latter succeeds when nothing is left in the
    queue. -/
def lineMove (sun : Bool) (move : LineMove I) (s : OutputLine I) : Option (OutputLine I) :=
  match move with
  | .begins caller call =>
    if (s.call caller).isSome then none else call.reached.stage.map (s.goto caller call)
  | .writes caller result =>
    match s.call caller with
    | some (call, .writes native before) =>
      let after := native.offer before result
      let chunk := (after.chunks.drop before.chunks.length).flatten
      some ((s.goto caller call
        (if native.again after then .writes native after else .wrote native after)).takes
          caller result chunk)
    | _ => none
  | .returns caller context =>
    match s.call caller with
    | some (call, .wrote native after) =>
      let run := afterLoop context call.fields.monThreadisInterrupted native.method after
      some (s.goto caller call (.ended (.ofNative run.ending)))
    | _ => none
  | .drains caller reply context =>
    match s.call caller with
    | some (call, .drains count) =>
      if reply = .zero ∧ s.sent < s.line.length then none
      else some (s.goto caller call (drainStage sun context count reply))
    | _ => none
  | .transmits count =>
    if s.sent + count ≤ s.line.length then some { s with sent := s.sent + count } else none

/-- A call ended as it does alone, with what the system answered it, and this is all that it
    entered in the log. -/
inductive EndsAlone (sun : Bool) (entered : List UInt8 → Prop) : Reached → OutputEnd → Prop
  | java (ending : Except JavaException Unit) (nothing : ∀ chunk, ¬ entered chunk) :
      EndsAlone sun entered (.ends ending) (.ofJava ending)
  | write {native : NativeWrite} {context : WriteContext} {interrupted : Bool}
      {results : List WriteResult} {run : WriteRun}
      (ran : native.run context interrupted results = some run)
      (front : run.chunks.flatten <+: native.bytes)
      (taken : ∀ chunk, entered chunk ↔ run.ending.Successful ∧ chunk = run.chunks.flatten) :
      EndsAlone sun entered (.native (.write native)) (.ofNative run.ending)
  | drain {replies : List Tcdrain} {last : Tcdrain} (context : DrainContext)
      (ran : tcdrainLoop 0 replies = some last) (nothing : ∀ chunk, ¬ entered chunk) :
      EndsAlone sun entered (.native .drain) (drainEnd sun context last)

inductive Fits (sun : Bool) (entered : List UInt8 → Prop) (reached : Reached) : OutputStage → Prop
  | writes {native : NativeWrite} {s : WriteLoop} (here : reached = .native (.write native))
      (untaken : s.Untaken)
      (answered : ∃ results, ∀ rest, native.loop .start (results ++ rest) = native.loop s rest)
      (nothing : ∀ chunk, ¬ entered chunk) : Fits sun entered reached (.writes native s)
  | wrote {native : NativeWrite} {s : WriteLoop} (here : reached = .native (.write native))
      (answered : ∃ results, native.loop .start results = some s)
      (front : s.chunks.flatten <+: native.bytes)
      (taken : ∀ chunk, entered chunk ↔ 0 ≤ s.result ∧ chunk = s.chunks.flatten) :
      Fits sun entered reached (.wrote native s)
  | drains {count : Nat} (here : reached = .native .drain)
      (answered : ∃ replies, ∀ rest, tcdrainLoop 0 (replies ++ rest) = tcdrainLoop count rest)
      (nothing : ∀ chunk, ¬ entered chunk) : Fits sun entered reached (.drains count)
  | ended {ending : OutputEnd} (alone : EndsAlone sun entered reached ending) :
      Fits sun entered reached (.ended ending)

def OutputLine.Entered (s : OutputLine I) (caller : I) (chunk : List UInt8) : Prop :=
  (caller, chunk) ∈ s.log

structure OutputLine.Sound (sun : Bool) (s : OutputLine I) : Prop where
  line : s.line = s.log.flatMap Prod.snd
  sent : s.sent ≤ s.line.length
  fits : ∀ caller call stage, s.call caller = some (call, stage) →
    Fits sun (s.Entered caller) call.reached stage
  unseen : ∀ caller, s.call caller = none → ∀ chunk, ¬ s.Entered caller chunk

theorem afterLoop_chunks (context : WriteContext) (interrupted : Bool) (method : String)
    (s : WriteLoop) : (afterLoop context interrupted method s).chunks = s.chunks := by
  unfold afterLoop
  split_ifs
  · rfl
  · rfl
  · cases markWriting context.fd context.masterIndex <;> rfl

theorem afterLoop_successful (context : WriteContext) (interrupted : Bool) (method : String)
    (s : WriteLoop) :
    (afterLoop context interrupted method s).ending.Successful ↔ 0 ≤ s.result := by
  unfold afterLoop
  split_ifs with failed
  · exact iff_of_false (fun successful => successful _ _ rfl) (by omega)
  · exact iff_of_true (fun _ _ => by simp) (by omega)
  · cases markWriting context.fd context.masterIndex with
    | none => exact iff_of_true (fun _ _ => by simp) (by omega)
    | some masterIndex => exact iff_of_true (fun _ _ => by simp) (by omega)

variable {sun : Bool} {entered : List UInt8 → Prop} {reached : Reached}

theorem Reached.fits {stage : OutputStage} (begins : reached.stage = some stage)
    (nothing : ∀ chunk, ¬ entered chunk) : Fits sun entered reached stage := by
  cases reached with
  | waits => cases begins
  | ends ending =>
    cases begins
    exact .ended (.java ending nothing)
  | native call =>
    cases call with
    | write native =>
      cases begins
      exact .writes rfl ⟨rfl, rfl⟩ ⟨[], fun rest => rfl⟩ nothing
    | drain =>
      cases begins
      exact .drains rfl ⟨[], fun rest => rfl⟩ nothing

theorem Fits.fails {native : NativeWrite} {s : WriteLoop}
    (fits : Fits sun entered reached (.writes native s)) (errno : Errno) :
    Fits sun entered reached
      (if native.again (native.offer s (.fails errno)) then
        .writes native (native.offer s (.fails errno))
      else .wrote native (native.offer s (.fails errno))) := by
  cases fits with
  | writes here untaken answered nothing =>
    obtain ⟨results, answered⟩ := answered
    obtain ⟨still, failed⟩ := untaken.offer_fails native errno
    have next (rest : List WriteResult) := answered (.fails errno :: rest)
    simp only [NativeWrite.loop] at next
    split_ifs with again
    · refine .writes here still ⟨results ++ [.fails errno], ?_⟩ nothing
      intro rest
      rw [List.append_assoc, List.singleton_append, next, if_pos again]
    · refine .wrote here ⟨results ++ [.fails errno], ?_⟩ ?_ ?_
      · rw [next, if_neg again]
      · rw [still.chunks]
        exact List.nil_prefix
      · intro chunk
        exact iff_of_false (nothing chunk) (by omega)

theorem Fits.accepts {native : NativeWrite} {s : WriteLoop}
    (fits : Fits sun entered reached (.writes native s)) (bytes : Nat) {after : WriteLoop}
    (offered : native.offer s (.accepts bytes) = after) :
    native.again after = false ∧
      Fits sun (fun chunk => entered chunk ∨ chunk = (after.chunks.drop s.chunks.length).flatten)
        reached (.wrote native after) ∧ 0 ≤ after.result := by
  cases fits with
  | writes here untaken answered nothing =>
    obtain ⟨results, answered⟩ := answered
    obtain ⟨chunks, taken⟩ := untaken.offer_accepts native bytes
    rw [offered] at chunks taken
    have done : native.again after = false := native.again_taken taken
    refine ⟨done, .wrote here ⟨results ++ [.accepts bytes], ?_⟩ ?_ ?_, taken⟩
    · rw [answered]
      simp [NativeWrite.loop, offered, done]
    · rw [chunks, List.flatten_singleton]
      exact List.take_prefix bytes native.bytes
    · intro chunk
      simp [nothing chunk, taken, untaken.chunks]

theorem Fits.returns {native : NativeWrite} {s : WriteLoop}
    (fits : Fits sun entered reached (.wrote native s)) (context : WriteContext)
    (interrupted : Bool) :
    Fits sun entered reached
      (.ended (.ofNative (afterLoop context interrupted native.method s).ending)) := by
  cases fits with
  | wrote here answered front taken =>
    obtain ⟨results, answered⟩ := answered
    have chunks := afterLoop_chunks context interrupted native.method s
    have ran : native.run context interrupted results =
        some (afterLoop context interrupted native.method s) := by
      rw [native.run_eq, answered, Option.map_some]
    subst here
    refine .ended (.write ran ?_ ?_)
    · rw [chunks]
      exact front
    · intro chunk
      rw [chunks, afterLoop_successful]
      exact taken chunk

theorem Fits.drained {count : Nat} (fits : Fits sun entered reached (.drains count))
    (context : DrainContext) (reply : Tcdrain) :
    Fits sun entered reached (drainStage sun context count reply) := by
  cases fits with
  | drains here answered nothing =>
    obtain ⟨replies, answered⟩ := answered
    have next (rest : List Tcdrain) := answered (reply :: rest)
    simp only [tcdrainLoop] at next
    unfold drainStage
    split_ifs with again
    · refine .drains here ⟨replies ++ [reply], ?_⟩ nothing
      intro rest
      rw [List.append_assoc, List.singleton_append, next, if_pos again]
    · subst here
      have ran : tcdrainLoop 0 (replies ++ [reply]) = some reply := by
        rw [next, if_neg again]
      exact .ended (.drain context ran nothing)

theorem drainStage_returns {context : DrainContext} {count : Nat} {reply : Tcdrain}
    (returned : drainStage false context count reply = .ended .returns) : reply = .zero := by
  by_contra other
  have ended : drainEnd false context reply = .throws .io := if_pos other
  unfold drainStage at returned
  rw [ended] at returned
  split_ifs at returned
  cases returned

def OutputStage.phase : OutputStage → Phase
  | .writes _ _ | .drains _ => .running
  | .wrote _ s => if s.result < 0 then .running else .entered
  | .ended _ => .ended

def OutputLine.book (s : OutputLine I) : Book I (List UInt8) where
  phase caller := (s.call caller).elim .idle fun here => here.2.phase
  log := s.log

def OutputLine.enters (s : OutputLine I) (caller : I) (chunk : List UInt8) : OutputLine I :=
  { s with line := s.line ++ chunk, log := s.log ++ [(caller, chunk)] }

inductive Steps (sun : Bool) (s : OutputLine I) : OutputLine I → Prop
  | goes {caller : I} {call : OutputCall} {stage : OutputStage}
      (fits : Fits sun (s.Entered caller) call.reached stage)
      (moves : ∃ event, Moves s.book event (s.book.at caller stage.phase))
      (empty : sun = false → call.reached = .native .drain → stage = .ended .returns →
        s.line.length ≤ s.sent) : Steps sun s (s.goto caller call stage)
  | enters {caller : I} {call : OutputCall} {stage : OutputStage} {chunk : List UInt8}
      (fits : Fits sun (fun taken => s.Entered caller taken ∨ taken = chunk) call.reached stage)
      (running : s.book.phase caller = .running) (entered : stage.phase = .entered)
      (write : call.reached ≠ .native .drain) :
      Steps sun s ((s.goto caller call stage).enters caller chunk)
  | transmits {count : Nat} (queued : s.sent + count ≤ s.line.length) :
      Steps sun s { s with sent := s.sent + count }

omit [DecidableEq I] in
theorem book_phase {s : OutputLine I} {caller : I} {call : OutputCall} {stage : OutputStage}
    (here : s.call caller = some (call, stage)) : s.book.phase caller = stage.phase := by
  simp [OutputLine.book, here]

theorem book_stays {book : Book I (List UInt8)} {caller : I} {phase : Phase}
    (here : book.phase caller = phase) : ∃ event, Moves book event (book.at caller phase) := by
  refine ⟨.none, ?_⟩
  have same : book.at caller phase = book := by
    rw [Book.at, ← here, Function.update_eq_self]
  rw [same]
  exact .none book

theorem book_ends {book : Book I (List UInt8)} {caller : I} (goesOn : book.phase caller ≠ .ended) :
    ∃ event, Moves book event (book.at caller .ended) := ⟨_, .ends goesOn⟩

theorem begins_moves {s : OutputLine I} {caller : I} (idle : s.call caller = none)
    {reached : Reached} {stage : OutputStage} (begins : reached.stage = some stage) :
    ∃ event, Moves s.book event (s.book.at caller stage.phase) := by
  have phase : s.book.phase caller = .idle := by simp [OutputLine.book, idle]
  cases reached with
  | waits => cases begins
  | ends ending =>
    cases begins
    apply book_ends
    rw [phase]
    exact Phase.noConfusion
  | native call =>
    cases call with
    | write native =>
      cases begins
      exact ⟨_, .begins phase⟩
    | drain =>
      cases begins
      exact ⟨_, .begins phase⟩

theorem lineMove_steps {s s' : OutputLine I} {move : LineMove I} (sound : s.Sound sun)
    (taken : lineMove sun move s = some s') : Steps sun s s' := by
  cases move with
  | begins caller call =>
    simp only [lineMove] at taken
    split_ifs at taken with begun
    obtain ⟨stage, begins, rfl⟩ := Option.map_eq_some_iff.mp taken
    have idle : s.call caller = none := by simpa using begun
    refine .goes (Reached.fits begins (sound.unseen caller idle)) (begins_moves idle begins) ?_
    intro _ drain ended
    rw [drain, Reached.stage, ended] at begins
    cases begins
  | writes caller result =>
    simp only [lineMove] at taken
    split at taken
    next call native before here =>
      cases taken
      have fits := sound.fits caller call _ here
      have phase : s.book.phase caller = .running := book_phase here
      have write : call.reached ≠ .native .drain := by
        cases fits with
        | writes reached => simp [reached]
      cases result with
      | fails errno =>
        refine .goes (fits.fails errno) ?_ fun _ drain => absurd drain write
        apply book_stays
        rw [phase]
        split_ifs
        · rfl
        · cases fits with
          | writes reached untaken =>
            exact (if_pos (untaken.offer_fails native errno).2).symm
      | accepts bytes =>
        obtain ⟨done, after, some⟩ := fits.accepts bytes rfl
        simp only [done, Bool.false_eq_true, if_false]
        exact .enters after phase (if_neg (Int.not_lt.mpr some)) write
    next => cases taken
  | returns caller context =>
    simp only [lineMove] at taken
    split at taken
    next call native after here =>
      cases taken
      have fits := sound.fits caller call _ here
      refine .goes (fits.returns context call.fields.monThreadisInterrupted) ?_ ?_
      · apply book_ends
        rw [book_phase here, OutputStage.phase]
        split_ifs <;> exact Phase.noConfusion
      · intro _ drain
        cases fits with
        | wrote reached => cases reached.symm.trans drain
    next => cases taken
  | drains caller reply context =>
    simp only [lineMove] at taken
    split at taken
    next call count here =>
      split_ifs at taken with early
      cases taken
      refine .goes ((sound.fits caller call _ here).drained context reply) ?_ ?_
      · have phase : s.book.phase caller = .running := book_phase here
        unfold drainStage
        split_ifs
        · exact book_stays phase
        · exact book_ends (by simp [phase])
      · intro notSun drain ended
        subst notSun
        have zero : reply = .zero := drainStage_returns ended
        exact Nat.not_lt.mp fun queued => early ⟨zero, queued⟩
    next => cases taken
  | transmits count =>
    simp only [lineMove] at taken
    split_ifs at taken with queued
    cases taken
    exact .transmits queued

theorem goto_call (s : OutputLine I) (caller other : I) (call : OutputCall) (stage : OutputStage) :
    (s.goto caller call stage).call other =
      if other = caller then some (call, stage) else s.call other :=
  Function.update_apply s.call caller (some (call, stage)) other

theorem goto_book (s : OutputLine I) (caller : I) (call : OutputCall) (stage : OutputStage) :
    (s.goto caller call stage).book = s.book.at caller stage.phase := by
  have phases : (s.goto caller call stage).book.phase = (s.book.at caller stage.phase).phase := by
    funext other
    rw [Book.at_phase]
    show ((s.goto caller call stage).call other).elim Phase.idle _ = _
    rw [goto_call]
    by_cases same : other = caller
    · rw [if_pos same, if_pos same]
      rfl
    · rw [if_neg same, if_neg same]
      rfl
  exact congrArg (Book.mk · s.log) phases

theorem Steps.moves {s s' : OutputLine I} (steps : Steps sun s s') :
    ∃ event, Moves s.book event s'.book := by
  cases steps with
  | goes fits moves =>
    rw [goto_book]
    exact moves
  | @enters caller call stage chunk fits running entered =>
    refine ⟨.enters caller chunk, ?_⟩
    have book : ((s.goto caller call stage).enters caller chunk).book =
        { s.book.at caller .entered with log := s.book.log ++ [(caller, chunk)] } := by
      rw [← entered, ← goto_book s caller call stage]
      rfl
    rw [book]
    exact .enters running chunk
  | transmits => exact ⟨.none, .none s.book⟩

theorem Sound.goto {s : OutputLine I} (sound : s.Sound sun) {caller : I} {call : OutputCall}
    {stage : OutputStage} (fits : Fits sun (s.Entered caller) call.reached stage) :
    (s.goto caller call stage).Sound sun where
  line := sound.line
  sent := sound.sent
  fits := by
    intro other call' stage' here
    rw [goto_call] at here
    by_cases same : other = caller
    · rw [if_pos same] at here
      cases here
      exact same ▸ fits
    · rw [if_neg same] at here
      exact sound.fits other call' stage' here
  unseen := by
    intro other idle
    rw [goto_call] at idle
    by_cases same : other = caller
    · rw [if_pos same] at idle
      cases idle
    · rw [if_neg same] at idle
      exact sound.unseen other idle

theorem Sound.enters {s : OutputLine I} (sound : s.Sound sun) {caller : I} {call : OutputCall}
    {stage : OutputStage} {chunk : List UInt8}
    (fits : Fits sun (fun taken => s.Entered caller taken ∨ taken = chunk) call.reached stage) :
    ((s.goto caller call stage).enters caller chunk).Sound sun := by
  have entered (other : I) (taken : List UInt8) :
      ((s.goto caller call stage).enters caller chunk).Entered other taken ↔
        s.Entered other taken ∨ other = caller ∧ taken = chunk := by
    show (other, taken) ∈ s.log ++ [(caller, chunk)] ↔ _
    rw [List.mem_append, List.mem_singleton, Prod.mk.injEq]
    rfl
  refine ⟨?_, ?_, ?_, ?_⟩
  · show s.line ++ chunk = (s.log ++ [(caller, chunk)]).flatMap Prod.snd
    rw [List.flatMap_append, ← sound.line, List.flatMap_singleton]
  · show s.sent ≤ (s.line ++ chunk).length
    have sent := sound.sent
    rw [List.length_append]
    omega
  · intro other call' stage' here
    change (s.goto caller call stage).call other = _ at here
    rw [goto_call] at here
    by_cases same : other = caller
    · rw [if_pos same] at here
      cases here
      subst same
      have all : ((s.goto other call stage).enters other chunk).Entered other =
          fun taken => s.Entered other taken ∨ taken = chunk := by
        funext taken
        simpa using entered other taken
      rw [all]
      exact fits
    · rw [if_neg same] at here
      have all : ((s.goto caller call stage).enters caller chunk).Entered other =
          s.Entered other := by
        funext taken
        simpa [same] using entered other taken
      rw [all]
      exact sound.fits other call' stage' here
  · intro other idle taken
    change (s.goto caller call stage).call other = _ at idle
    rw [goto_call] at idle
    by_cases same : other = caller
    · rw [if_pos same] at idle
      cases idle
    · rw [if_neg same] at idle
      rw [entered]
      exact not_or.mpr ⟨sound.unseen other idle taken, fun new => same new.1⟩

theorem Steps.sound {s s' : OutputLine I} (steps : Steps sun s s') (sound : s.Sound sun) :
    s'.Sound sun := by
  cases steps with
  | goes fits => exact Sound.goto sound fits
  | enters fits => exact Sound.enters sound fits
  | transmits queued => exact ⟨sound.line, queued, sound.fits, sound.unseen⟩

omit [DecidableEq I] in
theorem opened_sound : (OutputLine.opened : OutputLine I).Sound sun where
  line := rfl
  sent := Nat.le_refl 0
  fits _ _ _ here := by cases here
  unseen _ _ _ logged := by cases logged

omit [DecidableEq I] in
theorem opened_kept : Ledger.Kept (OutputLine.opened : OutputLine I).book where
  once := List.nodup_nil
  absent _ logged := by cases logged
  entered _ phase := by cases phase

theorem run_sound {labels : List (LineMove I)} {s s' : OutputLine I} (sound : s.Sound sun)
    (path : Path (Takes (lineMove sun)) s labels s') :
    s'.Sound sun ∧ ∃ events, Path Moves s.book events s'.book := by
  induction path with
  | nil s => exact ⟨sound, [], .nil _⟩
  | cons taken _ ih =>
    have steps := lineMove_steps sound taken
    obtain ⟨last, events, rest⟩ := ih (steps.sound sound)
    obtain ⟨event, moves⟩ := steps.moves
    exact ⟨last, event :: events, .cons moves rest⟩

/-- So many bytes stay in the line, and have left once a `flush` has returned that began with them
    there, but for Solaris. -/
structure Drains (sun : Bool) (length : Nat) (idle : I → Prop) (s : OutputLine I) : Prop where
  sound : s.Sound sun
  line : length ≤ s.line.length
  flushed : sun = false → ∀ caller call, idle caller → call.reached = .native .drain →
    s.call caller = some (call, .ended .returns) → length ≤ s.sent

theorem Drains.step {length : Nat} {idle : I → Prop} {s s' : OutputLine I} {move : LineMove I}
    (drains : Drains sun length idle s) (taken : lineMove sun move s = some s') :
    Drains sun length idle s' := by
  have steps := lineMove_steps drains.sound taken
  refine ⟨steps.sound drains.sound, ?_, ?_⟩
  · cases steps with
    | goes => exact drains.line
    | @enters caller call stage chunk =>
      show length ≤ (s.line ++ chunk).length
      have line := drains.line
      rw [List.length_append]
      omega
    | transmits => exact drains.line
  · intro notSun other call' begun drain here
    cases steps with
    | @goes caller call stage fits moves empty =>
      rw [goto_call] at here
      by_cases same : other = caller
      · rw [if_pos same] at here
        obtain ⟨rfl, ended⟩ := Prod.mk.inj (Option.some.inj here)
        exact Nat.le_trans drains.line (empty notSun drain ended)
      · rw [if_neg same] at here
        exact drains.flushed notSun other call' begun drain here
    | @enters caller call stage chunk fits running entered write =>
      change (s.goto caller call stage).call other = _ at here
      rw [goto_call] at here
      by_cases same : other = caller
      · rw [if_pos same] at here
        obtain ⟨rfl, -⟩ := Prod.mk.inj (Option.some.inj here)
        exact absurd drain write
      · rw [if_neg same] at here
        exact drains.flushed notSun other call' begun drain here
    | transmits => exact Nat.le_add_right_of_le (drains.flushed notSun other call' begun drain here)

def openPort : Port :=
  { Port.declared 3 with monThreadisInterrupted := false, monitorThreadLock := false }

def twoWrites : List (LineMove Nat) :=
  [.begins 0 ⟨openPort, .write (.bytes (some ⟨[1, 2, 3], by decide⟩))⟩,
    .begins 1 ⟨openPort, .write (.int 7)⟩, .writes 0 (.fails .eintr), .writes 1 (.accepts 1),
    .writes 0 (.accepts 2), .returns 0 ⟨true, 3, []⟩]

def drainedFlush : List (LineMove Nat) :=
  [.begins 2 ⟨openPort, .flush⟩, .drains 2 .eintr ⟨false, 0, fun _ => false⟩, .transmits 3,
    .drains 2 .zero ⟨false, 0, fun _ => false⟩]

end

end Rxtx.RXTXPort
