import Rxtx.Library.Runs
import Rxtx.LPRPort.ReadArray
import Rxtx.RXTXPort.Fields

open Runs
open Rxtx.RXTXPort (JByteArray JavaException)
open Rxtx.SerialImp (ReadResult Store sizeT ssizeMax)

namespace Rxtx.LPRPort

/-- `b` is the array as `GetByteArrayElements` finds it. -/
inductive InputMethod where
  | read
  | readBytes (b : Option JByteArray)
  | readSlice (b : Option JByteArray) (off len : Int32)

structure InputCall where
  port : Port
  malloc : Bool
  errorMsg : String
  method : InputMethod

inductive InputEnd where
  /-- The array was written back, as a whole. -/
  | returns (value : Int32) (array : Option (List UInt8))
  | throws (exception : JavaException)
  /-- Native code writes where there is no array. -/
  | faults
  deriving DecidableEq, Repr

structure NativeRead where
  length : Nat
  threshold : Int32
  timeout : Int32

inductive Reached where
  | ends (ending : InputEnd)
  | reads (native : NativeRead)

def InputCall.reachedArray (call : InputCall) (length : Int32) : Reached :=
  if sizeT length.toInt < 1 ∨ ssizeMax < sizeT length.toInt then .ends (.throws .io)
  else if !call.malloc then .ends (.throws .io)
  else .reads ⟨length.toInt.toNat, call.port.getJavaVar "threshold",
    call.port.getJavaVar "threshold"⟩

def InputCall.reached (call : InputCall) : Reached :=
  if call.port.fd = 0 then .ends (.throws .io)
  else
    match call.method with
    | .read => .reads ⟨1, 1, call.port.getJavaVar "timeout"⟩
    | .readBytes none => .ends (.throws .nullPointer) -- b.length
    | .readBytes (some b) => call.reachedArray b.length
    | .readSlice _ _ len => call.reachedArray len

def copyInto (body : List UInt8) (offset : Nat) : List UInt8 → List UInt8
  | [] => body
  | byte :: bytes => copyInto (body.set offset byte) (offset + 1) bytes

/-- The copy goes to `body[ i + offset ]`, wherever that is. -/
def copyEnds (b : Option JByteArray) (offset : Int32) (bytes : List UInt8) : InputEnd :=
  match b with
  | none => .faults
  | some b =>
    if bytes = [] ∨ 0 ≤ offset.toInt ∧ offset.toInt + bytes.length ≤ b.elements.length then
      .returns (if bytes = [] then -1 else Int32.ofInt bytes.length)
        (some (copyInto b.elements offset.toInt.toNat bytes))
    else .faults

def InputCall.finish (call : InputCall) (bytes : Int) (buffer : List UInt8) : InputEnd :=
  if bytes < 0 then .throws .io
  else
    match call.method with
    | .read => .returns (if bytes ≠ 0 then Int32.ofInt (buffer.headD 0).toNat else -1) none
    | .readBytes b => copyEnds b 0 buffer
    | .readSlice b off _ => copyEnds b off buffer

def InputCall.alone (call : InputCall) (turns : Nat → Turn) : InputEnd × List UInt8 :=
  match call.reached with
  | .ends ending => (ending, [])
  | .reads native =>
    let run := readByteArray native.length native.threshold native.timeout turns
    (call.finish run.bytes run.buffer, run.buffer)

/-- `read` takes what comes next on the line, and no more than so many bytes of it. -/
structure LineTurn where
  interrupted : List Timeval
  select : Int
  sleep : Timeval
  read : Option Nat

def LineTurn.on (turn : LineTurn) (line : List UInt8) : Turn :=
  ⟨turn.interrupted, turn.select, turn.sleep,
    turn.read.elim .fails fun most => .gives (line.take most)⟩

inductive TurnEnd where
  | returns (bytes : Int)
  | goesOn (chunk : List UInt8)
  deriving DecidableEq, Repr

def NativeRead.turn (native : NativeRead) (buffer : List UInt8) (turn : Turn) : TurnEnd :=
  if buffer.length < native.length ∧ (buffer.length : Int) < native.threshold.toInt then
    if native.timeout > 0 ∧ turn.select = 0 then .returns buffer.length
    else if native.timeout > 0 ∧ turn.select < 0 then .returns (-1)
    else
      match turn.read with
      | .fails => .returns (-1)
      | .gives data =>
        let chunk := data.take (native.length - buffer.length)
        if chunk = [] then .returns buffer.length else .goesOn chunk
  else .returns buffer.length

inductive InputStage where
  | reads (native : NativeRead) (buffer : List UInt8)
  | ended (ending : InputEnd)

/-- `line` is still to come. An observer logs who read what. -/
structure SharedInput (I : Type) where
  call : I → Option (InputCall × InputStage)
  line : List UInt8
  log : List (I × List UInt8)

inductive InputMove (I : Type) where
  | begins (caller : I) (call : InputCall)
  | reads (caller : I) (turn : LineTurn)

section

variable {I : Type} [DecidableEq I]

def SharedInput.opened (line : List UInt8) : SharedInput I := ⟨fun _ => none, line, []⟩

def SharedInput.goto (s : SharedInput I) (caller : I) (call : InputCall) (stage : InputStage) :
    SharedInput I :=
  { s with call := Function.update s.call caller (some (call, stage)) }

def Reached.stage : Reached → InputStage
  | .ends ending => .ended ending
  | .reads native => .reads native []

def inputMove (move : InputMove I) (s : SharedInput I) : Option (SharedInput I) :=
  match move with
  | .begins caller call =>
    if (s.call caller).isSome then none else some (s.goto caller call call.reached.stage)
  | .reads caller turn =>
    match s.call caller with
    | some (call, .reads native buffer) =>
      match native.turn buffer (turn.on s.line) with
      | .returns bytes => some (s.goto caller call (.ended (call.finish bytes buffer)))
      | .goesOn chunk =>
        some { s.goto caller call (.reads native (buffer ++ chunk)) with
          line := s.line.drop chunk.length
          log := s.log ++ [(caller, chunk)] }
    | _ => none

def SharedInput.own (s : SharedInput I) (caller : I) : List UInt8 :=
  s.log.flatMap fun entry => if entry.1 = caller then entry.2 else []

end

theorem readLoop_returns {native : NativeRead} {turns : Nat → Turn} {k : Nat} {buffer : List UInt8}
    {bytes : Int} (turn : native.turn buffer (turns k) = .returns bytes) (sleep : Timeval)
    (selects : List Select) :
    ∃ selects', readLoop native.length native.threshold native.timeout turns k sleep buffer
      selects = ⟨bytes, buffer, selects'⟩ := by
  unfold NativeRead.turn at turn
  rw [readLoop]
  by_cases more : buffer.length < native.length ∧ (buffer.length : Int) < native.threshold.toInt
  · rw [if_pos more] at turn
    rw [dif_pos more]
    simp only []
    by_cases expires : native.timeout > 0 ∧ (turns k).select = 0
    · rw [if_pos expires] at turn
      cases turn
      exact ⟨_, if_pos expires⟩
    rw [if_neg expires] at turn ⊢
    by_cases error : native.timeout > 0 ∧ (turns k).select < 0
    · rw [if_pos error] at turn
      cases turn
      exact ⟨_, if_pos error⟩
    rw [if_neg error] at turn ⊢
    cases read : (turns k).read with
    | fails =>
      simp only [read] at turn
      cases turn
      exact ⟨_, rfl⟩
    | gives data =>
      simp only [read] at turn
      split_ifs at turn with empty
      cases turn
      exact ⟨_, dif_pos empty⟩
  · rw [if_neg more] at turn
    cases turn
    exact ⟨_, dif_neg more⟩

theorem readLoop_goesOn_turn {native : NativeRead} {turns : Nat → Turn} {k : Nat}
    {buffer chunk : List UInt8} (turn : native.turn buffer (turns k) = .goesOn chunk)
    (sleep : Timeval) (selects : List Select) :
    ∃ sleep' selects', readLoop native.length native.threshold native.timeout turns k sleep buffer
        selects =
      readLoop native.length native.threshold native.timeout turns (k + 1) sleep'
        (buffer ++ chunk) selects' := by
  unfold NativeRead.turn at turn
  rw [readLoop]
  split_ifs at turn with more expires error
  rw [dif_pos more]
  simp only []
  rw [if_neg expires, if_neg error]
  cases read : (turns k).read with
  | fails =>
    simp only [read] at turn
    cases turn
  | gives data =>
    simp only [read] at turn
    split_ifs at turn with empty
    cases turn
    exact ⟨_, _, dif_neg empty⟩

theorem turn_goesOn {native : NativeRead} {buffer chunk line : List UInt8} {t : LineTurn}
    (turn : native.turn buffer (t.on line) = .goesOn chunk) :
    chunk <+: line ∧ (buffer ++ chunk).length ≤ native.length := by
  unfold NativeRead.turn at turn
  split_ifs at turn with more expires error
  cases read : t.read with
  | none => simp [LineTurn.on, read] at turn
  | some most =>
    simp only [LineTurn.on, read, Option.elim_some] at turn
    split_ifs at turn with empty
    cases turn
    refine ⟨(List.take_prefix _ _).trans (List.take_prefix most line), ?_⟩
    rw [List.length_append, List.length_take]
    omega

theorem readLoop_bounds {length : Nat} {threshold timeout : Int32} {turns : Nat → Turn} (k : Nat)
    (sleep : Timeval) (buffer : List UInt8) (selects : List Select)
    (room : buffer.length ≤ length) :
    let run := readLoop length threshold timeout turns k sleep buffer selects
    run.buffer.length ≤ length ∧ (run.bytes = -1 ∨ run.bytes = run.buffer.length) := by
  fun_induction readLoop length threshold timeout turns k sleep buffer selects with
  | case1 => exact ⟨room, .inr rfl⟩
  | case2 => exact ⟨room, .inl rfl⟩
  | case3 => exact ⟨room, .inl rfl⟩
  | case4 => exact ⟨room, .inr rfl⟩
  | case5 k sleep buffer selects more turn selects' expires error sleep' data read chunk some ih =>
    apply ih
    rw [List.length_append, List.length_take]
    omega
  | case6 => exact ⟨room, .inr rfl⟩

theorem readByteArray_bounds (native : NativeRead) (turns : Nat → Turn) :
    let run := readByteArray native.length native.threshold native.timeout turns
    run.buffer.length ≤ native.length ∧ (run.bytes = -1 ∨ run.bytes = run.buffer.length) :=
  readLoop_bounds 0 _ [] [] (Nat.zero_le _)

def ArrayRun.ends (b : Option JByteArray) (ran : ArrayRun) : InputEnd :=
  if ran.pending.isSome then .throws .io
  else
    match b with
    | none => .faults
    | some b =>
      if ∀ store ∈ ran.stores, store.data = [] ∨
          0 ≤ store.index ∧ store.index + store.data.length ≤ b.elements.length then
        .returns ran.result (some (ran.stores.foldl
          (fun body store => copyInto body store.index.toNat store.data) b.elements))
      else .faults

def InputCall.readArray (call : InputCall) (turns : Nat → Turn) (off len : Int32) : ArrayRun :=
  LPRPort.readArray (fun _ => true) call.errorMsg call.malloc call.port turns off len

theorem reachedArray_ends {call : InputCall} {turns : Nat → Turn} {b : Option JByteArray}
    {off len : Int32} {ending : InputEnd} (reached : call.reachedArray len = .ends ending) :
    (call.readArray turns off len).ends b = ending := by
  unfold InputCall.reachedArray at reached
  unfold InputCall.readArray LPRPort.readArray
  split_ifs at reached ⊢ with invalid refused
  · cases reached
    rfl
  · cases reached
    rfl

theorem reachedArray_reads {call : InputCall} {turns : Nat → Turn} {b : Option JByteArray}
    {off len : Int32} {native : NativeRead} (reached : call.reachedArray len = .reads native) :
    (call.readArray turns off len).ends b =
      let run := readByteArray native.length native.threshold native.timeout turns
      if run.bytes < 0 then .throws .io else copyEnds b off run.buffer := by
  unfold InputCall.reachedArray at reached
  unfold InputCall.readArray LPRPort.readArray
  split_ifs at reached with invalid refused
  cases reached
  simp only [if_neg invalid, if_neg refused]
  have bounds := (readByteArray_bounds ⟨len.toInt.toNat, call.port.getJavaVar "threshold",
    call.port.getJavaVar "threshold"⟩ turns).2
  simp only [] at bounds
  generalize readByteArray len.toInt.toNat (call.port.getJavaVar "threshold")
    (call.port.getJavaVar "threshold") turns = run at bounds
  by_cases failed : run.bytes < 0
  · rw [if_pos failed, if_pos failed]
    rfl
  · rw [if_neg failed, if_neg failed]
    obtain counted : run.bytes = run.buffer.length := bounds.resolve_left (by omega)
    cases b with
    | none => rfl
    | some b =>
      have empty : (run.buffer.length : Int) ≠ 0 ↔ ¬ run.buffer = [] := by
        rw [Ne, Int.natCast_eq_zero, List.length_eq_zero_iff]
      simp only [ArrayRun.ends, copyEnds, Option.isSome_none, Bool.false_eq_true, if_false,
        List.mem_singleton, forall_eq, counted, List.foldl_cons, List.foldl_nil, empty, ite_not]

/-- An array is read as `readArray` reads it. -/
theorem alone_readSlice {call : InputCall} (isOpen : call.port.fd ≠ 0) {b : Option JByteArray}
    {off len : Int32} (slice : call.method = .readSlice b off len) (turns : Nat → Turn) :
    (call.alone turns).1 = (call.readArray turns off len).ends b := by
  have reached : call.reached = call.reachedArray len := by
    rw [InputCall.reached, if_neg isOpen, slice]
  unfold InputCall.alone
  rw [reached]
  cases array : call.reachedArray len with
  | ends ending => exact (reachedArray_ends array).symm
  | reads native =>
    rw [reachedArray_reads array]
    simp only [InputCall.finish, slice]

theorem alone_readBytes {call : InputCall} (isOpen : call.port.fd ≠ 0) {b : JByteArray}
    (whole : call.method = .readBytes (some b)) (turns : Nat → Turn) :
    (call.alone turns).1 = (call.readArray turns 0 b.length).ends (some b) := by
  have reached : call.reached = call.reachedArray b.length := by
    rw [InputCall.reached, if_neg isOpen, whole]
  unfold InputCall.alone
  rw [reached]
  cases array : call.reachedArray b.length with
  | ends ending => exact (reachedArray_ends array).symm
  | reads native =>
    rw [reachedArray_reads array]
    simp only [InputCall.finish, whole]

/-- `value` is the number of the bytes, or there are none, and the array is written back as it was
    found but for these. -/
structure GivesArray (b : Option JByteArray) (off : Int32) (bytes : List UInt8) (value : Int32)
    (array : Option (List UInt8)) : Prop where
  value : bytes = [] ∧ value = -1 ∨ bytes ≠ [] ∧ value.toInt = bytes.length
  array : ∃ found, b = some found ∧
    (bytes = [] ∧ array = some found.elements ∨
      0 ≤ off.toInt ∧ off.toInt + bytes.length ≤ found.elements.length ∧
        array = some (found.elements.take off.toInt.toNat ++ bytes ++
          found.elements.drop (off.toInt.toNat + bytes.length)))

def InputCall.Gives (call : InputCall) (bytes : List UInt8) (value : Int32)
    (array : Option (List UInt8)) : Prop :=
  match call.method with
  | .read => bytes = [] ∧ value = -1 ∨ ∃ byte, bytes = [byte] ∧ value.toInt = byte.toNat
  | .readBytes b => GivesArray b 0 bytes value array
  | .readSlice b off _ => GivesArray b off bytes value array

theorem copyInto_eq {body : List UInt8} {offset : Nat} {bytes : List UInt8}
    (inside : offset + bytes.length ≤ body.length) :
    copyInto body offset bytes =
      body.take offset ++ bytes ++ body.drop (offset + bytes.length) := by
  induction bytes generalizing body offset with
  | nil => simp [copyInto]
  | cons byte bytes ih =>
    rw [List.length_cons] at inside
    have room : offset + 1 + bytes.length ≤ (body.set offset byte).length := by
      rw [List.length_set]
      omega
    have front : (body.set offset byte).take (offset + 1) = body.take offset ++ [byte] := by
      have length : (body.take offset).length = offset := List.length_take_of_le (by omega)
      rw [List.set_eq_take_append_cons_drop, if_pos (by omega), List.take_append, length,
        List.take_of_length_le (by omega), Nat.add_sub_cancel_left, List.take_one, List.head?_cons]
      rfl
    have back : (body.set offset byte).drop (offset + 1 + bytes.length) =
        body.drop (offset + (byte :: bytes).length) := by
      rw [List.drop_set_of_lt (by omega), List.length_cons]
      congr 1
      omega
    rw [copyInto, ih room, front, back]
    simp

theorem copyEnds_gives {b : Option JByteArray} {off : Int32} {bytes : List UInt8} {value : Int32}
    {array : Option (List UInt8)} (returned : copyEnds b off bytes = .returns value array) :
    GivesArray b off bytes value array := by
  cases b with
  | none => cases returned
  | some b =>
    simp only [copyEnds] at returned
    split_ifs at returned with copied none
    · cases returned
      refine ⟨.inl ⟨none, rfl⟩, b, rfl, .inl ⟨none, ?_⟩⟩
      rw [none, copyInto]
    · cases returned
      have inside := copied.resolve_left none
      have small := b.small
      refine ⟨.inr ⟨none, Int32.toInt_ofInt_of_le (by omega) (by omega)⟩, b, rfl, .inr ?_⟩
      refine ⟨inside.1, inside.2, congrArg some (copyInto_eq ?_)⟩
      omega

theorem reached_throws {call : InputCall} {ending : InputEnd}
    (reached : call.reached = .ends ending) : ∃ exception, ending = .throws exception := by
  have array {len : Int32} (reached : call.reachedArray len = .ends ending) :
      ∃ exception, ending = .throws exception := by
    unfold InputCall.reachedArray at reached
    split_ifs at reached <;> exact ⟨_, (Reached.ends.inj reached).symm⟩
  unfold InputCall.reached at reached
  split_ifs at reached
  · exact ⟨_, (Reached.ends.inj reached).symm⟩
  · split at reached
    next => cases reached
    next => exact ⟨_, (Reached.ends.inj reached).symm⟩
    next => exact array reached
    next => exact array reached

theorem reached_read {call : InputCall} (method : call.method = .read) {native : NativeRead}
    (reached : call.reached = .reads native) : native.length = 1 := by
  simp only [InputCall.reached, method] at reached
  split_ifs at reached
  cases reached
  rfl

theorem finish_gives {call : InputCall} {native : NativeRead}
    (reached : call.reached = .reads native) {bytes : Int} {buffer : List UInt8}
    (room : buffer.length ≤ native.length) (counted : bytes = -1 ∨ bytes = buffer.length)
    {value : Int32} {array : Option (List UInt8)}
    (returned : call.finish bytes buffer = .returns value array) :
    call.Gives buffer value array := by
  unfold InputCall.finish at returned
  by_cases failed : bytes < 0
  · rw [if_pos failed] at returned
    cases returned
  rw [if_neg failed] at returned
  have all : bytes = buffer.length := counted.resolve_left (by omega)
  unfold InputCall.Gives
  cases method : call.method with
  | readBytes b =>
    simp only [method] at returned ⊢
    exact copyEnds_gives returned
  | readSlice b off len =>
    simp only [method] at returned ⊢
    exact copyEnds_gives returned
  | read =>
    have one := reached_read method reached
    simp only [method, InputEnd.returns.injEq] at returned ⊢
    obtain ⟨rfl, -⟩ := returned
    rcases Nat.eq_zero_or_pos buffer.length with zero | more
    · have none : bytes = 0 := by omega
      exact .inl ⟨List.length_eq_zero_iff.mp zero, if_neg (not_not.mpr none)⟩
    · obtain ⟨byte, rfl⟩ := List.length_eq_one_iff.mp (show buffer.length = 1 by omega)
      have small := byte.toNat_lt
      refine .inr ⟨byte, rfl, ?_⟩
      rw [if_pos (by omega), List.headD_cons]
      exact Int32.toInt_ofInt_of_le (by omega) (by omega)

section

variable {I : Type} [DecidableEq I]

inductive Fits (own : List UInt8) (call : InputCall) : InputStage → Prop
  | reads {native : NativeRead} (here : call.reached = .reads native)
      (answered : ∃ (answers : Nat → Turn) (k : Nat), ∀ turns : Nat → Turn,
        (∀ j < k, turns j = answers j) → ∃ sleep selects,
        readByteArray native.length native.threshold native.timeout turns =
          readLoop native.length native.threshold native.timeout turns k sleep own selects) :
      Fits own call (.reads native own)
  | ended {ending : InputEnd} (alone : ∃ turns, call.alone turns = (ending, own)) :
      Fits own call (.ended ending)

theorem Fits.begins (call : InputCall) : Fits [] call call.reached.stage := by
  cases reached : call.reached with
  | ends ending =>
    refine .ended ⟨fun _ => ⟨[], 0, ⟨0, 0⟩, .fails⟩, ?_⟩
    rw [InputCall.alone, reached]
  | reads native =>
    exact .reads reached ⟨fun _ => ⟨[], 0, ⟨0, 0⟩, .fails⟩, 0, fun _ _ => ⟨_, _, rfl⟩⟩

theorem Fits.returns {call : InputCall} {native : NativeRead} {own buffer : List UInt8}
    (fits : Fits own call (.reads native buffer)) {turn : Turn} {bytes : Int}
    (returned : native.turn buffer turn = .returns bytes) :
    Fits own call (.ended (call.finish bytes buffer)) := by
  cases fits with
  | reads here answered =>
    obtain ⟨answers, k, answered⟩ := answered
    refine .ended ⟨Function.update answers k turn, ?_⟩
    have before : ∀ j < k, Function.update answers k turn j = answers j :=
      fun j earlier => Function.update_of_ne (Nat.ne_of_lt earlier) ..
    obtain ⟨sleep, selects, ran⟩ := answered _ before
    have last : native.turn own (Function.update answers k turn k) = .returns bytes := by
      rw [Function.update_self, returned]
    obtain ⟨selects', gone⟩ := readLoop_returns last sleep selects
    simp only [InputCall.alone, here, ran, gone]

theorem Fits.goesOn {call : InputCall} {native : NativeRead} {own buffer : List UInt8}
    (fits : Fits own call (.reads native buffer)) {turn : Turn} {chunk : List UInt8}
    (read : native.turn buffer turn = .goesOn chunk) :
    Fits (own ++ chunk) call (.reads native (buffer ++ chunk)) := by
  cases fits with
  | reads here answered =>
    obtain ⟨answers, k, answered⟩ := answered
    refine .reads here ⟨Function.update answers k turn, k + 1, ?_⟩
    intro turns same
    have before : ∀ j < k, turns j = answers j := by
      intro j earlier
      rw [same j (by omega), Function.update_of_ne (Nat.ne_of_lt earlier)]
    obtain ⟨sleep, selects, ran⟩ := answered turns before
    have last : native.turn own (turns k) = .goesOn chunk := by
      rw [same k (Nat.lt_succ_self k), Function.update_self, read]
    obtain ⟨sleep', selects', next⟩ := readLoop_goesOn_turn last sleep selects
    exact ⟨sleep', selects', ran.trans next⟩

structure SharedInput.Sound (line : List UInt8) (s : SharedInput I) : Prop where
  line : s.log.flatMap Prod.snd ++ s.line = line
  fits : ∀ caller call stage, s.call caller = some (call, stage) → Fits (s.own caller) call stage
  idle : ∀ caller, s.call caller = none → s.own caller = []

theorem SharedInput.goto_call (s : SharedInput I) (caller other : I) (call : InputCall)
    (stage : InputStage) :
    (s.goto caller call stage).call other =
      if other = caller then some (call, stage) else s.call other :=
  Function.update_apply s.call caller (some (call, stage)) other

theorem Sound.goto {line : List UInt8} {s : SharedInput I} (sound : s.Sound line) {caller : I}
    {call : InputCall} {stage : InputStage} (fits : Fits (s.own caller) call stage) :
    (s.goto caller call stage).Sound line where
  line := sound.line
  fits := by
    intro other call' stage' here
    rw [SharedInput.goto_call] at here
    by_cases same : other = caller
    · rw [if_pos same] at here
      cases here
      exact same ▸ fits
    · rw [if_neg same] at here
      exact sound.fits other call' stage' here
  idle := by
    intro other idle
    rw [SharedInput.goto_call] at idle
    by_cases same : other = caller
    · rw [if_pos same] at idle
      cases idle
    · rw [if_neg same] at idle
      exact sound.idle other idle

theorem Sound.takes {line : List UInt8} {s : SharedInput I} (sound : s.Sound line) {caller : I}
    {call : InputCall} {stage : InputStage} {chunk : List UInt8} (next : chunk <+: s.line)
    (fits : Fits (s.own caller ++ chunk) call stage) :
    SharedInput.Sound line { s.goto caller call stage with
      line := s.line.drop chunk.length
      log := s.log ++ [(caller, chunk)] } := by
  have own (other : I) : SharedInput.own { s.goto caller call stage with
      line := s.line.drop chunk.length
      log := s.log ++ [(caller, chunk)] } other =
      s.own other ++ if caller = other then chunk else [] := by
    simp [SharedInput.own]
  refine ⟨?_, ?_, ?_⟩
  · show (s.log ++ [(caller, chunk)]).flatMap Prod.snd ++ s.line.drop chunk.length = line
    rw [List.flatMap_append, List.flatMap_singleton, List.append_assoc,
      List.prefix_iff_eq_append.mp next]
    exact sound.line
  · intro other call' stage' here
    change (s.goto caller call stage).call other = _ at here
    rw [SharedInput.goto_call] at here
    rw [own]
    by_cases same : other = caller
    · rw [if_pos same] at here
      cases here
      rw [same, if_pos rfl]
      exact fits
    · rw [if_neg same] at here
      rw [if_neg (Ne.symm same), List.append_nil]
      exact sound.fits other call' stage' here
  · intro other idle
    change (s.goto caller call stage).call other = _ at idle
    rw [SharedInput.goto_call] at idle
    rw [own]
    by_cases same : other = caller
    · rw [if_pos same] at idle
      cases idle
    · rw [if_neg same] at idle
      rw [if_neg (Ne.symm same), List.append_nil]
      exact sound.idle other idle

theorem inputMove_sound {line : List UInt8} {s s' : SharedInput I} {move : InputMove I}
    (sound : s.Sound line) (taken : inputMove move s = some s') : s'.Sound line := by
  cases move with
  | begins caller call =>
    simp only [inputMove] at taken
    split_ifs at taken with begun
    cases taken
    apply Sound.goto sound
    rw [sound.idle caller (by simpa using begun)]
    exact .begins call
  | reads caller turn =>
    simp only [inputMove] at taken
    split at taken
    next call native buffer here =>
      have fits := sound.fits caller call _ here
      cases ends : native.turn buffer (turn.on s.line) with
      | returns bytes =>
        rw [ends] at taken
        cases taken
        exact Sound.goto sound (fits.returns ends)
      | goesOn chunk =>
        rw [ends] at taken
        cases taken
        exact Sound.takes sound (turn_goesOn ends).1 (fits.goesOn ends)
    next => cases taken

def reader (method : InputMethod) : InputCall :=
  ⟨{ Port.declared 3 with threshold := 4 }, true, "", method⟩

def ready (most : Nat) : LineTurn := ⟨[], 1, ⟨0, 0⟩, some most⟩

def readSliceOfFour : InputMethod := .readSlice (some ⟨[0, 0, 0, 0, 0], by decide⟩) 1 4

def readBetween : List (InputMove Nat) :=
  [.begins 0 (reader readSliceOfFour), .begins 1 (reader .read), .reads 0 (ready 2),
    .reads 1 (ready 1), .reads 0 (ready 9), .reads 1 (ready 0), .reads 0 (ready 0)]

end

end Rxtx.LPRPort
