import Rxtx.Library.InTurn
import Rxtx.Win32.SerialRead

open InTurn
open Rxtx.SerialImp (Store ReadState written taken)

namespace Rxtx.Win32

/-- The driver brings what comes next on the line, and no more than `count` bytes of it. -/
structure LineAnswer where
  succeeds : Bool
  count : Nat
  error : Nat

def LineAnswer.answer (a : LineAnswer) (line : List UInt8) : DriverAnswer :=
  ⟨a.succeeds, line.take a.count, a.error⟩

structure LineTurn where
  readFile : LineAnswer
  overlapped : LineAnswer
  now : BitVec 32

/-- A request that is pending has brought nothing yet. -/
def LineTurn.turn (t : LineTurn) (line : List UInt8) : TransferTurn where
  readFile :=
    if (t.readFile.answer line).Pends then t.readFile.answer [] else t.readFile.answer line
  overlapped := t.overlapped.answer line
  now := t.now

/-- A call of `serial_read`, looked at after `steps` turns of its loop. -/
structure LineRead where
  start : BitVec 32
  clock : Int
  waits : Nat → WaitTurn
  bound : Nat
  turns : Nat → LineTurn
  steps : Nat

def LineRead.transferred (read : LineRead) (port : TermiosList) (size : Int) (line : List UInt8) :
    Nat → Transfer
  | 0 => ⟨.reading, size, 0, []⟩
  | k + 1 =>
    let s := read.transferred port size line k
    transferTurn port read.start ((read.turns k).turn (line.drop (taken s.stores).length)) s

def LineRead.turnsOn (read : LineRead) (port : TermiosList) (size : Int) (line : List UInt8)
    (k : Nat) : TransferTurn :=
  (read.turns k).turn (line.drop (taken (read.transferred port size line k).stores).length)

def LineRead.run (read : LineRead) (fd : Int) (found : Option TermiosList) (size : Int)
    (line : List UInt8) : Option (Int × List Store) := do
  let turns := read.turnsOn (found.getD .zero) size line
  let run ← serialRead ⟨fd, size, read.start, read.clock, read.waits, turns⟩ found read.bound
  match (run read.steps).phase with
  | .returned result => some (result, (run read.steps).stores)
  | .reading | .pending _ _ => none

/-- A pending request fails that has brought bytes. -/
def LineRead.Loses (read : LineRead) : Prop :=
  ∃ turn, (read.turns turn).overlapped.succeeds = false ∧
    (read.turns turn).overlapped.error ≠ errorIoIncomplete ∧ 0 < (read.turns turn).overlapped.count

structure WinRound where
  now : BitVec 32
  read : LineRead

/-- The bytes are for the array from `buffer` on. -/
structure ReadByteArray where
  fd : Int
  found : Option TermiosList
  buffer : Int
  length : Int
  timeout : Int
  start : BitVec 32
  rounds : Nat → WinRound

def shift (base : Int) (store : Store) : Store := ⟨base + store.index, store.data⟩

/-- The loop of `read_byte_array`, in which `ret = 1` stands for `SELECT`. There is no result
    while a `serial_read` has not returned. -/
def ReadByteArray.loop (call : ReadByteArray) (line : List UInt8) :
    Nat → ReadState → Option Int × ReadState
  | 0, s => (some s.bytes, s)
  | tries + 1, s =>
    if s.bytes < call.length then
      let round := call.rounds (20 - (tries + 1))
      if 0 ≤ call.timeout ∧ call.timeout ≤ (round.now - call.start).toInt then (some s.bytes, s)
      else
        match round.read.run call.fd call.found s.left (line.drop (taken s.stores).length) with
        | none => (none, s)
        | some (result, stores) =>
          let s := { s with stores := s.stores ++ stores.map (shift (call.buffer + s.bytes)) }
          if result < 0 then (some (-1), s)
          else call.loop line tries { s with bytes := s.bytes + result, left := s.left - result }
    else (some s.bytes, s)

structure ByteArrayRun where
  result : Option Int
  stores : List Store

def ReadByteArray.run (call : ReadByteArray) (line : List UInt8) : ByteArrayRun :=
  let ended := call.loop line 20 ⟨0, call.length, []⟩
  ⟨ended.1, ended.2.stores⟩

def byteArrayReads : Service ReadByteArray UInt8 ByteArrayRun where
  serve call line := call.run line
  used run := taken run.stores
  stops run := run.result.isNone

/-- Nothing outside the buffer is touched, and a count that is returned is that of the bytes taken,
    which are in the buffer, or a pending request has failed that had brought bytes. -/
structure Delivers (call : ReadByteArray) (run : ByteArrayRun) : Prop where
  outside : ∀ memory i, i < call.buffer ∨ call.buffer + call.length ≤ i →
    written run.stores memory i = memory i
  returns : ∀ result, run.result = some result → result = -1 ∨ 0 ≤ result ∧
    ((result = (taken run.stores).length ∧
        ∀ memory, written run.stores memory = Store.write memory ⟨call.buffer, taken run.stores⟩) ∨
      result < (taken run.stores).length ∧ ∃ round, (call.rounds round).read.Loses)

theorem front_append {bytes data line : List UInt8} (front : bytes <+: line)
    (next : data <+: line.drop bytes.length) : bytes ++ data <+: line := by
  obtain ⟨rest, rfl⟩ := front
  rw [List.drop_left] at next
  exact (List.prefix_append_right_inj bytes).mpr next

theorem turn_readFile (t : LineTurn) (line : List UInt8) :
    (t.turn line).readFile.data <+: line := by
  simp only [LineTurn.turn]
  split_ifs
  · rw [LineAnswer.answer, List.take_nil]
    exact List.nil_prefix
  · exact List.take_prefix _ line

theorem turn_pends (t : LineTurn) (line : List UInt8)
    (pends : (t.turn line).readFile.Pends) : (t.turn line).readFile.data = [] := by
  simp only [LineTurn.turn] at pends ⊢
  split_ifs at pends ⊢ with pending
  · exact List.take_nil
  · exact absurd pends pending

theorem transferTurn_front {port : TermiosList} {start : BitVec 32} {line : List UInt8}
    {s : Transfer} (front : taken s.stores <+: line) (t : LineTurn) :
    taken (transferTurn port start (t.turn (line.drop (taken s.stores).length)) s).stores <+:
      line := by
  have stored (index : Nat) {data : List UInt8} (more : Nat)
      (next : data <+: line.drop (taken s.stores).length) :
      taken (s.stores ++ [⟨index, data.take more⟩]) <+: line := by
    rw [taken_append]
    exact front_append front ((List.take_prefix more data).trans next)
  unfold transferTurn
  split
  next =>
    split_ifs
    · unfold readFile
      have next := turn_readFile t (line.drop (taken s.stores).length)
      split_ifs <;> exact stored s.total s.size.toNat next
    · exact front
  next index length pending =>
    have next : (t.turn (line.drop (taken s.stores).length)).overlapped.data <+:
        line.drop (taken s.stores).length := List.take_prefix _ _
    unfold getOverlappedResult
    simp only []
    split_ifs
    · exact stored index length next
    · exact stored index length next
    · exact front
    · exact stored index length next
  next => exact front

theorem LineRead.transferred_front (read : LineRead) (port : TermiosList) (size : Int)
    (line : List UInt8) (k : Nat) : taken (read.transferred port size line k).stores <+: line := by
  induction k with
  | zero => exact List.nil_prefix
  | succ k ih => exact transferTurn_front ih (read.turns k)

theorem LineRead.transferred_eq (read : LineRead) (port : TermiosList) (size : Int)
    (line : List UInt8) (k : Nat) :
    read.transferred port size line k =
      transfer port read.start (read.turnsOn port size line) ⟨.reading, size, 0, []⟩ k := by
  induction k with
  | zero => rfl
  | succ k ih =>
    rw [transfer, ← ih]
    rfl

theorem transfer_ended {port : TermiosList} {start : BitVec 32} {size : Int}
    {turns : Nat → TransferTurn}
    (pends : ∀ k, (turns k).readFile.Pends → (turns k).readFile.data = []) {k : Nat} {result : Int}
    (ended : (transfer port start turns ⟨.reading, size, 0, []⟩ k).phase = .returned result) :
    ∃ last, EndsLoop port start size turns last ∧
      AtTurn size turns last (transfer port start turns ⟨.reading, size, 0, []⟩ last) ∧
      transfer port start turns ⟨.reading, size, 0, []⟩ k = transferTurn port start (turns last)
        (transfer port start turns ⟨.reading, size, 0, []⟩ last) := by
  obtain ⟨last, reaches, ends⟩ := exists_endsLoop pends ended
  have here := transfer_atTurn pends reaches
  have later : last + 1 ≤ k := by
    by_contra earlier
    have before : ReachesTurn port start size turns k := fun turn less => reaches turn (by omega)
    exact (transfer_atTurn pends before).not_returned result ended
  obtain ⟨more, rfl⟩ := Nat.exists_eq_add_of_le later
  have returned : ∃ result,
      (transfer port start turns ⟨.reading, size, 0, []⟩ (last + 1)).phase = .returned result := by
    cases ends with
    | fills full => exact ⟨_, (here.fills full).phase⟩
    | reads read => exact ⟨_, (here.reads read).phase⟩
    | timesOut late => exact ⟨_, (here.timesOut late).phase⟩
    | fails error => exact ⟨_, (here.fails error).phase⟩
    | aborts error => exact ⟨_, (here.aborts port start error).phase⟩
  obtain ⟨result, returned⟩ := returned
  exact ⟨last, ends, here, transfer_stays returned more⟩

structure Brings (size : Int) (line : List UInt8) (lost : Prop) (result : Int)
    (stores : List Store) : Prop where
  front : taken stores <+: line
  few : (taken stores).length ≤ size.toNat
  written : ∀ memory, written stores memory = Store.write memory ⟨0, taken stores⟩
  result : result = -1 ∨ 0 ≤ result ∧
    (result = (taken stores).length ∨ result < (taken stores).length ∧ lost)

theorem brings_nothing {size result : Int} {line : List UInt8} {lost : Prop}
    (known : result = -1 ∨ result = 0) : Brings size line lost result [] where
  front := List.nil_prefix
  few := Nat.zero_le _
  written memory := (SerialImp.write_nil memory 0).symm
  result := by
    rcases known with error | zero
    · exact .inl error
    · exact .inr ⟨Int.le_of_eq zero.symm, .inl zero⟩

theorem LineRead.transferred_brings {read : LineRead} {port : TermiosList} {size : Int}
    {line : List UInt8} {k : Nat} {result : Int}
    (ended : (read.transferred port size line k).phase = .returned result) :
    Brings size line read.Loses result (read.transferred port size line k).stores := by
  have front := read.transferred_front port size line k
  rw [read.transferred_eq] at ended front ⊢
  have pends (k : Nat) (pending : (read.turnsOn port size line k).readFile.Pends) :
      (read.turnsOn port size line k).readFile.data = [] := turn_pends _ _ pending
  obtain ⟨last, ends, here, same⟩ := transfer_ended pends ended
  have few := length_brought size (read.turnsOn port size line)
  rw [same] at ended front ⊢
  generalize transfer port read.start (read.turnsOn port size line) ⟨.reading, size, 0, []⟩ last = s
    at here ended front ⊢
  -- all but a request that is aborted count what they bring
  have counts {bytes : List UInt8} {count : Int}
      (returned : Returned count bytes (transferTurn port read.start
        (read.turnsOn port size line last) s)) (few : bytes.length ≤ size.toNat)
      (counted : count = -1 ∨ count = bytes.length) :
      Brings size line read.Loses result
        (transferTurn port read.start (read.turnsOn port size line last) s).stores := by
    obtain rfl : count = result := ReadPhase.returned.inj (returned.phase.symm.trans ended)
    refine ⟨front, ?_, ?_, ?_⟩
    · rw [returned.taken]
      exact few
    · rw [returned.taken]
      exact returned.written
    · rw [returned.taken]
      exact counted.imp id fun all => ⟨by omega, .inl all⟩
  cases ends with
  | fills full => exact counts (here.fills full) (few last) (.inr rfl)
  | reads read => exact counts (here.reads read) (few (last + 1)) (.inr rfl)
  | timesOut late => exact counts (here.timesOut late) (few (last + 1)) (.inr rfl)
  | fails error => exact counts (here.fails error) (few (last + 1)) (.inl rfl)
  | aborts error =>
    have returned := here.aborts port read.start error
    obtain rfl := ReadPhase.returned.inj (returned.phase.symm.trans ended)
    have left := here.holds.size
    have room := (here.pending error.1).2
    have brought := few last
    refine ⟨front, ?_, ?_, .inr ⟨Int.natCast_nonneg _, ?_⟩⟩
    · rw [returned.taken, List.length_append, List.length_take]
      omega
    · rw [returned.taken]
      exact returned.written
    · rw [returned.taken, List.length_append]
      by_cases none : ((read.turnsOn port size line last).overlapped.data.take s.size.toNat) = []
      · rw [none]
        exact .inl rfl
      · have some := List.length_pos_iff.mpr none
        refine .inr ⟨by omega, last, error.2.1, error.2.2, ?_⟩
        have count : (read.turnsOn port size line last).overlapped.data.length ≤
            (read.turns last).overlapped.count := List.length_take_le ..
        rw [List.length_take] at some
        omega

theorem LineRead.run_brings {read : LineRead} {fd : Int} {found : Option TermiosList} {size : Int}
    {line : List UInt8} {result : Int} {stores : List Store}
    (ran : read.run fd found size line = some (result, stores)) :
    Brings size line read.Loses result stores := by
  unfold LineRead.run at ran
  obtain ⟨run, waited, ran⟩ := Option.bind_eq_some_iff.mp ran
  have returned : (run read.steps).phase = .returned result ∧ (run read.steps).stores = stores := by
    split at ran
    next ended =>
      obtain ⟨rfl, rfl⟩ := Prod.mk.inj (Option.some.inj ran)
      exact ⟨ended, rfl⟩
    next => cases ran
    next => cases ran
  obtain ⟨ended, rfl⟩ := returned
  -- the calls that return before the transfer have stored nothing
  have early {value : Int} (known : value = -1 ∨ value = 0)
      (same : run = fun _ => .returns value size) :
      Brings size line read.Loses result (run read.steps).stores := by
    subst same
    obtain rfl : value = result := ReadPhase.returned.inj ended
    exact brings_nothing known
  unfold serialRead at waited
  split_ifs at waited with closed
  · exact early (.inr rfl) (Option.some.inj waited).symm
  · cases found with
    | none => exact early (.inl rfl) (Option.some.inj waited).symm
    | some port =>
      simp only [] at waited
      split at waited
      next => cases waited
      next => exact early (.inr rfl) (Option.some.inj waited).symm
      next =>
        obtain rfl := Option.some.inj waited
        simp only [Option.getD_some] at ended ⊢
        rw [← read.transferred_eq] at ended ⊢
        exact LineRead.transferred_brings ended

theorem write_shift (base : Int) (memory : Int → UInt8) (store : Store) (i : Int) :
    Store.write memory (shift base store) i =
      Store.write (fun j => memory (base + j)) store (i - base) := by
  have back : base + (i - base) = i := by omega
  have place : i - (base + store.index) = i - base - store.index := by omega
  have same : (base + store.index ≤ i ∧ i < base + store.index + store.data.length) ↔
      (store.index ≤ i - base ∧ i - base < store.index + store.data.length) := by
    constructor <;> intro inside <;> omega
  simp only [Store.write, shift, same, place, back]

theorem written_shift (base : Int) (stores : List Store) (memory : Int → UInt8) (i : Int) :
    written (stores.map (shift base)) memory i =
      written stores (fun j => memory (base + j)) (i - base) := by
  induction stores generalizing memory with
  | nil =>
    show memory i = memory (base + (i - base))
    congr 1
    omega
  | cons store stores ih =>
    show written (stores.map (shift base)) (Store.write memory (shift base store)) i =
      written stores (Store.write (fun j => memory (base + j)) store) (i - base)
    rw [ih]
    congr 1
    funext j
    rw [write_shift]
    congr 1
    omega

theorem taken_shift (base : Int) (stores : List Store) :
    taken (stores.map (shift base)) = taken stores := by
  simp only [taken, List.flatMap_map, shift]

theorem taken_joined (first second : List Store) :
    taken (first ++ second) = taken first ++ taken second := List.flatMap_append

theorem written_joined (first second : List Store) (memory : Int → UInt8) :
    written (first ++ second) memory = written second (written first memory) := List.foldl_append

theorem brings_shifted {size result : Int} {line : List UInt8} {lost : Prop}
    {stores : List Store} (brings : Brings size line lost result stores) (base : Int)
    (memory : Int → UInt8) :
    written (stores.map (shift base)) memory = Store.write memory ⟨base, taken stores⟩ := by
  funext i
  rw [written_shift, brings.written, ← write_shift, shift, Int.add_zero]

structure Stored (call : ReadByteArray) (line : List UInt8) (stores : List Store) : Prop where
  front : taken stores <+: line
  outside : ∀ memory i, i < call.buffer ∨ call.buffer + call.length ≤ i →
    written stores memory i = memory i

structure Filling (call : ReadByteArray) (line : List UInt8) (s : ReadState) : Prop where
  stored : Stored call line s.stores
  nonneg : 0 ≤ s.bytes
  left : s.left = call.length - s.bytes
  counted : s.bytes = (taken s.stores).length ∧
      (∀ memory, written s.stores memory = Store.write memory ⟨call.buffer, taken s.stores⟩) ∨
    s.bytes < (taken s.stores).length ∧ ∃ round, (call.rounds round).read.Loses

variable {call : ReadByteArray} {line : List UInt8}

theorem Stored.append {stores more : List Store} {bytes size result : Int} {lost : Prop}
    (stored : Stored call line stores)
    (brings : Brings size (line.drop (taken stores).length) lost result more) (nonneg : 0 ≤ bytes)
    (short : bytes < call.length) (room : size = call.length - bytes) :
    Stored call line (stores ++ more.map (shift (call.buffer + bytes))) where
  front := by
    rw [taken_joined, taken_shift]
    exact front_append stored.front brings.front
  outside := by
    intro memory i out
    have few := brings.few
    have missed : ¬ (call.buffer + bytes ≤ i ∧ i < call.buffer + bytes + (taken more).length) := by
      omega
    rw [written_joined, brings_shifted brings, Store.write, if_neg missed]
    exact stored.outside memory i out

theorem Filling.round {s : ReadState} (filling : Filling call line s)
    (short : s.bytes < call.length) {round : Nat} {result : Int} {stores : List Store}
    (brings : Brings s.left (line.drop (taken s.stores).length)
      (call.rounds round).read.Loses result stores) (succeeds : 0 ≤ result) :
    Filling call line
      { bytes := s.bytes + result
        left := s.left - result
        stores := s.stores ++ stores.map (shift (call.buffer + s.bytes)) } := by
  have left := filling.left
  have nonneg := filling.nonneg
  have joined : taken (s.stores ++ stores.map (shift (call.buffer + s.bytes))) =
      taken s.stores ++ taken stores := by
    rw [taken_joined, taken_shift]
  refine ⟨filling.stored.append brings nonneg short left, Int.add_nonneg nonneg succeeds, ?_, ?_⟩
  · show s.left - result = call.length - (s.bytes + result)
    omega
  simp only [joined, List.length_append]
  rcases brings.result with error | ⟨-, all | ⟨less, lost⟩⟩
  · omega
  · rcases filling.counted with ⟨counted, whole⟩ | ⟨less, lost⟩
    · refine .inl ⟨by omega, ?_⟩
      intro memory
      rw [written_joined, brings_shifted brings, whole, counted]
      apply SerialImp.write_append
    · exact .inr ⟨by omega, lost⟩
  · refine .inr ⟨?_, round, lost⟩
    rcases filling.counted with ⟨counted, -⟩ | ⟨before, -⟩ <;> omega

structure Ended (call : ReadByteArray) (line : List UInt8) (result : Option Int)
    (stores : List Store) : Prop where
  stored : Stored call line stores
  returns : ∀ n, result = some n → n = -1 ∨ 0 ≤ n ∧
    ((n = (taken stores).length ∧
        ∀ memory, written stores memory = Store.write memory ⟨call.buffer, taken stores⟩) ∨
      n < (taken stores).length ∧ ∃ round, (call.rounds round).read.Loses)

theorem Filling.ended {s : ReadState} (filling : Filling call line s) :
    Ended call line (some s.bytes) s.stores where
  stored := filling.stored
  returns n returned := by
    obtain rfl := Option.some.inj returned
    exact .inr ⟨filling.nonneg, filling.counted⟩

theorem loop_ended (tries : Nat) {s : ReadState} (filling : Filling call line s) :
    Ended call line (call.loop line tries s).1 (call.loop line tries s).2.stores := by
  induction tries generalizing s with
  | zero => exact filling.ended
  | succ tries ih =>
    unfold ReadByteArray.loop
    simp only []
    split_ifs with short late
    · exact filling.ended
    · split
      next =>
        refine ⟨filling.stored, ?_⟩
        intro n returned
        cases returned
      next result stores ran =>
        have brings := LineRead.run_brings ran
        split_ifs with failed
        · refine ⟨filling.stored.append brings filling.nonneg short filling.left, ?_⟩
          intro n returned
          exact .inl (Option.some.inj returned).symm
        · exact ih (filling.round short brings (Int.not_lt.mp failed))
    · exact filling.ended

theorem ReadByteArray.run_ended (call : ReadByteArray) (line : List UInt8) :
    Ended call line (call.run line).result (call.run line).stores := by
  have start : Filling call line ⟨0, call.length, []⟩ :=
    { stored := ⟨List.nil_prefix, fun _ _ _ => rfl⟩
      nonneg := Int.le_refl 0
      left := (Int.sub_zero _).symm
      counted := .inl ⟨rfl, fun memory => (SerialImp.write_nil memory call.buffer).symm⟩ }
  exact loop_ended 20 start

def abortedRead : ReadByteArray :=
  let pends : LineTurn := ⟨⟨false, 0, errorIoPending⟩, ⟨true, 0, 0⟩, 0⟩
  let aborts : LineTurn := ⟨⟨true, 0, 0⟩, ⟨false, 2, 995⟩, 0⟩ -- ERROR_OPERATION_ABORTED
  let read : LineRead :=
    ⟨0, 0, fun _ => ⟨0, 0, 0⟩, 1, fun turn => if turn = 0 then pends else aborts, 2⟩
  ⟨1, some quietPort, 0, 4, -1, 0, fun _ => ⟨0, read⟩⟩

/-- Three bytes of the line are gone, and the call says that there were none. -/
example : (abortedRead.run [1, 2, 3]).result = some 0 ∧
    taken (abortedRead.run [1, 2, 3]).stores = [1, 2, 3] := by decide

end Rxtx.Win32
