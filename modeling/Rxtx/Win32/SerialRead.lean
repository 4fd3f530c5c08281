import Rxtx.SerialImp.ReadRounds
import Rxtx.Win32.Open

open Rxtx.SerialImp (Store written contents taken)

namespace Rxtx.Win32

def errorBrokenPipe : Nat := 109
def errorMoreData : Nat := 234
def errorIoIncomplete : Nat := 996
def errorIoPending : Nat := 997

/-- What a call returns, the bytes that it stores and counts in `nBytes`, and what `GetLastError`
    says behind it. -/
structure DriverAnswer where
  succeeds : Bool
  data : List UInt8
  error : Nat
  deriving DecidableEq, Repr

/-- What the system answers in a turn. The turn makes one of the two calls. -/
structure TransferTurn where
  readFile : DriverAnswer
  overlapped : DriverAnswer
  now : BitVec 32
  deriving DecidableEq, Repr

/-- Where `serial_read` is. A request that is pending has its place in `dest` and its length. -/
inductive ReadPhase where
  | reading
  | pending (index : Nat) (length : Nat)
  | returned (result : Int)
  deriving DecidableEq, Repr

structure Transfer where
  phase : ReadPhase
  size : Int
  total : Nat
  stores : List Store
  deriving DecidableEq, Repr

def Transfer.store (index : Nat) (data : List UInt8) (s : Transfer) : Transfer :=
  { s with stores := s.stores ++ [⟨index, data⟩] }

def Transfer.count (nBytes : Nat) (s : Transfer) : Transfer :=
  { s with size := s.size - nBytes, total := s.total + nBytes }

/-- `VTIME` is in tenths of a second, and 0 is no time at all. -/
def TermiosList.timedOut (index : TermiosList) (start now : BitVec 32) : Prop :=
  index.ttyset.cCc vTime ≠ 0 ∧ ((index.ttyset.cCc vTime).toNat * 100 : Int) ≤ (now - start).toInt

instance (index : TermiosList) (start now : BitVec 32) : Decidable (index.timedOut start now) :=
  inferInstanceAs (Decidable (_ ∧ _))

/-- The driver stores no more than is asked for. -/
def readFile (answer : DriverAnswer) (s : Transfer) : Transfer :=
  let data := answer.data.take s.size.toNat
  let counted := (s.store s.total data).count data.length
  if answer.succeeds then { counted with phase := .returned counted.total }
  else if answer.error = errorBrokenPipe ∨ answer.error = errorMoreData then counted
  else if answer.error = errorIoPending then
    { counted with phase := .pending s.total s.size.toNat }
  else { counted with phase := .returned (-1) }

def getOverlappedResult (port : TermiosList) (start : BitVec 32) (turn : TransferTurn)
    (index length : Nat) (s : Transfer) : Transfer :=
  let data := turn.overlapped.data.take length
  if turn.overlapped.succeeds then
    let counted := (s.store index data).count data.length
    if 0 < counted.size ∧ port.timedOut start turn.now then
      { counted with phase := .returned counted.total }
    else { counted with phase := .reading }
  else if turn.overlapped.error = errorIoIncomplete then s
  else { s.store index data with phase := .returned s.total } -- `nBytes` is not looked at

/-- A turn of the loop `while ( size > 0 )`, or of the one inside it. -/
def transferTurn (port : TermiosList) (start : BitVec 32) (turn : TransferTurn) (s : Transfer) :
    Transfer :=
  match s.phase with
  | .reading =>
    if 0 < s.size then readFile turn.readFile s else { s with phase := .returned s.total }
  | .pending index length => getOverlappedResult port start turn index length s
  | .returned _ => s

def transfer (port : TermiosList) (start : BitVec 32) (turns : Nat → TransferTurn) (s : Transfer) :
    Nat → Transfer
  | 0 => s
  | k + 1 => transferTurn port start (turns k) (transfer port start turns s k)

inductive WaitEnd where
  | timedOut
  | passed
  deriving DecidableEq, Repr

structure WaitTurn where
  cbInQue : Nat
  now : BitVec 32
  clock : Int
  deriving DecidableEq, Repr

def clocksPerSec : Int := 1000

/-- The loop in front of the transfer, with a bound on its turns. -/
def initialWait (port : TermiosList) (size : Int) (start : BitVec 32) (c : Int)
    (waits : Nat → WaitTurn) : Nat → Nat → Option WaitEnd
  | 0, _ => none
  | bound + 1, k =>
    if port.openFlags &&& oNonblock ≠ 0 then
      if port.timedOut start (waits k).now then some .timedOut
      else if ((waits k).cbInQue : Int) < size ∧ 1 < size then
        initialWait port size start c waits bound (k + 1)
      else some .passed
    else if (waits k).clock < c then initialWait port size start c waits bound (k + 1)
    else some .passed

structure SerialReadCall where
  fd : Int
  size : Int
  start : BitVec 32
  clock : Int
  waits : Nat → WaitTurn
  turns : Nat → TransferTurn

def SerialReadCall.wait (call : SerialReadCall) (port : TermiosList) (bound : Nat) :
    Option WaitEnd :=
  initialWait port call.size call.start
    (call.clock + (port.ttyset.cCc vTime).toNat * clocksPerSec / 10) call.waits bound 0

def Transfer.returns (result : Int) (size : Int) : Transfer := ⟨.returned result, size, 0, []⟩

/-- The turns behind the initial wait, where that is over. `found` is what `find_port` gives. -/
def serialRead (call : SerialReadCall) (found : Option TermiosList) (bound : Nat) :
    Option (Nat → Transfer) :=
  if call.fd ≤ 0 then some fun _ => .returns 0 call.size
  else
    match found with
    | none => some fun _ => .returns (-1) call.size
    | some port =>
      match call.wait port bound with
      | none => none
      | some .timedOut => some fun _ => .returns 0 call.size
      | some .passed => some (transfer port call.start call.turns ⟨.reading, call.size, 0, []⟩)

def DriverAnswer.Pends (answer : DriverAnswer) : Prop :=
  answer.succeeds = false ∧ answer.error = errorIoPending

def DriverAnswer.Fatal (answer : DriverAnswer) : Prop :=
  answer.succeeds = false ∧ answer.error ≠ errorBrokenPipe ∧ answer.error ≠ errorMoreData ∧
    answer.error ≠ errorIoPending

def DriverAnswer.Aborts (answer : DriverAnswer) : Prop :=
  answer.succeeds = false ∧ answer.error ≠ errorIoIncomplete

instance (answer : DriverAnswer) : Decidable answer.Pends := inferInstanceAs (Decidable (_ ∧ _))

section

variable (port : TermiosList) (start : BitVec 32) (size : Int) (turns : Nat → TransferTurn)

def asksResult : Nat → Bool
  | 0 => false
  | k + 1 => if asksResult k then !(turns k).overlapped.succeeds else (turns k).readFile.Pends

def TransferTurn.brings (turn : TransferTurn) : Bool → List UInt8
  | false => turn.readFile.data
  | true => if turn.overlapped.succeeds then turn.overlapped.data else []

def brought : Nat → List UInt8
  | 0 => []
  | k + 1 => brought k ++
      ((turns k).brings (asksResult turns k)).take (size.toNat - (brought k).length)

def Asks (k : Nat) : Prop :=
  asksResult turns k = false ∧ ((brought size turns k).length : Int) < size

def Fills (k : Nat) : Prop := asksResult turns k = false ∧ size ≤ (brought size turns k).length

def Reads (k : Nat) : Prop := Asks size turns k ∧ (turns k).readFile.succeeds = true

def Fails (k : Nat) : Prop := Asks size turns k ∧ (turns k).readFile.Fatal

def TimesOut (k : Nat) : Prop :=
  asksResult turns k = true ∧ (turns k).overlapped.succeeds = true ∧
    ((brought size turns (k + 1)).length : Int) < size ∧ port.timedOut start (turns k).now

def Aborts (k : Nat) : Prop := asksResult turns k = true ∧ (turns k).overlapped.Aborts

inductive EndsLoop (k : Nat) : Prop
  | fills (full : Fills size turns k)
  | reads (read : Reads size turns k)
  | timesOut (late : TimesOut port start size turns k)
  | fails (error : Fails size turns k)
  | aborts (error : Aborts turns k)

/-- A turn that ends the loop without a loss: an error comes before any byte, and a pending request
    that fails has brought none. -/
inductive EndsWell (k : Nat) : Prop
  | fills (full : Fills size turns k)
  | reads (read : Reads size turns k)
  | timesOut (late : TimesOut port start size turns k)
  | fails (error : Fails size turns k) (nothing : brought size turns (k + 1) = [])
  | aborts (error : Aborts turns k) (nothing : (turns k).overlapped.data = [])

def ReachesTurn (k : Nat) : Prop := ∀ before < k, ¬ EndsLoop port start size turns before

end

structure Holds (size : Int) (bytes : List UInt8) (s : Transfer) : Prop where
  size : s.size = size - bytes.length
  total : s.total = bytes.length
  taken : taken s.stores = bytes
  written : ∀ memory, written s.stores memory = Store.write memory ⟨0, bytes⟩

theorem stores_append {stores : List Store} {bytes : List UInt8}
    (before : ∀ memory, written stores memory = Store.write memory ⟨0, bytes⟩)
    (data : List UInt8) (memory : Int → UInt8) :
    written (stores ++ [⟨bytes.length, data⟩]) memory = Store.write memory ⟨0, bytes ++ data⟩ := by
  have joined := SerialImp.write_append memory 0 bytes data
  rw [Int.zero_add] at joined
  rw [written, List.foldl_append, ← joined, ← before memory]
  rfl

theorem taken_append (stores : List Store) (index : Int) (data : List UInt8) :
    taken (stores ++ [⟨index, data⟩]) = taken stores ++ data := by
  simp [taken]

theorem Holds.arrive {size : Int} {bytes : List UInt8} {s : Transfer} (holds : Holds size bytes s)
    (data : List UInt8) :
    Holds size (bytes ++ data) ((s.store bytes.length data).count data.length) where
  size := by
    show s.size - data.length = _
    rw [holds.size, List.length_append]
    omega
  total := by
    show s.total + data.length = _
    rw [holds.total, List.length_append]
  taken := (taken_append ..).trans (congrArg (· ++ data) holds.taken)
  written := stores_append holds.written data

theorem Holds.phase {size : Int} {bytes : List UInt8} {s : Transfer} (holds : Holds size bytes s)
    (phase : ReadPhase) : Holds size bytes { s with phase := phase } :=
  ⟨holds.size, holds.total, holds.taken, holds.written⟩

section

variable {port : TermiosList} {start : BitVec 32} {size : Int} {turns : Nat → TransferTurn}

structure AtTurn (size : Int) (turns : Nat → TransferTurn) (k : Nat) (s : Transfer) : Prop where
  holds : Holds size (brought size turns k) s
  reading : asksResult turns k = false → s.phase = .reading
  pending : asksResult turns k = true →
    s.phase = .pending (brought size turns k).length s.size.toNat ∧
      ((brought size turns k).length : Int) < size

theorem AtTurn.zero (size : Int) (turns : Nat → TransferTurn) :
    AtTurn size turns 0 ⟨.reading, size, 0, []⟩ where
  holds := ⟨(Int.sub_zero _).symm, rfl, rfl, fun memory => (SerialImp.write_nil memory 0).symm⟩
  reading _ := rfl
  pending asks := Bool.noConfusion asks

theorem brought_next (turns : Nat → TransferTurn) {k : Nat} {s : Transfer}
    (holds : Holds size (brought size turns k) s) :
    brought size turns (k + 1) = brought size turns k ++
      ((turns k).brings (asksResult turns k)).take s.size.toNat := by
  have room : s.size.toNat = size.toNat - (brought size turns k).length := by
    have left := holds.size
    omega
  rw [brought, room]

structure Returned (result : Int) (bytes : List UInt8) (s : Transfer) : Prop where
  phase : s.phase = .returned result
  taken : taken s.stores = bytes
  written : ∀ memory, written s.stores memory = Store.write memory ⟨0, bytes⟩

theorem Holds.returned {bytes : List UInt8} {s : Transfer} (holds : Holds size bytes s)
    (result : Int) : Returned result bytes { s with phase := .returned result } :=
  ⟨rfl, holds.taken, holds.written⟩

theorem Holds.returned_total {bytes : List UInt8} {s : Transfer} (holds : Holds size bytes s) :
    Returned bytes.length bytes { s with phase := .returned s.total } :=
  ⟨congrArg (fun n : Nat => ReadPhase.returned n) holds.total, holds.taken, holds.written⟩

namespace AtTurn

variable {k : Nat} {s : Transfer} (here : AtTurn size turns k s)

include here

variable (port start) in
theorem asks_turn (asks : Asks size turns k) :
    ∃ counted, Holds size (brought size turns (k + 1)) counted ∧ counted.phase = .reading ∧
      transferTurn port start (turns k) s =
        if (turns k).readFile.succeeds then { counted with phase := .returned counted.total }
        else if (turns k).readFile.error = errorBrokenPipe ∨
          (turns k).readFile.error = errorMoreData then counted
        else if (turns k).readFile.error = errorIoPending then
          { counted with phase := .pending s.total s.size.toNat }
        else { counted with phase := .returned (-1) } := by
  have more : 0 < s.size := by
    have left := here.holds.size
    have short := asks.2
    omega
  have holds := here.holds.arrive ((turns k).readFile.data.take s.size.toNat)
  rw [← here.holds.total] at holds
  refine ⟨(s.store s.total ((turns k).readFile.data.take s.size.toNat)).count
    ((turns k).readFile.data.take s.size.toNat).length, ?_, here.reading asks.1, ?_⟩
  · rw [brought_next turns here.holds, asks.1]
    exact holds
  · rw [transferTurn, here.reading asks.1]
    exact if_pos more

variable (port start) in
theorem completes_turn (asks : asksResult turns k = true)
    (succeeds : (turns k).overlapped.succeeds = true) :
    ∃ counted, Holds size (brought size turns (k + 1)) counted ∧
      transferTurn port start (turns k) s =
        if 0 < counted.size ∧ port.timedOut start (turns k).now then
          { counted with phase := .returned counted.total }
        else { counted with phase := .reading } := by
  refine ⟨(s.store (brought size turns k).length ((turns k).overlapped.data.take
    s.size.toNat)).count ((turns k).overlapped.data.take s.size.toNat).length, ?_, ?_⟩
  · rw [brought_next turns here.holds, asks, TransferTurn.brings, if_pos succeeds]
    exact here.holds.arrive _
  · rw [transferTurn, (here.pending asks).1]
    exact if_pos succeeds

theorem refused_turn (asks : asksResult turns k = true)
    (fails : (turns k).overlapped.succeeds = false) :
    transferTurn port start (turns k) s =
      if (turns k).overlapped.error = errorIoIncomplete then s
      else { s.store (brought size turns k).length ((turns k).overlapped.data.take s.size.toNat)
        with phase := .returned s.total } := by
  rw [transferTurn, (here.pending asks).1]
  exact if_neg (Bool.eq_false_iff.mp fails)

theorem fills (full : Fills size turns k) :
    Returned (brought size turns k).length (brought size turns k)
      (transferTurn port start (turns k) s) := by
  have enough : ¬ 0 < s.size := by
    have left := here.holds.size
    have all := full.2
    omega
  rw [transferTurn, here.reading full.1]
  simp only [if_neg enough]
  exact here.holds.returned_total

theorem reads (read : Reads size turns k) :
    Returned (brought size turns (k + 1)).length (brought size turns (k + 1))
      (transferTurn port start (turns k) s) := by
  obtain ⟨counted, holds, -, turn⟩ := here.asks_turn port start read.1
  rw [turn, if_pos read.2]
  exact holds.returned_total

theorem fails (error : Fails size turns k) :
    Returned (-1) (brought size turns (k + 1)) (transferTurn port start (turns k) s) := by
  obtain ⟨asks, fails, pipe, more, pending⟩ := error
  obtain ⟨counted, holds, -, turn⟩ := here.asks_turn port start asks
  rw [turn, if_neg (Bool.eq_false_iff.mp fails), if_neg (not_or.mpr ⟨pipe, more⟩), if_neg pending]
  exact holds.returned _

theorem timesOut (late : TimesOut port start size turns k) :
    Returned (brought size turns (k + 1)).length (brought size turns (k + 1))
      (transferTurn port start (turns k) s) := by
  obtain ⟨asks, succeeds, short, elapsed⟩ := late
  obtain ⟨counted, holds, turn⟩ := here.completes_turn port start asks succeeds
  have more : 0 < counted.size := by
    rw [holds.size]
    omega
  rw [turn, if_pos ⟨more, elapsed⟩]
  exact holds.returned_total

variable (port start) in
theorem aborts (error : Aborts turns k) :
    Returned (brought size turns k).length
      (brought size turns k ++ (turns k).overlapped.data.take s.size.toNat)
      (transferTurn port start (turns k) s) := by
  obtain ⟨asks, fails, final⟩ := error
  rw [here.refused_turn asks fails, if_neg final, here.holds.total]
  exact ⟨rfl, (taken_append ..).trans (congrArg (· ++ _) here.holds.taken),
    stores_append here.holds.written _⟩

theorem next_read (pends : (turns k).readFile.Pends → (turns k).readFile.data = [])
    (asks : asksResult turns k = false) (goesOn : ¬ EndsLoop port start size turns k) :
    AtTurn size turns (k + 1) (transferTurn port start (turns k) s) := by
  have short : Asks size turns k := by
    refine ⟨asks, ?_⟩
    by_contra full
    exact goesOn (.fills ⟨asks, by omega⟩)
  have failed : (turns k).readFile.succeeds = false :=
    Bool.eq_false_iff.mpr fun read => goesOn (.reads ⟨short, read⟩)
  have later : asksResult turns (k + 1) = decide (turns k).readFile.Pends := by
    rw [asksResult, asks, if_neg Bool.false_ne_true]
  obtain ⟨counted, holds, reading, turn⟩ := here.asks_turn port start short
  rw [turn, if_neg (Bool.eq_false_iff.mp failed)]
  split_ifs with known pending
  · have other : ¬ (turns k).readFile.Pends := by
      rintro ⟨-, pending⟩
      rw [pending] at known
      revert known
      decide
    rw [decide_eq_false other] at later
    exact ⟨holds, fun _ => reading, fun asks => by simp [later] at asks⟩
  · have none := pends ⟨failed, pending⟩
    have same := brought_next turns here.holds
    rw [asks, TransferTurn.brings, none, List.take_nil, List.append_nil] at same
    have size := here.holds.size.trans (same ▸ holds.size).symm
    rw [decide_eq_true (show (turns k).readFile.Pends from ⟨failed, pending⟩)] at later
    refine ⟨holds.phase _, fun asks => by simp [later] at asks, fun _ => ?_⟩
    rw [same, here.holds.total, size]
    exact ⟨rfl, short.2⟩
  · exact absurd (.fails ⟨short, failed, fun pipe => known (.inl pipe),
      fun more => known (.inr more), pending⟩) goesOn

theorem next_result (asks : asksResult turns k = true)
    (goesOn : ¬ EndsLoop port start size turns k) :
    AtTurn size turns (k + 1) (transferTurn port start (turns k) s) := by
  have later : asksResult turns (k + 1) = !(turns k).overlapped.succeeds := by
    rw [asksResult, if_pos asks]
  cases succeeds : (turns k).overlapped.succeeds with
  | true =>
    obtain ⟨counted, holds, turn⟩ := here.completes_turn port start asks succeeds
    have onTime : ¬ (0 < counted.size ∧ port.timedOut start (turns k).now) := by
      rintro ⟨more, elapsed⟩
      rw [holds.size] at more
      exact goesOn (.timesOut ⟨asks, succeeds, by omega, elapsed⟩)
    rw [turn, if_neg onTime]
    rw [succeeds] at later
    exact ⟨holds.phase _, fun _ => rfl, fun asks => by simp [later] at asks⟩
  | false =>
    have incomplete : (turns k).overlapped.error = errorIoIncomplete := by
      by_contra final
      exact goesOn (.aborts ⟨asks, succeeds, final⟩)
    have same := brought_next turns here.holds
    rw [asks, TransferTurn.brings, if_neg (Bool.eq_false_iff.mp succeeds), List.take_nil,
      List.append_nil] at same
    rw [here.refused_turn asks succeeds, if_pos incomplete]
    rw [succeeds] at later
    refine ⟨same ▸ here.holds, fun asks => by simp [later] at asks, fun _ => ?_⟩
    rw [same]
    exact here.pending asks

theorem next (pends : (turns k).readFile.Pends → (turns k).readFile.data = [])
    (goesOn : ¬ EndsLoop port start size turns k) :
    AtTurn size turns (k + 1) (transferTurn port start (turns k) s) := by
  cases asks : asksResult turns k with
  | false => exact here.next_read pends asks goesOn
  | true => exact here.next_result asks goesOn

end AtTurn

section

variable (pends : ∀ k, (turns k).readFile.Pends → (turns k).readFile.data = [])

include pends

theorem transfer_atTurn {k : Nat} (reaches : ReachesTurn port start size turns k) :
    AtTurn size turns k (transfer port start turns ⟨.reading, size, 0, []⟩ k) := by
  induction k with
  | zero => exact AtTurn.zero size turns
  | succ k ih =>
    have here := ih fun before earlier => reaches before (Nat.lt_succ_of_lt earlier)
    exact here.next (pends k) (reaches k (Nat.lt_succ_self k))

end

theorem AtTurn.not_returned {k : Nat} {s : Transfer} (here : AtTurn size turns k s)
    (result : Int) : s.phase ≠ .returned result := by
  cases asks : asksResult turns k with
  | false => rw [here.reading asks]; exact ReadPhase.noConfusion
  | true => rw [(here.pending asks).1]; exact ReadPhase.noConfusion

theorem transfer_stays {s : Transfer} {k : Nat} {result : Int}
    (ended : (transfer port start turns s k).phase = .returned result) (more : Nat) :
    transfer port start turns s (k + more) = transfer port start turns s k := by
  induction more with
  | zero => rfl
  | succ more ih =>
    show transferTurn port start _ (transfer port start turns s (k + more)) = _
    rw [ih, transferTurn, ended]

theorem exists_endsLoop
    (pends : ∀ k, (turns k).readFile.Pends → (turns k).readFile.data = []) {k : Nat} {result : Int}
    (ended : (transfer port start turns ⟨.reading, size, 0, []⟩ k).phase = .returned result) :
    ∃ last, ReachesTurn port start size turns last ∧ EndsLoop port start size turns last := by
  classical
  have some : ∃ last, EndsLoop port start size turns last := by
    by_contra none
    rw [not_exists] at none
    exact (transfer_atTurn pends fun before _ => none before).not_returned result ended
  exact ⟨Nat.find some, fun before earlier => Nat.find_min some earlier, Nat.find_spec some⟩

theorem length_brought (size : Int) (turns : Nat → TransferTurn) (k : Nat) :
    (brought size turns k).length ≤ size.toNat := by
  induction k with
  | zero => exact Nat.zero_le _
  | succ k ih =>
    rw [brought, List.length_append, List.length_take]
    omega

theorem EndsWell.returned {k : Nat} {s : Transfer} (well : EndsWell port start size turns k)
    (here : AtTurn size turns k s) :
    ∃ result bytes, Returned result bytes (transferTurn port start (turns k) s) ∧
      bytes.length ≤ size.toNat ∧ (result = bytes.length ∨ result = -1 ∧ bytes = []) := by
  have few := length_brought size turns
  cases well with
  | fills full => exact ⟨_, _, here.fills full, few k, .inl rfl⟩
  | reads read => exact ⟨_, _, here.reads read, few (k + 1), .inl rfl⟩
  | timesOut late => exact ⟨_, _, here.timesOut late, few (k + 1), .inl rfl⟩
  | fails error nothing => exact ⟨_, _, here.fails error, few (k + 1), .inr ⟨rfl, nothing⟩⟩
  | aborts error nothing =>
    have ended := here.aborts port start error
    rw [nothing, List.take_nil, List.append_nil] at ended
    exact ⟨_, _, ended, few k, .inl rfl⟩

end

/-- The call returns. A result that is no error counts the bytes that the driver has brought, which
    are in `dest` in order, and an error means that there are none. -/
structure Conserves (size : Int) (run : Nat → Transfer) : Prop where
  returns : ∃ k result, (run k).phase = .returned result
  counts : ∀ k n : Nat, (run k).phase = .returned n →
    n ≤ size ∧ ∀ memory, contents (written (run k).stores memory) 0 n = taken (run k).stores
  fails : ∀ k, (run k).phase = .returned (-1) → taken (run k).stores = []

section

variable {port : TermiosList} {start : BitVec 32} {size : Int} {turns : Nat → TransferTurn}
  (pends : ∀ k, (turns k).readFile.Pends → (turns k).readFile.data = [])

include pends

theorem transfer_conserves {last : Nat} (room : 0 ≤ size)
    (reaches : ReachesTurn port start size turns last)
    (well : EndsWell port start size turns last) :
    Conserves size (transfer port start turns ⟨.reading, size, 0, []⟩) := by
  obtain ⟨result, bytes, ended, few, counts⟩ := well.returned (transfer_atTurn pends reaches)
  change Returned result bytes
    (transfer port start turns ⟨.reading, size, 0, []⟩ (last + 1)) at ended
  -- every run that has returned has returned at that turn
  have only : ∀ k result', (transfer port start turns ⟨.reading, size, 0, []⟩ k).phase =
      .returned result' → result' = result ∧ transfer port start turns ⟨.reading, size, 0, []⟩ k =
        transfer port start turns ⟨.reading, size, 0, []⟩ (last + 1) := by
    intro k result' returned
    have later : last + 1 ≤ k := by
      by_contra earlier
      have before : ReachesTurn port start size turns k :=
        fun turn less => reaches turn (by omega)
      exact (transfer_atTurn pends before).not_returned result' returned
    obtain ⟨more, rfl⟩ := Nat.exists_eq_add_of_le later
    have same := transfer_stays ended.phase more
    rw [same, ended.phase] at returned
    exact ⟨(ReadPhase.returned.inj returned).symm, same⟩
  refine ⟨⟨last + 1, result, ended.phase⟩, ?_, ?_⟩
  · intro k n returned
    obtain ⟨same, state⟩ := only k n returned
    have count : n = bytes.length := by omega
    subst count
    refine ⟨by omega, fun memory => ?_⟩
    rw [state, ended.written, ended.taken]
    exact SerialImp.contents_write memory 0 bytes
  · intro k returned
    obtain ⟨same, state⟩ := only k (-1) returned
    rw [state, ended.taken]
    rcases counts with counted | ⟨-, nothing⟩
    · omega
    · exact nothing

theorem endsWell_of_conserves
    (conserves : Conserves size (transfer port start turns ⟨.reading, size, 0, []⟩)) :
    ∃ last, ReachesTurn port start size turns last ∧ EndsWell port start size turns last := by
  obtain ⟨k, result, returned⟩ := conserves.returns
  obtain ⟨last, reaches, ends⟩ := exists_endsLoop pends returned
  have here := transfer_atTurn pends reaches
  refine ⟨last, reaches, ?_⟩
  cases ends with
  | fills full => exact .fills full
  | reads read => exact .reads read
  | timesOut late => exact .timesOut late
  | fails error =>
    have ended : Returned _ _ (transferTurn port start (turns last) _) := here.fails error
    exact .fails error (ended.taken ▸ conserves.fails (last + 1) ended.phase)
  | aborts error =>
    have ended := here.aborts port start error
    obtain ⟨-, kept⟩ := conserves.counts (last + 1) _ ended.phase
    have lengths := congrArg List.length ((kept fun _ => 0).trans ended.taken)
    rw [SerialImp.contents, List.length_map, List.length_range, List.length_append,
      List.length_take, here.holds.size] at lengths
    have room := (here.pending error.1).2
    exact .aborts error (List.eq_nil_of_length_eq_zero (by omega))

omit pends in
theorem size_of_conserves
    (conserves : Conserves size (transfer port start turns ⟨.reading, size, 0, []⟩)) :
    0 ≤ size := by
  by_contra negative
  have full : Fills size turns 0 := ⟨rfl, by simp [brought]; omega⟩
  have ended : Returned _ _ (transferTurn port start (turns 0) _) :=
    (AtTurn.zero size turns).fills full
  obtain ⟨few, -⟩ := conserves.counts 1 0 ended.phase
  omega

theorem transfer_conserves_iff :
    Conserves size (transfer port start turns ⟨.reading, size, 0, []⟩) ↔
      0 ≤ size ∧ ∃ last, ReachesTurn port start size turns last ∧
        EndsWell port start size turns last := by
  constructor
  · intro conserves
    exact ⟨size_of_conserves conserves, endsWell_of_conserves pends conserves⟩
  · rintro ⟨room, last, reaches, well⟩
    exact transfer_conserves pends room reaches well

end

theorem returns_zero_conserves_iff (size : Int) :
    Conserves size (fun _ => .returns 0 size) ↔ 0 ≤ size := by
  constructor
  · intro conserves
    exact (conserves.counts 0 0 rfl).1
  · intro room
    refine ⟨⟨0, 0, rfl⟩, ?_, fun _ _ => rfl⟩
    intro k n returned
    have none : (0 : Int) = n := ReadPhase.returned.inj returned
    obtain rfl : n = 0 := by omega
    exact ⟨room, fun _ => rfl⟩

theorem returns_error_conserves (size : Int) : Conserves size fun _ => .returns (-1) size where
  returns := ⟨0, -1, rfl⟩
  counts k n returned := by
    have none : (-1 : Int) = n := ReadPhase.returned.inj returned
    omega
  fails _ _ := rfl

/-- There is no port, or the size is one, and where the transfer is begun one of its turns ends it
    well. -/
def ReadsWell (call : SerialReadCall) (found : Option TermiosList) (bound : Nat) : Prop :=
  0 < call.fd ∧ found = none ∨ 0 ≤ call.size ∧
    (0 < call.fd → ∀ port ∈ found, call.wait port bound = some .passed →
      ∃ last, ReachesTurn port call.start call.size call.turns last ∧
        EndsWell port call.start call.size call.turns last)

def quietPort : TermiosList := { TermiosList.zero with fd := 1 }

def tenBytes (turns : Nat → TransferTurn) : SerialReadCall :=
  ⟨1, 10, 0, 0, fun _ => ⟨0, 0, 0⟩, turns⟩

def threeArrive : TransferTurn := ⟨⟨true, [1, 2, 3], 0⟩, ⟨true, [], 0⟩, 0⟩

def brokenPipe : TransferTurn := ⟨⟨false, [], errorBrokenPipe⟩, ⟨true, [], 0⟩, 0⟩

theorem brokenPipe_turn (port : TermiosList) (start : BitVec 32) {s : Transfer}
    (reading : s.phase = .reading) (more : 0 < s.size) :
    (transferTurn port start brokenPipe s).phase = .reading ∧
      0 < (transferTurn port start brokenPipe s).size := by
  have size : (transferTurn port start brokenPipe s).size =
      s.size - (List.take s.size.toNat ([] : List UInt8)).length := by
    rw [transferTurn, reading]
    simp only [if_pos more]
    rfl
  rw [List.take_nil, List.length_nil, Int.natCast_zero, Int.sub_zero] at size
  refine ⟨?_, size ▸ more⟩
  rw [transferTurn, reading]
  simp only [if_pos more]
  exact reading

/-- A device whose reads all fail with `ERROR_BROKEN_PIPE` keeps the loop for ever. -/
theorem brokenPipe_goesOn (port : TermiosList) (start : BitVec 32) {size : Int} (more : 0 < size)
    (k : Nat) :
    (transfer port start (fun _ => brokenPipe) ⟨.reading, size, 0, []⟩ k).phase = .reading ∧
      0 < (transfer port start (fun _ => brokenPipe) ⟨.reading, size, 0, []⟩ k).size := by
  induction k with
  | zero => exact ⟨rfl, more⟩
  | succ k ih => exact brokenPipe_turn port start ih.1 ih.2

end Rxtx.Win32
