import Rxtx.SerialImp.ReadRounds

namespace Rxtx.SerialImp

structure ByteRead where
  start : Int
  turns : Nat → ReadTurn

structure TerminatedCall where
  offset : Int
  length : Int
  timeout : Int
  terminator : UInt8 × UInt8

def TerminatedCall.request (c : TerminatedCall) (read : ByteRead) (total : Int) : ReadRequest :=
  ⟨c.offset + total, 1, c.timeout, read.start⟩

/-- `body` has the elements of the Java array, and `bytes` is what the device was read of. -/
structure TerminatedRun where
  body : Int → UInt8
  bytes : List UInt8
  dataAvailable : Int
  ending : ReadEnd

/-- The terminator test looks at the bytes before `body[ total ]`, whatever the offset. -/
def gotTerminator (c : TerminatedCall) (total : Int) (body : Int → UInt8) : Prop :=
  1 < total ∧ c.terminator.2 = body (total - 1) ∧ c.terminator.1 = body (total - 2)

instance (c : TerminatedCall) (total : Int) (body : Int → UInt8) :
    Decidable (gotTerminator c total body) :=
  inferInstanceAs (Decidable (1 < total ∧ c.terminator.2 = body (total - 1) ∧
    c.terminator.1 = body (total - 2)))

def readTerminatedLoop (c : TerminatedCall) (dataAvailable : Int) (reads : Nat → ByteRead) :
    Nat → Int → (Int → UInt8) → List UInt8 → Option TerminatedRun
  | 0, _, _, _ => none
  | turns + 1, total, body, bytes =>
    let read := reads total.toNat
    let run := readByteArray (c.request read total) dataAvailable read.turns
    let body := written run.stores body
    let bytes := bytes ++ taken run.stores
    let total := total + run.result
    let ends (ending : ReadEnd) : Option TerminatedRun :=
      some ⟨body, bytes, run.dataAvailable, ending⟩
    if run.result < 0 then ends (.throwsIOException "readArray")
    else if gotTerminator c total body then ends (.returns run.result)
    else if 0 < run.result ∧ total < c.length then
      readTerminatedLoop c run.dataAvailable reads turns total body bytes
    else ends (.returns run.result) -- the result of the last read, not the total

def readTerminatedArray (c : TerminatedCall) (dataAvailable : Int) (reads : Nat → ByteRead)
    (body : Int → UInt8) : Option TerminatedRun :=
  if ssizeMax < sizeT c.length ∨ sizeT c.length < 0 then
    some ⟨body, [], dataAvailable, .throwsArrayIndexOutOfBounds "readArray"⟩
  else readTerminatedLoop c dataAvailable reads (c.length.toNat + 1) 0 body []

/-- The read ends without an error when it has the byte, or with none when its time or its rounds
    are over. -/
def Brings (r : ReadRequest) (turns : Nat → ReadTurn) (byte : Option UInt8) : Prop :=
  ∃ last ≤ 20, Reaches r turns last ∧ received r turns last = byte.toList ∧
    (byte = none → last = 20 ∨ r.TimedOut (turns last))

theorem received_request (c : TerminatedCall) (read : ByteRead) (total : Int)
    (turns : Nat → ReadTurn) (round : Nat) :
    received (c.request read total) turns round = received (c.request read 0) turns round := by
  induction round with
  | zero => rfl
  | succ round ih =>
    rw [received, received, ih]
    rfl

theorem Brings.request {c : TerminatedCall} {read : ByteRead} {byte : Option UInt8}
    (brings : Brings (c.request read 0) read.turns byte) (total : Int) :
    Brings (c.request read total) read.turns byte := by
  obtain ⟨last, few, reaches, bytes, late⟩ := brings
  refine ⟨last, few, ?_, ?_, late⟩
  · intro before earlier
    have passed := reaches before earlier
    unfold Short at passed ⊢
    rw [received_request]
    exact passed
  · rw [received_request]
    exact bytes

theorem Brings.read {r : ReadRequest} {turns : Nat → ReadTurn} {byte : Option UInt8}
    (brings : Brings r turns byte) (one : r.length = 1) (dataAvailable : Int) :
    (readByteArray r dataAvailable turns).result = byte.toList.length ∧
      taken (readByteArray r dataAvailable turns).stores = byte.toList ∧
      ∀ memory, written (readByteArray r dataAvailable turns).stores memory =
        Store.write memory ⟨r.buffer, byte.toList⟩ := by
  obtain ⟨last, few, reaches, bytes, late⟩ := brings
  obtain ⟨last', few', reaches', ends', taken', written'⟩ :=
    readByteArray_ends r dataAvailable turns
  have ends : Ends r turns last (received r turns last).length := by
    by_cases short : Short r turns last
    · cases byte with
      | some byte =>
        have full : ¬ Short r turns last := by
          unfold Short
          rw [bytes, one]
          simp
        exact .filled full
      | none =>
        rcases Nat.lt_or_eq_of_le few with more | all
        · exact .timedOut more short ((late rfl).resolve_left (Nat.ne_of_lt more))
        · exact .exhausted all short
    · exact .filled short
  obtain ⟨rfl, result⟩ := ends'.unique reaches' few' ends reaches few
  rw [bytes] at result taken' written'
  exact ⟨result, taken', written'⟩

section

variable {c : TerminatedCall} {reads : Nat → ByteRead} {arrives : Nat → Option UInt8}

theorem readTerminatedLoop_none {n : Nat}
    (brings : Brings (c.request (reads n) 0) (reads n).turns (arrives n))
    (timedOut : arrives n = none) (dataAvailable : Int) (turns : Nat) (body : Int → UInt8)
    (bytes : List UInt8) :
    readTerminatedLoop c dataAvailable reads (turns + 1) n body bytes =
      some ⟨body, bytes, dataAvailable, .returns 0⟩ := by
  obtain ⟨result, got, stored⟩ := (brings.request n).read rfl dataAvailable
  simp only [timedOut, Option.toList_none, List.length_nil, Int.natCast_zero] at result got stored
  simp only [write_nil] at stored
  simp only [readTerminatedLoop, Int.toNat_natCast, result, got, stored, List.append_nil,
    Int.lt_irrefl, false_and, if_false]
  split_ifs <;> rfl

theorem readTerminatedLoop_some {n : Nat} {byte : UInt8}
    (brings : Brings (c.request (reads n) 0) (reads n).turns (arrives n))
    (arrived : arrives n = some byte) (dataAvailable : Int) (turns : Nat) (body : Int → UInt8)
    (bytes : List UInt8) :
    readTerminatedLoop c dataAvailable reads (turns + 1) n body bytes =
      let body := Store.write body ⟨c.offset + n, [byte]⟩
      if ¬ gotTerminator c (n + 1 : Nat) body ∧ ((n + 1 : Nat) : Int) < c.length then
        readTerminatedLoop c dataAvailable reads turns (n + 1 : Nat) body (bytes ++ [byte])
      else some ⟨body, bytes ++ [byte], dataAvailable, .returns 1⟩ := by
  obtain ⟨result, got, stored⟩ := (brings.request n).read rfl dataAvailable
  simp only [arrived, Option.toList_some, List.length_singleton, Int.natCast_one]
    at result got stored
  have positive : ¬ (1 : Int) < 0 := by decide
  have progress : (0 : Int) < 1 := by decide
  simp only [readTerminatedLoop, Int.toNat_natCast, result, got, stored, positive, progress,
    true_and, if_false, Int.natCast_add, Int.natCast_one]
  by_cases terminated : gotTerminator c (n + 1) (Store.write body ⟨c.offset + n, [byte]⟩)
  · simp [terminated, TerminatedCall.request, readByteArray]
  · by_cases more : (n : Int) + 1 < c.length
    · simp [terminated, more, TerminatedCall.request, readByteArray]
    · simp [terminated, more, TerminatedCall.request, readByteArray]

theorem readTerminatedLoop_returns
    (brings : ∀ i, Brings (c.request (reads i) 0) (reads i).turns (arrives i))
    (dataAvailable : Int) {turns n : Nat} (enough : c.length ≤ n + turns) (body : Int → UInt8)
    (bytes : List UInt8) :
    ∃ run, readTerminatedLoop c dataAvailable reads (turns + 1) n body bytes = some run ∧
      (run.ending = .returns 0 ∨ run.ending = .returns 1) := by
  induction turns generalizing n body bytes with
  | zero =>
    cases arrived : arrives n with
    | none => exact ⟨_, readTerminatedLoop_none (brings n) arrived .., .inl rfl⟩
    | some byte =>
      have last : ¬ ((n + 1 : Nat) : Int) < c.length := by omega
      rw [readTerminatedLoop_some (brings n) arrived]
      simp only [last, and_false, if_false]
      exact ⟨_, rfl, .inr rfl⟩
  | succ turns ih =>
    cases arrived : arrives n with
    | none => exact ⟨_, readTerminatedLoop_none (brings n) arrived .., .inl rfl⟩
    | some byte =>
      rw [readTerminatedLoop_some (brings n) arrived]
      simp only []
      split_ifs
      · exact ih (by omega) _ _
      · exact ⟨_, rfl, .inr rfl⟩

end

section

variable (c : TerminatedCall) (arrives : Nat → Option UInt8)

/-- The last two bytes are the terminator, or all bytes have come. -/
def Complete (k : Nat) : Prop :=
  (k : Int) = c.length ∨
    2 ≤ k ∧ arrives (k - 2) = some c.terminator.1 ∧ arrives (k - 1) = some c.terminator.2

/-- The read has to stop after `k` bytes: it is complete, or no more come in time. -/
def Stops (k : Nat) : Prop := Complete c arrives k ∨ arrives k = none

def input (k : Nat) : List UInt8 := (List.range k).flatMap fun i => (arrives i).toList

structure StopsAt (body : Int → UInt8) (k : Nat) (run : TerminatedRun) : Prop where
  stops : Stops c arrives k
  first : ∀ j < k, ¬ Stops c arrives j
  bytes : run.bytes = input arrives k
  stored : run.body = Store.write body ⟨c.offset, input arrives k⟩

def StopsAndReports (body : Int → UInt8) (run : TerminatedRun) : Prop :=
  ∃ k, StopsAt c arrives body k run ∧ run.ending = .returns k

end

section

variable {c : TerminatedCall} {reads : Nat → ByteRead} {arrives : Nat → Option UInt8}

theorem input_succ (arrives : Nat → Option UInt8) (k : Nat) :
    input arrives (k + 1) = input arrives k ++ (arrives k).toList := by
  simp [input, List.range_succ]

theorem input_length {k : Nat} (arrived : ∀ j < k, arrives j ≠ none) :
    (input arrives k).length = k := by
  induction k with
  | zero => rfl
  | succ k ih =>
    obtain ⟨byte, here⟩ := Option.ne_none_iff_exists'.mp (arrived k (Nat.lt_succ_self k))
    rw [input_succ, List.length_append, ih fun j less => arrived j (Nat.lt_succ_of_lt less), here]
    rfl

theorem input_get {k i : Nat} (arrived : ∀ j < k, arrives j ≠ none) (inside : i < k) :
    (input arrives k)[i]? = arrives i := by
  induction k with
  | zero => exact absurd inside (Nat.not_lt_zero _)
  | succ k ih =>
    have before : ∀ j < k, arrives j ≠ none := fun j less => arrived j (Nat.lt_succ_of_lt less)
    have length := input_length before
    rw [input_succ]
    rcases Nat.lt_succ_iff_lt_or_eq.mp inside with old | rfl
    · rw [List.getElem?_append_left (by omega), ih before old]
    · rw [List.getElem?_append_right (by omega), length, Nat.sub_self]
      cases arrives i <;> rfl

theorem readTerminated_misreports
    (brings : ∀ i, Brings (c.request (reads i) 0) (reads i).turns (arrives i))
    (several : 2 ≤ c.length) (arrived : arrives 0 ≠ none) {dataAvailable : Int}
    {body : Int → UInt8} {run : TerminatedRun}
    (called : readTerminatedLoop c dataAvailable reads (c.length.toNat + 1) 0 body [] = some run) :
    ¬ StopsAndReports c arrives body run := by
  intro reports
  rcases reports with ⟨k, stopsAt, returned⟩
  have enough : c.length ≤ (0 : Nat) + c.length.toNat := by omega
  obtain ⟨other, same, small⟩ := readTerminatedLoop_returns brings dataAvailable enough body []
  obtain rfl : run = other := Option.some.inj (called.symm.trans same)
  have stops := stopsAt.stops
  have count : k = 0 ∨ k = 1 := by
    rcases small with zero | one
    · rw [zero] at returned
      injection returned with value
      omega
    · rw [one] at returned
      injection returned with value
      omega
  rcases count with rfl | rfl
  · rcases stops with (all | ⟨two, -⟩) | none
    · omega
    · omega
    · exact arrived none
  · have timedOut : arrives 1 = none := by
      rcases stops with (all | ⟨two, -⟩) | none
      · omega
      · omega
      · exact none
    obtain ⟨byte, first⟩ := Option.ne_none_iff_exists'.mp arrived
    obtain ⟨turns, two⟩ : ∃ turns, c.length.toNat + 1 = turns + 1 + 1 :=
      ⟨c.length.toNat - 1, by omega⟩
    have begins := readTerminatedLoop_some (brings 0) first dataAvailable (turns + 1) body []
    have more : ((0 + 1 : Nat) : Int) < c.length := by omega
    have one : ¬ gotTerminator c ((0 + 1 : Nat) : Int)
        (Store.write body ⟨c.offset + (0 : Nat), [byte]⟩) := fun got => absurd got.1 (by decide)
    simp only [more, one, not_false_eq_true, and_self, if_true] at begins
    rw [readTerminatedLoop_none (brings 1) timedOut] at begins
    rw [two] at called
    obtain rfl := Option.some.inj (begins.symm.trans called)
    injection returned with value
    omega

/-- A call stops, stores and reports as it should exactly where it asks for one byte or gets
    none. -/
theorem readTerminated_stops_and_reports_iff (c : TerminatedCall) (reads : Nat → ByteRead)
    (arrives : Nat → Option UInt8) (dataAvailable : Int) (body : Int → UInt8)
    (some : 1 ≤ c.length) (int : c.length < 2 ^ 31)
    (brings : ∀ i, Brings (c.request (reads i) 0) (reads i).turns (arrives i)) :
    (∃ run, readTerminatedArray c dataAvailable reads body = .some run ∧
      StopsAndReports c arrives body run) ↔ c.length = 1 ∨ arrives 0 = none := by
  have zero : c.offset + ((0 : Nat) : Int) = c.offset := Int.add_zero _
  rw [readTerminatedArray, if_neg (sizeT_of_length (by omega) int)]
  constructor
  · intro called
    rcases called with ⟨run, called, reports⟩
    by_contra several
    obtain ⟨notOne, arrived⟩ := not_or.mp several
    exact readTerminated_misreports brings (by omega) arrived called reports
  · intro condition
    cases first : arrives 0 with
    | none =>
      refine ⟨_, readTerminatedLoop_none (brings 0) first dataAvailable _ body [], 0, ?_, rfl⟩
      exact ⟨.inr first, by simp, rfl, (write_nil body c.offset).symm⟩
    | some byte =>
      have one : c.length = 1 := by simpa [first] using condition
      have last : ¬ ((0 + 1 : Nat) : Int) < c.length := by omega
      have begins := readTerminatedLoop_some (brings 0) first dataAvailable c.length.toNat body []
      simp only [last, and_false, if_false] at begins
      refine ⟨_, begins, 1, ?_, rfl⟩
      have bytes : input arrives 1 = [byte] := by simp [input, first]
      refine ⟨.inl (.inl one.symm), ?_, bytes.symm, by rw [bytes, zero]⟩
      intro j before stops
      obtain rfl : j = 0 := Nat.lt_one_iff.mp before
      rcases stops with (all | ⟨two, -⟩) | none
      · omega
      · omega
      · rw [first] at none
        cases none

def byteRead (byte : Option UInt8) : ByteRead where
  start := 0
  turns := fun _ => match byte with
    | some byte => ⟨0, 1, .gives [byte]⟩
    | none => ⟨100, 0, .gives []⟩

theorem byteRead_brings (buffer : Int) (byte : Option UInt8) :
    Brings ⟨buffer, 1, 100, 0⟩ (byteRead byte).turns byte := by
  cases byte with
  | none =>
    have late : (0 : Int) ≤ 100 ∧ (100 : Int) ≤ 100 - 0 := by decide
    exact ⟨0, by decide, .zero, rfl, fun _ => .inr late⟩
  | some byte =>
    have early : ¬ (100 : Int) ≤ 0 - 0 := by decide
    have inTime : ¬ ReadRequest.TimedOut ⟨buffer, 1, 100, 0⟩ ⟨0, 1, .gives [byte]⟩ :=
      fun late => early late.2
    have succeeds : ¬ ReadTurn.Fails ⟨0, 1, .gives [byte]⟩ := by simp [ReadTurn.Fails]
    refine ⟨1, by decide, Reaches.zero.next ?_ inTime succeeds, rfl, by simp⟩
    exact Int.zero_lt_one

def arrivals : Nat → Option UInt8
  | 0 => some 65
  | 1 => some 13
  | 2 => some 10
  | _ => none

theorem readTerminated_reports_one :
    ∃ run, readTerminatedArray ⟨3, 1, 100, (13, 10)⟩ 0 (fun i => byteRead (arrivals i))
        (fun _ => 0) = some run ∧
      StopsAndReports ⟨3, 1, 100, (13, 10)⟩ arrivals (fun _ => 0) run :=
  (readTerminated_stops_and_reports_iff ⟨3, 1, 100, (13, 10)⟩ (fun i => byteRead (arrivals i))
    arrivals 0 (fun _ => 0) (by decide) (by decide) fun i => byteRead_brings 3 (arrivals i)).mpr
    (.inl rfl)

/-- Three bytes are read up to a carriage return and line feed, and reported as one. -/
theorem readTerminated_reports_wrong :
    ¬ ∀ (c : TerminatedCall) (reads : Nat → ByteRead) (arrives : Nat → Option UInt8)
      (dataAvailable : Int) (body : Int → UInt8), 0 ≤ c.offset → 1 ≤ c.length →
      c.length < 2 ^ 31 → (∀ i, Brings (c.request (reads i) 0) (reads i).turns (arrives i)) →
      ∃ run, readTerminatedArray c dataAvailable reads body = some run ∧
        StopsAndReports c arrives body run := by
  intro reports
  have call := reports ⟨0, 4, 100, (13, 10)⟩ (fun i => byteRead (arrivals i)) arrivals 0 (fun _ => 0)
    (by decide) (by decide) (by decide) fun i => byteRead_brings 0 (arrivals i)
  rcases call with ⟨run, called, k, stopsAt, returned⟩
  obtain ⟨other, same, ending⟩ : ∃ run, readTerminatedArray ⟨0, 4, 100, (13, 10)⟩ 0
      (fun i => byteRead (arrivals i)) (fun _ => 0) = some run ∧ run.ending = .returns 1 :=
    ⟨_, rfl, rfl⟩
  obtain rfl : run = other := Option.some.inj (called.symm.trans same)
  rw [ending] at returned
  injection returned with count
  obtain rfl : k = 1 := by omega
  rcases stopsAt.stops with (all | ⟨two, -⟩) | none
  · exact absurd all (by decide)
  · exact absurd two (by decide)
  · cases none

/-- There the terminator test looks at the bytes of this call. -/
theorem gotTerminator_iff (atZero : c.offset = 0) (body : Int → UInt8) {n : Nat}
    (arrived : ∀ j < n + 1, arrives j ≠ none) (last : ((n + 1 : Nat) : Int) ≠ c.length) :
    gotTerminator c (n + 1 : Nat) (Store.write body ⟨c.offset, input arrives (n + 1)⟩) ↔
      Complete c arrives (n + 1) := by
  have length := input_length arrived
  have stored (i : Nat) (inside : i < n + 1) (byte : UInt8) :
      byte = Store.write body ⟨c.offset, input arrives (n + 1)⟩ i ↔ arrives i = some byte := by
    have range : (0 : Int) ≤ i ∧ (i : Int) < 0 + (input arrives (n + 1)).length := by omega
    have get := input_get arrived inside
    simp only [Store.write, atZero, if_pos range, Int.sub_zero, Int.toNat_natCast,
      List.getD_eq_getElem?_getD, get]
    obtain ⟨here, some⟩ := Option.ne_none_iff_exists'.mp (arrived i inside)
    rw [some, Option.getD_some, Option.some.injEq]
    exact eq_comm
  unfold gotTerminator Complete
  constructor
  · intro got
    rcases got with ⟨two, second, first⟩
    have before : ((n + 1 : Nat) : Int) - 2 = (n - 1 : Nat) := by omega
    have here : ((n + 1 : Nat) : Int) - 1 = n := by omega
    rw [before, stored _ (by omega)] at first
    rw [here, stored _ (by omega)] at second
    exact .inr ⟨by omega, first, second⟩
  · intro complete
    obtain ⟨two, first, second⟩ := complete.resolve_left last
    have before : ((n + 1 : Nat) : Int) - 2 = (n + 1 - 2 : Nat) := by omega
    have here : ((n + 1 : Nat) : Int) - 1 = (n + 1 - 1 : Nat) := by omega
    refine ⟨by omega, ?_, ?_⟩
    · rw [here, stored _ (by omega)]
      exact second
    · rw [before, stored _ (by omega)]
      exact first

theorem readTerminatedLoop_stopsAt
    (brings : ∀ i, Brings (c.request (reads i) 0) (reads i).turns (arrives i))
    (atZero : c.offset = 0) (dataAvailable : Int) (body : Int → UInt8) {turns n : Nat}
    (enough : c.length ≤ n + turns) (going : ∀ j < n, ¬ Stops c arrives j)
    (incomplete : ¬ Complete c arrives n) (more : (n : Int) < c.length) :
    ∃ run k, readTerminatedLoop c dataAvailable reads (turns + 1) n
        (Store.write body ⟨c.offset, input arrives n⟩) (input arrives n) = some run ∧
      StopsAt c arrives body k run := by
  induction turns generalizing n with
  | zero => omega
  | succ turns ih =>
    have arrivedBefore : ∀ j < n, arrives j ≠ none := fun j less none => going j less (.inr none)
    cases arrived : arrives n with
    | none =>
      exact ⟨_, n, readTerminatedLoop_none (brings n) arrived .., .inr arrived, going, rfl, rfl⟩
    | some byte =>
      have all : ∀ j < n + 1, arrives j ≠ none := by
        intro j less
        rcases Nat.lt_succ_iff_lt_or_eq.mp less with old | rfl
        · exact arrivedBefore j old
        · simp [arrived]
      have going' : ∀ j < n + 1, ¬ Stops c arrives j := by
        intro j less
        rcases Nat.lt_succ_iff_lt_or_eq.mp less with old | rfl
        · exact going j old
        · exact not_or.mpr ⟨incomplete, by simp [arrived]⟩
      have bytes : input arrives (n + 1) = input arrives n ++ [byte] := by
        rw [input_succ, arrived]
        rfl
      have stored : Store.write (Store.write body ⟨c.offset, input arrives n⟩)
          ⟨c.offset + n, [byte]⟩ = Store.write body ⟨c.offset, input arrives (n + 1)⟩ := by
        have length := input_length arrivedBefore
        rw [bytes, ← write_append, length]
      rw [readTerminatedLoop_some (brings n) arrived]
      simp only [stored, ← bytes]
      by_cases last : ((n + 1 : Nat) : Int) < c.length
      · have terminated := gotTerminator_iff atZero body all (by omega)
        split_ifs with goesOn
        · exact ih (by omega) going' (mt terminated.mpr goesOn.1) last
        · have complete : Complete c arrives (n + 1) := by
            by_contra incomplete'
            exact goesOn ⟨mt terminated.mp incomplete', last⟩
          exact ⟨_, n + 1, rfl, .inl complete, going', rfl, rfl⟩
      · have full : ((n + 1 : Nat) : Int) = c.length := by omega
        simp only [last, and_false, if_false]
        exact ⟨_, n + 1, rfl, .inl (.inl full), going', rfl, rfl⟩

/-- A call that stores from index 0 on stops right after the terminator. -/
theorem readTerminated_stopsAt (c : TerminatedCall) (reads : Nat → ByteRead)
    (arrives : Nat → Option UInt8) (dataAvailable : Int) (body : Int → UInt8)
    (some : 1 ≤ c.length) (int : c.length < 2 ^ 31) (atZero : c.offset = 0)
    (brings : ∀ i, Brings (c.request (reads i) 0) (reads i).turns (arrives i)) :
    ∃ run k, readTerminatedArray c dataAvailable reads body = .some run ∧
      StopsAt c arrives body k run := by
  have incomplete : ¬ Complete c arrives 0 := by
    intro complete
    rcases complete with all | ⟨two, -⟩ <;> omega
  have enough : c.length ≤ (0 : Nat) + c.length.toNat := by omega
  have reads := readTerminatedLoop_stopsAt brings atZero dataAvailable body enough
    (fun _ less => absurd less (Nat.not_lt_zero _)) incomplete (by omega)
  have none : Store.write body ⟨c.offset, input arrives 0⟩ = body := write_nil body c.offset
  rw [none] at reads
  rw [readTerminatedArray, if_neg (sizeT_of_length (by omega) int)]
  exact reads

end

end Rxtx.SerialImp
