import Mathlib.Data.List.GetD
import Rxtx.SerialImp.ReadByteArray

namespace Rxtx.SerialImp

def ReadTurn.Fails (turn : ReadTurn) : Prop :=
  turn.select = -1 ∨ 0 < turn.select ∧ turn.read = .fails

def ReadTurn.given (turn : ReadTurn) (left : Nat) : List UInt8 :=
  if 0 < turn.select then
    match turn.read with
    | .fails => []
    | .gives data => data.take left
  else []

def ReadRequest.TimedOut (r : ReadRequest) (turn : ReadTurn) : Prop :=
  0 ≤ r.timeout ∧ r.timeout ≤ turn.now - r.start

section

variable (r : ReadRequest) (turns : Nat → ReadTurn)

def received : Nat → List UInt8
  | 0 => []
  | round + 1 => received round ++ (turns round).given (r.length.toNat - (received round).length)

def Short (round : Nat) : Prop := ((received r turns round).length : Int) < r.length

def Reaches (round : Nat) : Prop :=
  ∀ before < round, Short r turns before ∧ ¬ r.TimedOut (turns before) ∧ ¬ (turns before).Fails

inductive Ends (round : Nat) : Int → Prop
  | filled (full : ¬ Short r turns round) : Ends round (received r turns round).length
  | timedOut (more : round < 20) (short : Short r turns round)
      (late : r.TimedOut (turns round)) : Ends round (received r turns round).length
  | failed (more : round < 20) (short : Short r turns round)
      (inTime : ¬ r.TimedOut (turns round)) (fails : (turns round).Fails) : Ends round (-1)
  | exhausted (last : round = 20) (short : Short r turns round) :
      Ends round (received r turns round).length

end

variable {r : ReadRequest} {turns : Nat → ReadTurn}

theorem Reaches.zero : Reaches r turns 0 := fun _ before => absurd before (Nat.not_lt_zero _)

theorem Reaches.next {round : Nat} (reaches : Reaches r turns round)
    (short : Short r turns round) (inTime : ¬ r.TimedOut (turns round))
    (succeeds : ¬ (turns round).Fails) : Reaches r turns (round + 1) := by
  intro before earlier
  rcases Nat.lt_succ_iff_lt_or_eq.mp earlier with old | rfl
  · exact reaches before old
  · exact ⟨short, inTime, succeeds⟩

theorem Reaches.no_end_before {round before : Nat} {result : Int} (reaches : Reaches r turns round)
    (few : round ≤ 20) (earlier : before < round) : ¬ Ends r turns before result := by
  obtain ⟨goesOn, onTime, succeeds⟩ := reaches before earlier
  intro ends
  cases ends with
  | filled full => exact full goesOn
  | timedOut _ _ late => exact onTime late
  | failed _ _ _ fails => exact succeeds fails
  | exhausted last _ => omega

theorem Ends.unique {first second : Nat} {result result' : Int} (ends : Ends r turns first result)
    (reaches : Reaches r turns first) (few : first ≤ 20) (ends' : Ends r turns second result')
    (reaches' : Reaches r turns second) (few' : second ≤ 20) :
    first = second ∧ result = result' := by
  rcases Nat.lt_trichotomy first second with less | rfl | more
  · exact absurd ends (reaches'.no_end_before few' less)
  · refine ⟨rfl, ?_⟩
    cases ends <;> cases ends' <;> first | rfl | contradiction | omega
  · exact absurd ends' (reaches.no_end_before few more)

def Store.write (memory : Int → UInt8) (store : Store) : Int → UInt8 := fun index =>
  if store.index ≤ index ∧ index < store.index + store.data.length then
    store.data.getD (index - store.index).toNat 0
  else memory index

def written (stores : List Store) (memory : Int → UInt8) : Int → UInt8 :=
  stores.foldl Store.write memory

def contents (memory : Int → UInt8) (buffer : Int) (length : Nat) : List UInt8 :=
  (List.range length).map fun i : Nat => memory (buffer + i)

def taken (stores : List Store) : List UInt8 := stores.flatMap Store.data

theorem write_nil (memory : Int → UInt8) (index : Int) : Store.write memory ⟨index, []⟩ = memory := by
  funext i
  have none : ¬ (index ≤ i ∧ i < index + ([] : List UInt8).length) := by
    simp only [List.length_nil, Int.natCast_zero]
    omega
  exact if_neg none

theorem write_append (memory : Int → UInt8) (index : Int) (first second : List UInt8) :
    Store.write (Store.write memory ⟨index, first⟩) ⟨index + first.length, second⟩ =
      Store.write memory ⟨index, first ++ second⟩ := by
  funext i
  simp only [Store.write, List.length_append]
  by_cases late : index + first.length ≤ i ∧ i < index + first.length + second.length
  · have inside : index ≤ i ∧ i < index + ((first.length + second.length : Nat) : Int) := by omega
    have behind : first.length ≤ (i - index).toNat := by omega
    have position : (i - (index + first.length)).toNat = (i - index).toNat - first.length := by
      omega
    rw [if_pos late, if_pos inside, List.getD_append_right _ _ _ _ behind, position]
  · rw [if_neg late]
    by_cases early : index ≤ i ∧ i < index + first.length
    · have inside : index ≤ i ∧ i < index + ((first.length + second.length : Nat) : Int) := by omega
      have before : (i - index).toNat < first.length := by omega
      rw [if_pos early, if_pos inside, List.getD_append _ _ _ _ before]
    · have outside : ¬ (index ≤ i ∧ i < index + ((first.length + second.length : Nat) : Int)) := by
        omega
      rw [if_neg early, if_neg outside]

theorem contents_write (memory : Int → UInt8) (buffer : Int) (data : List UInt8) :
    contents (Store.write memory ⟨buffer, data⟩) buffer data.length = data := by
  apply List.ext_getElem
  · simp [contents]
  · intro i _ inside
    have stored : buffer ≤ buffer + (i : Int) ∧ buffer + (i : Int) < buffer + data.length := by omega
    have position : (buffer + (i : Int) - buffer).toNat = i := by omega
    simp only [contents, List.getElem_map, List.getElem_range, Store.write, if_pos stored, position]
    exact List.getD_eq_getElem data 0 inside

def ReadState.receive (r : ReadRequest) (data : List UInt8) (s : ReadState) : ReadState :=
  if data = [] then s
  else
    { bytes := s.bytes + data.length
      left := s.left - data.length
      stores := s.stores ++ [⟨r.buffer + s.bytes, data⟩] }

theorem readTurn_timedOut {turn : ReadTurn} (late : r.TimedOut turn) (s : ReadState) :
    readTurn r turn s = (some s.bytes, s) := if_pos late

theorem readTurn_fails {turn : ReadTurn} (inTime : ¬ r.TimedOut turn) (fails : turn.Fails)
    (s : ReadState) : readTurn r turn s = (some (-1), s) := by
  unfold ReadRequest.TimedOut at inTime
  unfold readTurn
  rw [if_neg inTime]
  rcases fails with select | ⟨ready, read⟩
  · rw [if_pos select]
  · have selected : turn.select ≠ -1 := by omega
    rw [if_neg selected, if_pos ready, read]

theorem readTurn_goesOn {turn : ReadTurn} (inTime : ¬ r.TimedOut turn) (succeeds : ¬ turn.Fails)
    (s : ReadState) :
    readTurn r turn s = (none, s.receive r (turn.given s.left.toNat)) := by
  have selected : turn.select ≠ -1 := fun select => succeeds (.inl select)
  unfold ReadRequest.TimedOut at inTime
  unfold readTurn ReadTurn.given
  rw [if_neg inTime, if_neg selected]
  by_cases ready : 0 < turn.select
  · rw [if_pos ready, if_pos ready]
    cases read : turn.read with
    | fails => exact absurd (.inr ⟨ready, read⟩) succeeds
    | gives data =>
      simp only [ReadState.receive]
      split_ifs <;> rfl
  · rw [if_neg ready, if_neg ready]
    rfl

structure Holding (r : ReadRequest) (turns : Nat → ReadTurn) (round : Nat) (s : ReadState) :
    Prop where
  bytes : s.bytes = (received r turns round).length
  left : s.left = r.length - s.bytes
  taken : taken s.stores = received r turns round
  written : ∀ memory,
    written s.stores memory = Store.write memory ⟨r.buffer, received r turns round⟩

theorem Holding.start (r : ReadRequest) (turns : Nat → ReadTurn) :
    Holding r turns 0 ⟨0, r.length, []⟩ :=
  ⟨rfl, (Int.sub_zero _).symm, rfl, fun memory => (write_nil memory r.buffer).symm⟩

theorem Holding.next {round : Nat} {s : ReadState} (holding : Holding r turns round s) :
    Holding r turns (round + 1) (s.receive r ((turns round).given s.left.toNat)) := by
  have asked : s.left.toNat = r.length.toNat - (received r turns round).length := by
    have left := holding.left
    have bytes := holding.bytes
    omega
  rw [asked]
  generalize arrived : (turns round).given (r.length.toNat - (received r turns round).length) = data
  have grows : received r turns (round + 1) = received r turns round ++ data := by
    rw [received, arrived]
  unfold ReadState.receive
  split_ifs with none
  · subst none
    rw [List.append_nil] at grows
    exact ⟨by rw [grows, holding.bytes], holding.left, by rw [grows, holding.taken],
      by rw [grows]; exact holding.written⟩
  · constructor
    · simp only [grows, List.length_append, holding.bytes]
      omega
    · simp only [holding.left]
      omega
    · simp only [SerialImp.taken, List.flatMap_append, List.flatMap_cons, List.flatMap_nil,
        List.append_nil, grows]
      rw [← holding.taken]
      rfl
    · intro memory
      have last : SerialImp.written (s.stores ++ [⟨r.buffer + s.bytes, data⟩]) memory =
          Store.write (SerialImp.written s.stores memory) ⟨r.buffer + s.bytes, data⟩ := by
        simp [SerialImp.written]
      rw [grows, last, holding.written, holding.bytes, write_append]

theorem readLoop_ends {tries round : Nat} (count : round + tries = 20)
    (reaches : Reaches r turns round) {s : ReadState} (holding : Holding r turns round s) :
    ∃ last ≤ 20, Reaches r turns last ∧ Holding r turns last (readLoop r turns tries s).2 ∧
      Ends r turns last (readLoop r turns tries s).1 := by
  induction tries generalizing round s with
  | zero =>
    refine ⟨round, by omega, reaches, holding, ?_⟩
    rw [readLoop, holding.bytes]
    by_cases short : Short r turns round
    · exact .exhausted (by omega) short
    · exact .filled short
  | succ tries ih =>
    have index : 20 - (tries + 1) = round := by omega
    unfold readLoop
    rw [index]
    by_cases short : Short r turns round
    · have more : s.bytes < r.length := by
        rw [holding.bytes]
        exact short
      rw [if_pos more]
      by_cases late : r.TimedOut (turns round)
      · rw [readTurn_timedOut late]
        refine ⟨round, by omega, reaches, holding, ?_⟩
        rw [holding.bytes]
        exact .timedOut (by omega) short late
      · by_cases fails : (turns round).Fails
        · rw [readTurn_fails late fails]
          exact ⟨round, by omega, reaches, holding, .failed (by omega) short late fails⟩
        · rw [readTurn_goesOn late fails]
          exact ih (by omega) (reaches.next short late fails) holding.next
    · have full : ¬ s.bytes < r.length := by
        rw [holding.bytes]
        exact short
      rw [if_neg full]
      refine ⟨round, by omega, reaches, holding, ?_⟩
      rw [holding.bytes]
      exact .filled short

theorem readByteArray_ends (r : ReadRequest) (dataAvailable : Int) (turns : Nat → ReadTurn) :
    ∃ last ≤ 20, Reaches r turns last ∧
      Ends r turns last (readByteArray r dataAvailable turns).result ∧
      taken (readByteArray r dataAvailable turns).stores = received r turns last ∧
      ∀ memory, written (readByteArray r dataAvailable turns).stores memory =
        Store.write memory ⟨r.buffer, received r turns last⟩ := by
  have count : 0 + 20 = 20 := rfl
  obtain ⟨last, few, reaches, holding, ends⟩ :=
    readLoop_ends count Reaches.zero (Holding.start r turns)
  exact ⟨last, few, reaches, ends, holding.taken, holding.written⟩

theorem received_mono (r : ReadRequest) (turns : Nat → ReadTurn) {first second : Nat}
    (order : first ≤ second) :
    (received r turns first).length ≤ (received r turns second).length := by
  induction second with
  | zero =>
    obtain rfl := Nat.le_zero.mp order
    exact Nat.le_refl _
  | succ second ih =>
    rcases Nat.lt_or_eq_of_le order with less | rfl
    · have before := ih (Nat.le_of_lt_succ less)
      rw [received, List.length_append]
      omega
    · exact Nat.le_refl _

/-- The device has data in the first round, and no round fails. -/
structure DataWaits (turns : Nat → ReadTurn) : Prop where
  ready : 0 < (turns 0).select
  data : ∃ byte rest, (turns 0).read = .gives (byte :: rest)
  succeeds : ∀ round, ¬ (turns round).Fails

theorem DataWaits.result (waits : DataWaits turns) (some : 1 ≤ r.length) (dataAvailable : Int) :
    0 ≤ (readByteArray r dataAvailable turns).result ∧
      (1 ≤ (readByteArray r dataAvailable turns).result ↔ ¬ r.TimedOut (turns 0)) := by
  obtain ⟨last, few, reaches, ends, -, -⟩ := readByteArray_ends r dataAvailable turns
  have short : Short r turns 0 := some
  by_cases late : r.TimedOut (turns 0)
  · obtain ⟨-, result⟩ := ends.unique reaches few (.timedOut (by decide) short late) Reaches.zero
      (Nat.zero_le _)
    rw [result]
    exact ⟨Int.natCast_nonneg _, iff_of_false (by simp [received]) (not_not.mpr late)⟩
  · have begins : Reaches r turns 1 := Reaches.zero.next short late (waits.succeeds 0)
    have later : 1 ≤ last := by
      apply Nat.one_le_iff_ne_zero.mpr
      rintro rfl
      exact begins.no_end_before (by decide) (by decide) ends
    have first : 1 ≤ (received r turns 1).length := by
      obtain ⟨byte, rest, read⟩ := waits.data
      obtain ⟨more, length⟩ : ∃ more, r.length.toNat = more + 1 := ⟨r.length.toNat - 1, by omega⟩
      simp [received, ReadTurn.given, waits.ready, read, length]
    have count := received_mono r turns later
    have result : (readByteArray r dataAvailable turns).result = (received r turns last).length := by
      generalize (readByteArray r dataAvailable turns).result = result at ends
      cases ends with
      | filled full => rfl
      | timedOut => rfl
      | failed _ _ _ fails => exact absurd fails (waits.succeeds last)
      | exhausted => rfl
    rw [result]
    exact ⟨by omega, iff_of_true (by omega) late⟩

/-- A result that is no error counts the bytes taken, which are in the buffer in order, and an
    error means that none was taken. -/
structure Conserves (r : ReadRequest) (memory : Int → UInt8) (run : ReadRun) : Prop where
  within : 0 ≤ run.result → run.result ≤ r.length
  stored : 0 ≤ run.result →
    contents (written run.stores memory) r.buffer run.result.toNat = taken run.stores
  failed : run.result = -1 → taken run.stores = []

theorem received_le (r : ReadRequest) (turns : Nat → ReadTurn) (round : Nat) :
    (received r turns round).length ≤ r.length.toNat := by
  induction round with
  | zero => exact Nat.zero_le _
  | succ round ih =>
    have given (turn : ReadTurn) (left : Nat) : (turn.given left).length ≤ left := by
      unfold ReadTurn.given
      split
      · split
        · exact Nat.zero_le _
        · exact List.length_take_le _ _
      · exact Nat.zero_le _
    have more := given (turns round) (r.length.toNat - (received r turns round).length)
    rw [received, List.length_append]
    omega

/-- A read conserves the data exactly where it asks for no negative number and no round fails after
    bytes have come in. -/
theorem read_conserves_iff (r : ReadRequest) (dataAvailable : Int) (turns : Nat → ReadTurn)
    (memory : Int → UInt8) :
    Conserves r memory (readByteArray r dataAvailable turns) ↔
      0 ≤ r.length ∧ ∀ round < 20, Reaches r turns round → Short r turns round →
        ¬ r.TimedOut (turns round) → (turns round).Fails → received r turns round = [] := by
  obtain ⟨last, few, reaches, ends, bytes, buffer⟩ := readByteArray_ends r dataAvailable turns
  generalize readByteArray r dataAvailable turns = run at ends bytes buffer
  have bound := received_le r turns last
  constructor
  · intro conserves
    constructor
    · by_contra negative
      have full : ¬ Short r turns 0 := by
        intro short
        exact negative (Int.le_trans (Int.natCast_nonneg _) (Int.le_of_lt short))
      obtain ⟨-, result⟩ := ends.unique reaches few (.filled full) Reaches.zero (Nat.zero_le _)
      have within := conserves.within (by rw [result]; exact Int.natCast_nonneg _)
      rw [result] at within
      exact negative (Int.le_trans (Int.natCast_nonneg _) within)
    · intro round more reaches' short inTime fails
      obtain ⟨same, result⟩ := ends.unique reaches few (.failed more short inTime fails) reaches'
        (by omega)
      rw [← same, ← bytes]
      exact conserves.failed result
  · intro condition
    have counted (result : run.result = (received r turns last).length) :
        Conserves r memory run := by
      constructor
      · intro _
        omega
      · intro _
        rw [result, Int.toNat_natCast, buffer, contents_write, bytes]
      · intro failed
        omega
    have none : run.result = -1 → received r turns last = [] → Conserves r memory run := by
      intro result empty
      exact ⟨by omega, by omega, fun _ => bytes.trans empty⟩
    generalize result_eq : run.result = result at ends
    cases ends with
    | filled full => exact counted result_eq
    | timedOut more short late => exact counted result_eq
    | failed more short inTime fails =>
      exact none result_eq (condition.2 last more reaches short inTime fails)
    | exhausted all short => exact counted result_eq

/-- Two bytes come in, then a signal interrupts `select`: they are lost. -/
theorem read_not_conserved :
    ¬ ∀ (r : ReadRequest) (dataAvailable : Int) (turns : Nat → ReadTurn) (memory : Int → UInt8),
      0 ≤ r.length → Conserves r memory (readByteArray r dataAvailable turns) := by
  intro conserves
  have lost := (conserves ⟨0, 4, -1, 0⟩ 0
    (fun round => if round = 0 then ⟨0, 1, .gives [7, 8]⟩ else ⟨0, -1, .fails⟩) (fun _ => 0)
    (by decide)).failed rfl
  exact absurd lost (by decide)

/-- A result below the length comes no earlier than the timeout. -/
def ShortOnTimeout (r : ReadRequest) (finish : Int) (run : ReadRun) : Prop :=
  0 ≤ run.result → run.result < r.length → 0 ≤ r.timeout ∧ r.timeout ≤ finish - r.start

/-- With a clock that has come to `finish` at the return, a short read means a timeout exactly
    where the twenty rounds do not run out before it. -/
theorem short_on_timeout_iff (r : ReadRequest) (dataAvailable : Int) (turns : Nat → ReadTurn)
    (finish : Int) (clock : ∀ round < 20, (turns round).now ≤ finish) :
    ShortOnTimeout r finish (readByteArray r dataAvailable turns) ↔
      (Reaches r turns 20 → Short r turns 20 → 0 ≤ r.timeout ∧ r.timeout ≤ finish - r.start) := by
  obtain ⟨last, few, reaches, ends, -, -⟩ := readByteArray_ends r dataAvailable turns
  generalize readByteArray r dataAvailable turns = run at ends
  constructor
  · intro timely reaches' short
    obtain ⟨-, result⟩ := ends.unique reaches few (.exhausted rfl short) reaches' (Nat.le_refl _)
    apply timely
    · rw [result]
      exact Int.natCast_nonneg _
    · rw [result]
      exact short
  · intro condition nonneg less
    generalize run.result = result at ends nonneg less
    cases ends with
    | filled full => exact absurd less full
    | timedOut more short late =>
      have passed := clock last more
      have after := late.2
      exact ⟨late.1, by omega⟩
    | failed => omega
    | exhausted all short =>
      subst all
      exact condition reaches short

/-- The bytes come in one by one, with the timeout disabled: the twenty-first is not waited for. -/
theorem short_without_timeout :
    ¬ ∀ (r : ReadRequest) (dataAvailable : Int) (turns : Nat → ReadTurn) (finish : Int),
      1 ≤ r.length → (∀ round < 20, (turns round).now ≤ finish) →
      ShortOnTimeout r finish (readByteArray r dataAvailable turns) := by
  intro timely
  have late := timely ⟨0, 21, -1, 0⟩ 0 (fun _ => ⟨0, 1, .gives [7]⟩) 0 (by decide)
    (fun _ _ => Int.le_refl 0) (by decide) (by decide)
  exact absurd late.1 (by decide)

theorem short_on_timeout_iff_timely :
    ShortOnTimeout ⟨0, 2, 100, 0⟩ 100 (readByteArray ⟨0, 2, 100, 0⟩ 0 fun round =>
        if round = 0 then ⟨0, 1, .gives [7]⟩ else ⟨100, 0, .fails⟩) := by
  have clock : ∀ round < 20, (if round = 0 then ReadTurn.mk 0 1 (.gives [7])
      else ⟨100, 0, .fails⟩).now ≤ 100 := by
    intro round _
    split <;> decide
  refine (short_on_timeout_iff ⟨0, 2, 100, 0⟩ 0 _ 100 clock).mpr ?_
  intro reaches _
  exact absurd ⟨by decide, by decide⟩ (reaches 1 (by decide)).2.1

end Rxtx.SerialImp
