import Rxtx.SerialImp.WriteArray

namespace Rxtx.SerialImp

def writeByteLoop (byte : UInt8) : List WriteResult → Option WriteLoop
  | [] => none
  | r :: results =>
    let s := writeOnce [byte] 0 1 ⟨0, none, 0, []⟩ r
    if s.result < 0 && s.errno = some .eintr then writeByteLoop byte results else some s

def writeByte (context : WriteContext) (ji : Int32) (interrupted : Bool)
    (results : List WriteResult) : Option WriteRun := do
  let s ← writeByteLoop ji.toUInt32.toUInt8 results
  if s.result < 0 then return ⟨s.chunks, .throwsIOException "writeByte" s.errno⟩
  if context.tiocsergetlsr || interrupted then return ⟨s.chunks, .returns context.masterIndex⟩
  match markWriting context.fd context.masterIndex with
  | none => return ⟨s.chunks, .nullDereference⟩
  | some masterIndex => return ⟨s.chunks, .returns masterIndex⟩

inductive NativeWrite where
  | writeByte (ji : Int32)
  | writeArray (body : List UInt8) (offset count : Nat)

def NativeWrite.run (context : WriteContext) (interrupted : Bool) (results : List WriteResult) :
    NativeWrite → Option WriteRun
  | .writeByte ji => SerialImp.writeByte context ji interrupted results
  | .writeArray body offset count =>
    SerialImp.writeArray context body offset count interrupted results

def WriteEnd.Successful (ending : WriteEnd) : Prop :=
  ∀ message errno, ending ≠ .throwsIOException message errno

def markOwn (fd : Int) (index : WriteEvents) : WriteEvents :=
  if index.fd = fd then { index with writing := true } else index

/-- The structs of the port are marked, where events are wanted, and all others stay. -/
def MarksOwn (context : WriteContext) (interrupted : Bool) (ending : WriteEnd) : Prop :=
  ending = .returns (if interrupted then context.masterIndex
    else context.masterIndex.map (markOwn context.fd))

def Registered (fd : Int) (structs : List WriteEvents) : Prop :=
  ∃ index ∈ structs, index.fd = fd

/-- The port has a struct, and those of its structs that come after another are marked already. -/
def FirstToMark (fd : Int) (structs : List WriteEvents) : Prop :=
  Registered fd structs ∧ structs.Pairwise fun first later =>
    first.fd = fd → later.fd = fd → later.writing = true

/-- The port has no struct, and there is a last one, which is marked already. -/
def LastMarked (fd : Int) (structs : List WriteEvents) : Prop :=
  ¬ Registered fd structs ∧ ∃ last, structs.getLast? = some last ∧ last.writing = true

theorem WriteEvents.marked_iff {index : WriteEvents} :
    { index with writing := true } = index ↔ index.writing = true := by
  cases index
  simp [eq_comm]

theorem markOwn_eq_iff {fd : Int} {index : WriteEvents} :
    markOwn fd index = index ↔ (index.fd = fd → index.writing = true) := by
  unfold markOwn
  split
  next own => rw [WriteEvents.marked_iff, imp_iff_right own]
  next other => simp [other]

theorem map_markOwn_iff {fd : Int} {structs : List WriteEvents} :
    structs.map (markOwn fd) = structs ↔
      ∀ index ∈ structs, index.fd = fd → index.writing = true := by
  have same : structs.map (markOwn fd) = structs.map id ↔
      ∀ index ∈ structs, markOwn fd index = id index := List.map_inj_left
  rw [List.map_id] at same
  rw [same]
  exact forall₂_congr fun index _ => markOwn_eq_iff

theorem registered_cons {fd : Int} {index : WriteEvents} (other : index.fd ≠ fd)
    (rest : List WriteEvents) : Registered fd (index :: rest) ↔ Registered fd rest := by
  simp [Registered, other]

theorem firstToMark_cons {fd : Int} {index : WriteEvents} (other : index.fd ≠ fd)
    (rest : List WriteEvents) : FirstToMark fd (index :: rest) ↔ FirstToMark fd rest := by
  simp [FirstToMark, registered_cons other, other]

theorem lastMarked_cons {fd : Int} {index : WriteEvents} (other : index.fd ≠ fd)
    (next : WriteEvents) (rest : List WriteEvents) :
    LastMarked fd (index :: next :: rest) ↔ LastMarked fd (next :: rest) := by
  simp [LastMarked, registered_cons other, List.getLast?_cons_cons]

theorem markWriting_own_iff {fd : Int} {structs : List WriteEvents} :
    markWriting fd structs = some (structs.map (markOwn fd)) ↔
      FirstToMark fd structs ∨ LastMarked fd structs := by
  induction structs with
  | nil => simp [markWriting, FirstToMark, LastMarked, Registered]
  | cons index rest ih =>
    by_cases own : index.fd = fd
    · have registered : Registered fd (index :: rest) := ⟨index, by simp, own⟩
      have stops : markWriting fd (index :: rest) =
          some ({ index with writing := true } :: rest) := by
        cases rest with
        | nil => rfl
        | cons next rest => rw [markWriting, if_pos own]
      rw [stops, List.map_cons, markOwn, if_pos own]
      simp only [Option.some.injEq, List.cons.injEq, true_and]
      rw [eq_comm, map_markOwn_iff]
      constructor
      · intro marked
        refine .inl ⟨registered, ?_⟩
        rw [List.pairwise_cons]
        refine ⟨fun later member _ => marked later member, ?_⟩
        exact List.pairwise_of_forall_mem_list fun _ _ later member _ => marked later member
      · intro allowed
        rcases allowed with first | last
        · intro later member
          exact (List.pairwise_cons.mp first.2).1 later member own
        · exact absurd registered last.1
    · cases rest with
      | nil =>
        have none : ¬ Registered fd [index] := by simp [Registered, own]
        have noFirst : ¬ FirstToMark fd [index] := fun first => none first.1
        rw [or_iff_right noFirst]
        simp [markWriting, markOwn, own, LastMarked, none, WriteEvents.marked_iff]
      | cons next rest =>
        rw [firstToMark_cons own, lastMarked_cons own, ← ih, markWriting, if_neg own,
          List.map_cons, markOwn, if_neg own]
        simp

/-- What follows the loop, which is the same in both functions. -/
def afterLoop (context : WriteContext) (interrupted : Bool) (method : String) (s : WriteLoop) :
    WriteRun :=
  if s.result < 0 then ⟨s.chunks, .throwsIOException method s.errno⟩
  else if context.tiocsergetlsr || interrupted then ⟨s.chunks, .returns context.masterIndex⟩
  else match markWriting context.fd context.masterIndex with
    | none => ⟨s.chunks, .nullDereference⟩
    | some masterIndex => ⟨s.chunks, .returns masterIndex⟩

theorem writeByte_eq (context : WriteContext) (ji : Int32) (interrupted : Bool)
    (results : List WriteResult) :
    writeByte context ji interrupted results =
      (writeByteLoop ji.toUInt32.toUInt8 results).map
        (afterLoop context interrupted "writeByte") := by
  unfold writeByte
  cases writeByteLoop ji.toUInt32.toUInt8 results with
  | none => rfl
  | some s =>
    simp only [Option.bind_eq_bind, Option.bind_some, Option.map_some, afterLoop]
    split_ifs
    · rfl
    · rfl
    · cases markWriting context.fd context.masterIndex <;> rfl

theorem writeArray_eq (context : WriteContext) (body : List UInt8) (offset count : Nat)
    (interrupted : Bool) (results : List WriteResult) :
    writeArray context body offset count interrupted results =
      (writeLoop body offset count ⟨0, none, 0, []⟩ results).map
        (afterLoop context interrupted "writeArray") := by
  unfold writeArray
  cases writeLoop body offset count ⟨0, none, 0, []⟩ results with
  | none => rfl
  | some s =>
    simp only [Option.bind_eq_bind, Option.bind_some, Option.map_some, afterLoop]
    split_ifs
    · rfl
    · rfl
    · cases markWriting context.fd context.masterIndex <;> rfl

theorem NativeWrite.run_afterLoop {call : NativeWrite} {context : WriteContext}
    {interrupted : Bool} {results : List WriteResult} {run : WriteRun}
    (ends : call.run context interrupted results = some run) :
    ∃ method s, run = afterLoop context interrupted method s := by
  cases call with
  | writeByte ji =>
    obtain ⟨s, -, same⟩ := Option.map_eq_some_iff.mp ((writeByte_eq ..).symm.trans ends)
    exact ⟨_, s, same.symm⟩
  | writeArray body offset count =>
    obtain ⟨s, -, same⟩ := Option.map_eq_some_iff.mp ((writeArray_eq ..).symm.trans ends)
    exact ⟨_, s, same.symm⟩

theorem afterLoop_marksOwn {context : WriteContext} {interrupted : Bool} {method : String}
    {s : WriteLoop} (lacks : context.tiocsergetlsr = false)
    (successful : (afterLoop context interrupted method s).ending.Successful) :
    MarksOwn context interrupted (afterLoop context interrupted method s).ending ↔
      interrupted = true ∨ markWriting context.fd context.masterIndex =
        some (context.masterIndex.map (markOwn context.fd)) := by
  unfold afterLoop MarksOwn at *
  by_cases negative : s.result < 0
  · rw [if_pos negative] at successful
    exact absurd rfl (successful method s.errno)
  · cases interrupted with
    | true => simp [negative]
    | false =>
      simp only [lacks, negative]
      cases markWriting context.fd context.masterIndex <;> simp

/-- On systems without `TIOCSERGETLSR` a write marks the structs of its own port and no others
    exactly when events are not wanted, when the first struct of the port is the only one to mark,
    or when the port has none and the last struct is marked already. -/
theorem write_marks_own_iff (call : NativeWrite) (context : WriteContext) (interrupted : Bool)
    (results : List WriteResult) (run : WriteRun) (lacks : context.tiocsergetlsr = false)
    (ends : call.run context interrupted results = some run)
    (successful : run.ending.Successful) :
    MarksOwn context interrupted run.ending ↔ interrupted = true ∨
      FirstToMark context.fd context.masterIndex ∨ LastMarked context.fd context.masterIndex := by
  obtain ⟨method, s, rfl⟩ := NativeWrite.run_afterLoop ends
  rw [afterLoop_marksOwn lacks successful, markWriting_own_iff]

theorem write_marks_own_iff_second :
    MarksOwn ⟨false, 5, [⟨3, false⟩, ⟨5, false⟩]⟩ false (.returns [⟨3, false⟩, ⟨5, true⟩]) ↔
      false = true ∨ FirstToMark 5 [⟨3, false⟩, ⟨5, false⟩] ∨
        LastMarked 5 [⟨3, false⟩, ⟨5, false⟩] :=
  write_marks_own_iff (.writeByte 65) ⟨false, 5, [⟨3, false⟩, ⟨5, false⟩]⟩ false
    [.fails .eintr, .accepts 1] ⟨[[65]], .returns [⟨3, false⟩, ⟨5, true⟩]⟩ rfl (by decide)
    (fun _ _ same => nomatch same)

/-- A write to a port without a struct marks that of the other port. -/
theorem write_marks_other :
    ¬ ∀ (call : NativeWrite) (context : WriteContext) (interrupted : Bool)
      (results : List WriteResult) (run : WriteRun), context.tiocsergetlsr = false →
      call.run context interrupted results = some run → run.ending.Successful →
      MarksOwn context interrupted run.ending := by
  intro marks
  have own := marks (.writeByte 65) ⟨false, 5, [⟨3, false⟩]⟩ false [.accepts 1]
    ⟨[[65]], .returns [⟨3, true⟩]⟩ rfl (by decide) (fun _ _ same => nomatch same)
  unfold MarksOwn at own
  revert own
  decide

end Rxtx.SerialImp
