import Rxtx.Win32.Descriptors

open LinkedHeap Runs
open Rxtx.SerialImp (CString strcpy)

namespace Rxtx.Win32

structure Shaped (t : Table) (nodes : List (Addr × TermiosList)) : Prop where
  lists : t.Lists nodes
  files : (nodes.map fun node => node.2.filename).Nodup
  positive : ∀ node ∈ nodes, 0 < node.2.fd
  created : ∀ node ∈ nodes, node.2.hComm ≠ 0

def numbers (nodes : List (Addr × TermiosList)) : List Int := nodes.map fun node => node.2.fd

theorem freeFd_positive {fds : List Int} (positive : ∀ fd ∈ fds, 0 < fd) {free : Int}
    (found : freeFd fds = .ok free) : 0 < free := by
  cases fds with
  | nil =>
    cases found
    decide
  | cons fd rest =>
    have number := positive fd (by simp)
    simp only [freeFd] at found
    split_ifs at found
    · cases found
      decide
    · obtain ⟨k, -, -, rfl⟩ := follow_of_freeAfter found
      omega

theorem freeAfter_completes {last : Int} {rest : List Int}
    (few : last + rest.length < intMax) : ∃ free, freeAfter last rest = .ok free := by
  induction rest generalizing last with
  | nil =>
    have below : last < intMax := by simpa using few
    exact ⟨last + 1, freeAfter_end below⟩
  | cons next rest ih =>
    simp only [List.length_cons, Nat.cast_add, Nat.cast_one] at few
    have below : last < intMax := by omega
    by_cases follows : next = last + 1
    · have fewer : next + (rest.length : Int) < intMax := by omega
      obtain ⟨free, found⟩ := ih fewer
      subst follows
      exact ⟨free, (freeAfter_next below rest).trans found⟩
    · exact ⟨last + 1, freeAfter_gap below follows rest⟩

theorem freeFd_completes {fds : List Int} (positive : ∀ fd ∈ fds, 0 < fd)
    (few : (fds.length : Int) < intMax) : ∃ free, freeFd fds = .ok free := by
  cases fds with
  | nil => exact ⟨1, rfl⟩
  | cons fd rest =>
    by_cases above : fd = 0 ∨ fd > 1
    · exact ⟨1, by simp [freeFd, above, Pure.pure, Except.pure]⟩
    · have number := positive fd (by simp)
      simp only [List.length_cons, Nat.cast_add, Nat.cast_one] at few
      have fewer : fd + (rest.length : Int) < intMax := by omega
      obtain ⟨free, found⟩ := freeAfter_completes fewer
      exact ⟨free, by simp [freeFd, above, found]⟩

/-- How an open can end: its file is in the list already; or its port was added with the free number
    and then the first port of that number taken out; or its port is the last one. -/
inductive OpenEnds (results : OpenResults) (filename : CString) (t : Table)
    (nodes : List (Addr × TermiosList)) : Int → Table → Prop
  | present (known : ∃ node ∈ nodes, node.2.filename = filename) :
    OpenEnds results filename t nodes (-1) t
  | failed {fd : Int} {index : Addr} {entry : TermiosList} {t' : Table}
    (absent : ∀ node ∈ nodes, node.2.filename ≠ filename) (free : freeFd (numbers nodes) = .ok fd)
    (opened : Opened results filename fd entry)
    (lists : t'.Lists ((nodes ++ [(index, entry)]).eraseP (numberedBy fd)))
    (closed : t'.closed = t.closed ++ closedHandles fd (nodes ++ [(index, entry)])) :
    OpenEnds results filename t nodes (-1) t'
  | succeeded {fd : Int} {index : Addr} {entry : TermiosList} {kept : List (Addr × TermiosList)}
    {t' : Table} (absent : ∀ node ∈ nodes, node.2.filename ≠ filename) (positive : 0 < fd)
    (opened : Opened results filename fd entry) (same : kept.map unset = nodes.map unset)
    (lists : t'.Lists (kept ++ [(index, entry)])) : OpenEnds results filename t nodes fd t'

theorem addPort_needs {allocator : Allocator TermiosList} {t : Table}
    {nodes : List (Addr × TermiosList)} (lists : t.Lists nodes) {filename : CString}
    {added : Addr × Table} (done : addPort allocator filename t = .ok added) :
    filename.length < filenameSize ∧ ∃ fd, freeFd (numbers nodes) = .ok fd := by
  obtain ⟨name, copied, done⟩ := bind_eq_ok.mp done
  obtain ⟨fd, number, -⟩ := bind_eq_ok.mp done
  constructor
  · unfold strcpy at copied
    split_ifs at copied with short
    exact short
  · exact ⟨fd, (getFreeFd_lists lists).symm.trans number⟩

theorem serialOpen_present {t : Table} {nodes : List (Addr × TermiosList)} (shaped : Shaped t nodes)
    {filename : CString} (known : ∃ node ∈ nodes, node.2.filename = filename)
    (allocator : Allocator TermiosList) (results : OpenResults) (flags : BitVec 32) :
    serialOpen allocator results filename flags t = .ok (-1, t) := by
  rcases known with ⟨node, member, named⟩
  obtain ⟨fd, opened, number⟩ := portOpened_present shaped.lists shaped.positive member named
  simp [serialOpen, opened, number, Bind.bind, Except.bind, Pure.pure, Except.pure]

theorem Shaped.openEnds {allocator : Allocator TermiosList} {results : OpenResults} {t t' : Table}
    {nodes : List (Addr × TermiosList)} (shaped : Shaped t nodes) {filename : CString}
    {flags : BitVec 32} {result : Int}
    (done : serialOpen allocator results filename flags t = .ok (result, t')) :
    OpenEnds results filename t nodes result t' := by
  by_cases known : ∃ node ∈ nodes, node.2.filename = filename
  · rw [serialOpen_present shaped known] at done
    cases done
    exact .present known
  · have absent : ∀ node ∈ nodes, node.2.filename ≠ filename := fun node member named =>
      known ⟨node, member, named⟩
    have needs : filename.length < filenameSize ∧ ∃ fd, freeFd (numbers nodes) = .ok fd := by
      obtain ⟨opened, looked, rest⟩ := bind_eq_ok.mp done
      obtain rfl := Except.ok.inj ((portOpened_absent shaped.lists absent).symm.trans looked)
      obtain ⟨added, adds, -⟩ := bind_eq_ok.mp rest
      exact addPort_needs shaped.lists adds
    rcases needs with ⟨short, fd, free⟩
    have positive := freeFd_positive (List.forall_mem_map.mpr shaped.positive) free
    rcases serialOpen_cases allocator results shaped.lists shaped.positive shaped.created absent
      short free positive flags with
      ⟨-, overflows⟩ | ⟨-, last, index, entry, fails, opened, lists, closed⟩ |
      ⟨-, last, index, entry, kept, opens, opened, same, lists⟩
    · rw [overflows] at done
      cases done
    · cases done.symm.trans fails
      exact .failed absent free opened lists closed
    · cases done.symm.trans opens
      exact .succeeded absent positive opened same lists

theorem Shaped.added {t t' : Table} {nodes all rest : List (Addr × TermiosList)}
    (shaped : Shaped t nodes) {results : OpenResults} {filename : CString} {fd : Int} {index : Addr}
    {entry : TermiosList} (absent : ∀ node ∈ nodes, node.2.filename ≠ filename) (positive : 0 < fd)
    (opened : Opened results filename fd entry)
    (same : all.map unset = (nodes ++ [(index, entry)]).map unset)
    (sublist : List.Sublist rest all) (lists : t'.Lists rest) : Shaped t' rest := by
  have files : ((nodes ++ [(index, entry)]).map fun node => node.2.filename).Nodup := by
    rw [List.map_append, List.nodup_append]
    refine ⟨shaped.files, by simp, ?_⟩
    intro file member other new equal
    obtain ⟨node, inside, rfl⟩ := List.mem_map.mp member
    rw [List.map_singleton, List.mem_singleton, opened.named] at new
    exact absent node inside (equal.trans new)
  have numbered : ∀ node ∈ nodes ++ [(index, entry)], 0 < node.2.fd := by
    intro node member
    rcases List.mem_append.mp member with old | new
    · exact shaped.positive node old
    · rw [List.mem_singleton.mp new, opened.number]
      exact positive
  have created : ∀ node ∈ nodes ++ [(index, entry)], node.2.hComm ≠ 0 := by
    intro node member
    rcases List.mem_append.mp member with old | new
    · exact shaped.created node old
    · rw [List.mem_singleton.mp new]
      exact opened.created
  refine ⟨lists, ?_, ?_, ?_⟩
  · rw [← map_of_unset _ (fun _ => rfl) same] at files
    exact (sublist.map _).nodup files
  · intro node member
    exact forall_of_unset _ (fun _ => Iff.rfl) same numbered node (sublist.subset member)
  · intro node member
    exact forall_of_unset _ (fun _ => Iff.rfl) same created node (sublist.subset member)

theorem Shaped.serialClose {t : Table} {nodes : List (Addr × TermiosList)} (shaped : Shaped t nodes)
    (fd : Int) :
    ∃ result t', Win32.serialClose fd t = .ok (result, t') ∧
      Shaped t' (nodes.eraseP (numberedBy fd)) := by
  obtain ⟨result, t', closes, lists, -⟩ :=
    serialClose_lists shaped.lists shaped.positive shaped.created fd
  have sublist : List.Sublist (nodes.eraseP (numberedBy fd)) nodes := List.eraseP_sublist
  exact ⟨result, t', closes, lists, (sublist.map _).nodup shaped.files, fun node member =>
    shaped.positive node (sublist.subset member), fun node member =>
    shaped.created node (sublist.subset member)⟩

theorem Shaped.serialOpen {allocator : Allocator TermiosList} {results : OpenResults} {t t' : Table}
    {nodes : List (Addr × TermiosList)} (shaped : Shaped t nodes) {filename : CString}
    {flags : BitVec 32} {result : Int}
    (done : Win32.serialOpen allocator results filename flags t = .ok (result, t')) :
    ∃ nodes', Shaped t' nodes' := by
  cases shaped.openEnds done with
  | present known => exact ⟨nodes, shaped⟩
  | failed absent free opened lists closed =>
    have positive := freeFd_positive (List.forall_mem_map.mpr shaped.positive) free
    exact ⟨_, shaped.added absent positive opened rfl List.eraseP_sublist lists⟩
  | @succeeded _ index entry kept _ absent positive opened same lists =>
    have grown : (kept ++ [(index, entry)]).map unset = (nodes ++ [(index, entry)]).map unset := by
      rw [List.map_append, List.map_append, same]
    exact ⟨_, shaped.added absent positive opened grown (List.Sublist.refl _) lists⟩

theorem Shaped.openReturns_iff {t : Table} {nodes : List (Addr × TermiosList)}
    (shaped : Shaped t nodes) (few : (nodes.length : Int) < intMax)
    (allocator : Allocator TermiosList) (results : OpenResults) {filename : CString}
    (short : filename.length < filenameSize) (flags : BitVec 32) :
    (∃ ended, Win32.serialOpen allocator results filename flags t = .ok ended) ↔
      (∃ node ∈ nodes, node.2.filename = filename) ∨ results.Reports filename := by
  by_cases known : ∃ node ∈ nodes, node.2.filename = filename
  · exact iff_of_true ⟨_, serialOpen_present shaped known allocator results flags⟩ (.inl known)
  · have absent : ∀ node ∈ nodes, node.2.filename ≠ filename := fun node member named =>
      known ⟨node, member, named⟩
    have numbered := List.forall_mem_map.mpr shaped.positive
    obtain ⟨fd, free⟩ := freeFd_completes numbered (by simpa using few)
    rcases serialOpen_cases allocator results shaped.lists shaped.positive shaped.created absent
      short free (freeFd_positive numbered free) flags with
      ⟨unreported, overflows⟩ | ⟨reports, t', index, entry, fails, -⟩ |
      ⟨reports, t', index, entry, kept, opens, -⟩
    · refine iff_of_false ?_ (not_or.mpr ⟨known, unreported⟩)
      rw [overflows]
      rintro ⟨ended, returned⟩
      cases returned
    · exact iff_of_true ⟨_, fails⟩ (.inr reports)
    · exact iff_of_true ⟨_, opens⟩ (.inr reports)

theorem shaped_reachable {allocator : Allocator TermiosList} {comm : Handle → CommPort}
    {calls : List Call} {s : History}
    (path : Path (Takes (call allocator)) (Table.empty comm, []) calls s) :
    ∃ nodes, Shaped s.1 nodes := by
  have preserved : ∀ (s : History) (c : Call) (s' : History), (∃ nodes, Shaped s.1 nodes) →
      Takes (call allocator) s c s' → ∃ nodes, Shaped s'.1 nodes := by
    intro s c s' before taken
    rcases before with ⟨nodes, shaped⟩
    unfold Takes call at taken
    split at taken
    next result t' done =>
      cases taken
      cases c with
      | serialOpen filename flags results => exact shaped.serialOpen done
      | serialClose fd =>
        obtain ⟨result', last, closes, shaped'⟩ := shaped.serialClose fd
        cases done.symm.trans closes
        exact ⟨_, shaped'⟩
    · cases taken
  have start : Shaped (Table.empty comm) [] := ⟨Linked.empty, by simp, by simp, by simp⟩
  exact path.invariant (fun s => ∃ nodes, Shaped s.1 nodes) preserved ⟨[], start⟩

/-- In every history the ports form a well-formed list without two of one file. An open that
    succeeds appends its port, and a close takes out the first port with the number. A close always
    returns; while the numbers last, an open of a name that fits does so exactly where its file is
    open already or its reports overrun no buffer. -/
theorem port_table_shape (allocator : Allocator TermiosList) (comm : Handle → CommPort)
    (calls : List Call) (s : History)
    (path : Path (Takes (call allocator)) (Table.empty comm, []) calls s) :
    ∃ nodes, s.1.Lists nodes ∧ (nodes.map fun node => node.2.filename).Nodup ∧
      (∀ filename flags results fd t',
        serialOpen allocator results filename flags s.1 = .ok (fd, t') → fd ≠ -1 →
        ∃ index entry kept, t'.Lists (kept ++ [(index, entry)]) ∧
          kept.map unset = nodes.map unset ∧ entry.filename = filename ∧ entry.fd = fd) ∧
      (∀ fd, ∃ result t', serialClose fd s.1 = .ok (result, t') ∧
        t'.Lists (nodes.eraseP (numberedBy fd))) ∧
      ∀ filename flags results, filename.length < filenameSize → (nodes.length : Int) < intMax →
        ((∃ ended, serialOpen allocator results filename flags s.1 = .ok ended) ↔
          (∃ node ∈ nodes, node.2.filename = filename) ∨ results.Reports filename) := by
  obtain ⟨nodes, shaped⟩ := shaped_reachable path
  refine ⟨nodes, shaped.lists, shaped.files, ?_, ?_, ?_⟩
  · intro filename flags results fd t' done valid
    cases shaped.openEnds done with
    | present known => exact absurd rfl valid
    | failed absent free opened lists closed => exact absurd rfl valid
    | succeeded absent positive opened same lists =>
      exact ⟨_, _, _, lists, same, opened.named, opened.number⟩
  · intro fd
    obtain ⟨result, t', closes, shaped'⟩ := shaped.serialClose fd
    exact ⟨result, t', closes, shaped'.lists⟩
  · intro filename flags results short few
    exact shaped.openReturns_iff few allocator results short flags

theorem port_table_shape_three :
    ∃ s, Path (Takes (call .bump)) (Table.empty fun _ => default, [])
        [.serialOpen ['a'] 0 opensWell, .serialOpen ['b'] 0 opensWell, .serialClose 1] s ∧
      ∃ nodes, s.1.Lists nodes ∧ (nodes.map fun node => node.2.filename).Nodup ∧
        (∀ filename flags results fd t',
          serialOpen .bump results filename flags s.1 = .ok (fd, t') → fd ≠ -1 →
          ∃ index entry kept, t'.Lists (kept ++ [(index, entry)]) ∧
            kept.map unset = nodes.map unset ∧ entry.filename = filename ∧ entry.fd = fd) ∧
        (∀ fd, ∃ result t', serialClose fd s.1 = .ok (result, t') ∧
          t'.Lists (nodes.eraseP (numberedBy fd))) ∧
        ∀ filename flags results, filename.length < filenameSize → (nodes.length : Int) < intMax →
          ((∃ ended, serialOpen .bump results filename flags s.1 = .ok ended) ↔
            (∃ node ∈ nodes, node.2.filename = filename) ∨ results.Reports filename) := by
  obtain ⟨s, followed⟩ : ∃ s, follow (call .bump)
      [.serialOpen ['a'] 0 opensWell, .serialOpen ['b'] 0 opensWell, .serialClose 1]
      (Table.empty fun _ => default, []) = some s := ⟨_, rfl⟩
  exact ⟨s, follow_path followed, port_table_shape .bump _ _ s (follow_path followed)⟩

def createFails : OpenResults :=
  ⟨-1, by decide, false, 0, 0, 0, ⟨true, true, true, true⟩, false, ⟨true, true, true, true⟩,
    "Error 0x2 at termios.c(1256): The system cannot find the file specified.\r\n\n".toList, false⟩

/-- A file of 36 characters cannot be created: its report does not fit. -/
theorem port_table_overruns :
    ¬ ∀ (allocator : Allocator TermiosList) (comm : Handle → CommPort) (calls : List Call),
      (∀ c ∈ calls, ∀ filename flags results, c = .serialOpen filename flags results →
        filename.length < filenameSize) →
      ∃ s nodes, Path (Takes (call allocator)) (Table.empty comm, []) calls s ∧
        s.1.Lists nodes ∧ (nodes.map fun node => node.2.filename).Nodup := by
  intro shapes
  obtain ⟨s, nodes, path, -⟩ := shapes .bump (fun _ => default)
    [.serialOpen (List.replicate 36 'a') 0 createFails] (by
      intro c member filename flags results same
      rw [List.mem_singleton.mp member] at same
      cases same
      decide)
  cases path with
  | cons taken rest =>
    have stuck : call .bump (.serialOpen (List.replicate 36 'a') 0 createFails)
        (Table.empty fun _ => default, []) = none := rfl
    rw [Takes, stuck] at taken
    cases taken

/-- The entries are as they were, and only handles that the call was given are closed. -/
def LeavesAlone (results : OpenResults) (t t' : Table) : Prop :=
  t'.entries = t.entries ∧
    ∃ closed, t'.closed = t.closed ++ closed ∧ ∀ handle ∈ closed, handle ∈ results.handles

/-- A failed open leaves the table alone exactly where its file was open already or the free number
    is no port's. -/
theorem failed_open_leaves_alone (allocator : Allocator TermiosList) (comm : Handle → CommPort)
    (calls : List Call) (s : History)
    (path : Path (Takes (call allocator)) (Table.empty comm, []) calls s) (filename : CString)
    (flags : BitVec 32) (results : OpenResults) (t' : Table)
    (failed : serialOpen allocator results filename flags s.1 = .ok (-1, t')) :
    LeavesAlone results s.1 t' ↔
      (∃ entry ∈ s.1.entries, entry.filename = filename) ∨
        ∃ k, Room k (s.1.entries.map TermiosList.fd) := by
  obtain ⟨nodes, shaped⟩ := shaped_reachable path
  have numbered : ∀ fd ∈ numbers nodes, 0 < fd := List.forall_mem_map.mpr shaped.positive
  have fds : (nodes.map Prod.snd).map TermiosList.fd = numbers nodes := by
    rw [List.map_map]
    rfl
  rw [entries_lists shaped.lists, fds, ← freeFd_fresh_iff numbered]
  generalize result_eq : (-1 : Int) = result at failed
  cases shaped.openEnds failed with
  | present known =>
    rcases known with ⟨node, member, named⟩
    have holds : LeavesAlone results s.1 s.1 := ⟨rfl, [], by simp, by simp⟩
    exact iff_of_true holds (.inl ⟨node.2, List.mem_map.mpr ⟨node, member, rfl⟩, named⟩)
  | @failed fd index entry _ absent free opened lists closed =>
    have notOpen : ¬ ∃ port ∈ nodes.map Prod.snd, port.filename = filename := by
      intro known
      rcases known with ⟨port, member, named⟩
      obtain ⟨node, inside, rfl⟩ := List.mem_map.mp member
      exact absent node inside named
    by_cases taken : ∃ node ∈ nodes, node.2.fd = fd
    · have notFresh : ¬ ∃ number ∉ numbers nodes, freeFd (numbers nodes) = .ok number := by
        intro fresh
        rcases fresh with ⟨number, new, found⟩
        rcases taken with ⟨node, member, same⟩
        obtain rfl := Except.ok.inj (free.symm.trans found)
        exact new (List.mem_map.mpr ⟨node, member, same⟩)
      have changed : ¬ LeavesAlone results s.1 t' := by
        intro kept
        have equal := kept.1
        rcases taken with ⟨node, member, same⟩
        have first : numberedBy fd node = true := by simp [numberedBy, same]
        rw [entries_lists lists, entries_lists shaped.lists,
          List.eraseP_append_left first _ member, List.map_append] at equal
        refine notOpen ⟨entry, ?_, opened.named⟩
        rw [← equal]
        simp
      exact iff_of_false changed (not_or.mpr ⟨notOpen, notFresh⟩)
    · have fresh : ∀ node ∈ nodes, node.2.fd ≠ fd := fun node member same =>
        taken ⟨node, member, same⟩
      have unused : fd ∉ numbers nodes := by
        intro member
        obtain ⟨node, inside, same⟩ := List.mem_map.mp member
        exact fresh node inside same
      rw [eraseP_first opened.number fresh, List.append_nil] at lists
      rw [closedHandles_first opened.number fresh] at closed
      have holds : LeavesAlone results s.1 t' :=
        ⟨(entries_lists lists).trans (entries_lists shaped.lists).symm, _, closed, opened.handles⟩
      exact iff_of_true holds (.inr ⟨fd, unused, free⟩)
  | succeeded absent positive opened same lists => omega

theorem failed_open_leaves_alone_one :
    ∃ s t', Path (Takes (call .bump)) (Table.empty fun _ => default, [])
        [.serialOpen ['a'] 0 opensWell] s ∧
      serialOpen .bump createFails ['b'] 0 s.1 = .ok (-1, t') ∧
      (LeavesAlone createFails s.1 t' ↔
        (∃ entry ∈ s.1.entries, entry.filename = ['b']) ∨
          ∃ k, Room k (s.1.entries.map TermiosList.fd)) := by
  obtain ⟨s, t', followed, failed⟩ : ∃ s t', follow (call .bump) [.serialOpen ['a'] 0 opensWell]
      (Table.empty fun _ => default, []) = some s ∧
      serialOpen .bump createFails ['b'] 0 s.1 = .ok (-1, t') := ⟨_, _, rfl, rfl⟩
  exact ⟨s, t', follow_path followed, failed,
    failed_open_leaves_alone .bump _ _ s (follow_path followed) ['b'] 0 createFails t' failed⟩

/-- The second of three ports is closed and a fourth opened, which gets number 2 at the tail. An
    open that cannot create its file then gets 2 as well and takes out the fourth port. -/
theorem failed_open_takes_out_another :
    ¬ ∀ (allocator : Allocator TermiosList) (comm : Handle → CommPort) (calls : List Call)
      (s : History), Path (Takes (call allocator)) (Table.empty comm, []) calls s →
      ∀ (filename : CString) (flags : BitVec 32) (results : OpenResults) (t' : Table),
        serialOpen allocator results filename flags s.1 = .ok (-1, t') →
          LeavesAlone results s.1 t' := by
  intro alone
  obtain ⟨s, t', followed, failed, names, names'⟩ : ∃ s t', follow (call .bump)
      [.serialOpen ['a'] 0 opensWell, .serialOpen ['b'] 0 opensWell,
        .serialOpen ['c'] 0 opensWell, .serialClose 2, .serialOpen ['d'] 0 opensWell]
      (Table.empty fun _ => default, []) = some s ∧
      serialOpen .bump createFails ['e'] 0 s.1 = .ok (-1, t') ∧
      s.1.entries.map TermiosList.filename = [['a'], ['c'], ['d']] ∧
      t'.entries.map TermiosList.filename = [['a'], ['c'], ['e']] :=
    ⟨_, _, rfl, rfl, by decide, by decide⟩
  have kept := (alone .bump _ _ s (follow_path followed) ['e'] 0 createFails t' failed).1
  rw [kept, names] at names'
  exact absurd names' (by decide)

end Rxtx.Win32
