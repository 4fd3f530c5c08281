import Rxtx.Win32.PortTable

open LinkedHeap
open Rxtx.SerialImp (CString strcpy Reported sprintf sprintf_reported sprintf_overruns)

namespace Rxtx.Win32

def filenameSize : Nat := 80

def intMax : Int := 2147483647

def increment (i : Int) : Except Fault Int :=
  if i < intMax then .ok (i + 1) else .error .overflow

def getFreeFdLoop (heap : Heap TermiosList) : Nat → Addr → Int → Except Fault Int
  | 0, _, _ => .error .unbounded
  | fuel + 1, index, last => do
    let node ← heap.read index
    match node.next with
    | none => increment node.value.fd
    | some successor =>
      let next := (← heap.read successor).value.fd
      let free ← increment last
      if next ≠ free then return free
      getFreeFdLoop heap fuel successor next

def getFreeFd (t : Table) : Except Fault Int :=
  match t.firstTl with
  | none => return 1
  | some index => do
    let node ← t.heap.read index
    if node.value.fd = 0 then return 1
    if node.value.fd > 1 then return 1
    getFreeFdLoop t.heap t.heap.allocated index node.value.fd

def addPort (allocator : Allocator TermiosList) (filename : CString) (t : Table) :
    Except Fault (Addr × Table) := do
  let port := allocator.malloc t.heap
  let name ← strcpy filenameSize filename
  let fd ← getFreeFd t
  let heap := t.heap.alloc port
    ⟨{ TermiosList.zero with filename := name, fd := fd }, none, none⟩
  match t.firstTl with
  | none => return (port, { t with heap, firstTl := some port })
  | some first =>
    let (index, _) ← heap.search (fun _ => false) first
    if port = first then
      let heap ← heap.setPrev first (some port)
      return (port, { t with heap := ← heap.setNext port none, firstTl := some port })
    let heap ← heap.setPrev port (some index)
    let heap ← heap.setNext index (some port)
    return (port, { t with heap := ← heap.setNext port none })

def TermiosList.handles (entry : TermiosList) : List Handle :=
  [entry.rol, entry.wol, entry.sol, entry.hComm].filter (· ≠ 0)

def serialClose (fd : Int) (t : Table) : Except Fault (Int × Table) :=
  match t.firstTl with
  | none => return (0, t)
  | some first => do
    if (← t.heap.read first).value.hComm = 0 then return (0, t)
    match ← findPort fd t with
    | none => return (-1, t)
    | some index =>
      let node ← t.heap.read index
      let closed := t.closed ++ node.value.handles
      match node.next, node.prev with
      | some next, some prev =>
        let heap ← t.heap.setPrev next node.prev
        let heap ← heap.setNext prev node.next
        return (0, { t with heap := ← heap.free index, closed })
      | none, some prev =>
        let heap ← t.heap.setNext prev none
        return (0, { t with heap := ← heap.free index, closed })
      | some next, none =>
        let heap ← t.heap.setPrev next none
        return (0, { t with heap := ← heap.free index, firstTl := node.next, closed })
      | none, none => return (0, { t with heap := ← t.heap.free index, firstTl := none, closed })

structure CommProp where
  dtrDsr : Bool
  rlsd : Bool
  rtsCts : Bool
  totalTimeouts : Bool
  deriving DecidableEq, Repr

/-- What the system answers to the calls of `serial_open`; `CreateFile` gives no NULL. `yackText` is
    what `YACK` prints of a call that failed. -/
structure OpenResults where
  createFile : Handle
  createFile_ne : createFile ≠ 0
  setupComm : Bool
  readEvent : Handle
  selectEvent : Handle
  writeEvent : Handle
  commProp : CommProp
  getCommState : Bool
  comm : CommResults
  yackText : CString
  survives : Bool

def OpenResults.yack (results : OpenResults) : Except Fault Unit :=
  sprintf results.survives results.yackText

def openPort (results : OpenResults) (index : Addr) (t : Table) : Except Fault (Int × Table) := do
  let t ← t.assign index fun port => { port with hComm := results.createFile }
  if results.createFile = invalidHandleValue then
    results.yack
    return (-1, t)
  if !results.setupComm then
    results.yack
    return (-1, t)
  let t ← t.assign index fun port => { port with rol := results.readEvent, wol := 0, sol := 0 }
  if results.readEvent = 0 then
    results.yack
    return (-1, t)
  let t ← t.assign index fun port => { port with sol := results.selectEvent }
  if results.selectEvent = 0 then
    results.yack
    return (-1, t)
  let t ← t.assign index fun port => { port with wol := results.writeEvent }
  if results.writeEvent = 0 then
    results.yack
    return (-1, t)
  return (0, t)

def OpenResults.complaints (results : OpenResults) (filename : CString) : List CString :=
  (if results.commProp.dtrDsr then [] else [filename ++ ": no DTR & DSR support\n".toList]) ++
  (if results.commProp.rlsd then []
    else [filename ++ ": no carrier detect (RLSD) support\n".toList]) ++
  (if results.commProp.rtsCts then [] else [filename ++ ": no RTS & CTS support\n".toList]) ++
  (if results.commProp.totalTimeouts then [] else [filename ++ ": no timeout support\n".toList])

def checkPortCapabilities (results : OpenResults) (filename : CString) : Except Fault Int := do
  (results.complaints filename).forM (sprintf results.survives)
  if results.getCommState then return 0
  results.yack
  return -1

def invalidPortReference (filename : CString) : CString :=
  "serial_open():  Invalid Port Reference for ".toList ++ filename ++ ['\n']

def nullPortReference (filename : CString) : CString :=
  "open():  Invalid Port Reference for ".toList ++ filename ++ ['\n']

/-- Nothing but its report comes of a first port without a handle. -/
def checkFirst (results : OpenResults) (filename : CString) (t : Table) : Except Fault Unit :=
  match t.firstTl with
  | none => return ()
  | some first => do
    if (← t.heap.read first).value.hComm = 0 then
      sprintf results.survives (nullPortReference filename)

def oNonblock : BitVec 32 := 0o4

def giveUp (index : Addr) (t : Table) : Except Fault (Int × Table) := do
  let (_, t) ← serialClose (← t.heap.read index).value.fd t
  return (-1, t)

def serialOpen (allocator : Allocator TermiosList) (results : OpenResults) (filename : CString)
    (flags : BitVec 32) (t : Table) : Except Fault (Int × Table) := do
  if (← portOpened filename t) ≠ 0 then return (-1, t)
  let (index, t) ← addPort allocator filename t
  let t ← t.assign index fun port => { port with interrupt := 0, txHappened := 0 }
  let (failed, t) ← openPort results index t
  if failed ≠ 0 then
    sprintf results.survives (invalidPortReference filename)
    return ← giveUp index t
  if (← checkPortCapabilities results filename) ≠ 0 then return ← giveUp index t
  let t ← t.assign index fun port => { port with ttyset := initTermios }
  let port := (← t.heap.read index).value
  let (unset, ttyset, t) ← tcsetattr results.comm port.fd 0 port.ttyset t
  -- the number is known and ICANON clear, so that it was a call of the driver that failed
  if unset ≠ 0 then results.yack
  let t ← t.assign index fun port =>
    { port with ttyset, openFlags := if flags &&& oNonblock ≠ 0 then oNonblock else 0 }
  checkFirst results filename t
  return (port.fd, t)

/-- The ports from `first_tl` along `next` are `nodes`, and along `prev` the same backwards. -/
def Table.Lists (t : Table) (nodes : List (Addr × TermiosList)) : Prop :=
  Linked t.heap t.firstTl nodes

theorem assign_lists {t : Table} {pre post : List (Addr × TermiosList)} {index : Addr}
    {entry : TermiosList} (lists : t.Lists (pre ++ (index, entry) :: post))
    (f : TermiosList → TermiosList) :
    ∃ t', t.assign index f = .ok t' ∧ t'.Lists (pre ++ (index, f entry) :: post) ∧
      t'.comm = t.comm ∧ t'.closed = t.closed :=
  ⟨_, assign_of_cell lists.split f, lists.assign f, rfl, rfl⟩

theorem findPort_found {t : Table} {pre post : List (Addr × TermiosList)} {index : Addr}
    {entry : TermiosList} (lists : t.Lists (pre ++ (index, entry) :: post))
    (numbered : ∀ node ∈ pre ++ (index, entry) :: post, 0 < node.2.fd)
    (first : ∀ node ∈ pre, node.2.fd ≠ entry.fd) : findPort entry.fd t = .ok (some index) := by
  have positive := numbered (index, entry) (by simp)
  have passed : ∀ node ∈ pre, node.2.ends entry.fd = false := by
    intro node member
    have number := numbered node (by simp [member])
    simp [TermiosList.ends, first node member, number.ne']
  obtain ⟨start, begins, found⟩ := Chained.search_some lists (TermiosList.ends entry.fd) passed
    (by simp [TermiosList.ends])
  simp [findPort, begins, not_le.mpr positive, found, Heap.read_of_cell lists.split, Bind.bind,
    Except.bind, Pure.pure, Except.pure]

theorem findPort_missed {t : Table} {nodes : List (Addr × TermiosList)} (lists : t.Lists nodes)
    (numbered : ∀ node ∈ nodes, 0 < node.2.fd) {fd : Int}
    (absent : ∀ node ∈ nodes, node.2.fd ≠ fd) : findPort fd t = .ok none := by
  have passed : ∀ node ∈ nodes, node.2.ends fd = false := by
    intro node member
    simp [TermiosList.ends, absent node member, (numbered node member).ne']
  rcases t with ⟨heap, head, comm, closed⟩
  cases head with
  | none => rfl
  | some start =>
    obtain ⟨last, missed⟩ := Chained.search_none lists (TermiosList.ends fd) passed
    simp [findPort, missed, Bind.bind, Except.bind, Pure.pure, Except.pure]

theorem portOpened_absent {t : Table} {nodes : List (Addr × TermiosList)} (lists : t.Lists nodes)
    {filename : CString} (absent : ∀ node ∈ nodes, node.2.filename ≠ filename) :
    portOpened filename t = .ok 0 := by
  rcases t with ⟨heap, head, comm, closed⟩
  cases head with
  | none => rfl
  | some start =>
    obtain ⟨last, missed⟩ := Chained.search_none lists (TermiosList.named filename)
      (by simpa [TermiosList.named] using absent)
    simp [portOpened, missed, Bind.bind, Except.bind, Pure.pure, Except.pure]

theorem portOpened_present {t : Table} {nodes : List (Addr × TermiosList)} (lists : t.Lists nodes)
    (numbered : ∀ node ∈ nodes, 0 < node.2.fd) {filename : CString}
    {node : Addr × TermiosList} (member : node ∈ nodes) (named : node.2.filename = filename) :
    ∃ fd, portOpened filename t = .ok fd ∧ fd ≠ 0 := by
  rcases split_at_first (TermiosList.named filename) nodes with
    none | ⟨pre, index, entry, post, rfl, skipped, accepted⟩
  · have missed := none node member
    simp [TermiosList.named, named] at missed
  · obtain ⟨start, begins, found⟩ := Chained.search_some lists _ skipped accepted
    refine ⟨entry.fd, ?_, (numbered (index, entry) (by simp)).ne'⟩
    simp [portOpened, begins, found, Heap.read_of_cell lists.split, Bind.bind, Except.bind,
      Pure.pure, Except.pure]

/-- What `get_free_fd` computes, from the numbers in the order of the list. -/
def freeAfter : Int → List Int → Except Fault Int
  | last, [] => increment last
  | last, next :: rest => do
    let free ← increment last
    if next ≠ free then return free
    freeAfter next rest

def freeFd : List Int → Except Fault Int
  | [] => return 1
  | fd :: rest => if fd = 0 ∨ fd > 1 then return 1 else freeAfter fd rest

theorem freeAfter_end {last : Int} (below : last < intMax) : freeAfter last [] = .ok (last + 1) :=
  if_pos below

theorem freeAfter_next {last : Int} (below : last < intMax) (rest : List Int) :
    freeAfter last ((last + 1) :: rest) = freeAfter (last + 1) rest := by
  simp [freeAfter, increment, below, Bind.bind, Except.bind]

theorem freeAfter_gap {last next : Int} (below : last < intMax) (gap : next ≠ last + 1)
    (rest : List Int) : freeAfter last (next :: rest) = .ok (last + 1) := by
  simp [freeAfter, increment, below, gap, Bind.bind, Except.bind, Pure.pure, Except.pure]

theorem freeAfter_full {last : Int} (full : ¬ last < intMax) (rest : List Int) :
    freeAfter last rest = .error .overflow := by
  cases rest <;> simp [freeAfter, increment, full, Bind.bind, Except.bind]

theorem getFreeFdLoop_lists {heap : Heap TermiosList} {before : Option Addr} {index : Addr}
    {entry : TermiosList} {rest : List (Addr × TermiosList)}
    (segment : Segment heap before ((index, entry) :: rest) none) {fuel : Nat}
    (enough : rest.length < fuel) :
    getFreeFdLoop heap fuel index entry.fd =
      freeAfter entry.fd (rest.map fun node => node.2.fd) := by
  induction rest generalizing before index entry fuel with
  | nil =>
    obtain ⟨fuel, rfl⟩ := Nat.exists_eq_succ_of_ne_zero (Nat.ne_of_gt enough)
    simp [getFreeFdLoop, freeAfter, Heap.read_of_cell segment.1, firstOr, Bind.bind, Except.bind]
  | cons node rest ih =>
    rcases node with ⟨successor, next⟩
    obtain ⟨fuel, rfl⟩ := Nat.exists_eq_succ_of_ne_zero (Nat.ne_of_gt (Nat.zero_lt_of_lt enough))
    have later := ih segment.2 (by simpa using enough)
    simp [getFreeFdLoop, freeAfter, Heap.read_of_cell segment.1, Heap.read_of_cell segment.2.1,
      firstOr, later, Bind.bind, Except.bind]

theorem getFreeFd_lists {t : Table} {nodes : List (Addr × TermiosList)} (lists : t.Lists nodes) :
    getFreeFd t = freeFd (nodes.map fun node => node.2.fd) := by
  rcases t with ⟨heap, head, comm, closed⟩
  obtain rfl : head = firstOr nodes none := lists.head_eq
  cases nodes with
  | nil => rfl
  | cons node rest =>
    rcases node with ⟨index, entry⟩
    have within := lists.within
    have loop := getFreeFdLoop_lists lists.segment
      (Nat.lt_of_lt_of_le (Nat.lt_succ_self rest.length) within)
    by_cases zero : entry.fd = 0
    · simp [getFreeFd, freeFd, firstOr, Heap.read_of_cell lists.segment.1, zero, Bind.bind,
        Except.bind]
    · by_cases above : entry.fd > 1
      · simp [getFreeFd, freeFd, firstOr, Heap.read_of_cell lists.segment.1, zero, above, Bind.bind,
          Except.bind]
      · simpa [getFreeFd, freeFd, firstOr, Heap.read_of_cell lists.segment.1, zero, above,
          Bind.bind, Except.bind] using loop

theorem addPort_lists (allocator : Allocator TermiosList) {t : Table}
    {nodes : List (Addr × TermiosList)} (lists : t.Lists nodes) {filename : CString}
    (short : filename.length < filenameSize) {fd : Int}
    (free : freeFd (nodes.map fun node => node.2.fd) = .ok fd) :
    ∃ t', addPort allocator filename t = .ok (allocator.malloc t.heap, t') ∧
      t'.Lists (nodes ++
        [(allocator.malloc t.heap, { TermiosList.zero with filename := filename, fd := fd })]) ∧
      t'.comm = t.comm ∧ t'.closed = t.closed := by
  have number := (getFreeFd_lists lists).trans free
  rcases t with ⟨heap, head, comm, closed⟩
  have fresh := allocator.fresh heap
  obtain ⟨port, port_eq⟩ : ∃ port, port = allocator.malloc heap := ⟨_, rfl⟩
  obtain ⟨grown, grown_eq⟩ : ∃ grown, grown = heap.alloc port
    ⟨{ TermiosList.zero with filename := filename, fd := fd }, none, none⟩ := ⟨_, rfl⟩
  rw [← port_eq] at fresh ⊢
  have framed : Linked grown head nodes := grown_eq ▸ Chained.alloc lists fresh _
  cases head with
  | none =>
    rw [Chained.head_none lists]
    refine ⟨⟨grown, some port, comm, closed⟩, ?_, ?_, rfl, rfl⟩
    · simp [addPort, number, strcpy, short, ← port_eq, ← grown_eq, Bind.bind, Except.bind,
        Pure.pure, Except.pure]
    · exact Linked.singleton (by rw [grown_eq, Heap.alloc_same]) (by rw [grown_eq]; simp)
  | some first =>
    obtain rfl | ⟨pre, ⟨last, entry⟩, rfl⟩ := List.eq_nil_or_concat nodes
    · cases lists.head_eq
    rw [List.concat_eq_append] at lists framed ⊢
    have search := framed.search_missed (fun _ => false) fun _ _ => rfl
    have notFirst : port ≠ first := by
      have inside := firstOr_mem (Chained.head_eq lists).symm
      exact (Chained.not_fresh lists fresh inside).symm
    have notLast : last ≠ port := Chained.not_fresh lists fresh (by simp)
    have newLive : grown.Live port := ⟨_, by rw [grown_eq, Heap.alloc_same]⟩
    have lastLive : grown.Live last := ⟨_, framed.split⟩
    have prev := Heap.setPrev_live newLive (some last)
    have next := Heap.setNext_live (lastLive.adjust port
      fun node => { node with prev := some last }) (some port)
    have ended := Heap.setNext_live ((newLive.adjust port
      fun node => { node with prev := some last }).adjust last
      fun node => { node with next := some port }) none
    refine ⟨⟨((grown.adjust port fun node => { node with prev := some last }).adjust last
        fun node => { node with next := some port }).adjust port
          fun node => { node with next := none }, some first, comm, closed⟩, ?_, ?_, rfl, rfl⟩
    · simp [addPort, number, strcpy, short, ← port_eq, ← grown_eq, search, notFirst, prev, next,
        ended, Bind.bind, Except.bind, Pure.pure, Except.pure]
    · apply Chained.append lists fresh
      · rw [Heap.adjust_same, Heap.adjust_other _ _ notLast.symm, Heap.adjust_same, grown_eq,
          Heap.alloc_same]
        rfl
      · rw [Heap.adjust_other _ _ notLast, Heap.adjust_same, Heap.adjust_other _ _ notLast,
          grown_eq, Heap.alloc_other _ _ notLast]
      · intro b notNew notTail
        rw [Heap.adjust_other _ _ notNew, Heap.adjust_other _ _ notTail,
          Heap.adjust_other _ _ notNew, grown_eq, Heap.alloc_other _ _ notNew]
      · simp [grown_eq]

theorem serialClose_missed {t : Table} {nodes : List (Addr × TermiosList)} (lists : t.Lists nodes)
    (numbered : ∀ node ∈ nodes, 0 < node.2.fd) {fd : Int}
    (absent : ∀ node ∈ nodes, node.2.fd ≠ fd) :
    ∃ result, serialClose fd t = .ok (result, t) := by
  have missed := findPort_missed lists numbered absent
  rcases t with ⟨heap, head, comm, closed⟩
  cases nodes with
  | nil =>
    obtain rfl : head = none := lists.head_eq
    exact ⟨0, rfl⟩
  | cons node rest =>
    rcases node with ⟨index, entry⟩
    obtain rfl : head = some index := lists.head_eq
    have read := Heap.read_of_cell (Chained.segment lists).1
    by_cases null : entry.hComm = 0
    · exact ⟨0, by simp [serialClose, read, null, Bind.bind, Except.bind, Pure.pure, Except.pure]⟩
    · exact ⟨-1, by
        simp [serialClose, read, null, missed, Bind.bind, Except.bind, Pure.pure, Except.pure]⟩

theorem serialClose_found {t : Table} {pre post : List (Addr × TermiosList)} {index : Addr}
    {entry : TermiosList} (lists : t.Lists (pre ++ (index, entry) :: post))
    (numbered : ∀ node ∈ pre ++ (index, entry) :: post, 0 < node.2.fd)
    (created : ∀ node ∈ pre ++ (index, entry) :: post, node.2.hComm ≠ 0)
    (first : ∀ node ∈ pre, node.2.fd ≠ entry.fd) :
    ∃ t', serialClose entry.fd t = .ok (0, t') ∧ t'.Lists (pre ++ post) ∧ t'.comm = t.comm ∧
      t'.closed = t.closed ++ entry.handles := by
  have found := findPort_found lists numbered first
  have cell := Chained.split lists
  have read := Heap.read_of_cell cell
  have live : t.heap.Live index := ⟨_, cell⟩
  obtain ⟨start, node, begins, readStart, handle⟩ : ∃ start node,
      firstOr (pre ++ (index, entry) :: post) none = some start ∧
        t.heap.read start = .ok node ∧ node.value.hComm ≠ 0 := by
    have segment := Chained.segment lists
    cases pre with
    | nil => exact ⟨_, _, rfl, read, created (index, entry) (by simp)⟩
    | cons node pre =>
      exact ⟨_, _, rfl, Heap.read_of_cell segment.1, created node (by simp)⟩
  rcases t with ⟨heap, head, comm, closed⟩
  obtain rfl : head = firstOr (pre ++ (index, entry) :: post) none := lists.head_eq
  refine ⟨⟨(heap.relink (lastOr none pre) (firstOr post none)).release index,
    firstOr (pre ++ post) none, comm, closed ++ entry.handles⟩, ?_,
    Chained.unlink lists fun _ => rfl, rfl, rfl⟩
  simp only [begins] at found readStart read live lists ⊢
  cases last : lastOr none pre with
  | none =>
    obtain rfl : pre = [] := lastOr_none last
    cases next : firstOr post none with
    | none =>
      simp [serialClose, readStart, handle, found, read, next, last, Heap.free_live live,
        Heap.relink, Bind.bind, Except.bind, Pure.pure, Except.pure]
    | some n =>
      have back := Heap.setPrev_live (Chained.live_first lists next) none
      simp [serialClose, readStart, handle, found, read, next, last, back,
        Heap.free_live (live.adjust n _), Heap.relink, Bind.bind, Except.bind, Pure.pure,
        Except.pure]
  | some p =>
    have same : firstOr (pre ++ post) none = some start := by
      cases pre with
      | nil => cases last
      | cons node pre => exact begins
    cases next : firstOr post none with
    | none =>
      have forth := Heap.setNext_live (Chained.live_last lists last) none
      simp [serialClose, readStart, handle, found, read, next, last, forth, same,
        Heap.free_live (live.adjust p _), Heap.relink, Bind.bind, Except.bind, Pure.pure,
        Except.pure]
    | some n =>
      have back := Heap.setPrev_live (Chained.live_first lists next) (some p)
      have forth := Heap.setNext_live ((Chained.live_last lists last).adjust n
        fun node => { node with prev := some p }) (some n)
      have apart : n ≠ p := by
        intro same
        rcases same with rfl
        rcases lastOr_mem last with inPre | none
        · exact (Chained.split_apart lists).2.2 n inPre (firstOr_mem next)
        · cases none
      have swapped := heap.adjust_comm apart (fun node => { node with prev := some p })
        fun node => { node with next := some n }
      simp [serialClose, readStart, handle, found, read, next, last, back, forth, same,
        Heap.free_live ((live.adjust p _).adjust n _), Heap.relink, swapped, Bind.bind, Except.bind,
        Pure.pure, Except.pure]

theorem findPort_first {t : Table} {nodes : List (Addr × TermiosList)} (lists : t.Lists nodes)
    (numbered : ∀ node ∈ nodes, 0 < node.2.fd) (fd : Int) :
    (findPort fd t = .ok none ∧ ∀ node ∈ nodes, node.2.fd ≠ fd) ∨
      ∃ pre index entry post, nodes = pre ++ (index, entry) :: post ∧
        findPort fd t = .ok (some index) ∧ entry.fd = fd ∧ ∀ node ∈ pre, node.2.fd ≠ fd := by
  rcases split_at_first (fun entry => decide (entry.fd = fd)) nodes with
    none | ⟨pre, index, entry, post, split, skipped, number⟩
  · have absent : ∀ node ∈ nodes, node.2.fd ≠ fd :=
      fun node member => of_decide_eq_false (none node member)
    exact .inl ⟨findPort_missed lists numbered absent, absent⟩
  · obtain rfl := of_decide_eq_true number
    have before : ∀ node ∈ pre, node.2.fd ≠ entry.fd :=
      fun node member => of_decide_eq_false (skipped node member)
    rw [split] at lists numbered
    exact .inr ⟨pre, index, entry, post, split, findPort_found lists numbered before, rfl, before⟩

def numberedBy (fd : Int) (node : Addr × TermiosList) : Bool := node.2.fd = fd

def closedHandles (fd : Int) (nodes : List (Addr × TermiosList)) : List Handle :=
  (nodes.find? (numberedBy fd)).elim [] fun node => node.2.handles

theorem numberedBy_others {fd : Int} {nodes : List (Addr × TermiosList)}
    (others : ∀ node ∈ nodes, node.2.fd ≠ fd) : ∀ node ∈ nodes, ¬ numberedBy fd node := by
  simpa [numberedBy] using others

theorem eraseP_first {fd : Int} {pre post : List (Addr × TermiosList)} {index : Addr}
    {entry : TermiosList} (number : entry.fd = fd) (others : ∀ node ∈ pre, node.2.fd ≠ fd) :
    (pre ++ (index, entry) :: post).eraseP (numberedBy fd) = pre ++ post := by
  rw [List.eraseP_append_right _ (numberedBy_others others),
    List.eraseP_cons_of_pos (by simp [numberedBy, number])]

theorem closedHandles_first {fd : Int} {pre post : List (Addr × TermiosList)} {index : Addr}
    {entry : TermiosList} (number : entry.fd = fd) (others : ∀ node ∈ pre, node.2.fd ≠ fd) :
    closedHandles fd (pre ++ (index, entry) :: post) = entry.handles := by
  have skipped := List.find?_eq_none.mpr (numberedBy_others others)
  simp [closedHandles, List.find?_append, skipped, numberedBy, number]

theorem serialClose_lists {t : Table} {nodes : List (Addr × TermiosList)} (lists : t.Lists nodes)
    (numbered : ∀ node ∈ nodes, 0 < node.2.fd) (created : ∀ node ∈ nodes, node.2.hComm ≠ 0)
    (fd : Int) :
    ∃ result t', serialClose fd t = .ok (result, t') ∧
      t'.Lists (nodes.eraseP (numberedBy fd)) ∧ t'.comm = t.comm ∧
      t'.closed = t.closed ++ closedHandles fd nodes := by
  rcases findPort_first lists numbered fd with
    ⟨-, absent⟩ | ⟨pre, index, entry, post, rfl, -, rfl, before⟩
  · obtain ⟨result, closes⟩ := serialClose_missed lists numbered absent
    have none := List.find?_eq_none.mpr (numberedBy_others absent)
    refine ⟨result, t, closes, ?_, rfl, by simp [closedHandles, none]⟩
    rwa [List.eraseP_of_forall_not (numberedBy_others absent)]
  · obtain ⟨t', closes, rest, comm, closed⟩ := serialClose_found lists numbered created before
    refine ⟨0, t', closes, ?_, comm, ?_⟩
    · rwa [eraseP_first rfl before]
    · rw [closed, closedHandles_first rfl before]

def OpenResults.handles (results : OpenResults) : List Handle :=
  [results.createFile, results.readEvent, results.selectEvent, results.writeEvent]

def OpenResults.opensPort (results : OpenResults) : Bool :=
  results.createFile ≠ invalidHandleValue && results.setupComm && results.readEvent ≠ 0 &&
    results.selectEvent ≠ 0 && results.writeEvent ≠ 0

theorem openPort_lists {t : Table} {pre post : List (Addr × TermiosList)} {index : Addr}
    {entry : TermiosList} (lists : t.Lists (pre ++ (index, entry) :: post))
    (results : OpenResults) :
    ∃ t' rol wol sol, openPort results index t =
        (if results.opensPort then .ok (0, t') else results.yack >>= fun _ => .ok (-1, t')) ∧
      t'.Lists (pre ++ (index, { entry with
        hComm := results.createFile, rol := rol, wol := wol, sol := sol }) :: post) ∧
      t'.comm = t.comm ∧ t'.closed = t.closed ∧
      ∀ handle ∈ [rol, wol, sol],
        handle ∈ [entry.rol, entry.wol, entry.sol, 0] ++ results.handles := by
  obtain ⟨t1, created, lists1, comm1, closed1⟩ := assign_lists lists fun port =>
    { port with hComm := results.createFile }
  obtain ⟨t2, reader, lists2, comm2, closed2⟩ := assign_lists lists1 fun port =>
    { port with rol := results.readEvent, wol := 0, sol := 0 }
  obtain ⟨t3, selector, lists3, comm3, closed3⟩ := assign_lists lists2 fun port =>
    { port with sol := results.selectEvent }
  obtain ⟨t4, writer, lists4, comm4, closed4⟩ := assign_lists lists3 fun port =>
    { port with wol := results.writeEvent }
  suffices ends : ∃ t' rol wol sol,
      (results.opensPort = true ∧ openPort results index t = .ok (0, t') ∨
        results.opensPort = false ∧
          openPort results index t = (results.yack >>= fun _ => .ok (-1, t'))) ∧
      t'.Lists (pre ++ (index, { entry with
        hComm := results.createFile, rol := rol, wol := wol, sol := sol }) :: post) ∧
      t'.comm = t.comm ∧ t'.closed = t.closed ∧
      ∀ handle ∈ [rol, wol, sol],
        handle ∈ [entry.rol, entry.wol, entry.sol, 0] ++ results.handles by
    obtain ⟨t', rol, wol, sol, ⟨opens, same⟩ | ⟨shut, same⟩, rest⟩ := ends
    · exact ⟨t', rol, wol, sol, by rw [same, if_pos opens], rest⟩
    · exact ⟨t', rol, wol, sol, by rw [same, shut]; rfl, rest⟩
  unfold openPort
  simp only [Bind.bind, Except.bind, created, reader, selector, writer, Pure.pure, Except.pure]
  split_ifs with invalid unready noReader noSelector noWriter
  · exact ⟨_, _, _, _, .inr ⟨by simp [OpenResults.opensPort, invalid], rfl⟩, lists1, comm1,
      closed1, by simp⟩
  · exact ⟨_, _, _, _, .inr ⟨by simp_all [OpenResults.opensPort], rfl⟩, lists1, comm1, closed1,
      by simp⟩
  · exact ⟨_, _, _, _, .inr ⟨by simp [OpenResults.opensPort, noReader], rfl⟩, lists2,
      by rw [comm2, comm1], by rw [closed2, closed1], by simp [OpenResults.handles]⟩
  · exact ⟨_, _, _, _, .inr ⟨by simp [OpenResults.opensPort, noSelector], rfl⟩, lists3,
      by rw [comm3, comm2, comm1], by rw [closed3, closed2, closed1],
      by simp [OpenResults.handles]⟩
  · exact ⟨_, _, _, _, .inr ⟨by simp [OpenResults.opensPort, noWriter], rfl⟩, lists4,
      by rw [comm4, comm3, comm2, comm1], by rw [closed4, closed3, closed2, closed1],
      by simp [OpenResults.handles]⟩
  · exact ⟨_, _, _, _, .inl ⟨by simp_all [OpenResults.opensPort], rfl⟩, lists4,
      by rw [comm4, comm3, comm2, comm1], by rw [closed4, closed3, closed2, closed1],
      by simp [OpenResults.handles]⟩

/-- A port without what `tcsetattr` stores in it. -/
def unset (node : Addr × TermiosList) : Addr × TermiosList :=
  (node.1, { node.2 with ttyset := Termios.zero })

theorem map_of_unset {β : Type} (f : Addr × TermiosList → β)
    (blind : ∀ node, f (unset node) = f node) {nodes nodes' : List (Addr × TermiosList)}
    (same : nodes'.map unset = nodes.map unset) :
    nodes'.map f = nodes.map f := by
  have through := congrArg (List.map f) same
  simpa [Function.comp_def, blind] using through

theorem forall_of_unset (P : Addr × TermiosList → Prop) (blind : ∀ node, P (unset node) ↔ P node)
    {nodes nodes' : List (Addr × TermiosList)} (same : nodes'.map unset = nodes.map unset)
    (all : ∀ node ∈ nodes, P node) : ∀ node ∈ nodes', P node := by
  intro node member
  have inside : unset node ∈ nodes.map unset := same ▸ List.mem_map.mpr ⟨node, member, rfl⟩
  obtain ⟨old, known, equal⟩ := List.mem_map.mp inside
  rw [← blind node, ← equal, blind old]
  exact all old known

def CommResults.succeed : CommResults := ⟨true, true, true, true⟩

theorem tcsetattrPort_zero_iff {s : Termios} (raw : s.cLflag &&& icanon = 0)
    (results : CommResults) (port : CommPort) :
    (tcsetattrPort results s port).1 = 0 ↔ results = .succeed := by
  rcases results with ⟨_ | _, _ | _, _ | _, _ | _⟩ <;>
    simp [tcsetattrPort, raw, CommResults.succeed]

theorem tcsetattr_lists {t : Table} {nodes : List (Addr × TermiosList)} (lists : t.Lists nodes)
    (numbered : ∀ node ∈ nodes, 0 < node.2.fd) (results : CommResults) {fd : Int}
    (known : ∃ node ∈ nodes, node.2.fd = fd) (action : Int) {s : Termios}
    (raw : s.cLflag &&& icanon = 0) :
    ∃ result s' t' nodes', tcsetattr results fd action s t = .ok (result, s', t') ∧
      t'.Lists nodes' ∧ nodes'.map unset = nodes.map unset ∧ t'.closed = t.closed ∧
      (result = 0 ↔ results = .succeed) := by
  rcases known with ⟨port, member, number⟩
  rcases findPort_first lists numbered fd with
    ⟨-, absent⟩ | ⟨pre, index, entry, post, rfl, found, rfl, -⟩
  · exact absurd number (absent port member)
  have positive : ¬ entry.fd ≤ 0 := not_le.mpr (number ▸ numbered port member)
  have read := Heap.read_of_cell (Chained.split lists)
  have zero := tcsetattrPort_zero_iff raw results (t.comm entry.hComm)
  cases sent : tcsetattrPort results s (t.comm entry.hComm) with
  | mk result rest =>
    rcases rest with ⟨s', port⟩
    rw [sent] at zero
    have programmed : (t.setComm entry.hComm port).Lists (pre ++ (index, entry) :: post) := lists
    obtain ⟨t', assigned, stored, -, closed⟩ := assign_lists programmed fun entry =>
      { entry with ttyset := s' }
    simp only [tcsetattr, if_neg positive, found, read, sent, assigned, Bind.bind, Except.bind,
      Pure.pure, Except.pure]
    split_ifs with refused
    · exact ⟨_, _, _, _, rfl, programmed, rfl, rfl, zero⟩
    · exact ⟨_, _, _, _, rfl, stored, by simp [unset], closed,
        iff_of_true rfl (zero.mp (not_not.mp refused))⟩

theorem giveUp_lists {t : Table} {nodes : List (Addr × TermiosList)} {index : Addr}
    {entry : TermiosList} (lists : t.Lists (nodes ++ [(index, entry)]))
    (numbered : ∀ node ∈ nodes ++ [(index, entry)], 0 < node.2.fd)
    (created : ∀ node ∈ nodes ++ [(index, entry)], node.2.hComm ≠ 0) :
    ∃ t', giveUp index t = .ok (-1, t') ∧
      t'.Lists ((nodes ++ [(index, entry)]).eraseP (numberedBy entry.fd)) ∧ t'.comm = t.comm ∧
      t'.closed = t.closed ++ closedHandles entry.fd (nodes ++ [(index, entry)]) := by
  have read := Heap.read_of_cell (Chained.split lists)
  obtain ⟨result, t', closes, rest, comm, closed⟩ :=
    serialClose_lists lists numbered created entry.fd
  exact ⟨t', by simp [giveUp, read, closes, Bind.bind, Except.bind, Pure.pure, Except.pure], rest,
    comm, closed⟩

def OpenResults.reports (results : OpenResults) (filename : CString) : List CString :=
  if results.opensPort then
    results.complaints filename ++
      (if results.getCommState ∧ results.comm = .succeed then [] else [results.yackText])
  else [results.yackText, invalidPortReference filename]

def OpenResults.Reports (results : OpenResults) (filename : CString) : Prop :=
  ∀ text ∈ results.reports filename, Reported results.survives text

instance (results : OpenResults) (filename : CString) : Decidable (results.Reports filename) :=
  inferInstanceAs (Decidable (∀ text ∈ results.reports filename, _))

theorem forM_sprintf {survives : Bool} {texts : List CString}
    (reported : ∀ text ∈ texts, Reported survives text) :
    texts.forM (sprintf survives) = .ok () := by
  induction texts with
  | nil => rfl
  | cons text rest ih =>
    show (sprintf survives text >>= fun _ => rest.forM (sprintf survives)) = .ok ()
    rw [sprintf_reported (reported text List.mem_cons_self)]
    exact ih fun later member => reported later (List.mem_cons_of_mem _ member)

theorem forM_sprintf_overruns {survives : Bool} {texts : List CString}
    (overruns : ¬ ∀ text ∈ texts, Reported survives text) :
    texts.forM (sprintf survives) = .error .overflow := by
  induction texts with
  | nil => exact absurd (by simp) overruns
  | cons text rest ih =>
    show (sprintf survives text >>= fun _ => rest.forM (sprintf survives)) = .error .overflow
    by_cases first : Reported survives text
    · rw [sprintf_reported first]
      apply ih
      simpa [first] using overruns
    · rw [sprintf_overruns first]
      rfl

theorem forM_append_unit {f : CString → Except Fault Unit} (texts more : List CString) :
    (texts ++ more).forM f = (texts.forM f >>= fun _ => more.forM f) := by
  induction texts with
  | nil => rfl
  | cons text rest ih =>
    show (f text >>= fun _ => (rest ++ more).forM f) = _
    rw [ih]
    show _ = (f text >>= fun _ => rest.forM f) >>= fun _ => more.forM f
    cases f text <;> rfl

theorem checkFirst_created {t : Table} {nodes : List (Addr × TermiosList)} (lists : t.Lists nodes)
    (created : ∀ node ∈ nodes, node.2.hComm ≠ 0) (results : OpenResults) (filename : CString) :
    checkFirst results filename t = .ok () := by
  unfold checkFirst
  rw [Chained.head_eq lists]
  cases nodes with
  | nil => rfl
  | cons node rest =>
    have read := Heap.read_of_cell (Chained.segment lists).1
    have handle := created node List.mem_cons_self
    simp [firstOr, read, handle, Bind.bind, Except.bind, Pure.pure, Except.pure]

structure Opened (results : OpenResults) (filename : CString) (fd : Int) (entry : TermiosList) :
    Prop where
  named : entry.filename = filename
  number : entry.fd = fd
  created : entry.hComm ≠ 0
  handles : ∀ handle ∈ entry.handles, handle ∈ results.handles

theorem serialOpen_ends {allocator : Allocator TermiosList} {results : OpenResults}
    {filename : CString} {flags : BitVec 32} {t t1 t2 t3 t4 t5 t6 t7 : Table} {index : Addr}
    {node : Node TermiosList} {result : Int} {s : Termios}
    (unopened : portOpened filename t = .ok 0)
    (added : addPort allocator filename t = .ok (index, t1))
    (reset : (t1.assign index fun port => { port with interrupt := 0, txHappened := 0 }) = .ok t2)
    (opens : openPort results index t2 =
      if results.opensPort then .ok (0, t3) else results.yack >>= fun _ => .ok (-1, t3))
    (givesUp : giveUp index t3 = .ok (-1, t4))
    (initialised : (t3.assign index fun port => { port with ttyset := initTermios }) = .ok t5)
    (read : t5.heap.read index = .ok node)
    (sets : tcsetattr results.comm node.value.fd 0 node.value.ttyset t5 = .ok (result, s, t6))
    (zero : result = 0 ↔ results.comm = .succeed)
    (finished : (t6.assign index fun port => { port with
      ttyset := s, openFlags := if flags &&& oNonblock ≠ 0 then oNonblock else 0 }) = .ok t7)
    (checked : checkFirst results filename t7 = .ok ()) :
    serialOpen allocator results filename flags t =
      ((results.reports filename).forM (sprintf results.survives) >>= fun _ =>
        .ok (if results.opensPort ∧ results.getCommState then (node.value.fd, t7)
          else (-1, t4))) := by
  have failed : ¬ (-1 : Int) = 0 := by decide
  simp only [ne_eq] at finished
  cases opensPort : results.opensPort with
  | false =>
    have twice : (results.reports filename).forM (sprintf results.survives) =
        (sprintf results.survives results.yackText >>= fun _ =>
          sprintf results.survives (invalidPortReference filename) >>= fun _ => .ok ()) := by
      rw [OpenResults.reports, if_neg (by simp [opensPort])]
      rfl
    rw [twice]
    simp only [serialOpen, unopened, added, reset, opens, opensPort, OpenResults.yack, ne_eq,
      Bool.false_eq_true, not_true_eq_false, if_false, false_and, Bind.bind, Except.bind]
    cases sprintf results.survives results.yackText with
    | error => rfl
    | ok =>
      simp only [failed, not_false_eq_true, if_true]
      cases sprintf results.survives (invalidPortReference filename) with
      | error => rfl
      | ok => exact givesUp
  | true =>
    have once (text : CString) : [text].forM (sprintf results.survives) =
        (sprintf results.survives text >>= fun _ => .ok ()) := rfl
    simp only [serialOpen, unopened, added, reset, opens, opensPort, checkPortCapabilities, ne_eq,
      not_true_eq_false, if_true, if_false, true_and, OpenResults.yack, OpenResults.reports,
      forM_append_unit, Bind.bind, Except.bind, Pure.pure, Except.pure]
    cases (results.complaints filename).forM (sprintf results.survives) with
    | error => rfl
    | ok =>
      cases results.getCommState with
      | false =>
        simp only [Bool.false_eq_true, false_and, if_false, once, Bind.bind, Except.bind]
        cases sprintf results.survives results.yackText with
        | error => rfl
        | ok => simpa only [failed, not_false_eq_true, if_true] using givesUp
      | true =>
        simp only [not_true_eq_false, if_true, if_false, true_and, initialised, read, sets, zero]
        by_cases succeeded : results.comm = .succeed
        · simp only [succeeded, not_true_eq_false, if_true, if_false, finished, checked]
          rfl
        · simp only [succeeded, not_false_eq_true, if_true, if_false, once, Bind.bind, Except.bind]
          cases sprintf results.survives results.yackText with
          | error => rfl
          | ok => simp only [finished, checked]

theorem serialOpen_cases (allocator : Allocator TermiosList) (results : OpenResults) {t : Table}
    {nodes : List (Addr × TermiosList)} (lists : t.Lists nodes)
    (numbered : ∀ node ∈ nodes, 0 < node.2.fd) (created : ∀ node ∈ nodes, node.2.hComm ≠ 0)
    {filename : CString} (absent : ∀ node ∈ nodes, node.2.filename ≠ filename)
    (short : filename.length < filenameSize) {fd : Int}
    (free : freeFd (nodes.map fun node => node.2.fd) = .ok fd) (positive : 0 < fd)
    (flags : BitVec 32) :
    (¬ results.Reports filename ∧
      serialOpen allocator results filename flags t = .error .overflow) ∨
    (results.Reports filename ∧
      ∃ t' index entry, serialOpen allocator results filename flags t = .ok (-1, t') ∧
      Opened results filename fd entry ∧
      t'.Lists ((nodes ++ [(index, entry)]).eraseP (numberedBy fd)) ∧
      t'.closed = t.closed ++ closedHandles fd (nodes ++ [(index, entry)])) ∨
    results.Reports filename ∧
      ∃ t' index entry nodes', serialOpen allocator results filename flags t = .ok (fd, t') ∧
      Opened results filename fd entry ∧ nodes'.map unset = nodes.map unset ∧
      t'.Lists (nodes' ++ [(index, entry)]) := by
  have unopened := portOpened_absent lists absent
  obtain ⟨t1, added, lists1, -, closed1⟩ := addPort_lists allocator lists short free
  obtain ⟨t2, reset, lists2, -, closed2⟩ := assign_lists lists1 fun port =>
    { port with interrupt := 0, txHappened := 0 }
  obtain ⟨t3, rol, wol, sol, opens, lists3, -, closed3, given⟩ :=
    openPort_lists lists2 results
  have opened (ttyset : Termios) (openFlags : BitVec 32) : Opened results filename fd
      { TermiosList.zero with
        filename := filename, hComm := results.createFile, ttyset := ttyset,
        openFlags := openFlags, rol := rol, wol := wol, sol := sol, fd := fd } := by
    refine ⟨rfl, rfl, results.createFile_ne, ?_⟩
    intro handle member
    simp only [TermiosList.handles, List.mem_filter, List.mem_cons, List.not_mem_nil, or_false,
      decide_eq_true_eq] at member
    rcases member with ⟨events | events | events | rfl, valid⟩
    · have event := given handle (by simp [events])
      simpa [TermiosList.zero, valid] using event
    · have event := given handle (by simp [events])
      simpa [TermiosList.zero, valid] using event
    · have event := given handle (by simp [events])
      simpa [TermiosList.zero, valid] using event
    · simp [OpenResults.handles]
  have numbered3 {entry : TermiosList} (same : entry.fd = fd) :
      ∀ node ∈ nodes ++ [(allocator.malloc t.heap, entry)], 0 < node.2.fd :=
    List.forall_mem_append.mpr ⟨numbered, List.forall_mem_singleton.mpr (same ▸ positive)⟩
  have created3 {entry : TermiosList} (same : entry.hComm = results.createFile) :
      ∀ node ∈ nodes ++ [(allocator.malloc t.heap, entry)], node.2.hComm ≠ 0 :=
    List.forall_mem_append.mpr
      ⟨created, List.forall_mem_singleton.mpr (same ▸ results.createFile_ne)⟩
  obtain ⟨t4, givesUp, lists4, -, closed4⟩ := giveUp_lists lists3 (numbered3 rfl) (created3 rfl)
  obtain ⟨t5, initialised, lists5, -⟩ := assign_lists lists3 fun port =>
    { port with ttyset := initTermios }
  obtain ⟨result, s, t6, nodes6, sets, lists6, same, -, zero⟩ :=
    tcsetattr_lists lists5 (numbered3 rfl) results.comm
      ⟨_, List.mem_append_right _ (List.mem_singleton_self _), rfl⟩ 0 (s := initTermios) (by decide)
  rw [List.map_append] at same
  obtain ⟨nodes', last, rfl, sameNodes, sameLast⟩ := List.map_eq_append_iff.mp same
  obtain ⟨⟨index, entry⟩, rfl, sameEntry⟩ := List.map_eq_singleton_iff.mp sameLast
  obtain rfl : index = allocator.malloc t.heap := congrArg Prod.fst sameEntry
  obtain ⟨t7, finished, lists7, -⟩ := assign_lists lists6 fun port => { port with
    ttyset := s, openFlags := if flags &&& oNonblock ≠ 0 then oNonblock else 0 }
  have finalEntry := congrArg (fun node : Addr × TermiosList => { node.2 with
    ttyset := s, openFlags := if flags &&& oNonblock ≠ 0 then oNonblock else 0 }) sameEntry
  have read := Heap.read_of_cell (Chained.split lists5)
  have createdAll := forall_of_unset (fun node => node.2.hComm ≠ 0) (fun _ => Iff.rfl) sameNodes
    created
  have handle : entry.hComm = results.createFile := by
    have kept := congrArg (fun node : Addr × TermiosList => node.2.hComm) sameEntry
    simpa only [unset] using kept
  have checked := checkFirst_created lists7 (List.forall_mem_append.mpr
    ⟨createdAll, List.forall_mem_singleton.mpr (handle ▸ results.createFile_ne)⟩) results filename
  have failure : t4.closed = t.closed ++ closedHandles fd _ :=
    closed4.trans (by rw [closed3, closed2, closed1])
  have succeeds : Opened results filename fd { entry with
      ttyset := s, openFlags := if flags &&& oNonblock ≠ 0 then oNonblock else 0 } := by
    have final := finalEntry
    simp only [unset] at final
    rw [final]
    exact opened _ _
  have ends := serialOpen_ends unopened added reset opens givesUp initialised read sets zero
    finished checked
  by_cases reported : results.Reports filename
  · rw [forM_sprintf reported] at ends
    by_cases done : results.opensPort ∧ results.getCommState
    · exact .inr (.inr ⟨reported, t7, _, _, nodes', ends.trans (congrArg _ (if_pos done)), succeeds,
        sameNodes, lists7⟩)
    · exact .inr (.inl ⟨reported, t4, _, _, ends.trans (congrArg _ (if_neg done)), opened _ _,
        lists4, failure⟩)
  · rw [forM_sprintf_overruns reported] at ends
    exact .inl ⟨reported, ends⟩

end Rxtx.Win32
