import Rxtx.Library.LinkedHeap
import Rxtx.Library.Runs

open LinkedHeap

namespace Rxtx.SerialImp

/-- The characters of a C string before its terminating NUL. -/
abbrev CString := List Char

structure Preopened where
  filename : CString
  fd : Int
  deriving DecidableEq, Repr

def Preopened.named (filename : CString) (p : Preopened) : Bool := p.filename = filename

/-- The blocks of the C heap that hold `struct preopened`, and the global `preopened_port`. -/
structure Ports where
  heap : Heap Preopened
  preopenedPort : Option Addr

def Ports.none : Ports := ⟨Heap.empty, Option.none⟩

def filenameSize : Nat := 40

/-- `strcpy` of a string and its NUL into an array of `size` characters. -/
def strcpy (size : Nat) (source : CString) : Except Fault CString :=
  if source.length < size then .ok source else .error .overflow

def messageSize : Nat := 80

/-- A text that fits into `message`, or whose end is written behind it without harm: `survives` tells
    whether the process lives on there. -/
def Reported (survives : Bool) (text : CString) : Prop :=
  text.length < messageSize ∨ survives = true

instance (survives : Bool) (text : CString) : Decidable (Reported survives text) :=
  inferInstanceAs (Decidable (_ ∨ _))

def sprintf (survives : Bool) (text : CString) : Except Fault Unit :=
  if Reported survives text then .ok () else .error .overflow

theorem sprintf_reported {survives : Bool} {text : CString} (reported : Reported survives text) :
    sprintf survives text = .ok () := if_pos reported

theorem sprintf_overruns {survives : Bool} {text : CString} (overruns : ¬ Reported survives text) :
    sprintf survives text = .error .overflow := if_neg overruns

def findPreopenedPorts (filename : CString) (s : Ports) : Except Fault (Int × Ports) :=
  match s.preopenedPort with
  | .none => return (0, s)
  | .some first => do
    let (p, found) ← s.heap.search (Preopened.named filename) first
    if !found then return (0, s)
    let node ← s.heap.read p
    let fd := node.value.fd
    match node.prev, node.next with
    | .some prev, .some next =>
      let heap ← s.heap.setNext prev node.next
      let heap ← heap.setPrev next node.prev
      return (fd, { s with heap := ← heap.free p })
    | .some prev, .none =>
      let heap ← s.heap.setNext prev .none
      return (fd, { s with heap := ← heap.free p })
    | .none, .some next =>
      -- preopened_port keeps pointing at the block freed here
      let heap ← s.heap.setPrev next .none
      return (fd, { s with heap := ← heap.free p })
    | .none, .none => return (fd, { heap := ← s.heap.free p, preopenedPort := .none })

def staticAddFilename (allocator : Allocator Preopened) (filename : CString) (fd : Int)
    (s : Ports) : Except Fault Ports := do
  let newp := allocator.malloc s.heap
  let name ← strcpy filenameSize filename
  let heap := s.heap.alloc newp ⟨⟨name, fd⟩, .none, .none⟩
  match s.preopenedPort with
  | .none => return { heap, preopenedPort := .some newp }
  | .some first =>
    let (p, found) ← heap.search (Preopened.named filename) first
    if found then return { s with heap }
    let heap ← heap.setPrev newp (.some p)
    -- the head moves to the node that was last so far
    return { heap := ← heap.setNext p (.some newp), preopenedPort := .some p }

theorem findPreopenedPorts_missed {s : Ports} {filename : CString} {before : Option Addr}
    {nodes : List (Addr × Preopened)} (linked : Chained s.heap before s.preopenedPort nodes)
    (absent : ∀ node ∈ nodes, node.2.filename ≠ filename) :
    findPreopenedPorts filename s = .ok (0, s) := by
  rcases s with ⟨heap, head⟩
  cases head with
  | none => rfl
  | some start =>
    obtain ⟨last, missed⟩ := linked.search_none (Preopened.named filename)
      (by simpa [Preopened.named] using absent)
    simp [findPreopenedPorts, missed, Bind.bind, Except.bind, Pure.pure, Except.pure]

theorem findPreopenedPorts_found {s : Ports} {before : Option Addr}
    {pre post : List (Addr × Preopened)} {a : Addr} {v : Preopened}
    (linked : Chained s.heap before s.preopenedPort (pre ++ (a, v) :: post))
    (settled : pre = [] → before = none)
    (skipped : ∀ node ∈ pre, node.2.filename ≠ v.filename) :
    ∃ heap, findPreopenedPorts v.filename s =
        .ok (v.fd, ⟨heap, if pre ++ post = [] then .none else s.preopenedPort⟩) ∧
      heap.cells a = .none ∧ Chained heap before (firstOr (pre ++ post) .none) (pre ++ post) ∧
      ∀ p, p ≠ a → s.heap.Live p → heap.Live p := by
  rcases s with ⟨heap, head⟩
  obtain ⟨start, rfl, found⟩ := linked.search_some (Preopened.named v.filename)
    (by simpa [Preopened.named] using skipped) (by simp [Preopened.named])
  have cell := linked.split
  rw [← lastOr_settled settled] at cell
  have read := Heap.read_of_cell cell
  have live : heap.Live a := ⟨_, cell⟩
  refine ⟨(heap.relink (lastOr none pre) (firstOr post none)).release a, ?_, by simp,
    linked.unlink settled, fun p other alive => (alive.relink _ _).release other⟩
  cases last : lastOr none pre with
  | none =>
    have noPre : pre = [] := lastOr_none last
    subst noPre
    cases first : firstOr post none with
    | none =>
      have noPost : post = [] := firstOr_none first
      subst noPost
      simp [findPreopenedPorts, found, read, Heap.free_live live, lastOr, firstOr, Heap.relink,
        Bind.bind, Except.bind, Pure.pure, Except.pure]
    | some n =>
      have some : post ≠ [] := fun empty => by simp [empty, firstOr] at first
      have next := Heap.setPrev_live (linked.live_first first) none
      simp [findPreopenedPorts, found, read, first, last, next, Heap.free_live (live.adjust n _),
        Heap.relink, some, Bind.bind, Except.bind, Pure.pure, Except.pure]
  | some p =>
    have some : pre ≠ [] := fun empty => by simp [empty, lastOr] at last
    have prev := Heap.setNext_live (linked.live_last last) (firstOr post none)
    cases first : firstOr post none with
    | none =>
      rw [first] at prev
      simp [findPreopenedPorts, found, read, first, last, prev, Heap.free_live (live.adjust p _),
        Heap.relink, some, Bind.bind, Except.bind, Pure.pure, Except.pure]
    | some n =>
      rw [first] at prev
      have next := Heap.setPrev_live ((linked.live_first first).adjust p
        fun node => { node with next := .some n }) (.some p)
      simp [findPreopenedPorts, found, read, first, last, prev, next,
        Heap.free_live ((live.adjust p _).adjust n _), Heap.relink, some, Bind.bind, Except.bind,
        Pure.pure, Except.pure]

theorem findPreopenedPorts_first {s : Ports} {p a : Addr} {v : Preopened}
    {post : List (Addr × Preopened)}
    (linked : Chained s.heap (some p) s.preopenedPort ((a, v) :: post)) (alive : s.heap.Live p) :
    ∃ heap, findPreopenedPorts v.filename s = .ok (v.fd, ⟨heap, some a⟩) ∧ heap.cells a = .none := by
  rcases s with ⟨heap, head⟩
  obtain rfl : head = some a := linked.head_eq
  have whole : Chained heap (some p) (some a) ([] ++ (a, v) :: post) := linked
  have found : heap.search (Preopened.named v.filename) a = .ok (a, true) :=
    whole.search_found _ (by simp) (by simp [Preopened.named])
  have cell := linked.segment.1
  have read := Heap.read_of_cell cell
  have live : heap.Live a := ⟨_, cell⟩
  have forth := Heap.setNext_live alive (firstOr post none)
  refine ⟨(heap.relink (some p) (firstOr post none)).release a, ?_, Heap.release_same _ a⟩
  cases first : firstOr post none with
  | none =>
    rw [first] at forth
    simp [findPreopenedPorts, found, read, first, forth, Heap.free_live (live.adjust p _),
      Heap.relink, Bind.bind, Except.bind, Pure.pure, Except.pure]
  | some n =>
    have back := Heap.setPrev_live ((whole.live_first first).adjust p
      fun node => { node with next := .some n }) (.some p)
    rw [first] at forth
    simp [findPreopenedPorts, found, read, first, forth, back,
      Heap.free_live ((live.adjust p _).adjust n _), Heap.relink, Bind.bind, Except.bind, Pure.pure,
      Except.pure]

theorem staticAddFilename_empty (allocator : Allocator Preopened) {s : Ports}
    (filename : CString) (fd : Int)
    (short : filename.length < filenameSize) (empty : s.preopenedPort = .none) :
    ∃ heap head, staticAddFilename allocator filename fd s = .ok ⟨heap, head⟩ ∧
      Linked heap head [(allocator.malloc s.heap, ⟨filename, fd⟩)] := by
  refine ⟨_, _, ?_, Linked.singleton (Heap.alloc_same s.heap _ ⟨_, .none, .none⟩) ?_⟩
  · simp [staticAddFilename, empty, strcpy, short, Bind.bind, Except.bind, Pure.pure,
      Except.pure]
  · simp

theorem staticAddFilename_present (allocator : Allocator Preopened) {s : Ports}
    {before : Option Addr} {nodes : List (Addr × Preopened)}
    (linked : Chained s.heap before s.preopenedPort nodes)
    {filename : CString} (fd : Int) (short : filename.length < filenameSize)
    {node : Addr × Preopened} (member : node ∈ nodes)
    (named : node.2.filename = filename) :
    ∃ heap, staticAddFilename allocator filename fd s = .ok ⟨heap, s.preopenedPort⟩ ∧
      Chained heap before s.preopenedPort nodes := by
  rcases s with ⟨heap, head⟩
  obtain ⟨grown, grown_eq⟩ : ∃ grown, grown =
    heap.alloc (allocator.malloc heap) ⟨⟨filename, fd⟩, .none, .none⟩ := ⟨_, rfl⟩
  have framed : Chained grown before head nodes := grown_eq ▸ linked.alloc (allocator.fresh heap) _
  refine ⟨grown, ?_, framed⟩
  cases head with
  | none => simp [linked.head_none] at member
  | some start =>
    rcases split_at_first (Preopened.named filename) nodes with
      none | ⟨pre, a, v, post, rfl, skipped, found⟩
    · have missed := none node member
      simp [Preopened.named, named] at missed
    · have search := framed.search_found (Preopened.named filename) skipped found
      simp [staticAddFilename, ← grown_eq, search, strcpy, short, Bind.bind, Except.bind, Pure.pure,
        Except.pure]

theorem staticAddFilename_absent (allocator : Allocator Preopened) {s : Ports}
    {before : Option Addr} {pre : List (Addr × Preopened)} {t : Addr} {v : Preopened}
    (linked : Chained s.heap before s.preopenedPort (pre ++ [(t, v)])) {filename : CString}
    (fd : Int) (short : filename.length < filenameSize)
    (absent : ∀ node ∈ pre ++ [(t, v)], node.2.filename ≠ filename) :
    ∃ heap, staticAddFilename allocator filename fd s = .ok ⟨heap, .some t⟩ ∧
      Chained heap before s.preopenedPort
        (pre ++ [(t, v)] ++ [(allocator.malloc s.heap, ⟨filename, fd⟩)]) := by
  rcases s with ⟨heap, head⟩
  obtain ⟨start, rfl⟩ := linked.starts
  obtain ⟨grown, grown_eq⟩ : ∃ grown, grown =
    heap.alloc (allocator.malloc heap) ⟨⟨filename, fd⟩, .none, .none⟩ := ⟨_, rfl⟩
  have fresh := allocator.fresh heap
  have framed : Chained grown before (some start) (pre ++ [(t, v)]) :=
    grown_eq ▸ linked.alloc fresh _
  have search := framed.search_missed (Preopened.named filename)
    (by simpa [Preopened.named] using absent)
  have apart : t ≠ allocator.malloc heap := linked.not_fresh fresh (by simp)
  have newLive : grown.Live (allocator.malloc heap) := ⟨_, by rw [grown_eq, Heap.alloc_same]⟩
  have tailLive : grown.Live t := ⟨_, framed.split⟩
  have newPrev := Heap.setPrev_live newLive (.some t)
  have tailNext := Heap.setNext_live (tailLive.adjust (allocator.malloc heap)
    fun node => { node with prev := .some t }) (.some (allocator.malloc heap))
  refine ⟨(grown.adjust (allocator.malloc heap) fun node => { node with prev := .some t }).adjust t
    fun node => { node with next := .some (allocator.malloc heap) }, ?_,
    linked.append fresh ?_ ?_ ?_ ?_⟩
  · simp [staticAddFilename, ← grown_eq, search, newPrev, tailNext, strcpy, short, Bind.bind,
      Except.bind, Pure.pure, Except.pure]
  · rw [Heap.adjust_other _ _ apart.symm]
    simp [grown_eq]
  · rw [Heap.adjust_same, Heap.adjust_other _ _ apart, grown_eq, Heap.alloc_other _ _ apart]
  · intro b notNew notTail
    rw [Heap.adjust_other _ _ notTail, Heap.adjust_other _ _ notNew, grown_eq,
      Heap.alloc_other _ _ notNew]
  · simp [grown_eq]

/-- The ports that are met from `preopened_port` along `next` are `entries`. The first of them may
    have a block of another list as its `prev`, as it has when three ports were added. -/
def Ports.Lists (s : Ports) (before : Option Addr) (entries : List Preopened) : Prop :=
  ∃ nodes, Chained s.heap before s.preopenedPort nodes ∧ nodes.map Prod.snd = entries ∧
    ∀ p, before = some p → s.heap.Live p ∧ p ∉ nodes.map Prod.fst

/-- `preopened_port` points at a block that was freed. -/
def Ports.Dangles (s : Ports) : Prop :=
  ∃ a, s.preopenedPort = some a ∧ s.heap.cells a = Option.none

/-- The port is not the first, or it is the only one and none is linked before it. -/
def NotFirst (before : Option Addr) (entries : List Preopened) (filename : CString) : Prop :=
  ∀ first rest, entries = first :: rest → first.filename = filename → before = none ∧ rest = []

theorem lists_none : Ports.none.Lists none [] := ⟨[], Linked.empty, rfl, by simp⟩

theorem Ports.Lists.unique {s : Ports} {before before' : Option Addr} {left right : List Preopened}
    (first : s.Lists before left) (second : s.Lists before' right) : left = right := by
  rcases first with ⟨nodes, linked, rfl, -⟩
  rcases second with ⟨nodes', linked', rfl, -⟩
  rw [linked.unique linked']

theorem Ports.Lists.not_dangles {s : Ports} {before : Option Addr} {entries : List Preopened}
    (lists : s.Lists before entries) : ¬ s.Dangles := by
  intro dangles
  rcases dangles with ⟨a, head, gone⟩
  rcases lists with ⟨nodes, linked, -⟩
  rw [head] at linked
  obtain ⟨node, cell⟩ := linked.live_head
  rw [gone] at cell
  cases cell

theorem notFirst_split {before : Option Addr} {pre post : List Preopened} {port : Preopened}
    (skipped : ∀ entry ∈ pre, entry.filename ≠ port.filename) :
    NotFirst before (pre ++ port :: post) port.filename ↔
      (pre = [] → before = none ∧ post = []) := by
  constructor
  · rintro notFirst rfl
    exact notFirst port post rfl rfl
  · intro behind first rest split named
    cases pre with
    | nil =>
      cases split
      exact behind rfl
    | cons entry pre =>
      cases split
      exact absurd named (skipped first (by simp))

theorem Ports.Lists.find_cases {s : Ports} {before : Option Addr} {entries : List Preopened}
    (lists : s.Lists before entries) (filename : CString) :
    ((∀ entry ∈ entries, entry.filename ≠ filename) ∧
      findPreopenedPorts filename s = .ok (0, s)) ∨
    ∃ pre port post, entries = pre ++ port :: post ∧ port.filename = filename ∧
      (∀ entry ∈ pre, entry.filename ≠ filename) ∧
      ∃ s', findPreopenedPorts filename s = .ok (port.fd, s') ∧
        (NotFirst before entries filename → s'.Lists before (pre ++ post)) ∧
        (¬ NotFirst before entries filename → s'.Dangles) := by
  rcases lists with ⟨nodes, linked, rfl, outside⟩
  rcases split_at_first (Preopened.named filename) nodes with
    none | ⟨pre, a, v, post, rfl, skipped, found⟩
  · have absent : ∀ node ∈ nodes, node.2.filename ≠ filename := by
      simpa [Preopened.named] using none
    refine .inl ⟨?_, findPreopenedPorts_missed linked absent⟩
    intro entry member
    obtain ⟨node, inside, rfl⟩ := List.mem_map.mp member
    exact absent node inside
  · obtain rfl : v.filename = filename := of_decide_eq_true found
    have skippedNodes : ∀ node ∈ pre, node.2.filename ≠ v.filename := by
      simpa [Preopened.named] using skipped
    have skippedEntries : ∀ entry ∈ pre.map Prod.snd, entry.filename ≠ v.filename := by
      intro entry member
      obtain ⟨node, inside, rfl⟩ := List.mem_map.mp member
      exact skippedNodes node inside
    refine .inr ⟨pre.map Prod.snd, v, post.map Prod.snd, by simp, rfl, skippedEntries, ?_⟩
    rw [List.map_append, List.map_cons, notFirst_split skippedEntries]
    simp only [List.map_eq_nil_iff]
    by_cases behind : pre = [] → before = .none ∧ post = []
    · obtain ⟨heap, finds, -, rest, keeps⟩ :=
        findPreopenedPorts_found linked (fun empty => (behind empty).1) skippedNodes
      refine ⟨_, finds, fun _ => ⟨pre ++ post, ?_, by simp, ?_⟩, fun first => absurd behind first⟩
      · cases pre with
        | nil =>
          obtain ⟨-, rfl⟩ := behind rfl
          exact rest
        | cons node pre =>
          rw [if_neg (by simp), linked.head_eq]
          exact rest
      · intro p same
        obtain ⟨alive, apart⟩ := outside p same
        simp only [List.map_append, List.map_cons, List.mem_append, List.mem_cons, not_or] at apart
        refine ⟨keeps p apart.2.1 alive, ?_⟩
        simp only [List.map_append, List.mem_append, not_or]
        exact ⟨apart.1, apart.2.2⟩
    · have several : ¬ (before = .none ∧ post = []) := fun both => behind fun _ => both
      obtain rfl : pre = [] := by
        by_contra some
        exact behind fun empty => absurd empty some
      cases before with
      | none =>
        have more : post ≠ [] := fun empty => several ⟨rfl, empty⟩
        obtain ⟨heap, finds, gone, -⟩ :=
          findPreopenedPorts_found linked (fun _ => rfl) skippedNodes
        rw [if_neg (by simpa using more)] at finds
        exact ⟨_, finds, fun notFirst => absurd notFirst behind, fun _ => ⟨a, linked.head_eq, gone⟩⟩
      | some p =>
        obtain ⟨heap, finds, gone⟩ := findPreopenedPorts_first linked (outside p rfl).1
        exact ⟨_, finds, fun notFirst => absurd notFirst behind, fun _ => ⟨a, rfl, gone⟩⟩

end Rxtx.SerialImp
