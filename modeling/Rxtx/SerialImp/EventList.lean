import Rxtx.Library.LinkedHeap
import Rxtx.Library.Runs
import Rxtx.SerialImp.EventInfo

open LinkedHeap Runs

namespace Rxtx.SerialImp

inductive LoopPhase where
  | entered
  | running
  | finalised
  deriving DecidableEq, Repr

/-- The structs on the stacks of the loops and the global `master_index`. How far each loop is and
    which structs were initialised and not finalised since, in this order, is kept beside them. -/
structure EventLoops where
  heap : Heap EventInfo
  masterIndex : Option Addr
  phase : Addr → Option LoopPhase
  order : List Addr

def EventLoops.none : EventLoops := ⟨Heap.empty, .none, fun _ => .none, []⟩

def insertStruct (eis : Addr) (s : EventLoops) : Except Fault EventLoops :=
  match s.masterIndex with
  | some first => do
    let (index, _) ← s.heap.search (fun _ => false) first
    let heap ← s.heap.setNext index (some eis)
    let heap ← heap.setPrev eis (some index)
    return { s with heap := ← heap.setNext eis .none }
  | .none => do
    let heap ← s.heap.setNext eis .none
    return { s with heap := ← heap.setPrev eis .none, masterIndex := some eis }

def finalizeEventInfoStruct (eis : Addr) (s : EventLoops) : Except Fault EventLoops := do
  let node ← s.heap.read eis
  match node.next, node.prev with
  | some next, some prev =>
    let heap ← s.heap.setNext prev node.next
    return { s with heap := ← heap.setPrev next node.prev }
  | some next, .none =>
    return { s with heap := ← s.heap.setPrev next .none, masterIndex := node.next }
  | .none, some prev => return { s with heap := ← s.heap.setNext prev .none }
  | .none, .none => return { s with masterIndex := .none }

/-- `initialise_event_info_struct` with its list. The fields that a failed call has set are not
    kept: the loop returns and reads none of them. -/
def initialiseStruct (tiocsergetlsr : Bool) (opening : Opening) (eis : Addr) (s : EventLoops) :
    Except Fault (Int × EventLoops) := do
  let node ← s.heap.read eis
  if node.value.initialised then return (1, s)
  let s ← insertStruct eis s
  match initialiseEventInfoStruct tiocsergetlsr opening node.value with
  | some filled =>
    return (1, { s with heap := ← s.heap.modify eis fun node => { node with value := filled } })
  | .none => return (0, ← finalizeEventInfoStruct eis s)

theorem insertStruct_lists {s : EventLoops} {nodes : List (Addr × EventInfo)}
    (linked : Linked s.heap s.masterIndex nodes) {eis : Addr} {node : Node EventInfo}
    (cell : s.heap.cells eis = some node) (new : eis ∉ nodes.map Prod.fst)
    (room : nodes.length + 1 ≤ s.heap.allocated) :
    ∃ heap head, insertStruct eis s = .ok { s with heap := heap, masterIndex := head } ∧
      Linked heap head (nodes ++ [(eis, node.value)]) ∧ heap.allocated = s.heap.allocated ∧
      ∀ b, b ≠ eis → b ∉ nodes.map Prod.fst → heap.cells b = s.heap.cells b := by
  rcases s with ⟨heap, head, phase, order⟩
  replace cell : heap.cells eis = some node := cell
  have live : heap.Live eis := ⟨node, cell⟩
  cases head with
  | none =>
    obtain rfl := linked.head_none
    have next := Heap.setNext_live live none
    have prev := Heap.setPrev_live (live.adjust eis fun node => { node with next := none }) none
    refine ⟨(heap.adjust eis fun node => { node with next := none }).adjust eis
      fun node => { node with prev := none }, some eis, ?_, Linked.singleton ?_ room, rfl, ?_⟩
    · simp only [insertStruct, next, prev, Bind.bind, Except.bind, Pure.pure, Except.pure]
    · simp [cell]
    · intro b other _
      rw [Heap.adjust_other _ _ other, Heap.adjust_other _ _ other]
  | some first =>
    obtain rfl | ⟨pre, ⟨last, v⟩, rfl⟩ := List.eq_nil_or_concat nodes
    · cases linked.head_eq
    rw [List.concat_eq_append] at linked new room ⊢
    have search := linked.search_missed (fun _ => false) fun _ _ => rfl
    have apart : last ≠ eis := fun same => new (by simp [same])
    have lastLive : heap.Live last := ⟨_, linked.split⟩
    have next := Heap.setNext_live lastLive (some eis)
    have prev := Heap.setPrev_live (live.adjust last fun node => { node with next := some eis })
      (some last)
    have ended := Heap.setNext_live ((live.adjust last
      fun node => { node with next := some eis }).adjust eis
      fun node => { node with prev := some last }) none
    have enough : pre.length + 2 ≤ heap.allocated := by
      simp only [List.length_append, List.length_singleton] at room
      exact room
    refine ⟨((heap.adjust last fun node => { node with next := some eis }).adjust eis
      fun node => { node with prev := some last }).adjust eis
        fun node => { node with next := none },
      some first, ?_, linked.attach (v := v) new ?_ ?_ ?_ enough, rfl, ?_⟩
    · simp only [insertStruct, search, next, prev, ended, Bind.bind, Except.bind, Pure.pure,
        Except.pure]
    · rw [Heap.adjust_same, Heap.adjust_same, Heap.adjust_other _ _ apart.symm, cell]
      rfl
    · rw [Heap.adjust_other _ _ apart, Heap.adjust_other _ _ apart, Heap.adjust_same]
    · intro b other notLast
      rw [Heap.adjust_other _ _ other, Heap.adjust_other _ _ other, Heap.adjust_other _ _ notLast]
    · intro b other outside
      have notLast : b ≠ last := fun same => outside (by simp [same])
      rw [Heap.adjust_other _ _ other, Heap.adjust_other _ _ other, Heap.adjust_other _ _ notLast]

theorem finalizeEventInfoStruct_lists {s : EventLoops} {pre post : List (Addr × EventInfo)}
    {eis : Addr} {v : EventInfo}
    (linked : Linked s.heap s.masterIndex (pre ++ (eis, v) :: post)) :
    ∃ heap head, finalizeEventInfoStruct eis s = .ok { s with heap := heap, masterIndex := head } ∧
      Linked heap head (pre ++ post) ∧ heap.allocated = s.heap.allocated ∧
      ∀ b, b ∉ (pre ++ post).map Prod.fst → heap.cells b = s.heap.cells b := by
  rcases s with ⟨heap, head, phase, order⟩
  obtain ⟨start, rfl⟩ := linked.starts
  have begins : some start = firstOr (pre ++ (eis, v) :: post) none := linked.head_eq
  have read := Heap.read_of_cell linked.split
  refine ⟨heap.relink (lastOr none pre) (firstOr post none), firstOr (pre ++ post) none, ?_,
    linked.relink fun _ => rfl, by simp, ?_⟩
  · cases last : lastOr none pre with
    | none =>
      obtain rfl : pre = [] := lastOr_none last
      cases next : firstOr post none with
      | none =>
        simp [finalizeEventInfoStruct, read, last, next, Heap.relink, Bind.bind, Except.bind,
          Pure.pure, Except.pure]
      | some n =>
        have back := Heap.setPrev_live (linked.live_first next) none
        simp [finalizeEventInfoStruct, read, last, next, back, Heap.relink, Bind.bind, Except.bind,
          Pure.pure, Except.pure]
    | some p =>
      have same : firstOr (pre ++ post) none = some start := by
        cases pre with
        | nil => cases last
        | cons node pre => exact begins.symm
      have forth := Heap.setNext_live (linked.live_last last) (firstOr post none)
      cases next : firstOr post none with
      | none =>
        rw [next] at forth
        simp [finalizeEventInfoStruct, read, last, next, forth, same, Heap.relink, Bind.bind,
          Except.bind, Pure.pure, Except.pure]
      | some n =>
        rw [next] at forth
        have back := Heap.setPrev_live ((linked.live_first next).adjust p
          fun node => { node with next := some n }) (some p)
        simp [finalizeEventInfoStruct, read, last, next, forth, back, same, Heap.relink, Bind.bind,
          Except.bind, Pure.pure, Except.pure]
  · intro b outside
    apply Heap.relink_other
    · intro last
      rcases lastOr_mem last with inside | none
      · exact outside (by rw [List.map_append]; exact List.mem_append_left _ inside)
      · cases none
    · intro first
      exact outside (by rw [List.map_append]; exact List.mem_append_right _ (firstOr_mem first))

theorem initialiseEventInfoStruct_initialised {tiocsergetlsr : Bool} {opening : Opening}
    {eis filled : EventInfo}
    (done : initialiseEventInfoStruct tiocsergetlsr opening eis = some filled) :
    filled.initialised = true := by
  unfold initialiseEventInfoStruct at done
  by_cases already : eis.initialised = true
  · rw [if_pos already] at done
    cases done
    exact already
  · rw [if_neg already] at done
    simp only [] at done
    by_cases found : opening.methodFound = true
    · rw [if_pos found] at done
      cases done
      rfl
    · rw [if_neg found] at done
      cases done

inductive LoopCall where
  | enter (eis : Addr) (stack : Node EventInfo)
  | initialise (eis : Addr) (opening : Opening)
  | finalize (eis : Addr)
  | leave (eis : Addr)

def LoopCall.Comes (s : EventLoops) : LoopCall → Prop
  | .enter eis _ => s.phase eis = .none
  | .initialise eis _ => s.phase eis = some .entered ∨ s.phase eis = some .running
  | .finalize eis => s.phase eis = some .running
  | .leave eis => s.phase eis = some .finalised

instance (s : EventLoops) : ∀ c : LoopCall, Decidable (c.Comes s)
  | .enter _ _ => inferInstanceAs (Decidable (_ = _))
  | .initialise _ _ => inferInstanceAs (Decidable (_ ∨ _))
  | .finalize _ => inferInstanceAs (Decidable (_ = _))
  | .leave _ => inferInstanceAs (Decidable (_ = _))

def EventLoops.reach (s : EventLoops) (eis : Addr) (phase : Option LoopPhase) : EventLoops :=
  { s with phase := Function.update s.phase eis phase }

def LoopCall.run (tiocsergetlsr : Bool) : LoopCall → EventLoops → Except Fault EventLoops
  | .enter eis stack, s =>
    let heap := s.heap.alloc eis { stack with value := eventLoopEntry stack.value }
    .ok ({ s with heap }.reach eis (some .entered))
  | .initialise eis opening, s => do
    let known := s.phase eis = some .running
    let (result, s) ← initialiseStruct tiocsergetlsr opening eis s
    if result = 0 then return s.reach eis (some .finalised)
    if known then return s
    return { s with order := s.order ++ [eis] }.reach eis (some .running)
  | .finalize eis, s => do
    let s ← finalizeEventInfoStruct eis s
    return { s with order := s.order.erase eis }.reach eis (some .finalised)
  | .leave eis, s => .ok ({ s with heap := s.heap.release eis }.reach eis .none)

def loopCall (tiocsergetlsr : Bool) (c : LoopCall) (s : EventLoops) : Option EventLoops :=
  (c.run tiocsergetlsr s).toOption

/-- What every call keeps: the list from `master_index` holds the running structs in their order.
    `frames` holds every struct that is on a stack. -/
structure Lined (s : EventLoops) (nodes : List (Addr × EventInfo)) (frames : List Addr) :
    Prop where
  linked : Linked s.heap s.masterIndex nodes
  order : nodes.map Prod.fst = s.order
  running : ∀ eis, eis ∈ s.order ↔ s.phase eis = some .running
  initialised : ∀ node ∈ nodes, node.2.initialised = true
  entered : ∀ eis, s.phase eis = some .entered →
    ∃ node, s.heap.cells eis = some node ∧ node.value.initialised = false
  absent : ∀ eis, s.phase eis = none → s.heap.cells eis = none
  held : ∀ eis, s.phase eis ≠ none → eis ∈ frames
  counted : frames.length ≤ s.heap.allocated

theorem Lined.not_listed {s : EventLoops} {nodes : List (Addr × EventInfo)} {frames : List Addr}
    (lined : Lined s nodes frames) {eis : Addr} {phase : Option LoopPhase}
    (reached : s.phase eis = phase) (other : phase ≠ some .running) : eis ∉ nodes.map Prod.fst := by
  rw [lined.order, lined.running, reached]
  exact other

theorem Lined.reach {s : EventLoops} {nodes nodes' : List (Addr × EventInfo)} {frames : List Addr}
    (lined : Lined s nodes frames) {eis : Addr} {phase : Option LoopPhase} {heap : Heap EventInfo}
    {head : Option Addr} {order : List Addr} (on : s.phase eis ≠ none)
    (linked : Linked heap head nodes') (ordered : nodes'.map Prod.fst = order)
    (here : eis ∈ order ↔ phase = some .running)
    (others : ∀ other, other ≠ eis → (other ∈ order ↔ other ∈ s.order))
    (initialised : ∀ node ∈ nodes', node.2.initialised = true) (left : phase ≠ some .entered)
    (gone : phase = none → heap.cells eis = none)
    (kept : ∀ other, other ≠ eis → other ∉ nodes.map Prod.fst →
      heap.cells other = s.heap.cells other) (count : heap.allocated = s.heap.allocated) :
    Lined (EventLoops.reach ⟨heap, head, s.phase, order⟩ eis phase) nodes' frames := by
  refine ⟨linked, ordered, ?_, initialised, ?_, ?_, ?_, le_of_le_of_eq lined.counted count.symm⟩
  · intro other
    by_cases same : other = eis
    · subst same
      simpa [EventLoops.reach] using here
    · simp only [EventLoops.reach, Function.update_of_ne same]
      exact (others other same).trans (lined.running other)
  · intro other reached
    by_cases same : other = eis
    · subst same
      exact absurd (by simpa [EventLoops.reach] using reached) left
    · simp only [EventLoops.reach, Function.update_of_ne same] at reached ⊢
      rw [kept other same (lined.not_listed reached (by decide))]
      exact lined.entered other reached
  · intro other reached
    by_cases same : other = eis
    · subst same
      exact gone (by simpa [EventLoops.reach] using reached)
    · simp only [EventLoops.reach, Function.update_of_ne same] at reached ⊢
      rw [kept other same (lined.not_listed reached (by decide))]
      exact lined.absent other reached
  · intro other reached
    by_cases same : other = eis
    · subst same
      exact lined.held other on
    · simp only [EventLoops.reach, Function.update_of_ne same] at reached
      exact lined.held other reached

theorem Lined.enter {s : EventLoops} {nodes : List (Addr × EventInfo)} {frames : List Addr}
    (lined : Lined s nodes frames) {eis : Addr} (outside : s.phase eis = none)
    (stack : Node EventInfo) :
    Lined (EventLoops.reach
      { s with heap := s.heap.alloc eis { stack with value := eventLoopEntry stack.value } } eis
      (some .entered)) nodes (eis :: frames) := by
  have fresh := lined.absent eis outside
  refine ⟨lined.linked.alloc fresh _, lined.order, ?_, lined.initialised, ?_, ?_, ?_, ?_⟩
  · intro other
    by_cases same : other = eis
    · subst same
      have notListed := lined.not_listed outside (by decide)
      rw [lined.order] at notListed
      simp [EventLoops.reach, notListed]
    · simp only [EventLoops.reach, Function.update_of_ne same]
      exact lined.running other
  · intro other reached
    by_cases same : other = eis
    · subst same
      exact ⟨_, s.heap.alloc_same other _, rfl⟩
    · simp only [EventLoops.reach, Function.update_of_ne same] at reached ⊢
      rw [s.heap.alloc_other _ same]
      exact lined.entered other reached
  · intro other reached
    by_cases same : other = eis
    · subst same
      simp [EventLoops.reach] at reached
    · simp only [EventLoops.reach, Function.update_of_ne same] at reached ⊢
      rw [s.heap.alloc_other _ same]
      exact lined.absent other reached
  · intro other reached
    by_cases same : other = eis
    · exact same ▸ List.mem_cons_self
    · simp only [EventLoops.reach, Function.update_of_ne same] at reached
      exact List.mem_cons_of_mem _ (lined.held other reached)
  · exact Nat.succ_le_succ lined.counted

theorem Lined.room {s : EventLoops} {nodes : List (Addr × EventInfo)} {frames : List Addr}
    (lined : Lined s nodes frames) {eis : Addr} (entered : s.phase eis = some .entered) :
    nodes.length + 1 ≤ s.heap.allocated := by
  have distinct : (eis :: nodes.map Prod.fst).Nodup :=
    List.nodup_cons.mpr ⟨lined.not_listed entered (by decide), lined.linked.nodup⟩
  have inside : eis :: nodes.map Prod.fst ⊆ frames := by
    intro other member
    rcases List.mem_cons.mp member with same | listed
    · exact lined.held other (by simp [same, entered])
    · rw [lined.order, lined.running] at listed
      exact lined.held other (by simp [listed])
  have count := (distinct.subperm inside).length_le
  simp only [List.length_cons, List.length_map] at count
  exact le_trans count lined.counted

theorem Lined.finalize {s : EventLoops} {nodes : List (Addr × EventInfo)} {frames : List Addr}
    (lined : Lined s nodes frames) {eis : Addr} (running : s.phase eis = some .running)
    (tiocsergetlsr : Bool) :
    ∃ s' nodes', (LoopCall.finalize eis).run tiocsergetlsr s = .ok s' ∧ Lined s' nodes' frames := by
  have listed := (lined.running eis).mpr running
  rw [← lined.order] at listed
  obtain ⟨⟨a, v⟩, member, same⟩ := List.mem_map.mp listed
  obtain rfl : a = eis := same
  obtain ⟨pre, post, rfl⟩ := List.append_of_mem member
  rcases lined.linked.split_apart with ⟨notPre, notPost, -⟩
  obtain ⟨heap, head, finalizes, linked, count, kept⟩ := finalizeEventInfoStruct_lists lined.linked
  have order : s.order.erase a = (pre ++ post).map Prod.fst := by
    rw [← lined.order, List.map_append, List.map_cons, List.erase_append_right _ notPre,
      List.erase_cons_head, List.map_append]
  have subset : ∀ node ∈ pre ++ post, node ∈ pre ++ (a, v) :: post := by
    intro node member
    simp only [List.mem_append, List.mem_cons] at member ⊢
    tauto
  have distinct : s.order.Nodup := lined.order ▸ lined.linked.nodup
  refine ⟨EventLoops.reach ⟨heap, head, s.phase, s.order.erase a⟩ a (some .finalised), pre ++ post,
    ?_, ?_⟩
  · simp [LoopCall.run, finalizes, Bind.bind, Except.bind, Pure.pure, Except.pure]
  · refine lined.reach (by simp [running]) linked order.symm ?_ ?_ ?_ (by decide) ?_ ?_ count
    · simp [order, notPre, notPost]
    · intro other different
      exact List.mem_erase_of_ne different
    · exact fun node member => lined.initialised node (subset node member)
    · intro none
      cases none
    · intro other _ outside
      apply kept
      intro member
      obtain ⟨node, inside, rfl⟩ := List.mem_map.mp member
      exact outside (List.mem_map.mpr ⟨node, subset node inside, rfl⟩)

theorem Lined.leave {s : EventLoops} {nodes : List (Addr × EventInfo)} {frames : List Addr}
    (lined : Lined s nodes frames) {eis : Addr} (finalised : s.phase eis = some .finalised) :
    Lined (EventLoops.reach { s with heap := s.heap.release eis } eis none) nodes frames := by
  have notListed := lined.not_listed finalised (by decide)
  refine lined.reach (by simp [finalised]) ?_ lined.order ?_ ?_ lined.initialised (by decide) ?_ ?_
    rfl
  · apply lined.linked.frame _ (by simp)
    intro other member
    exact s.heap.release_other fun same => notListed (same ▸ member)
  · rw [lined.order] at notListed
    simp [notListed]
  · exact fun _ _ => Iff.rfl
  · exact fun _ => s.heap.release_same eis
  · exact fun other different _ => s.heap.release_other different

theorem Lined.again {s : EventLoops} {nodes : List (Addr × EventInfo)} {frames : List Addr}
    (lined : Lined s nodes frames) {eis : Addr} (running : s.phase eis = some .running)
    (tiocsergetlsr : Bool) (opening : Opening) :
    (LoopCall.initialise eis opening).run tiocsergetlsr s = .ok s := by
  have listed := (lined.running eis).mpr running
  rw [← lined.order] at listed
  obtain ⟨⟨a, v⟩, member, same⟩ := List.mem_map.mp listed
  obtain rfl : a = eis := same
  obtain ⟨next, prev, cell⟩ := lined.linked.segment.cell member
  have already : v.initialised = true := lined.initialised _ member
  simp [LoopCall.run, initialiseStruct, Heap.read_of_cell cell, already, running, Bind.bind,
    Except.bind, Pure.pure, Except.pure]

theorem Lined.initialise {s : EventLoops} {nodes : List (Addr × EventInfo)} {frames : List Addr}
    (lined : Lined s nodes frames) {eis : Addr} (entered : s.phase eis = some .entered)
    (tiocsergetlsr : Bool) (opening : Opening) :
    ∃ s' nodes', (LoopCall.initialise eis opening).run tiocsergetlsr s = .ok s' ∧
      Lined s' nodes' frames := by
  obtain ⟨node, cell, clear⟩ := lined.entered eis entered
  have notListed := lined.not_listed entered (by decide)
  obtain ⟨heap, head, inserts, linked, count, kept⟩ :=
    insertStruct_lists lined.linked cell notListed (lined.room entered)
  have read := Heap.read_of_cell cell
  have unknown : s.phase eis ≠ some .running := by simp [entered]
  cases filling : initialiseEventInfoStruct tiocsergetlsr opening node.value with
  | some filled =>
    have stores := Heap.modify_live ⟨_, linked.split⟩
      fun node => { node with value := filled }
    obtain ⟨stored, stored_eq⟩ : ∃ stored, stored = heap.adjust eis
      fun node => { node with value := filled } := ⟨_, rfl⟩
    have assigned : Linked stored head (nodes ++ [(eis, filled)]) :=
      stored_eq ▸ linked.assign fun _ => filled
    rw [← stored_eq] at stores
    refine ⟨EventLoops.reach ⟨stored, head, s.phase, s.order ++ [eis]⟩ eis (some .running),
      nodes ++ [(eis, filled)], ?_, ?_⟩
    · simp [LoopCall.run, initialiseStruct, read, clear, inserts, filling, stores, unknown,
        Bind.bind, Except.bind, Pure.pure, Except.pure]
    · refine lined.reach (by simp [entered]) assigned ?_ (by simp) ?_ ?_ (by decide) ?_ ?_
        (by rw [stored_eq]; exact count)
      · rw [List.map_append, lined.order]
        rfl
      · intro other different
        simp [different]
      · intro other member
        rcases List.mem_append.mp member with old | new
        · exact lined.initialised other old
        · rw [List.mem_singleton.mp new]
          exact initialiseEventInfoStruct_initialised filling
      · intro none
        cases none
      · intro other different outside
        rw [stored_eq, Heap.adjust_other _ _ different]
        exact kept other different outside
  | none =>
    have whole : Linked heap head (nodes ++ (eis, node.value) :: []) := linked
    obtain ⟨last, first, finalizes, rest, count', kept'⟩ := finalizeEventInfoStruct_lists
      (s := ⟨heap, head, s.phase, s.order⟩) whole
    rw [List.append_nil] at rest kept'
    refine ⟨EventLoops.reach ⟨last, first, s.phase, s.order⟩ eis (some .finalised), nodes, ?_, ?_⟩
    · simp [LoopCall.run, initialiseStruct, read, clear, inserts, filling, finalizes, Bind.bind,
        Except.bind, Pure.pure, Except.pure]
    · refine lined.reach (by simp [entered]) rest lined.order ?_ ?_ lined.initialised (by decide)
        ?_ ?_ (count'.trans count)
      · rw [lined.order] at notListed
        simp [notListed]
      · exact fun _ _ => Iff.rfl
      · intro none
        cases none
      · intro other different outside
        exact (kept' other outside).trans (kept other different outside)

theorem Lined.call {s : EventLoops} {nodes : List (Addr × EventInfo)} {frames : List Addr}
    (lined : Lined s nodes frames) (tiocsergetlsr : Bool) {c : LoopCall} (comes : c.Comes s) :
    ∃ s', loopCall tiocsergetlsr c s = some s' ∧ ∃ nodes' frames', Lined s' nodes' frames' := by
  cases c with
  | enter eis stack => exact ⟨_, rfl, nodes, _, lined.enter comes stack⟩
  | leave eis => exact ⟨_, rfl, nodes, frames, lined.leave comes⟩
  | finalize eis =>
    obtain ⟨s', nodes', finalizes, lined'⟩ := lined.finalize comes tiocsergetlsr
    exact ⟨s', by rw [loopCall, finalizes]; rfl, nodes', frames, lined'⟩
  | initialise eis opening =>
    rcases comes with entered | running
    · obtain ⟨s', nodes', initialises, lined'⟩ := lined.initialise entered tiocsergetlsr opening
      exact ⟨s', by rw [loopCall, initialises]; rfl, nodes', frames, lined'⟩
    · have same := lined.again running tiocsergetlsr opening
      exact ⟨s, by rw [loopCall, same]; rfl, nodes, frames, lined⟩

/-- In every order of the loops' calls `next` leads from `master_index` through the structs that
    are initialised and not finalised, in their order, and `prev` leads back. No call fails. -/
theorem event_structs_linked (tiocsergetlsr : Bool) (calls : List LoopCall) (s : EventLoops)
    (path : Path (Guarded (fun s c => c.Comes s) (Takes (loopCall tiocsergetlsr))) EventLoops.none
      calls s) :
    (∃ nodes, Linked s.heap s.masterIndex nodes ∧ nodes.map Prod.fst = s.order ∧
      ∀ eis, eis ∈ s.order ↔ s.phase eis = some .running) ∧
    ∀ c : LoopCall, c.Comes s → ∃ s', loopCall tiocsergetlsr c s = some s' := by
  have start : Lined EventLoops.none [] [] :=
    ⟨Linked.empty, rfl, by simp [EventLoops.none], by simp, by simp [EventLoops.none],
      fun _ _ => rfl, by simp [EventLoops.none], Nat.le_refl 0⟩
  obtain ⟨kept, total⟩ := path.progress (fun s => ∃ nodes frames, Lined s nodes frames)
    (fun s c lined comes => by
      rcases lined with ⟨nodes, frames, lined⟩
      exact lined.call tiocsergetlsr comes) ⟨[], [], start⟩
  rcases kept with ⟨nodes, frames, lined⟩
  exact ⟨⟨nodes, lined.linked, lined.order, lined.running⟩, total⟩

def anyStack : Node EventInfo :=
  ⟨⟨0, fun _ => true, true, 0, 0, 0, false, false, 0, false, false, false, false, .zero, [], []⟩,
    some 7, some 9⟩

def methodFound : Opening := ⟨3, false, none, none, true⟩

theorem event_structs_linked_three :
    ∃ s, Path (Guarded (fun s c => c.Comes s) (Takes (loopCall false))) EventLoops.none
        [.enter 1 anyStack, .enter 2 anyStack, .initialise 1 methodFound, .initialise 2 methodFound,
          .enter 3 anyStack, .initialise 3 { methodFound with methodFound := false },
          .initialise 1 methodFound, .finalize 1, .leave 1] s ∧
      s.order = [2] ∧
      (∃ nodes, Linked s.heap s.masterIndex nodes ∧ nodes.map Prod.fst = s.order ∧
        ∀ eis, eis ∈ s.order ↔ s.phase eis = some .running) ∧
      ∀ c : LoopCall, c.Comes s → ∃ s', loopCall false c s = some s' := by
  obtain ⟨s, followed, order⟩ : ∃ s, follow (checked (fun s c => c.Comes s) (loopCall false))
      [.enter 1 anyStack, .enter 2 anyStack, .initialise 1 methodFound, .initialise 2 methodFound,
        .enter 3 anyStack, .initialise 3 { methodFound with methodFound := false },
        .initialise 1 methodFound, .finalize 1, .leave 1] EventLoops.none = some s ∧
      s.order = [2] := ⟨_, rfl, rfl⟩
  have path := follow_checked followed
  exact ⟨s, path, order, event_structs_linked false _ s path⟩

end Rxtx.SerialImp
