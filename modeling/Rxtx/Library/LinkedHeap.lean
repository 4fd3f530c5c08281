import Mathlib.Data.List.Nodup
import Mathlib.Logic.Function.Basic
import Mathlib.Order.Lattice

namespace LinkedHeap

abbrev Addr := Nat

inductive Fault where
  | freed (a : Addr)
  | unbounded
  | overflow
  deriving DecidableEq, Repr

theorem bind_eq_ok {ε β γ : Type} {x : Except ε β} {f : β → Except ε γ} {r : γ} :
    (x >>= f) = .ok r ↔ ∃ b, x = .ok b ∧ f b = .ok r := by
  cases x <;> simp [Bind.bind, Except.bind]

structure Node (α : Type) where
  value : α
  next : Option Addr
  prev : Option Addr

/-- `allocated` counts the blocks ever handed out, so that a walk over more nodes than that has
    met a block twice and never ends. -/
structure Heap (α : Type) where
  cells : Addr → Option (Node α)
  allocated : Nat
  bound : Addr
  unused : ∀ a, bound ≤ a → cells a = none

variable {α : Type}

namespace Heap

def empty : Heap α := ⟨fun _ => none, 0, 0, fun _ _ => rfl⟩

def read (h : Heap α) (a : Addr) : Except Fault (Node α) :=
  match h.cells a with
  | some node => .ok node
  | none => .error (.freed a)

def alloc (h : Heap α) (a : Addr) (node : Node α) : Heap α where
  cells := Function.update h.cells a (some node)
  allocated := h.allocated + 1
  bound := max h.bound (a + 1)
  unused b hb := by
    have beyond : a < b := Nat.lt_of_lt_of_le (Nat.lt_succ_self a) (le_trans (le_max_right _ _) hb)
    rw [Function.update_of_ne (Nat.ne_of_gt beyond)]
    exact h.unused b (le_trans (le_max_left _ _) hb)

def adjust (h : Heap α) (a : Addr) (f : Node α → Node α) : Heap α where
  cells := Function.update h.cells a ((h.cells a).map f)
  allocated := h.allocated
  bound := h.bound
  unused b hb := by
    by_cases same : b = a
    · subst same
      simp [h.unused b hb]
    · rw [Function.update_of_ne same]
      exact h.unused b hb

def release (h : Heap α) (a : Addr) : Heap α where
  cells := Function.update h.cells a none
  allocated := h.allocated
  bound := h.bound
  unused b hb := by
    by_cases same : b = a
    · subst same
      simp
    · rw [Function.update_of_ne same]
      exact h.unused b hb

def modify (h : Heap α) (a : Addr) (f : Node α → Node α) : Except Fault (Heap α) := do
  let _ ← h.read a
  return h.adjust a f

def free (h : Heap α) (a : Addr) : Except Fault (Heap α) := do
  let _ ← h.read a
  return h.release a

def setNext (h : Heap α) (a : Addr) (next : Option Addr) : Except Fault (Heap α) :=
  h.modify a fun node => { node with next := next }

def setPrev (h : Heap α) (a : Addr) (prev : Option Addr) : Except Fault (Heap α) :=
  h.modify a fun node => { node with prev := prev }

theorem read_of_cell {h : Heap α} {a : Addr} {node : Node α} (cell : h.cells a = some node) :
    h.read a = .ok node := by
  simp [read, cell]

theorem read_eq_ok {h : Heap α} {a : Addr} {node : Node α} :
    h.read a = .ok node ↔ h.cells a = some node := by
  unfold read
  cases h.cells a <;> simp

theorem read_freed {h : Heap α} {a : Addr} (gone : h.cells a = none) :
    h.read a = .error (.freed a) := by
  simp [read, gone]

def Live (h : Heap α) (a : Addr) : Prop := ∃ node, h.cells a = some node

theorem modify_live {h : Heap α} {a : Addr} (live : h.Live a) (f : Node α → Node α) :
    h.modify a f = .ok (h.adjust a f) := by
  rcases live with ⟨node, cell⟩
  simp [modify, read_of_cell cell, Bind.bind, Except.bind, Pure.pure, Except.pure]

theorem setNext_live {h : Heap α} {a : Addr} (live : h.Live a) (next : Option Addr) :
    h.setNext a next = .ok (h.adjust a fun node => { node with next := next }) :=
  modify_live live _

theorem setPrev_live {h : Heap α} {a : Addr} (live : h.Live a) (prev : Option Addr) :
    h.setPrev a prev = .ok (h.adjust a fun node => { node with prev := prev }) :=
  modify_live live _

theorem free_live {h : Heap α} {a : Addr} (live : h.Live a) : h.free a = .ok (h.release a) := by
  rcases live with ⟨node, cell⟩
  simp [free, read_of_cell cell, Bind.bind, Except.bind, Pure.pure, Except.pure]

@[simp] theorem alloc_same (h : Heap α) (a : Addr) (node : Node α) :
    (h.alloc a node).cells a = some node := by
  simp [alloc]

theorem alloc_other (h : Heap α) {a b : Addr} (node : Node α) (different : b ≠ a) :
    (h.alloc a node).cells b = h.cells b := by
  simp [alloc, different]

@[simp] theorem adjust_same (h : Heap α) (a : Addr) (f : Node α → Node α) :
    (h.adjust a f).cells a = (h.cells a).map f := by
  simp [adjust]

theorem adjust_other (h : Heap α) {a b : Addr} (f : Node α → Node α) (different : b ≠ a) :
    (h.adjust a f).cells b = h.cells b := by
  simp [adjust, different]

@[simp] theorem release_same (h : Heap α) (a : Addr) : (h.release a).cells a = none := by
  simp [release]

theorem release_other (h : Heap α) {a b : Addr} (different : b ≠ a) :
    (h.release a).cells b = h.cells b := by
  simp [release, different]

@[simp] theorem alloc_allocated (h : Heap α) (a : Addr) (node : Node α) :
    (h.alloc a node).allocated = h.allocated + 1 := rfl

@[simp] theorem adjust_allocated (h : Heap α) (a : Addr) (f : Node α → Node α) :
    (h.adjust a f).allocated = h.allocated := rfl

@[simp] theorem release_allocated (h : Heap α) (a : Addr) :
    (h.release a).allocated = h.allocated := rfl

theorem adjust_comm (h : Heap α) {a b : Addr} (apart : a ≠ b) (f g : Node α → Node α) :
    (h.adjust a f).adjust b g = (h.adjust b g).adjust a f := by
  simp only [adjust, mk.injEq, and_self, and_true, Function.update_of_ne apart,
    Function.update_of_ne apart.symm]
  exact Function.update_comm apart ..

theorem Live.adjust {h : Heap α} {b : Addr} (live : h.Live b) (a : Addr) (f : Node α → Node α) :
    (h.adjust a f).Live b := by
  rcases live with ⟨node, cell⟩
  by_cases same : b = a
  · subst same
    exact ⟨f node, by simp [cell]⟩
  · exact ⟨node, by rw [adjust_other h f same, cell]⟩

def relink (h : Heap α) (before after : Option Addr) : Heap α :=
  let forward := match before with
    | some p => h.adjust p fun node => { node with next := after }
    | none => h
  match after with
  | some n => forward.adjust n fun node => { node with prev := before }
  | none => forward

theorem Live.release {h : Heap α} {a b : Addr} (live : h.Live b) (apart : b ≠ a) :
    (h.release a).Live b := by
  rcases live with ⟨node, cell⟩
  exact ⟨node, by rw [release_other h apart, cell]⟩

theorem Live.relink {h : Heap α} {b : Addr} (live : h.Live b) (before after : Option Addr) :
    (h.relink before after).Live b := by
  cases before with
  | none =>
    cases after with
    | none => exact live
    | some n => exact live.adjust n _
  | some p =>
    cases after with
    | none => exact live.adjust p _
    | some n => exact (live.adjust p _).adjust n _

@[simp] theorem relink_allocated (h : Heap α) (before after : Option Addr) :
    (h.relink before after).allocated = h.allocated := by
  cases before <;> cases after <;> rfl

theorem relink_before {h : Heap α} {p : Addr} {after : Option Addr} (apart : after ≠ some p) :
    (h.relink (some p) after).cells p =
      (h.cells p).map fun node => { node with next := after } := by
  cases after with
  | none => simp [relink]
  | some n => simp [relink, adjust_other _ _ fun same : p = n => apart (by rw [same])]

theorem relink_after {h : Heap α} {n : Addr} {before : Option Addr} (apart : before ≠ some n) :
    (h.relink before (some n)).cells n =
      (h.cells n).map fun node => { node with prev := before } := by
  cases before with
  | none => simp [relink]
  | some p => simp [relink, adjust_other h _ fun same : n = p => apart (by rw [same])]

theorem relink_other {h : Heap α} {b : Addr} {before after : Option Addr}
    (notBefore : before ≠ some b) (notAfter : after ≠ some b) :
    (h.relink before after).cells b = h.cells b := by
  cases before <;> cases after <;>
    simp_all [relink, adjust, Function.update_of_ne, Ne.symm]

/-- Follow `next` from `a` to the first node that `stop` accepts. The result is that node, or the
    last one with `false` when no node is accepted. -/
def walk (h : Heap α) (stop : α → Bool) : Nat → Addr → Except Fault (Addr × Bool)
  | 0, _ => .error .unbounded
  | fuel + 1, a => do
    let node ← h.read a
    if stop node.value then return (a, true)
    match node.next with
    | some b => h.walk stop fuel b
    | none => return (a, false)

def search (h : Heap α) (stop : α → Bool) (a : Addr) : Except Fault (Addr × Bool) :=
  h.walk stop h.allocated a

theorem search_freed {h : Heap α} {a : Addr} (gone : h.cells a = none) (stop : α → Bool) :
    ∃ fault, h.search stop a = .error fault := by
  unfold search
  cases h.allocated with
  | zero => exact ⟨_, rfl⟩
  | succ fuel => exact ⟨.freed a, by simp [walk, read_freed gone, Bind.bind, Except.bind]⟩

theorem walk_adjust (h : Heap α) (stop : α → Bool) (b : Addr) (f : α → α)
    (blind : ∀ v, stop (f v) = stop v) (fuel : Nat) (a : Addr) :
    (h.adjust b fun node => { node with value := f node.value }).walk stop fuel a =
      h.walk stop fuel a := by
  induction fuel generalizing a with
  | zero => rfl
  | succ fuel ih =>
    by_cases same : a = b
    · subst same
      simp only [walk, read, adjust_same]
      cases h.cells a with
      | none => rfl
      | some node => simp [Bind.bind, Except.bind, blind, ih]
    · simp only [walk, read, adjust_other h _ same]
      cases h.cells a with
      | none => rfl
      | some node => simp [Bind.bind, Except.bind, ih]

end Heap

/-- The memory allocator: it may reuse a freed block but never one in use. -/
structure Allocator (α : Type) where
  malloc : Heap α → Addr
  fresh : ∀ h : Heap α, h.cells (malloc h) = none

def Allocator.bump : Allocator α := ⟨fun h => h.bound, fun h => h.unused _ (Nat.le_refl _)⟩

def Allocator.beyond (a : Addr) : Allocator α :=
  ⟨fun h => max h.bound (a + 1), fun h => h.unused _ (le_max_left _ _)⟩

theorem Allocator.beyond_ne (a : Addr) (h : Heap α) : a ≠ (Allocator.beyond a).malloc h :=
  Nat.ne_of_lt (Nat.lt_of_lt_of_le (Nat.lt_succ_self a) (le_max_right _ _))

def firstOr : List (Addr × α) → Option Addr → Option Addr
  | [], after => after
  | (a, _) :: _, _ => some a

def lastOr : Option Addr → List (Addr × α) → Option Addr
  | before, [] => before
  | _, (a, _) :: rest => lastOr (some a) rest

/-- The nodes of `nodes` are linked in this order, the first one back to `before` and the last one
    on to `after`. -/
def Segment (h : Heap α) : Option Addr → List (Addr × α) → Option Addr → Prop
  | _, [], _ => True
  | before, (a, v) :: rest, after =>
    h.cells a = some ⟨v, firstOr rest after, before⟩ ∧ Segment h (some a) rest after

@[simp] theorem firstOr_append (left right : List (Addr × α)) (after : Option Addr) :
    firstOr (left ++ right) after = firstOr left (firstOr right after) := by
  cases left <;> rfl

@[simp] theorem lastOr_append (before : Option Addr) (left right : List (Addr × α)) :
    lastOr before (left ++ right) = lastOr (lastOr before left) right := by
  induction left generalizing before with
  | nil => rfl
  | cons node rest ih => exact ih _

theorem lastOr_cons_ne_none (before : Option Addr) (node : Addr × α) (rest : List (Addr × α)) :
    ∃ pre last, node :: rest = pre ++ [last] ∧ lastOr before (node :: rest) = some last.1 := by
  obtain ⟨pre, last, split⟩ := List.eq_nil_or_concat (node :: rest) |>.resolve_left (by simp)
  exact ⟨pre, last, by simpa using split, by rw [split]; simp [lastOr]⟩

theorem segment_append (h : Heap α) (before : Option Addr) (left right : List (Addr × α))
    (after : Option Addr) :
    Segment h before (left ++ right) after ↔
      Segment h before left (firstOr right after) ∧ Segment h (lastOr before left) right after := by
  induction left generalizing before with
  | nil => simp [Segment, lastOr]
  | cons node rest ih =>
    rcases node with ⟨a, v⟩
    simp only [List.cons_append, Segment, lastOr, ih, firstOr_append, and_assoc]

theorem Segment.frame {h k : Heap α} {before after : Option Addr} {nodes : List (Addr × α)}
    (segment : Segment h before nodes after)
    (same : ∀ a ∈ nodes.map Prod.fst, k.cells a = h.cells a) : Segment k before nodes after := by
  induction nodes generalizing before with
  | nil => trivial
  | cons node rest ih =>
    rcases node with ⟨a, v⟩
    refine ⟨?_, ih segment.2 fun b hb => same b (by simp [List.mem_map.mp hb])⟩
    rw [same a (by simp)]
    exact segment.1

theorem Segment.cell {h : Heap α} {before after : Option Addr} {nodes : List (Addr × α)}
    (segment : Segment h before nodes after) {a : Addr} {v : α} (member : (a, v) ∈ nodes) :
    ∃ next prev, h.cells a = some ⟨v, next, prev⟩ := by
  induction nodes generalizing before with
  | nil => cases member
  | cons node rest ih =>
    rcases node with ⟨b, w⟩
    rcases List.mem_cons.mp member with same | later
    · cases same
      exact ⟨_, _, segment.1⟩
    · exact ih segment.2 later

theorem lastOr_mem {before : Option Addr} {nodes : List (Addr × α)} {a : Addr}
    (last : lastOr before nodes = some a) : a ∈ nodes.map Prod.fst ∨ before = some a := by
  induction nodes generalizing before with
  | nil => exact .inr last
  | cons node rest ih =>
    rcases ih last with later | here
    · exact .inl (by simp [List.mem_map.mp later])
    · exact .inl (by simp [Option.some.inj here])

theorem firstOr_mem {nodes : List (Addr × α)} {a : Addr} (first : firstOr nodes none = some a) :
    a ∈ nodes.map Prod.fst := by
  cases nodes with
  | nil => cases first
  | cons node rest => simp [firstOr] at first; simp [first]

theorem lastOr_none {nodes : List (Addr × α)} (empty : lastOr none nodes = none) : nodes = [] := by
  cases nodes with
  | nil => rfl
  | cons node rest =>
    obtain ⟨pre, last, -, end_eq⟩ := lastOr_cons_ne_none none node rest
    rw [empty] at end_eq
    cases end_eq

theorem lastOr_settled {before : Option Addr} {nodes : List (Addr × α)}
    (settled : nodes = [] → before = none) : lastOr none nodes = lastOr before nodes := by
  cases nodes with
  | nil => exact (settled rfl).symm
  | cons node rest => rfl

theorem firstOr_none {nodes : List (Addr × α)} (empty : firstOr nodes none = none) :
    nodes = [] := by
  cases nodes with
  | nil => rfl
  | cons node rest => cases empty

theorem Segment.unique {h : Heap α} {before before' : Option Addr} {left right : List (Addr × α)}
    (first : Segment h before left none) (second : Segment h before' right none)
    (same : firstOr left none = firstOr right none) : left = right := by
  induction left generalizing before before' right with
  | nil => exact (firstOr_none same.symm).symm
  | cons node rest ih =>
    rcases node with ⟨a, v⟩
    cases right with
    | nil => cases same
    | cons other more =>
      rcases other with ⟨b, w⟩
      obtain rfl : a = b := Option.some.inj same
      have cells := Option.some.inj (first.1.symm.trans second.1)
      obtain rfl : v = w := congrArg Node.value cells
      rw [ih first.2 second.2 (congrArg Node.next cells)]

inductive Heap.Reaches (h : Heap α) : Option Addr → α → Prop
  | here {a : Addr} {node : Node α} (cell : h.cells a = some node) : Reaches h (some a) node.value
  | next {a : Addr} {node : Node α} {v : α} (cell : h.cells a = some node)
    (rest : Reaches h node.next v) : Reaches h (some a) v

theorem Segment.reaches_iff {h : Heap α} {before : Option Addr} {nodes : List (Addr × α)}
    (segment : Segment h before nodes none) {v : α} :
    h.Reaches (firstOr nodes none) v ↔ v ∈ nodes.map Prod.snd := by
  induction nodes generalizing before with
  | nil =>
    refine iff_of_false ?_ (by simp)
    intro reaches
    cases reaches
  | cons node rest ih =>
    rcases node with ⟨a, w⟩
    rcases segment with ⟨cell, segment⟩
    rw [List.map_cons, List.mem_cons, ← ih segment]
    constructor
    · intro reaches
      cases reaches with
      | here read =>
        obtain rfl := Option.some.inj (cell.symm.trans read)
        exact .inl rfl
      | next read reaches =>
        obtain rfl := Option.some.inj (cell.symm.trans read)
        exact .inr reaches
    · intro member
      rcases member with rfl | later
      · exact .here cell
      · exact .next cell later

theorem Segment.redirect_next {h k : Heap α} {before after : Option Addr}
    {nodes : List (Addr × α)} (segment : Segment h before nodes after)
    (nodup : (nodes.map Prod.fst).Nodup) (target : Option Addr)
    (last : ∀ a, lastOr none nodes = some a →
      k.cells a = (h.cells a).map fun node => { node with next := target })
    (rest : ∀ a ∈ nodes.map Prod.fst, lastOr none nodes ≠ some a → k.cells a = h.cells a) :
    Segment k before nodes target := by
  induction nodes generalizing before with
  | nil => trivial
  | cons node tail ih =>
    rcases node with ⟨a, v⟩
    cases tail with
    | nil =>
      refine ⟨?_, trivial⟩
      rw [last a rfl, segment.1]
      rfl
    | cons second tail =>
      have tailNodup := (List.nodup_cons.mp nodup).2
      have notLast : lastOr none ((a, v) :: second :: tail) ≠ some a := by
        intro isLast
        have inTail : lastOr none (second :: tail) = some a := isLast
        rcases lastOr_mem inTail with later | none
        · exact (List.nodup_cons.mp nodup).1 later
        · cases none
      refine ⟨?_, ih segment.2 tailNodup last fun b hb => rest b (by simp at hb ⊢; simp [hb])⟩
      rw [rest a (by simp) notLast, segment.1]
      rfl

theorem Segment.redirect_prev {h k : Heap α} {before after : Option Addr}
    {nodes : List (Addr × α)} (segment : Segment h before nodes after)
    (nodup : (nodes.map Prod.fst).Nodup) (target : Option Addr)
    (first : ∀ a, firstOr nodes none = some a →
      k.cells a = (h.cells a).map fun node => { node with prev := target })
    (rest : ∀ a ∈ nodes.map Prod.fst, firstOr nodes none ≠ some a → k.cells a = h.cells a) :
    Segment k target nodes after := by
  cases nodes with
  | nil => trivial
  | cons node tail =>
    rcases node with ⟨a, v⟩
    constructor
    · rw [first a rfl, segment.1]
      rfl
    · apply segment.2.frame
      intro b hb
      apply rest b (by simp at hb ⊢; simp [hb])
      intro same
      cases same
      exact (List.nodup_cons.mp nodup).1 hb

theorem Segment.update {h k : Heap α} {before after : Option Addr} {nodes : List (Addr × α)}
    (segment : Segment h before nodes after) (a : Addr) (f : α → α)
    (here : k.cells a = (h.cells a).map fun node => { node with value := f node.value })
    (rest : ∀ b, b ≠ a → k.cells b = h.cells b) :
    Segment k before (nodes.map fun node => if node.1 = a then (node.1, f node.2) else node)
      after := by
  induction nodes generalizing before with
  | nil => trivial
  | cons node tail ih =>
    rcases node with ⟨b, v⟩
    have links : firstOr (tail.map fun node => if node.1 = a then (node.1, f node.2) else node)
        after = firstOr tail after := by
      cases tail with
      | nil => rfl
      | cons second tail => simp only [List.map_cons, firstOr]; split <;> rfl
    by_cases same : b = a
    · subst same
      simp only [List.map_cons, ite_true]
      refine ⟨?_, ih segment.2⟩
      rw [here, segment.1, links]
      rfl
    · simp only [List.map_cons, same, ite_false]
      refine ⟨?_, ih segment.2⟩
      rw [rest b same, segment.1, links]

theorem split_at_first (stop : α → Bool) (nodes : List (Addr × α)) :
    (∀ node ∈ nodes, stop node.2 = false) ∨
      ∃ pre a v post, nodes = pre ++ (a, v) :: post ∧
        (∀ node ∈ pre, stop node.2 = false) ∧ stop v = true := by
  induction nodes with
  | nil => exact .inl (by simp)
  | cons node rest ih =>
    rcases node with ⟨b, w⟩
    cases accepted : stop w with
    | true => exact .inr ⟨[], b, w, rest, rfl, by simp, accepted⟩
    | false =>
      rcases ih with none | ⟨pre, a, v, post, split, skipped, found⟩
      · exact .inl (by simpa [accepted] using none)
      · exact .inr ⟨(b, w) :: pre, a, v, post, by simp [split], by simpa [accepted] using skipped,
          found⟩

theorem Segment.walk_found {h : Heap α} {before after : Option Addr}
    {pre post : List (Addr × α)} {a : Addr} {v : α}
    (segment : Segment h before (pre ++ (a, v) :: post) after) (stop : α → Bool)
    (skipped : ∀ node ∈ pre, stop node.2 = false) (found : stop v = true) {start fuel : Nat}
    (first : firstOr (pre ++ (a, v) :: post) none = some start) (enough : pre.length < fuel) :
    h.walk stop fuel start = .ok (a, true) := by
  induction pre generalizing before start fuel with
  | nil =>
    obtain ⟨fuel, rfl⟩ := Nat.exists_eq_succ_of_ne_zero (Nat.ne_of_gt enough)
    cases first
    simp [Heap.walk, Heap.read_of_cell segment.1, found, Bind.bind, Except.bind, Pure.pure,
      Except.pure]
  | cons node pre ih =>
    rcases node with ⟨b, w⟩
    obtain ⟨fuel, rfl⟩ := Nat.exists_eq_succ_of_ne_zero (Nat.ne_of_gt (Nat.zero_lt_of_lt enough))
    cases first
    have passed : stop w = false := skipped (start, w) (by simp)
    obtain ⟨c, next⟩ : ∃ c, firstOr (pre ++ (a, v) :: post) none = some c := by
      cases pre <;> exact ⟨_, rfl⟩
    have link : firstOr (pre ++ (a, v) :: post) after = some c := by
      cases pre <;> exact next
    have bound : pre.length < fuel := by simpa using enough
    have rest := ih segment.2 (fun node member => skipped node (by simp [member])) next bound
    simp [Heap.walk, Heap.read_of_cell segment.1, passed, link, rest, Bind.bind, Except.bind]

theorem Segment.walk_missed {h : Heap α} {before : Option Addr} {pre : List (Addr × α)}
    {a : Addr} {v : α} (segment : Segment h before (pre ++ [(a, v)]) none) (stop : α → Bool)
    (skipped : ∀ node ∈ pre ++ [(a, v)], stop node.2 = false) {start fuel : Nat}
    (first : firstOr (pre ++ [(a, v)]) none = some start) (enough : pre.length < fuel) :
    h.walk stop fuel start = .ok (a, false) := by
  induction pre generalizing before start fuel with
  | nil =>
    obtain ⟨fuel, rfl⟩ := Nat.exists_eq_succ_of_ne_zero (Nat.ne_of_gt enough)
    cases first
    have passed : stop v = false := skipped (a, v) (by simp)
    simp [Heap.walk, Heap.read_of_cell segment.1, passed, firstOr, Bind.bind, Except.bind,
      Pure.pure, Except.pure]
  | cons node pre ih =>
    rcases node with ⟨b, w⟩
    obtain ⟨fuel, rfl⟩ := Nat.exists_eq_succ_of_ne_zero (Nat.ne_of_gt (Nat.zero_lt_of_lt enough))
    cases first
    have passed : stop w = false := skipped (start, w) (by simp)
    obtain ⟨c, next⟩ : ∃ c, firstOr (pre ++ [(a, v)]) none = some c := by
      cases pre <;> exact ⟨_, rfl⟩
    have bound : pre.length < fuel := by simpa using enough
    have rest := ih segment.2 (fun node member => skipped node (List.mem_cons_of_mem _ member))
      next bound
    simp [Heap.walk, Heap.read_of_cell segment.1, passed, next, rest, Bind.bind, Except.bind]

/-- From `head` on, `nodes` are linked forth and back; the first one goes back to `before`. -/
structure Chained (h : Heap α) (before head : Option Addr) (nodes : List (Addr × α)) : Prop where
  head_eq : head = firstOr nodes none
  segment : Segment h before nodes none
  nodup : (nodes.map Prod.fst).Nodup
  within : nodes.length ≤ h.allocated

/-- `head` is the first node of a well-formed doubly linked list of `nodes`. -/
abbrev Linked (h : Heap α) (head : Option Addr) (nodes : List (Addr × α)) : Prop :=
  Chained h none head nodes

theorem Linked.empty : Linked (Heap.empty : Heap α) none [] :=
  ⟨rfl, trivial, by simp, Nat.le_refl _⟩

def Heap.ofList (values : List α) : Heap α where
  cells a := values[a]?.map fun value =>
    { value
      next := if a + 1 < values.length then some (a + 1) else none
      prev := if a = 0 then none else some (a - 1) }
  allocated := values.length
  bound := values.length
  unused a beyond := by simp [List.getElem?_eq_none beyond]

def nodesFrom (start : Addr) (values : List α) : List (Addr × α) :=
  (values.zipIdx start).map Prod.swap

theorem Segment.ofList (pre values : List α) :
    Segment (Heap.ofList (pre ++ values)) (if pre.length = 0 then none else some (pre.length - 1))
      (nodesFrom pre.length values) none := by
  induction values generalizing pre with
  | nil => trivial
  | cons value values ih =>
    have later := ih (pre ++ [value])
    simp only [List.append_assoc, List.singleton_append, List.length_append, List.length_singleton,
      Nat.succ_ne_zero, if_false, Nat.add_sub_cancel] at later
    refine ⟨?_, later⟩
    have next : firstOr (nodesFrom (pre.length + 1) values) none =
        if pre.length + 1 < (pre ++ value :: values).length then some (pre.length + 1)
        else none := by
      cases values <;> simp [nodesFrom, firstOr]
    show (Heap.ofList (pre ++ value :: values)).cells pre.length =
      some ⟨value, firstOr (nodesFrom (pre.length + 1) values) none, _⟩
    rw [next]
    simp [Heap.ofList]

theorem Linked.ofList (values : List α) :
    Linked (Heap.ofList values) (firstOr (nodesFrom 0 values) none) (nodesFrom 0 values) where
  head_eq := rfl
  segment := Segment.ofList [] values
  nodup := by
    have addresses : (values.zipIdx 0).map (Prod.fst ∘ Prod.swap) =
        (values.zipIdx 0).map Prod.snd := rfl
    rw [nodesFrom, List.map_map, addresses, List.zipIdx_map_snd]
    exact List.nodup_range'
  within := by simp [nodesFrom, Heap.ofList]

@[simp] theorem nodesFrom_values (start : Addr) (values : List α) :
    (nodesFrom start values).map Prod.snd = values := by
  have second : (values.zipIdx start).map (Prod.snd ∘ Prod.swap) =
      (values.zipIdx start).map Prod.fst := rfl
  rw [nodesFrom, List.map_map, second, List.zipIdx_map_fst]

theorem Chained.head_none {h : Heap α} {before : Option Addr} {nodes : List (Addr × α)}
    (linked : Chained h before none nodes) : nodes = [] := by
  cases nodes with
  | nil => rfl
  | cons node rest => exact absurd linked.head_eq (by simp [firstOr])

theorem Chained.starts {h : Heap α} {before head : Option Addr} {a : Addr} {v : α}
    {pre post : List (Addr × α)} (linked : Chained h before head (pre ++ (a, v) :: post)) :
    ∃ start, head = some start := by
  rw [linked.head_eq]
  cases pre <;> exact ⟨_, rfl⟩

theorem Chained.live_head {h : Heap α} {a : Addr} {nodes : List (Addr × α)}
    (linked : Chained h before (some a) nodes) : h.Live a := by
  rcases linked with ⟨head_eq, segment, -, -⟩
  cases nodes with
  | nil => cases head_eq
  | cons node rest =>
    obtain rfl : a = node.1 := Option.some.inj head_eq
    exact ⟨_, segment.1⟩

theorem Chained.unique {h : Heap α} {before before' head : Option Addr}
    {left right : List (Addr × α)} (first : Chained h before head left)
    (second : Chained h before' head right) : left = right :=
  first.segment.unique second.segment (first.head_eq.symm.trans second.head_eq)

theorem Chained.search_found {h : Heap α} {a start : Addr} {v : α} {pre post : List (Addr × α)}
    (linked : Chained h before (some start) (pre ++ (a, v) :: post)) (stop : α → Bool)
    (skipped : ∀ node ∈ pre, stop node.2 = false) (found : stop v = true) :
    h.search stop start = .ok (a, true) := by
  have within := linked.within
  simp at within
  exact linked.segment.walk_found stop skipped found linked.head_eq.symm (by omega)

theorem Chained.search_missed_from {h : Heap α} {before head : Option Addr} {a start : Addr}
    {v : α} {pre nodes : List (Addr × α)}
    (linked : Chained h before head (pre ++ (nodes ++ [(a, v)]))) (stop : α → Bool)
    (skipped : ∀ node ∈ nodes ++ [(a, v)], stop node.2 = false)
    (first : firstOr (nodes ++ [(a, v)]) none = some start) :
    h.search stop start = .ok (a, false) := by
  have within := linked.within
  simp at within
  have rest := ((segment_append _ _ _ _ _).mp linked.segment).2
  exact rest.walk_missed stop skipped first (by omega)

theorem Chained.search_missed {h : Heap α} {a start : Addr} {v : α} {pre : List (Addr × α)}
    (linked : Chained h before (some start) (pre ++ [(a, v)])) (stop : α → Bool)
    (skipped : ∀ node ∈ pre ++ [(a, v)], stop node.2 = false) :
    h.search stop start = .ok (a, false) := by
  have whole : Chained h before (some start) ([] ++ (pre ++ [(a, v)])) := linked
  exact whole.search_missed_from stop skipped linked.head_eq.symm

theorem Chained.search_none {h : Heap α} {start : Addr} {nodes : List (Addr × α)}
    (linked : Chained h before (some start) nodes) (stop : α → Bool)
    (skipped : ∀ node ∈ nodes, stop node.2 = false) :
    ∃ last, h.search stop start = .ok (last, false) := by
  obtain rfl | ⟨pre, ⟨a, v⟩, rfl⟩ := List.eq_nil_or_concat nodes
  · cases linked.head_eq
  · rw [List.concat_eq_append] at linked skipped
    exact ⟨a, linked.search_missed stop skipped⟩

theorem Chained.search_some {h : Heap α} {before head : Option Addr} {a : Addr} {v : α}
    {pre post : List (Addr × α)} (linked : Chained h before head (pre ++ (a, v) :: post))
    (stop : α → Bool)
    (skipped : ∀ node ∈ pre, stop node.2 = false) (found : stop v = true) :
    ∃ start, head = some start ∧ h.search stop start = .ok (a, true) := by
  obtain ⟨start, begins⟩ := linked.starts
  exact ⟨start, begins, Chained.search_found (begins ▸ linked) stop skipped found⟩

theorem Chained.split {h : Heap α} {before head : Option Addr} {a : Addr} {v : α}
    {pre post : List (Addr × α)} (linked : Chained h before head (pre ++ (a, v) :: post)) :
    h.cells a = some ⟨v, firstOr post none, lastOr before pre⟩ :=
  ((segment_append _ _ _ _ _).mp linked.segment).2.1

theorem Chained.not_fresh {h : Heap α} {before head : Option Addr} {nodes : List (Addr × α)}
    (linked : Chained h before head nodes) {a b : Addr} (fresh : h.cells a = none)
    (member : b ∈ nodes.map Prod.fst) : b ≠ a := by
  intro same
  rcases same with rfl
  obtain ⟨⟨c, w⟩, inside, rfl⟩ := List.mem_map.mp member
  obtain ⟨next, prev, cell⟩ := linked.segment.cell inside
  rw [fresh] at cell
  cases cell

theorem Chained.attach {h k : Heap α} {before head : Option Addr} {pre : List (Addr × α)}
    {a t : Addr} {v w : α} (linked : Chained h before head (pre ++ [(t, v)]))
    (apart : a ∉ (pre ++ [(t, v)]).map Prod.fst) (new : k.cells a = some ⟨w, none, some t⟩)
    (tail : k.cells t = (h.cells t).map fun node => { node with next := some a })
    (rest : ∀ b, b ≠ a → b ≠ t → k.cells b = h.cells b) (count : pre.length + 2 ≤ k.allocated) :
    Chained k before head (pre ++ [(t, v)] ++ [(a, w)]) := by
  constructor
  · rw [linked.head_eq]
    cases pre <;> rfl
  · rw [segment_append]
    constructor
    · apply linked.segment.redirect_next linked.nodup
      · intro b last
        have isTail : b = t := by simpa [lastOr] using last.symm
        subst isTail
        exact tail
      · intro b member notLast
        exact rest b (fun same => apart (same ▸ member)) fun same => notLast (by simp [lastOr, same])
    · simp [Segment, lastOr, firstOr, new]
  · rw [List.map_append, List.nodup_append]
    refine ⟨linked.nodup, by simp, ?_⟩
    intro b member c single same
    simp at single
    exact apart (single ▸ same ▸ member)
  · simpa using count

theorem Chained.append {h k : Heap α} {before head : Option Addr} {pre : List (Addr × α)}
    {a t : Addr} {v w : α} (linked : Chained h before head (pre ++ [(t, v)]))
    (fresh : h.cells a = none)
    (new : k.cells a = some ⟨w, none, some t⟩)
    (tail : k.cells t = (h.cells t).map fun node => { node with next := some a })
    (rest : ∀ b, b ≠ a → b ≠ t → k.cells b = h.cells b) (count : k.allocated = h.allocated + 1) :
    Chained k before head (pre ++ [(t, v)] ++ [(a, w)]) := by
  have within := linked.within
  simp at within
  exact linked.attach (fun member => linked.not_fresh fresh member rfl) new tail rest (by omega)

theorem Linked.singleton {k : Heap α} {a : Addr} {w : α} (new : k.cells a = some ⟨w, none, none⟩)
    (count : 1 ≤ k.allocated) : Linked k (some a) [(a, w)] :=
  ⟨rfl, ⟨new, trivial⟩, by simp, by simpa using count⟩

theorem Chained.remove {h k : Heap α} {before head : Option Addr} {pre post : List (Addr × α)}
    {a : Addr} {v : α} (linked : Chained h before head (pre ++ (a, v) :: post))
    (settled : pre = [] → before = none)
    (last : ∀ p, lastOr none pre = some p →
      k.cells p = (h.cells p).map fun node => { node with next := firstOr post none })
    (first : ∀ n, firstOr post none = some n →
      k.cells n = (h.cells n).map fun node => { node with prev := lastOr none pre })
    (rest : ∀ b, b ≠ a → lastOr none pre ≠ some b → firstOr post none ≠ some b →
      k.cells b = h.cells b)
    (count : k.allocated = h.allocated) :
    Chained k before (firstOr (pre ++ post) none) (pre ++ post) := by
  have nodup := linked.nodup
  simp only [List.map_append, List.map_cons] at nodup
  rw [List.nodup_append] at nodup
  rcases nodup with ⟨preNodup, tailNodup, apart⟩
  obtain ⟨notPost, postNodup⟩ := List.nodup_cons.mp tailNodup
  have notPre : a ∉ pre.map Prod.fst := fun member => apart a member a (by simp) rfl
  have crossed : ∀ b ∈ pre.map Prod.fst, b ∉ post.map Prod.fst :=
    fun b hb hc => apart b hb b (List.mem_cons_of_mem _ hc) rfl
  obtain ⟨preSegment, -, postSegment⟩ := (segment_append _ _ _ _ _).mp linked.segment
  refine ⟨rfl, (segment_append _ _ _ _ _).mpr ⟨?_, lastOr_settled settled ▸ ?_⟩, ?_, ?_⟩
  · apply preSegment.redirect_next preNodup _ last
    intro b member notLast
    exact rest b (fun same => notPre (same ▸ member)) notLast
      fun isFirst => crossed b member (firstOr_mem isFirst)
  · apply postSegment.redirect_prev postNodup _ first
    intro b member notFirst
    refine rest b (fun same => notPost (same ▸ member)) ?_ notFirst
    intro isLast
    rcases lastOr_mem isLast with inPre | none
    · exact crossed b inPre member
    · cases none
  · rw [List.map_append, List.nodup_append]
    exact ⟨preNodup, postNodup, fun b hb c hc same => crossed b hb (same ▸ hc)⟩
  · have within := linked.within
    simp at within ⊢
    omega

theorem Chained.frame {h k : Heap α} {before head : Option Addr} {nodes : List (Addr × α)}
    (linked : Chained h before head nodes) (same : ∀ a ∈ nodes.map Prod.fst, k.cells a = h.cells a)
    (count : h.allocated ≤ k.allocated) : Chained k before head nodes :=
  ⟨linked.head_eq, linked.segment.frame same, linked.nodup, le_trans linked.within count⟩

theorem Chained.alloc {h : Heap α} {before head : Option Addr} {nodes : List (Addr × α)}
    (linked : Chained h before head nodes) {a : Addr} (fresh : h.cells a = none) (node : Node α) :
    Chained (h.alloc a node) before head nodes :=
  linked.frame (fun _ member => h.alloc_other node (linked.not_fresh fresh member)) (by simp)

theorem Chained.split_apart {h : Heap α} {before head : Option Addr} {pre post : List (Addr × α)}
    {a : Addr} {v : α} (linked : Chained h before head (pre ++ (a, v) :: post)) :
    a ∉ pre.map Prod.fst ∧ a ∉ post.map Prod.fst ∧
      ∀ b ∈ pre.map Prod.fst, b ∉ post.map Prod.fst := by
  have nodup := linked.nodup
  simp only [List.map_append, List.map_cons] at nodup
  rw [List.nodup_append] at nodup
  rcases nodup with ⟨-, tailNodup, apart⟩
  exact ⟨fun member => apart a member a (by simp) rfl, (List.nodup_cons.mp tailNodup).1,
    fun b hb hc => apart b hb b (List.mem_cons_of_mem _ hc) rfl⟩

theorem Chained.relink {h : Heap α} {before head : Option Addr} {pre post : List (Addr × α)}
    {a : Addr} {v : α} (linked : Chained h before head (pre ++ (a, v) :: post))
    (settled : pre = [] → before = none) :
    Chained (h.relink (lastOr none pre) (firstOr post none)) before (firstOr (pre ++ post) none)
      (pre ++ post) := by
  rcases linked.split_apart with ⟨-, -, crossed⟩
  have distinct : ∀ b, lastOr none pre = some b → firstOr post none ≠ some b := by
    intro b last first
    rcases lastOr_mem last with inPre | none
    · exact crossed b inPre (firstOr_mem first)
    · cases none
  apply linked.remove settled
  · intro p last
    rw [last, Heap.relink_before (distinct p last)]
  · intro n first
    rw [first, Heap.relink_after fun last => distinct n last first]
  · intro b _ notLast notFirst
    exact Heap.relink_other notLast notFirst
  · simp

theorem Chained.unlink {h : Heap α} {before head : Option Addr} {pre post : List (Addr × α)}
    {a : Addr} {v : α} (linked : Chained h before head (pre ++ (a, v) :: post))
    (settled : pre = [] → before = none) :
    Chained ((h.relink (lastOr none pre) (firstOr post none)).release a) before
      (firstOr (pre ++ post) none) (pre ++ post) := by
  rcases linked.split_apart with ⟨notPre, notPost, -⟩
  apply (linked.relink settled).frame _ (by simp)
  intro b member
  rw [Heap.release_other]
  intro same
  subst same
  rw [List.map_append, List.mem_append] at member
  exact member.elim notPre notPost

theorem Chained.live_last {h : Heap α} {before head : Option Addr} {pre post : List (Addr × α)}
    {a p : Addr} {v : α} (linked : Chained h before head (pre ++ (a, v) :: post))
    (last : lastOr none pre = some p) : h.Live p := by
  rcases lastOr_mem last with member | none
  · obtain ⟨⟨b, w⟩, inside, rfl⟩ := List.mem_map.mp member
    obtain ⟨next, prev, cell⟩ := linked.segment.cell (List.mem_append_left _ inside)
    exact ⟨_, cell⟩
  · cases none

theorem Chained.live_first {h : Heap α} {before head : Option Addr} {pre post : List (Addr × α)}
    {a n : Addr} {v : α} (linked : Chained h before head (pre ++ (a, v) :: post))
    (first : firstOr post none = some n) : h.Live n := by
  obtain ⟨⟨b, w⟩, inside, rfl⟩ := List.mem_map.mp (firstOr_mem first)
  obtain ⟨next, prev, cell⟩ :=
    linked.segment.cell (List.mem_append_right pre (List.mem_cons_of_mem _ inside))
  exact ⟨_, cell⟩

theorem Chained.update {h k : Heap α} {before head : Option Addr} {nodes : List (Addr × α)}
    (linked : Chained h before head nodes) (a : Addr) (f : α → α)
    (here : k.cells a = (h.cells a).map fun node => { node with value := f node.value })
    (rest : ∀ b, b ≠ a → k.cells b = h.cells b) (count : k.allocated = h.allocated) :
    Chained k before head
      (nodes.map fun node => if node.1 = a then (node.1, f node.2) else node) := by
  have keys : (nodes.map fun node => if node.1 = a then (node.1, f node.2) else node).map Prod.fst
      = nodes.map Prod.fst := by
    rw [List.map_map]
    apply List.map_congr_left
    intro node _
    simp only [Function.comp]
    split <;> rfl
  refine ⟨?_, linked.segment.update a f here rest, by rw [keys]; exact linked.nodup, ?_⟩
  · rw [linked.head_eq]
    cases nodes with
    | nil => rfl
    | cons node rest => simp only [List.map_cons, firstOr]; split <;> rfl
  · rw [List.length_map, count]
    exact linked.within

theorem Chained.assign {h : Heap α} {before head : Option Addr} {pre post : List (Addr × α)}
    {a : Addr} {v : α} (linked : Chained h before head (pre ++ (a, v) :: post)) (f : α → α) :
    Chained (h.adjust a fun node => { node with value := f node.value }) before head
      (pre ++ (a, f v) :: post) := by
  rcases linked.split_apart with ⟨notPre, notPost, -⟩
  have others {nodes : List (Addr × α)} (absent : a ∉ nodes.map Prod.fst) :
      (nodes.map fun node => if node.1 = a then (node.1, f node.2) else node) = nodes := by
    have kept : ∀ node ∈ nodes, (if node.1 = a then (node.1, f node.2) else node) = id node :=
      fun node member => if_neg fun same => absent (List.mem_map.mpr ⟨node, member, same⟩)
    rw [List.map_congr_left kept, List.map_id]
  have updated := linked.update a f (h.adjust_same a _)
    (fun b different => h.adjust_other _ different)
    rfl
  rw [List.map_append, List.map_cons, others notPre, others notPost, if_pos rfl] at updated
  exact updated

end LinkedHeap
