import Rxtx.Win32.Open

open LinkedHeap Runs
open Rxtx.SerialImp (CString)

namespace Rxtx.Win32

def Follow : Int → Nat → List Int → Prop
  | _, 0, _ => True
  | last, k + 1, next :: rest => next = last + 1 ∧ Follow next k rest
  | _, _ + 1, [] => False

/-- The list begins with 1, 2, ..., `k`, and the next number is an `int` that is not in it. -/
def Room (k : Nat) (fds : List Int) : Prop :=
  Follow 0 k fds ∧ (k : Int) < intMax ∧ (k + 1 : Int) ∉ fds

theorem freeAfter_follow {last : Int} {rest : List Int} {k : Nat} (follow : Follow last k rest)
    (small : last + k < intMax) (absent : last + k + 1 ∉ rest) :
    freeAfter last rest = .ok (last + k + 1) := by
  have below : last < intMax := by omega
  induction rest generalizing last k with
  | nil =>
    cases k with
    | zero => simp [freeAfter_end below]
    | succ k => cases follow
  | cons next rest ih =>
    cases k with
    | zero =>
      have other : next ≠ last + 1 := fun same => absent (by simp [same])
      simp [freeAfter_gap below other]
    | succ k =>
      rcases follow with ⟨rfl, follow⟩
      have sum : last + ((k + 1 : Nat) : Int) + 1 = last + 1 + k + 1 := by omega
      rw [sum] at absent ⊢
      rw [freeAfter_next below]
      exact ih follow (by omega) (fun member => absent (List.mem_cons_of_mem _ member)) (by omega)

theorem freeFd_room {fds : List Int} (positive : ∀ fd ∈ fds, 0 < fd) {k : Nat} (room : Room k fds) :
    freeFd fds = .ok (k + 1 : Int) := by
  rcases room with ⟨follow, small, absent⟩
  cases fds with
  | nil =>
    cases k with
    | zero => rfl
    | succ k => cases follow
  | cons fd rest =>
    have number := positive fd (by simp)
    cases k with
    | zero =>
      have above : fd > 1 := by
        have other : fd ≠ 1 := fun same => absent (by simp [same])
        omega
      simp [freeFd, above, Pure.pure, Except.pure]
    | succ k =>
      rcases follow with ⟨rfl, follow⟩
      have after := freeAfter_follow follow (by omega)
        (fun member => absent (List.mem_cons_of_mem _ (by convert member using 1; omega)))
      rw [show ((k + 1 : Nat) : Int) + 1 = 0 + 1 + k + 1 by omega, ← after]
      simp [freeFd]

theorem follow_of_freeAfter {last free : Int} {rest : List Int}
    (found : freeAfter last rest = .ok free) :
    ∃ k : Nat, Follow last k rest ∧ last + k < intMax ∧ free = last + k + 1 := by
  induction rest generalizing last with
  | nil =>
    unfold freeAfter increment at found
    split_ifs at found with below
    cases found
    exact ⟨0, trivial, by omega, by omega⟩
  | cons next rest ih =>
    obtain ⟨successor, incremented, found⟩ := bind_eq_ok.mp found
    unfold increment at incremented
    split_ifs at incremented with below
    cases incremented
    split_ifs at found with same
    · cases found
      exact ⟨0, trivial, by omega, by omega⟩
    · obtain rfl := not_not.mp same
      obtain ⟨k, follow, small, rfl⟩ := ih found
      exact ⟨k + 1, ⟨rfl, follow⟩, by push_cast; omega, by push_cast; omega⟩

theorem freeFd_fresh_iff {fds : List Int} (positive : ∀ fd ∈ fds, 0 < fd) :
    (∃ free ∉ fds, freeFd fds = .ok free) ↔ ∃ k, Room k fds := by
  constructor
  · intro fresh
    rcases fresh with ⟨free, absent, found⟩
    cases fds with
    | nil =>
      cases found
      exact ⟨0, trivial, by decide, absent⟩
    | cons fd rest =>
      have number := positive fd (by simp)
      simp only [freeFd] at found
      split_ifs at found with above
      · cases found
        exact ⟨0, trivial, by decide, absent⟩
      · obtain rfl : fd = 1 := by omega
        obtain ⟨k, follow, small, rfl⟩ := follow_of_freeAfter found
        refine ⟨k + 1, ⟨rfl, follow⟩, by push_cast; omega, ?_⟩
        rwa [show ((k + 1 : Nat) : Int) + 1 = 1 + k + 1 by omega]
  · intro roomy
    rcases roomy with ⟨k, room⟩
    exact ⟨_, room.2.2, freeFd_room positive room⟩

theorem freeAfter_least {last : Int} {rest : List Int}
    (increasing : (last :: rest).Pairwise (· < ·)) :
    ∃ free, IsLeast {n | last < n ∧ n ∉ rest} free ∧ free ≤ last + rest.length + 1 ∧
      freeAfter last rest = if free ≤ intMax then .ok free else .error .overflow := by
  induction rest generalizing last with
  | nil =>
    refine ⟨last + 1, ⟨⟨by omega, List.not_mem_nil⟩, fun n other => other.1⟩, by simp, ?_⟩
    simp only [freeAfter, increment, Int.add_one_le_iff]
  | cons next rest ih =>
    obtain ⟨above, later⟩ := List.pairwise_cons.mp increasing
    have behind := above next (by simp)
    by_cases successor : next = last + 1
    · obtain ⟨free, ⟨⟨more, absent⟩, least⟩, few, found⟩ := ih later
      refine ⟨free, ⟨⟨by omega, ?_⟩, ?_⟩, by rw [List.length_cons]; omega, ?_⟩
      · rw [List.mem_cons, not_or]
        exact ⟨by omega, absent⟩
      · intro n other
        rw [Set.mem_ofPred_eq, List.mem_cons, not_or] at other
        exact least ⟨by omega, other.2.2⟩
      · subst successor
        by_cases below : last < intMax
        · rw [freeAfter_next below, found]
        · rw [freeAfter_full below, if_neg (by omega)]
    · refine ⟨last + 1, ⟨⟨by omega, ?_⟩, fun n other => other.1⟩, by omega, ?_⟩
      · rw [List.mem_cons, not_or]
        refine ⟨Ne.symm successor, fun member => ?_⟩
        have beyond := List.rel_of_pairwise_cons later member
        omega
      · by_cases below : last < intMax
        · rw [freeAfter_gap below successor, if_pos (by omega)]
        · rw [freeAfter_full below, if_neg (by omega)]

theorem freeFd_least {fds : List Int} (increasing : fds.Pairwise (· < ·))
    (positive : ∀ fd ∈ fds, 0 < fd) :
    ∃ free, IsLeast {n | 0 < n ∧ n ∉ fds} free ∧ free ≤ fds.length + 1 ∧
      freeFd fds = if free ≤ intMax then .ok free else .error .overflow := by
  cases fds with
  | nil => exact ⟨1, ⟨⟨by decide, List.not_mem_nil⟩, fun n other => other.1⟩, by simp, rfl⟩
  | cons fd rest =>
    have number := positive fd (by simp)
    by_cases above : fd > 1
    · refine ⟨1, ⟨⟨by decide, fun member => ?_⟩, fun n other => other.1⟩,
        by rw [List.length_cons]; omega, ?_⟩
      · rcases List.mem_cons.mp member with same | later
        · omega
        · have beyond := List.rel_of_pairwise_cons increasing later
          omega
      · rw [if_pos (by decide)]
        simp [freeFd, above, Pure.pure, Except.pure]
    · obtain rfl : fd = 1 := by omega
      obtain ⟨free, ⟨⟨more, absent⟩, least⟩, few, found⟩ := freeAfter_least increasing
      refine ⟨free, ⟨⟨by omega, ?_⟩, ?_⟩, by rw [List.length_cons]; omega, ?_⟩
      · rw [List.mem_cons, not_or]
        exact ⟨by omega, absent⟩
      · intro n other
        rw [Set.mem_ofPred_eq, List.mem_cons, not_or] at other
        exact least ⟨by omega, other.2.2⟩
      · rw [← found]
        simp [freeFd]

/-- The least positive number that is not in an increasing list is returned, as long as it is an
    `int`: where the list has all of these, the addition behind its end overflows. -/
theorem get_free_fd_least (t : Table) (nodes : List (Addr × TermiosList)) (lists : t.Lists nodes)
    (increasing : (nodes.map fun node => node.2.fd).Pairwise (· < ·))
    (positive : ∀ node ∈ nodes, 1 ≤ node.2.fd) :
    ∃ free, IsLeast {n | 0 < n ∧ ∀ node ∈ nodes, node.2.fd ≠ n} free ∧
      free ≤ nodes.length + 1 ∧
      getFreeFd t = if free ≤ intMax then .ok free else .error .overflow := by
  obtain ⟨free, least, few, found⟩ := freeFd_least increasing (List.forall_mem_map.mpr positive)
  rw [List.length_map] at few
  have same : {n | 0 < n ∧ n ∉ nodes.map fun node => node.2.fd} =
      {n | 0 < n ∧ ∀ node ∈ nodes, node.2.fd ≠ n} := by
    ext n
    simp only [Set.mem_ofPred_eq, List.mem_map, not_exists, not_and]
  exact ⟨free, same ▸ least, few, (getFreeFd_lists lists).trans found⟩

def numberedPort (fd : Int) : TermiosList := { TermiosList.zero with fd }

def gapTable : Table where
  heap := (Heap.empty.alloc 0 ⟨numberedPort 1, some 1, none⟩).alloc 1 ⟨numberedPort 3, none, some 0⟩
  firstTl := some 0
  comm := fun _ => default
  closed := []

theorem get_free_fd_least_gap :
    ∃ free, IsLeast {n | 0 < n ∧ ∀ node ∈ [(0, numberedPort 1), (1, numberedPort 3)],
        node.2.fd ≠ n} free ∧ free ≤ (2 : Nat) + 1 ∧
      getFreeFd gapTable = if free ≤ intMax then .ok free else .error .overflow :=
  get_free_fd_least gapTable [(0, numberedPort 1), (1, numberedPort 3)]
    ⟨rfl, ⟨rfl, rfl, trivial⟩, by decide, Nat.le_refl _⟩ (by decide) (by decide)

def consecutivePorts (count : Nat) : List TermiosList :=
  (List.range count).map fun i : Nat => numberedPort (i + 1)

def consecutiveTable (count : Nat) : Table where
  heap := Heap.ofList (consecutivePorts count)
  firstTl := firstOr (nodesFrom 0 (consecutivePorts count)) none
  comm := fun _ => default
  closed := []

theorem consecutive_fds (count : Nat) :
    ((nodesFrom 0 (consecutivePorts count)).map fun node => node.2.fd) =
      (List.range count).map fun i : Nat => (i + 1 : Int) := by
  have values := congrArg (List.map TermiosList.fd) (nodesFrom_values 0 (consecutivePorts count))
  rw [List.map_map] at values
  refine values.trans ?_
  rw [consecutivePorts, List.map_map]
  rfl

theorem consecutive_fd_iff (count : Nat) (fd : Int) :
    (∃ node ∈ nodesFrom 0 (consecutivePorts count), node.2.fd = fd) ↔ 1 ≤ fd ∧ fd ≤ count := by
  have member : fd ∈ (nodesFrom 0 (consecutivePorts count)).map (fun node => node.2.fd) ↔
      1 ≤ fd ∧ fd ≤ count := by
    rw [consecutive_fds, List.mem_map]
    constructor
    · rintro ⟨i, inside, rfl⟩
      have below := List.mem_range.mp inside
      omega
    · rintro ⟨positive, within⟩
      exact ⟨(fd - 1).toNat, List.mem_range.mpr (by omega), by omega⟩
  rw [← member, List.mem_map]

/-- With every positive `int` in the list none is left to return. -/
theorem get_free_fd_overflows :
    ¬ ∀ (t : Table) (nodes : List (Addr × TermiosList)) (_ : t.Lists nodes)
      (_ : (nodes.map fun node => node.2.fd).Pairwise (· < ·))
      (_ : ∀ node ∈ nodes, 1 ≤ node.2.fd ∧ node.2.fd ≤ intMax),
      ∃ free, IsLeast {n | 0 < n ∧ ∀ node ∈ nodes, node.2.fd ≠ n} free ∧
        getFreeFd t = .ok free := by
  intro finds
  obtain ⟨count, count_eq⟩ : ∃ count : Nat, (count : Int) = intMax := ⟨2147483647, rfl⟩
  have lists : (consecutiveTable count).Lists (nodesFrom 0 (consecutivePorts count)) :=
    Linked.ofList (consecutivePorts count)
  have increasing : ((nodesFrom 0 (consecutivePorts count)).map fun node =>
      node.2.fd).Pairwise (· < ·) := by
    rw [consecutive_fds, List.pairwise_map]
    exact List.pairwise_lt_range.imp fun {i j} order => by omega
  have numbers (node : Addr × TermiosList)
      (member : node ∈ nodesFrom 0 (consecutivePorts count)) :=
    (consecutive_fd_iff count node.2.fd).mp ⟨node, member, rfl⟩
  obtain ⟨free, ⟨⟨positive, unused⟩, -⟩, found⟩ :=
    finds _ _ lists increasing fun node member => count_eq ▸ numbers node member
  obtain ⟨least, -, -, returned⟩ := freeFd_least increasing
    (List.forall_mem_map.mpr fun node member => (numbers node member).1)
  rw [← getFreeFd_lists lists, found] at returned
  split_ifs at returned with small
  cases returned
  obtain ⟨node, member, same⟩ :=
    (consecutive_fd_iff count free).mpr ⟨positive, count_eq ▸ small⟩
  exact unused node member same

def Table.entriesFrom (t : Table) : Nat → Option Addr → List TermiosList
  | 0, _ => []
  | _ + 1, none => []
  | fuel + 1, some index =>
    match t.heap.cells index with
    | some node => node.value :: t.entriesFrom fuel node.next
    | none => []

def Table.entries (t : Table) : List TermiosList := t.entriesFrom t.heap.allocated t.firstTl

theorem entriesFrom_segment {t : Table} {before : Option Addr} {nodes : List (Addr × TermiosList)}
    (segment : Segment t.heap before nodes none) {fuel : Nat} (enough : nodes.length ≤ fuel) :
    t.entriesFrom fuel (firstOr nodes none) = nodes.map Prod.snd := by
  induction nodes generalizing before fuel with
  | nil => cases fuel <;> rfl
  | cons node rest ih =>
    rcases node with ⟨index, entry⟩
    obtain ⟨fuel, rfl⟩ := Nat.exists_eq_succ_of_ne_zero
      (Nat.ne_of_gt (Nat.lt_of_lt_of_le (Nat.succ_pos _) enough))
    have later := ih segment.2 (Nat.le_of_succ_le_succ enough)
    show t.entriesFrom (fuel + 1) (some index) = entry :: rest.map Prod.snd
    simp only [Table.entriesFrom, segment.1, later]

theorem entries_lists {t : Table} {nodes : List (Addr × TermiosList)} (lists : t.Lists nodes) :
    t.entries = nodes.map Prod.snd := by
  unfold Table.entries
  rw [Chained.head_eq lists]
  exact entriesFrom_segment (Chained.segment lists) (Chained.within lists)

inductive Call where
  | serialOpen (filename : CString) (flags : BitVec 32) (results : OpenResults)
  | serialClose (fd : Int)

def Call.run (allocator : Allocator TermiosList) : Call → Table → Except Fault (Int × Table)
  | .serialOpen filename flags results, t => Win32.serialOpen allocator results filename flags t
  | .serialClose fd, t => Win32.serialClose fd t

/-- The numbers that were returned for files and not closed since, after a call and its result. -/
def Call.issues (issued : List (Int × CString)) : Call → Int → List (Int × CString)
  | .serialOpen filename _ _, result =>
    if result = -1 then issued else issued ++ [(result, filename)]
  | .serialClose fd, _ => issued.filter fun port => port.1 ≠ fd

abbrev History := Table × List (Int × CString)

def call (allocator : Allocator TermiosList) (c : Call) (s : History) : Option History :=
  match c.run allocator s.1 with
  | .ok (result, t) => some (t, c.issues s.2 result)
  | .error _ => none

/-- An open of a file that is not open meets a table with room for it, and overruns no buffer. -/
def Roomy (s : History) : Call → Prop
  | .serialOpen filename _ results =>
    (∀ entry ∈ s.1.entries, entry.filename ≠ filename) →
      filename.length < filenameSize ∧ results.Reports filename ∧
        ∃ k, Room k (s.1.entries.map TermiosList.fd)
  | .serialClose _ => True

/-- The numbers in the table are positive and distinct, and those that were issued find the ports
    that they were issued for. -/
structure Distinct (s : History) (nodes : List (Addr × TermiosList)) : Prop where
  lists : s.1.Lists nodes
  nodup : (nodes.map fun node => node.2.fd).Nodup
  positive : ∀ node ∈ nodes, 0 < node.2.fd
  finds : ∀ port ∈ s.2, ∃ index entry, findPort port.1 s.1 = .ok (some index) ∧
    (index, entry) ∈ nodes ∧ entry.filename = port.2

def portOf (node : Addr × TermiosList) : Int × CString := (node.2.fd, node.2.filename)

theorem filter_others {nodes : List (Addr × TermiosList)} {fd : Int}
    (others : ∀ node ∈ nodes, node.2.fd ≠ fd) :
    (nodes.map portOf).filter (fun port => port.1 ≠ fd) = nodes.map portOf := by
  apply List.filter_eq_self.mpr
  intro port member
  obtain ⟨node, inside, rfl⟩ := List.mem_map.mp member
  exact decide_eq_true (others node inside)

structure Issued (s : History) (nodes : List (Addr × TermiosList)) : Prop where
  lists : s.1.Lists nodes
  ports : nodes.map portOf = s.2
  nodup : (nodes.map fun node => node.2.fd).Nodup
  positive : ∀ node ∈ nodes, 0 < node.2.fd
  created : ∀ node ∈ nodes, node.2.hComm ≠ 0

theorem Issued.distinct {s : History} {nodes : List (Addr × TermiosList)}
    (issued : Issued s nodes) : Distinct s nodes := by
  refine ⟨issued.lists, issued.nodup, issued.positive, ?_⟩
  intro port member
  rw [← issued.ports, List.mem_map] at member
  rcases member with ⟨⟨index, entry⟩, inside, rfl⟩
  obtain ⟨pre, post, rfl⟩ := List.append_of_mem inside
  have nodup := issued.nodup
  rw [List.map_append, List.nodup_append] at nodup
  have first : ∀ node ∈ pre, node.2.fd ≠ entry.fd := fun node member =>
    nodup.2.2 _ (List.mem_map.mpr ⟨node, member, rfl⟩) _ (by simp)
  exact ⟨index, entry, findPort_found issued.lists issued.positive first, inside, rfl⟩

theorem Issued.serialClose {s : History} {nodes : List (Addr × TermiosList)}
    (issued : Issued s nodes) (fd : Int) :
    ∃ result t' nodes', Win32.serialClose fd s.1 = .ok (result, t') ∧
      Issued (t', s.2.filter fun port => port.1 ≠ fd) nodes' := by
  by_cases known : ∃ node ∈ nodes, node.2.fd = fd
  · rcases known with ⟨⟨index, entry⟩, inside, rfl⟩
    obtain ⟨pre, post, rfl⟩ := List.append_of_mem inside
    have nodup := issued.nodup
    rw [List.map_append, List.map_cons, List.nodup_append] at nodup
    rcases nodup with ⟨preNodup, tailNodup, apart⟩
    obtain ⟨notPost, postNodup⟩ := List.nodup_cons.mp tailNodup
    have before : ∀ node ∈ pre, node.2.fd ≠ entry.fd := fun node member =>
      apart _ (List.mem_map.mpr ⟨node, member, rfl⟩) _ (by simp)
    have after : ∀ node ∈ post, node.2.fd ≠ entry.fd := fun node member same =>
      notPost (List.mem_map.mpr ⟨node, member, same⟩)
    obtain ⟨t', closes, rest, -⟩ :=
      serialClose_found issued.lists issued.positive issued.created before
    have kept : ∀ node ∈ pre ++ post, node ∈ pre ++ (index, entry) :: post := by
      intro node member
      simp only [List.mem_append, List.mem_cons] at member ⊢
      tauto
    refine ⟨0, t', pre ++ post, closes, rest, ?_, ?_, fun node member =>
      issued.positive node (kept node member), fun node member =>
      issued.created node (kept node member)⟩
    · show (pre ++ post).map portOf = s.2.filter fun port => port.1 ≠ entry.fd
      rw [← issued.ports, List.map_append, List.map_append, List.map_cons, List.filter_append,
        List.filter_cons, if_neg (by simp [portOf]), filter_others before, filter_others after]
    · rw [List.map_append, List.nodup_append]
      exact ⟨preNodup, postNodup, fun fd member fd' member' =>
        apart fd member fd' (List.mem_cons_of_mem _ member')⟩
  · have absent : ∀ node ∈ nodes, node.2.fd ≠ fd := fun node member same =>
      known ⟨node, member, same⟩
    obtain ⟨result, closes⟩ := serialClose_missed issued.lists issued.positive absent
    refine ⟨result, s.1, nodes, closes, issued.lists, ?_, issued.nodup, issued.positive,
      issued.created⟩
    rw [← issued.ports, filter_others absent]

theorem Issued.serialOpen (allocator : Allocator TermiosList) {s : History}
    {nodes : List (Addr × TermiosList)} (issued : Issued s nodes) {filename : CString}
    {flags : BitVec 32} {results : OpenResults}
    (roomy : Roomy s (.serialOpen filename flags results)) :
    ∃ result t' nodes', Win32.serialOpen allocator results filename flags s.1 = .ok (result, t') ∧
      Issued (t', if result = -1 then s.2 else s.2 ++ [(result, filename)]) nodes' := by
  by_cases known : ∃ node ∈ nodes, node.2.filename = filename
  · rcases known with ⟨node, member, named⟩
    obtain ⟨fd, opened, number⟩ := portOpened_present issued.lists issued.positive member named
    refine ⟨-1, s.1, nodes, ?_, issued.lists, issued.ports.trans (if_pos rfl).symm, issued.nodup,
      issued.positive, issued.created⟩
    simp [Win32.serialOpen, opened, number, Bind.bind, Except.bind, Pure.pure, Except.pure]
  · have absent : ∀ node ∈ nodes, node.2.filename ≠ filename := fun node member named =>
      known ⟨node, member, named⟩
    have numbers : s.1.entries.map TermiosList.fd = nodes.map fun node => node.2.fd := by
      rw [entries_lists issued.lists, List.map_map]
      rfl
    obtain ⟨short, reports, k, room⟩ := roomy (by
      rw [entries_lists issued.lists]
      exact List.forall_mem_map.mpr absent)
    rw [numbers] at room
    have fresh : ∀ node ∈ nodes, node.2.fd ≠ (k + 1 : Int) := fun node member same =>
      room.2.2 (List.mem_map.mpr ⟨node, member, same⟩)
    have free := freeFd_room (List.forall_mem_map.mpr issued.positive) room
    rcases serialOpen_cases allocator results issued.lists issued.positive issued.created absent
      short free (by omega) flags with
      ⟨unreported, -⟩ | ⟨-, t', index, entry, fails, opened, lists, -⟩ |
      ⟨-, t', index, entry, kept, opens, opened, same, lists⟩
    · exact absurd reports unreported
    · rw [eraseP_first opened.number fresh, List.append_nil] at lists
      exact ⟨-1, t', nodes, fails, lists, issued.ports, issued.nodup, issued.positive,
        issued.created⟩
    · have ports := map_of_unset portOf (fun _ => rfl) same
      have fds := map_of_unset (fun node => node.2.fd) (fun _ => rfl) same
      refine ⟨k + 1, t', kept ++ [(index, entry)], opens, lists, ?_, ?_, ?_, ?_⟩
      · rw [if_neg (by omega), List.map_append, ports, issued.ports]
        simp [portOf, opened.number, opened.named]
      · rw [List.map_append, List.nodup_append, fds]
        refine ⟨issued.nodup, by simp, ?_⟩
        intro fd member other new same
        subst same
        rw [List.map_singleton, List.mem_singleton, opened.number] at new
        exact room.2.2 (new ▸ member)
      · intro node member
        rcases List.mem_append.mp member with old | new
        · exact forall_of_unset _ (fun _ => Iff.rfl) same issued.positive node old
        · rw [List.mem_singleton.mp new, opened.number]
          omega
      · intro node member
        rcases List.mem_append.mp member with old | new
        · exact forall_of_unset _ (fun _ => Iff.rfl) same issued.created node old
        · rw [List.mem_singleton.mp new]
          exact opened.created

theorem Issued.call (allocator : Allocator TermiosList) {s : History}
    {nodes : List (Addr × TermiosList)} (issued : Issued s nodes) {c : Call} (roomy : Roomy s c) :
    ∃ s' nodes', Win32.call allocator c s = some s' ∧ Issued s' nodes' := by
  cases c with
  | serialOpen filename flags results =>
    obtain ⟨result, t', nodes', opens, issued'⟩ := issued.serialOpen allocator roomy
    exact ⟨_, nodes', by simp only [Win32.call, Call.run, opens, Call.issues], issued'⟩
  | serialClose fd =>
    obtain ⟨result, t', nodes', closes, issued'⟩ := issued.serialClose fd
    exact ⟨_, nodes', by simp only [Win32.call, Call.run, closes, Call.issues], issued'⟩

/-- In every run of opens and closes that find room the numbers are distinct, every issued number
    finds its port, and no call fails. -/
theorem fds_distinct (allocator : Allocator TermiosList) (comm : Handle → CommPort)
    (calls : List Call) (s : History)
    (path : Path (Guarded Roomy (Takes (call allocator))) (Table.empty comm, []) calls s) :
    (∃ nodes, Distinct s nodes) ∧ ∀ c, Roomy s c → ∃ s', call allocator c s = some s' := by
  have step (s : History) (c : Call) (issued : ∃ nodes, Issued s nodes) (roomy : Roomy s c) :
      ∃ s', call allocator c s = some s' ∧ ∃ nodes, Issued s' nodes := by
    rcases issued with ⟨nodes, issued⟩
    obtain ⟨s', nodes', called, issued'⟩ := issued.call allocator roomy
    exact ⟨s', called, nodes', issued'⟩
  have start : Issued (Table.empty comm, []) [] :=
    ⟨Linked.empty, rfl, by simp, by simp, by simp⟩
  obtain ⟨kept, total⟩ := path.progress (fun s => ∃ nodes, Issued s nodes) step ⟨[], start⟩
  rcases kept with ⟨nodes, issued⟩
  exact ⟨⟨nodes, issued.distinct⟩, total⟩

def opensWell : OpenResults :=
  ⟨7, by decide, true, 1, 2, 3, ⟨true, true, true, true⟩, true, ⟨true, true, true, true⟩, [], false⟩

theorem fds_distinct_two :
    ∃ s, Path (Guarded Roomy (Takes (call .bump))) (Table.empty fun _ => default, [])
        [.serialOpen ['a'] 0 opensWell, .serialOpen ['b'] 0 opensWell] s ∧
      (∃ nodes, Distinct s nodes) ∧ ∀ c, Roomy s c → ∃ s', call .bump c s = some s' := by
  obtain ⟨s, path⟩ : ∃ s, Path (Guarded Roomy (Takes (call .bump)))
      (Table.empty fun _ => default, [])
      [.serialOpen ['a'] 0 opensWell, .serialOpen ['b'] 0 opensWell] s :=
    ⟨_, .cons ⟨fun _ => ⟨by decide, by decide, 0, trivial, by decide, by decide⟩, rfl⟩
      (.cons ⟨fun _ => ⟨by decide, by decide, 1, ⟨rfl, trivial⟩, by decide, by decide⟩, rfl⟩
        (.nil _))⟩
  exact ⟨s, path, fds_distinct .bump (fun _ => default) _ s path⟩

/-- Three files are opened and the second is closed. The next open gets its number and the tail of
    the list, and so does the one after. -/
theorem fds_not_distinct :
    ¬ ∀ (allocator : Allocator TermiosList) (comm : Handle → CommPort) (calls : List Call)
      (s : History), Path (Takes (call allocator)) (Table.empty comm, []) calls s →
      ∃ nodes, Distinct s nodes := by
  intro distinct
  obtain ⟨s, followed, fds⟩ : ∃ s, follow (call .bump)
      [.serialOpen ['a'] 0 opensWell, .serialOpen ['b'] 0 opensWell,
        .serialOpen ['c'] 0 opensWell, .serialClose 2, .serialOpen ['d'] 0 opensWell,
        .serialOpen ['e'] 0 opensWell] (Table.empty fun _ => default, []) = some s ∧
      s.1.entries.map TermiosList.fd = [1, 3, 2, 2] := ⟨_, rfl, by decide⟩
  obtain ⟨nodes, lists, nodup, -⟩ := distinct .bump _ _ s (follow_path followed)
  rw [entries_lists lists, List.map_map] at fds
  have same : nodes.map (fun node => node.2.fd) = [1, 3, 2, 2] := fds
  rw [same] at nodup
  exact absurd nodup (by decide)

end Rxtx.Win32
