import Mathlib.Data.List.Basic
import Rxtx.SerialImp.Preopened

open LinkedHeap Runs

namespace Rxtx.SerialImp

structure PresetPort where
  filename : CString
  fd : Int
  short : filename.length < filenameSize
  positive : 0 < fd

def PresetPort.entry (port : PresetPort) : Preopened := ⟨port.filename, port.fd⟩

/-- The purpose of the list: a finite map from filename to fd, oldest binding first. -/
structure Bindings where
  entries : List PresetPort
  distinct : (entries.map PresetPort.filename).Nodup

namespace Bindings

def none : Bindings := ⟨[], by simp⟩

def Bound (m : Bindings) (filename : CString) : Prop :=
  ∃ port ∈ m.entries, port.filename = filename

instance (m : Bindings) (filename : CString) : Decidable (m.Bound filename) :=
  inferInstanceAs (Decidable (∃ port ∈ m.entries, port.filename = filename))

def fd (m : Bindings) (filename : CString) : Int :=
  ((m.entries.find? fun port => port.filename = filename).map PresetPort.fd).getD 0

def bind (m : Bindings) (port : PresetPort) : Bindings :=
  if absent : m.Bound port.filename then m else
    { entries := m.entries ++ [port]
      distinct := by
        rw [List.map_append, List.nodup_append]
        refine ⟨m.distinct, by simp, ?_⟩
        intro name member other single same
        obtain ⟨bound, inside, rfl⟩ := List.mem_map.mp member
        simp at single
        exact absent ⟨bound, inside, same.trans single⟩ }

def unbind (m : Bindings) (filename : CString) : Bindings where
  entries := m.entries.filter fun port => port.filename ≠ filename
  distinct := m.distinct.sublist (List.filter_sublist.map _)

theorem bind_bound {m : Bindings} {port : PresetPort} (bound : m.Bound port.filename) :
    m.bind port = m := by
  simp [bind, bound]

theorem bind_entries {m : Bindings} {port : PresetPort} (absent : ¬ m.Bound port.filename) :
    (m.bind port).entries = m.entries ++ [port] := by
  simp [bind, absent]

theorem fd_of_split {m : Bindings} {pre post : List PresetPort} {port : PresetPort}
    (split : m.entries = pre ++ port :: post) : m.fd port.filename = port.fd := by
  have distinct := m.distinct
  rw [split, List.map_append, List.nodup_append] at distinct
  have skipped : pre.find? (fun other => other.filename = port.filename) = Option.none := by
    rw [List.find?_eq_none]
    intro other member
    have apart := distinct.2.2 other.filename (List.mem_map_of_mem member) port.filename (by simp)
    simpa using apart
  simp [fd, split, List.find?_append, skipped]

theorem fd_absent {m : Bindings} {filename : CString} (absent : ¬ m.Bound filename) :
    m.fd filename = 0 := by
  have missed : m.entries.find? (fun port => port.filename = filename) = Option.none := by
    rw [List.find?_eq_none]
    intro port member
    simpa using fun same => absent ⟨port, member, same⟩
  simp [fd, missed]

theorem fd_bind {m : Bindings} {port : PresetPort} (absent : ¬ m.Bound port.filename)
    (filename : CString) :
    (m.bind port).fd filename = if filename = port.filename then port.fd else m.fd filename := by
  by_cases same : filename = port.filename
  · subst same
    rw [if_pos rfl]
    have split : (m.bind port).entries = m.entries ++ port :: [] := bind_entries absent
    exact fd_of_split split
  · simp only [fd, bind_entries absent, List.find?_append, same, ite_false]
    have other : ¬ port.filename = filename := fun h => same h.symm
    simp [other]

theorem unbind_absent {m : Bindings} {filename : CString} (absent : ¬ m.Bound filename) :
    (m.unbind filename).entries = m.entries := by
  rw [unbind, List.filter_eq_self]
  intro port member
  simpa using fun same => absent ⟨port, member, same⟩

theorem unbind_of_split {m : Bindings} {pre post : List PresetPort} {port : PresetPort}
    (split : m.entries = pre ++ port :: post) :
    (m.unbind port.filename).entries = pre ++ post := by
  have distinct := m.distinct
  rw [split, List.map_append, List.nodup_append, List.map_cons, List.nodup_cons] at distinct
  rcases distinct with ⟨-, ⟨notPost, -⟩, apart⟩
  have keepPre : pre.filter (fun other => other.filename ≠ port.filename) = pre := by
    rw [List.filter_eq_self]
    intro other member
    simpa using apart other.filename (List.mem_map_of_mem member) port.filename (by simp)
  have keepPost : post.filter (fun other => other.filename ≠ port.filename) = post := by
    rw [List.filter_eq_self]
    intro other member
    have apart : other.filename ≠ port.filename := by
      intro same
      rw [← same] at notPost
      exact notPost (List.mem_map_of_mem member)
    simpa using apart
  simp only [unbind, split, List.filter_append, keepPre]
  rw [List.filter_cons_of_neg (by simp), keepPost]

end Bindings

inductive Call where
  | add (port : PresetPort)
  | find (filename : CString)

def call (allocator : Allocator Preopened) : Call → Ports → Except Fault (Int × Ports)
  | .add port, s => (staticAddFilename allocator port.filename port.fd s).map fun s' => (0, s')
  | .find filename, s => findPreopenedPorts filename s

def mapCall : Call → Bindings → Int × Bindings
  | .add port, m => (0, m.bind port)
  | .find filename, m => (m.fd filename, m.unbind filename)

/-- `preopened_port` stays the oldest binding: no third name is added, and the oldest of several
    names is not taken out. -/
def KeepsHead (m : Bindings) : Call → Prop
  | .add port => m.Bound port.filename ∨ m.entries.length ≤ 1
  | .find filename =>
    m.entries.length ≤ 1 ∨ m.entries.head?.map PresetPort.filename ≠ .some filename

def Shows (s : Ports) (m : Bindings) : Prop :=
  ∃ nodes, Linked s.heap s.preopenedPort nodes ∧
    nodes.map Prod.snd = m.entries.map PresetPort.entry

theorem shows_none : Shows Ports.none Bindings.none := ⟨[], Linked.empty, rfl⟩

theorem bound_iff {m : Bindings} {nodes : List (Addr × Preopened)} (filename : CString)
    (same : nodes.map Prod.snd = m.entries.map PresetPort.entry) :
    m.Bound filename ↔ ∃ node ∈ nodes, node.2.filename = filename := by
  have inNodes : (∃ node ∈ nodes, node.2.filename = filename) ↔
      ∃ entry ∈ nodes.map Prod.snd, entry.filename = filename := by
    simp only [List.mem_map, exists_exists_and_eq_and]
  rw [inNodes, same]
  simp only [Bindings.Bound, List.mem_map, exists_exists_and_eq_and, PresetPort.entry]

theorem split_entries {m : Bindings} {pre post : List (Addr × Preopened)} {a : Addr}
    {v : Preopened} (same : (pre ++ (a, v) :: post).map Prod.snd = m.entries.map PresetPort.entry) :
    ∃ older port newer, m.entries = older ++ port :: newer ∧
      pre.map Prod.snd = older.map PresetPort.entry ∧ v = port.entry ∧
      post.map Prod.snd = newer.map PresetPort.entry := by
  rw [List.map_append, List.map_cons, eq_comm, List.map_eq_append_iff] at same
  rcases same with ⟨older, rest, split, left, right⟩
  obtain ⟨port, newer, rfl, here, later⟩ := List.map_eq_cons_iff.mp right
  exact ⟨older, port, newer, split, left.symm, here.symm, later.symm⟩

theorem call_add_shows (allocator : Allocator Preopened) {s : Ports} {m : Bindings}
    (port : PresetPort) (shown : Shows s m) (keeps : KeepsHead m (.add port)) :
    ∃ s', call allocator (.add port) s = .ok (0, s') ∧ Shows s' (m.bind port) := by
  rcases shown with ⟨nodes, linked, same⟩
  by_cases bound : m.Bound port.filename
  · obtain ⟨node, member, named⟩ := (bound_iff port.filename same).mp bound
    obtain ⟨heap, added, linked'⟩ :=
      staticAddFilename_present allocator linked port.fd port.short member named
    exact ⟨⟨heap, s.preopenedPort⟩, by simp [call, added, Except.map], nodes, linked',
      by rw [Bindings.bind_bound bound, same]⟩
  · have few : nodes.length ≤ 1 := by
      have count := congrArg List.length same
      simp only [List.length_map] at count
      rw [count]
      exact keeps.resolve_left bound
    have absent : ∀ node ∈ nodes, node.2.filename ≠ port.filename :=
      fun node member named => bound ((bound_iff port.filename same).mpr ⟨node, member, named⟩)
    have bindSame (new : Addr) : (nodes ++ [(new, port.entry)]).map Prod.snd =
        (m.bind port).entries.map PresetPort.entry := by
      rw [Bindings.bind_entries bound, List.map_append, List.map_append, same]
      rfl
    match nodes, few with
    | [], _ =>
      obtain ⟨heap, head, added, linked'⟩ :=
        staticAddFilename_empty allocator port.filename port.fd port.short
        linked.head_eq
      exact ⟨⟨heap, head⟩, by simp [call, added, Except.map], _, linked', bindSame _⟩
    | [(t, v)], _ =>
      have shape : Linked s.heap s.preopenedPort ([] ++ [(t, v)]) := linked
      obtain ⟨heap, added, linked'⟩ :=
        staticAddFilename_absent allocator shape port.fd port.short absent
      have head : s.preopenedPort = some t := linked.head_eq
      rw [head] at linked'
      exact ⟨⟨heap, .some t⟩, by simp [call, added, Except.map], _, linked', bindSame _⟩

theorem call_find_cases (allocator : Allocator Preopened) {s : Ports} {m : Bindings}
    (filename : CString) (shown : Shows s m) :
    (¬ m.Bound filename ∧ call allocator (.find filename) s = .ok (0, s)) ∨
    ∃ older port newer heap nodes, m.entries = older ++ port :: newer ∧ port.filename = filename ∧
      call allocator (.find filename) s =
        .ok (port.fd, ⟨heap, if nodes = [] then .none else s.preopenedPort⟩) ∧
      Linked heap (firstOr nodes .none) nodes ∧
      nodes.map Prod.snd = (older ++ newer).map PresetPort.entry ∧
      (older ≠ [] → s.preopenedPort = firstOr nodes .none) ∧
      (older = [] → ∃ a, s.preopenedPort = .some a ∧ heap.cells a = .none) := by
  rcases shown with ⟨nodes, linked, same⟩
  rcases split_at_first (Preopened.named filename) nodes with
    none | ⟨pre, a, v, post, rfl, skipped, found⟩
  · have absent : ∀ node ∈ nodes, node.2.filename ≠ filename :=
      fun node member => by simpa [Preopened.named] using none node member
    refine .inl ⟨by simpa [bound_iff filename same] using absent, ?_⟩
    exact findPreopenedPorts_missed linked absent
  · have named : v.filename = filename := by simpa [Preopened.named] using found
    subst named
    obtain ⟨older, port, newer, split, left, rfl, right⟩ := split_entries same
    obtain ⟨heap, removed, gone, linked', -⟩ := findPreopenedPorts_found linked (fun _ => rfl)
      fun node member => by simpa [Preopened.named] using skipped node member
    refine .inr ⟨older, port, newer, heap, pre ++ post, split, rfl, removed, linked',
      by rw [List.map_append, List.map_append, left, right], ?_, ?_⟩
    · intro some
      cases pre with
      | nil => exact absurd left.symm (by simpa using some)
      | cons node pre => exact linked.head_eq
    · intro empty
      rcases empty with rfl
      have first : pre = [] := by simpa using left
      subst first
      exact ⟨a, linked.head_eq, gone⟩

theorem call_find_answer (allocator : Allocator Preopened) {s : Ports} {m : Bindings}
    (filename : CString) (shown : Shows s m) :
    ∃ s', call allocator (.find filename) s = .ok (m.fd filename, s') := by
  rcases call_find_cases allocator filename shown with
    ⟨unbound, missed⟩ | ⟨older, port, newer, heap, nodes, split, rfl, taken, -⟩
  · exact ⟨s, by rw [Bindings.fd_absent unbound, missed]⟩
  · exact ⟨_, by rw [Bindings.fd_of_split split, taken]⟩

theorem call_find_shows (allocator : Allocator Preopened) {s : Ports} {m : Bindings}
    (filename : CString) (shown : Shows s m) (keeps : KeepsHead m (.find filename)) :
    ∃ s', call allocator (.find filename) s = .ok (m.fd filename, s') ∧
      Shows s' (m.unbind filename) := by
  rcases call_find_cases allocator filename shown with ⟨unbound, missed⟩ |
    ⟨older, port, newer, heap, nodes, split, rfl, taken, linked, same, inner, -⟩
  · rcases shown with ⟨nodes, linked, same⟩
    exact ⟨s, by rw [Bindings.fd_absent unbound, missed], nodes, linked,
      by rw [Bindings.unbind_absent unbound, same]⟩
  · have head : (if nodes = [] then .none else s.preopenedPort) = firstOr nodes .none := by
      by_cases older_nil : older = []
      · -- the oldest binding may only be the sole one
        subst older_nil
        have sole : newer = [] := by
          rcases keeps with few | notHead
          · simpa [split] using few
          · simp [split] at notHead
        have empty : nodes = [] := by simpa [sole] using same
        simp [empty, firstOr]
      · have remaining : nodes ≠ [] := by
          intro empty
          simp only [empty, List.map_nil, List.nil_eq, List.map_eq_nil_iff,
            List.append_eq_nil_iff] at same
          exact older_nil same.1
        rw [if_neg remaining, inner older_nil]
    rw [head] at taken
    exact ⟨⟨heap, firstOr nodes .none⟩, by rw [Bindings.fd_of_split split, taken], nodes, linked,
      by rw [Bindings.unbind_of_split split, same]⟩

theorem call_shows (allocator : Allocator Preopened) (c : Call) (s : Ports) (m : Bindings)
    (shown : Shows s m) (keeps : KeepsHead m c) :
    ∃ s', call allocator c s = .ok ((mapCall c m).1, s') ∧ Shows s' (mapCall c m).2 := by
  cases c with
  | add port => exact call_add_shows allocator port shown keeps
  | find filename => exact call_find_shows allocator filename shown keeps

theorem add_third_lost (allocator : Allocator Preopened) {s : Ports} {m : Bindings}
    {port : PresetPort} (shown : Shows s m) (third : ¬ KeepsHead m (.add port)) :
    ∃ filename, ¬ Answers (call allocator) mapCall [.add port, .find filename] s m := by
  rcases shown with ⟨nodes, linked, same⟩
  obtain ⟨absent, many⟩ := not_or.mp third
  have notNamed : ∀ node ∈ nodes, node.2.filename ≠ port.filename :=
    fun node member named => absent ((bound_iff port.filename same).mpr ⟨node, member, named⟩)
  have count := congrArg List.length same
  simp only [List.length_map] at count
  obtain ⟨front, ⟨t, v⟩, rfl⟩ : ∃ front last, nodes = front ++ [last] := by
    rcases List.eq_nil_or_concat nodes with rfl | ⟨front, last, shape⟩
    · simp at count
      omega
    · exact ⟨front, last, by simpa using shape⟩
  cases front with
  | nil => simp at count; omega
  | cons node front =>
    rcases node with ⟨a, u⟩
    have shape : ([] ++ (a, u) :: (front ++ [(t, v)])).map Prod.snd =
      m.entries.map PresetPort.entry := same
    obtain ⟨older, first, newer, split, left, rfl, right⟩ := split_entries shape
    have empty : older = [] := by simpa using left.symm
    subst empty
    refine ⟨first.filename, ?_⟩
    obtain ⟨heap, added, linked'⟩ :=
      staticAddFilename_absent allocator linked port.fd port.short notNamed
    have notLast : v.filename ≠ first.filename := by
      have inNewer : v ∈ newer.map PresetPort.entry := by rw [← right]; simp
      obtain ⟨last, member, rfl⟩ := List.mem_map.mp inNewer
      have distinct := m.distinct
      rw [split, List.nil_append, List.map_cons, List.nodup_cons] at distinct
      intro clash
      exact distinct.1 (clash ▸ List.mem_map_of_mem member)
    have notNew : port.filename ≠ first.filename := (notNamed (a, first.entry) (by simp)).symm
    -- preopened_port is now the node that was last, and only the new one follows it
    rw [List.append_assoc] at linked'
    have search := linked'.search_missed_from (Preopened.named first.filename)
      (by simpa [Preopened.named] using ⟨notLast, notNew⟩) rfl
    have missed : findPreopenedPorts first.filename ⟨heap, .some t⟩ = .ok (0, ⟨heap, .some t⟩) := by
      simp [findPreopenedPorts, search, Bind.bind, Except.bind, Pure.pure, Except.pure]
    have lost : (m.bind port).fd first.filename = first.fd := by
      rw [Bindings.fd_bind absent, if_neg notNew.symm, Bindings.fd_of_split split]
    have positive := first.positive
    simp only [Answers, perform, specified, call, mapCall, added, missed, lost, Except.map,
      Except.ok.injEq, List.cons.injEq]
    omega

theorem find_oldest_dangles (allocator : Allocator Preopened) {s : Ports} {m : Bindings}
    {filename : CString} (shown : Shows s m) (oldest : ¬ KeepsHead m (.find filename))
    (next : CString) : ¬ Answers (call allocator) mapCall [.find filename, .find next] s m := by
  obtain ⟨many, atHead⟩ := not_or.mp oldest
  rcases call_find_cases allocator filename shown with ⟨unbound, -⟩ |
    ⟨older, port, newer, heap, nodes, split, rfl, taken, -, same, -, dangling⟩
  · have head := not_not.mp atHead
    obtain ⟨first, isFirst, named⟩ := Option.map_eq_some_iff.mp head
    exact absurd ⟨first, List.mem_of_mem_head? isFirst, named⟩ unbound
  · have first : older = [] := by
      cases older with
      | nil => rfl
      | cons other older =>
        have distinct := m.distinct
        rw [split] at atHead distinct
        simp at atHead distinct
        exact absurd atHead distinct.1.2.1
    obtain ⟨a, head, gone⟩ := dangling first
    have remaining : nodes ≠ [] := by
      intro empty
      rcases empty with rfl
      simp [first] at same
      simp [split, first, same] at many
    obtain ⟨fault, search⟩ := Heap.search_freed gone (Preopened.named next)
    have dangles : call allocator (.find next) ⟨heap, some a⟩ = .error fault := by
      simp [call, findPreopenedPorts, search, Bind.bind, Except.bind]
    rw [if_neg remaining, head] at taken
    simp [Answers, perform, taken, dangles, Except.map]

/-- The list behaves as a finite map after every call, as any further lookup tells, exactly when
    every call keeps the head. -/
theorem preopened_ports_finite_map_iff (allocator : Allocator Preopened) (calls : List Call) :
    (∀ made, made <+: calls → ∀ filename,
      Answers (call allocator) mapCall (made ++ [.find filename]) Ports.none Bindings.none) ↔
    EachMeets mapCall KeepsHead calls Bindings.none := by
  constructor
  · intro answers
    by_contra unmet
    obtain ⟨made, c, rest, rfl, met, broken⟩ := first_unmet mapCall KeepsHead unmet
    obtain ⟨s, done, shown⟩ := simulates (call_shows allocator) shows_none met
    have further : ∀ filename, Answers (call allocator) mapCall [c, .find filename] s
        (specified mapCall made Bindings.none).2 := by
      intro filename
      have answer := answers (made ++ [c]) ⟨rest, by simp⟩ filename
      rwa [List.append_assoc, answers_append done] at answer
    cases c with
    | add port =>
      obtain ⟨filename, lost⟩ := add_third_lost allocator shown broken
      exact lost (further filename)
    | find filename => exact find_oldest_dangles allocator shown broken filename (further filename)
  · intro met made begins filename
    rcases begins with ⟨rest, rfl⟩
    rw [eachMeets_append] at met
    obtain ⟨s, done, shown⟩ := simulates (call_shows allocator) shows_none met.1
    rw [answers_append done]
    obtain ⟨s', answer⟩ := call_find_answer allocator filename shown
    simp [Answers, perform, specified, mapCall, answer, Except.map]

/-- Three ports, then a lookup of the first one added: it is not found. -/
theorem preopened_ports_not_finite_map :
    ¬ ∀ (allocator : Allocator Preopened) (calls : List Call),
      Answers (call allocator) mapCall calls Ports.none Bindings.none := by
  intro answers
  have lookup := answers .bump [.add ⟨['a'], 3, by decide, by decide⟩,
    .add ⟨['b'], 4, by decide, by decide⟩, .add ⟨['c'], 5, by decide, by decide⟩, .find ['a']]
  revert lookup
  unfold Answers
  decide

end Rxtx.SerialImp
