import Rxtx.SerialImp.Preopened
import Rxtx.Win32.Settings

open LinkedHeap
open Rxtx.SerialImp (CString strcpy)

namespace Rxtx.Win32

/-- A handle of the system; 0 is NULL. -/
abbrev Handle := Int

def invalidHandleValue : Handle := -1

/-- The members that `termios.c` reads; `rol`, `wol` and `sol` are the events of the structures of
    those names. -/
structure TermiosList where
  filename : CString
  interrupt : Int
  txHappened : Int
  hComm : Handle
  ttyset : Termios
  openFlags : BitVec 32
  rol : Handle
  wol : Handle
  sol : Handle
  fd : Int

def TermiosList.zero : TermiosList := ⟨[], 0, 0, 0, Termios.zero, 0, 0, 0, 0, 0⟩

/-- Where the loop of `find_port` ends: at the number it looks for, and at an entry without one. -/
def TermiosList.ends (fd : Int) (entry : TermiosList) : Bool := entry.fd = 0 ∨ entry.fd = fd

def TermiosList.named (filename : CString) (entry : TermiosList) : Bool :=
  entry.filename = filename

structure CommPort where
  dcb : Dcb
  timeouts : CommTimeouts
  deriving DecidableEq, Inhabited, Repr

/-- The C heap, the global `first_tl`, the ports of the driver and the handles that were given to
    `CloseHandle`. -/
structure Table where
  heap : Heap TermiosList
  firstTl : Option Addr
  comm : Handle → CommPort
  closed : List Handle

def Table.empty (comm : Handle → CommPort) : Table := ⟨Heap.empty, none, comm, []⟩

def Table.setComm (t : Table) (hComm : Handle) (port : CommPort) : Table :=
  { t with comm := Function.update t.comm hComm port }

def Table.assign (t : Table) (index : Addr) (f : TermiosList → TermiosList) :
    Except Fault Table := do
  return { t with heap := ← t.heap.modify index fun node => { node with value := f node.value } }

def findPort (fd : Int) (t : Table) : Except Fault (Option Addr) :=
  match t.firstTl with
  | none => return none
  | some first => do
    if fd ≤ 0 then return none
    let (index, ended) ← t.heap.search (TermiosList.ends fd) first
    if !ended then return none
    let node ← t.heap.read index
    return if node.value.fd = fd then some index else none

def portOpened (filename : CString) (t : Table) : Except Fault Int :=
  match t.firstTl with
  | none => return 0
  | some first => do
    let (index, found) ← t.heap.search (TermiosList.named filename) first
    if !found then return 0
    return (← t.heap.read index).value.fd

/-- Which calls of the driver succeed. A call that fails changes nothing, and the two getters give
    what was set last. -/
structure CommResults where
  getCommState : Bool
  getCommTimeouts : Bool
  setCommState : Bool
  setCommTimeouts : Bool
  deriving DecidableEq, Repr

/-- The result is the returned value and the caller's `struct termios`. -/
def tcgetattr (results : CommResults) (fd : Int) (s : Termios) (t : Table) :
    Except Fault (Int × Termios) := do
  if fd ≤ 0 then return (0, s)
  match ← findPort fd t with
  | none => return (-1, s)
  | some index =>
    let entry := (← t.heap.read index).value
    let port := t.comm entry.hComm
    if !results.getCommState then return (-1, s)
    let s := tcgetattrFlags port.dcb entry.ttyset
    if !results.getCommTimeouts then return (-1, s)
    return (0, tcgetattrChars port.dcb port.timeouts s)

/-- The calls of the driver that `tcsetattr` makes for a port, up to the first that fails. -/
def tcsetattrPort (results : CommResults) (s : Termios) (port : CommPort) :
    Int × Termios × CommPort :=
  if s.cLflag &&& icanon ≠ 0 then (-1, s, port)
  else if !results.getCommState then (-1, s, port)
  else if !results.getCommTimeouts then (-1, s, port)
  else
    let (s, dcb) := tcsetattrDcb s port.dcb
    if !results.setCommState then (-1, s, port)
    else if !results.setCommTimeouts then (-1, s, { port with dcb })
    else (0, s, { dcb, timeouts := tcsetattrTimeouts s })

def tcsetattr (results : CommResults) (fd _when : Int) (s : Termios) (t : Table) :
    Except Fault (Int × Termios × Table) := do
  if fd ≤ 0 then return (0, s, t)
  match ← findPort fd t with
  | none => return (-1, s, t)
  | some index =>
    let hComm := (← t.heap.read index).value.hComm
    let (result, s, port) := tcsetattrPort results s (t.comm hComm)
    let t := t.setComm hComm port
    if result ≠ 0 then return (result, s, t)
    return (0, s, ← t.assign index fun entry => { entry with ttyset := s })

theorem assign_of_cell {t : Table} {index : Addr} {node : Node TermiosList}
    (cell : t.heap.cells index = some node) (f : TermiosList → TermiosList) :
    t.assign index f = .ok { t with
      heap := t.heap.adjust index fun node => { node with value := f node.value } } := by
  simp [Table.assign, Heap.modify_live ⟨node, cell⟩, Bind.bind, Except.bind, Pure.pure,
    Except.pure]

theorem findPort_adjust (fd : Int) (t : Table) (comm : Handle → CommPort) (index : Addr)
    (f : TermiosList → TermiosList) (numbered : ∀ entry, (f entry).fd = entry.fd) :
    findPort fd { t with
      heap := t.heap.adjust index fun node => { node with value := f node.value }
      comm := comm } = findPort fd t := by
  have walks := t.heap.walk_adjust (TermiosList.ends fd) index f
    (by simp [TermiosList.ends, numbered])
  unfold findPort
  cases t.firstTl with
  | none => rfl
  | some first =>
    simp only [Heap.search, Heap.adjust_allocated, walks]
    cases t.heap.walk (TermiosList.ends fd) t.heap.allocated first with
    | error fault => rfl
    | ok r =>
      rcases r with ⟨found, ended⟩
      simp only [Bind.bind, Except.bind, Heap.read]
      by_cases same : found = index
      · subst same
        rw [Heap.adjust_same]
        cases t.heap.cells found with
        | none => rfl
        | some node => simp [numbered]
      · rw [Heap.adjust_other t.heap _ same]

theorem findPort_some {fd : Int} {t : Table} {index : Addr}
    (found : findPort fd t = .ok (some index)) :
    0 < fd ∧ ∃ node, t.heap.cells index = some node ∧ node.value.fd = fd := by
  unfold findPort at found
  split at found
  · cases found
  next first _ =>
    split_ifs at found with positive
    · cases found
    · obtain ⟨⟨stop, ended⟩, -, found⟩ := bind_eq_ok.mp found
      cases ended with
      | false => cases found
      | true =>
        obtain ⟨node, read, found⟩ := bind_eq_ok.mp found
        have numbered := Except.ok.inj found
        split_ifs at numbered with same
        cases numbered
        exact ⟨not_le.mp positive, node, Heap.read_eq_ok.mp read, same⟩

theorem tcsetattrPort_accepted {results : CommResults} {s s' : Termios} {port port' : CommPort}
    (accepted : tcsetattrPort results s port = (0, s', port')) :
    s' = (tcsetattrDcb s port.dcb).1 ∧
      port' = ⟨(tcsetattrDcb s port.dcb).2, tcsetattrTimeouts s'⟩ := by
  unfold tcsetattrPort at accepted
  split_ifs at accepted <;> simp at accepted
  exact ⟨accepted.1.symm, by rw [← accepted.1, ← accepted.2]⟩

theorem tcsetattr_of_port {results : CommResults} {fd action : Int} {s : Termios} {t : Table}
    {index : Addr} {node : Node TermiosList} (opened : findPort fd t = .ok (some index))
    (cell : t.heap.cells index = some node) {result : Int} {s' : Termios} {port : CommPort}
    (sent : tcsetattrPort results s (t.comm node.value.hComm) = (result, s', port)) :
    tcsetattr results fd action s t = .ok (
      if result ≠ 0 then (result, s', t.setComm node.value.hComm port)
      else (0, s', { t with
        heap := t.heap.adjust index fun node =>
          { node with value := { node.value with ttyset := s' } }
        comm := Function.update t.comm node.value.hComm port })) := by
  obtain ⟨positive, -⟩ := findPort_some opened
  have same : (t.setComm node.value.hComm port).heap.cells index = some node := cell
  unfold tcsetattr
  rw [if_neg (not_le.mpr positive), opened]
  simp only [Bind.bind, Except.bind, Heap.read_of_cell cell, Pure.pure, Except.pure, sent,
    assign_of_cell same]
  split_ifs <;> rfl

theorem tcsetattr_stored {results : CommResults} {fd action : Int} {s s' : Termios} {t t' : Table}
    {index : Addr} (opened : findPort fd t = .ok (some index))
    (accepted : tcsetattr results fd action s t = .ok (0, s', t')) :
    ∃ node, t.heap.cells index = some node ∧ ∃ port,
      tcsetattrPort results s (t.comm node.value.hComm) = (0, s', port) ∧
      t' = { t with
        heap := t.heap.adjust index fun node =>
          { node with value := { node.value with ttyset := s' } }
        comm := Function.update t.comm node.value.hComm port } := by
  obtain ⟨-, node, cell, -⟩ := findPort_some opened
  refine ⟨node, cell, ?_⟩
  rcases sent : tcsetattrPort results s (t.comm node.value.hComm) with ⟨result, sent', port⟩
  rw [tcsetattr_of_port opened cell sent] at accepted
  split_ifs at accepted with refused
  · cases accepted
    exact absurd rfl refused
  · cases accepted
    exact ⟨port, by rw [not_not.mp refused], rfl⟩

theorem tcgetattr_of_port {results : CommResults} {fd : Int} {t : Table} {index : Addr}
    {node : Node TermiosList} (opened : findPort fd t = .ok (some index))
    (cell : t.heap.cells index = some node) (s : Termios)
    (state : results.getCommState = true) (timeouts : results.getCommTimeouts = true) :
    tcgetattr results fd s t = .ok (0,
      tcgetattrChars (t.comm node.value.hComm).dcb (t.comm node.value.hComm).timeouts
        (tcgetattrFlags (t.comm node.value.hComm).dcb node.value.ttyset)) := by
  obtain ⟨positive, -⟩ := findPort_some opened
  unfold tcgetattr
  rw [if_neg (not_le.mpr positive), opened]
  simp [Heap.read_of_cell cell, state, timeouts, Bind.bind, Except.bind, Pure.pure, Except.pure]

end Rxtx.Win32
