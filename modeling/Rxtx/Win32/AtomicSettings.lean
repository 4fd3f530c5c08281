import Rxtx.Win32.PortParams

open FlagWord LinkedHeap

namespace Rxtx.Win32

/-- The members that `tcsetattr` sets without `CIGNORE` have the values from the flags. -/
structure HasControls (dcb : Dcb) (cflag : TcFlag) : Prop where
  fParity : dcb.fParity = true
  baudRate : dcb.baudRate = bToCbr (cflag &&& cbaud)
  byteSize : dcb.byteSize = termiosToBytesize cflag
  parity : dcb.parity = termiosToParity cflag
  stopBits : dcb.stopBits = if cflag &&& cstopb ≠ 0 then twoStopBits else oneStopBit
  fRtsControl : dcb.fRtsControl =
    if cflag &&& hardwareFlowControl ≠ 0 then rtsControlHandshake else rtsControlDisable
  fOutxCtsFlow : dcb.fOutxCtsFlow = decide (cflag &&& hardwareFlowControl ≠ 0)

/-- The members that `tcsetattr` sets have the values from the settings. -/
structure HasSettings (dcb : Dcb) (s : Termios) : Prop where
  controls : s.cCflag &&& cignore = 0 → HasControls dcb s.cCflag
  fOutX : dcb.fOutX = decide (s.cIflag &&& ixon ≠ 0)
  fInX : dcb.fInX = decide (s.cIflag &&& ixoff ≠ 0)
  fTXContinueOnXoff : dcb.fTXContinueOnXoff = decide (s.cIflag &&& ixany ≠ 0)
  fDtrControl : dcb.fDtrControl = dtrControlEnable
  fOutxDsrFlow : dcb.fOutxDsrFlow = false
  fDsrSensitivity : dcb.fDsrSensitivity = false
  xonChar : dcb.xonChar = s.cCc vStart
  xoffChar : dcb.xoffChar = s.cCc vStop
  xonLim : dcb.xonLim = 0
  xoffLim : dcb.xoffLim = 0
  eofChar : dcb.eofChar = s.cCc vEof
  fBinary : dcb.fBinary = decide (s.cCc vEof = 0)
  evtChar : dcb.evtChar = 10

theorem termiosToDcb_own_iff (s : Termios) (dcb : Dcb) :
    (termiosToDcb s { dcb with fParity := true }).2 = dcb ↔ HasControls dcb s.cCflag := by
  constructor
  · intro own
    rw [← own]
    exact ⟨rfl, rfl, rfl, rfl, rfl, by simp [termiosToDcb], rfl⟩
  · intro has
    rcases has with ⟨fParity, baudRate, byteSize, parity, stopBits, fRtsControl, fOutxCtsFlow⟩
    cases dcb
    simp_all [termiosToDcb]

theorem tcsetattrDcb_own_iff (s : Termios) (dcb : Dcb) :
    (tcsetattrDcb s dcb).2 = dcb ↔ HasSettings dcb s := by
  by_cases set : s.cCflag &&& cignore = 0
  · constructor
    · intro own
      rw [← own]
      simp only [tcsetattrDcb, if_pos set]
      exact ⟨fun _ => ⟨rfl, rfl, rfl, rfl, rfl, by simp [termiosToDcb], rfl⟩, rfl, rfl, rfl, rfl,
        rfl, rfl, rfl, rfl, rfl, rfl, rfl, rfl, rfl⟩
    · intro has
      have controls := (termiosToDcb_own_iff s dcb).mpr (has.controls set)
      simp only [tcsetattrDcb, if_pos set, controls]
      rcases has with ⟨-, fOutX, fInX, any, dtr, dsrFlow, dsr, xon, xoff, on, off, eof, binary, evt⟩
      cases dcb
      simp only [] at fOutX fInX any dtr dsrFlow dsr xon xoff on off eof binary evt
      subst fOutX fInX any dtr dsrFlow dsr xon xoff on off eof binary evt
      rfl
  · constructor
    · intro own
      rw [← own]
      simp only [tcsetattrDcb, if_neg set]
      exact ⟨fun unset => absurd unset set, rfl, rfl, rfl, rfl, rfl, rfl, rfl, rfl, rfl, rfl, rfl,
        rfl, rfl⟩
    · intro has
      simp only [tcsetattrDcb, if_neg set]
      rcases has with ⟨-, fOutX, fInX, any, dtr, dsrFlow, dsr, xon, xoff, on, off, eof, binary, evt⟩
      cases dcb
      simp only [] at fOutX fInX any dtr dsrFlow dsr xon xoff on off eof binary evt
      subst fOutX fInX any dtr dsrFlow dsr xon xoff on off eof binary evt
      rfl

/-- The settings are accepted and stored in the DCB, and then the timeouts are refused. -/
structure TimeoutsRefused (results : CommResults) (s : Termios) : Prop where
  raw : s.cLflag &&& icanon = 0
  getCommState : results.getCommState = true
  getCommTimeouts : results.getCommTimeouts = true
  setCommState : results.setCommState = true
  setCommTimeouts : results.setCommTimeouts = false

/-- The devices and the cached attributes are as they were, and so is what is reported of them. -/
structure Unchanged (fd : Int) (t t' : Table) : Prop where
  comm : t'.comm = t.comm
  cached : t'.heap = t.heap
  reported : ∀ getters prior, tcgetattr getters fd prior t' = tcgetattr getters fd prior t

theorem tcsetattrPort_failed {results : CommResults} {s s' : Termios} {port port' : CommPort}
    (failed : tcsetattrPort results s port = (-1, s', port')) :
    TimeoutsRefused results s ∧ port' = { port with dcb := (tcsetattrDcb s port.dcb).2 } ∨
      ¬ TimeoutsRefused results s ∧ port' = port := by
  unfold tcsetattrPort at failed
  split_ifs at failed with canonical noState noTimeouts refused unset
  · cases failed
    exact .inr ⟨fun late => canonical late.raw, rfl⟩
  · cases failed
    exact .inr ⟨fun late => by simp [late.getCommState] at noState, rfl⟩
  · cases failed
    exact .inr ⟨fun late => by simp [late.getCommTimeouts] at noTimeouts, rfl⟩
  · cases failed
    exact .inr ⟨fun late => by simp [late.setCommState] at refused, rfl⟩
  · cases failed
    simp only [Bool.not_eq_true', Bool.not_eq_false] at noState noTimeouts refused unset
    exact .inl ⟨⟨not_not.mp canonical, noState, noTimeouts, refused, unset⟩, rfl⟩
  · cases failed

theorem tcsetattr_searched {results : CommResults} {fd action : Int} {s s' : Termios}
    {t t' : Table} (failed : tcsetattr results fd action s t = .ok (-1, s', t')) :
    ∃ port, findPort fd t = .ok port ∧ (port = none → t' = t) := by
  unfold tcsetattr at failed
  split_ifs at failed
  · cases failed
  · obtain ⟨port, found, rest⟩ := bind_eq_ok.mp failed
    refine ⟨port, found, ?_⟩
    rintro rfl
    cases rest
    rfl

theorem tcsetattr_failed {results : CommResults} {fd action : Int} {s s' : Termios} {t t' : Table}
    {index : Addr} {node : Node TermiosList} (opened : findPort fd t = .ok (some index))
    (cell : t.heap.cells index = some node)
    (failed : tcsetattr results fd action s t = .ok (-1, s', t')) :
    ∃ port, tcsetattrPort results s (t.comm node.value.hComm) = (-1, s', port) ∧
      t' = t.setComm node.value.hComm port := by
  rcases sent : tcsetattrPort results s (t.comm node.value.hComm) with ⟨result, sent', port⟩
  rw [tcsetattr_of_port opened cell sent] at failed
  split_ifs at failed with refused
  · cases failed
    exact ⟨port, rfl, rfl⟩
  · cases failed

theorem Unchanged.refl (fd : Int) (t : Table) : Unchanged fd t t := ⟨rfl, rfl, fun _ _ => rfl⟩

theorem tcsetattr_unchanged_iff {results : CommResults} {fd action : Int} {s s' : Termios}
    {t t' : Table} {index : Addr} {node : Node TermiosList}
    (opened : findPort fd t = .ok (some index)) (cell : t.heap.cells index = some node)
    (failed : tcsetattr results fd action s t = .ok (-1, s', t')) :
    Unchanged fd t t' ↔
      (TimeoutsRefused results s → HasSettings (t.comm node.value.hComm).dcb s) := by
  obtain ⟨port, sent, rfl⟩ := tcsetattr_failed opened cell failed
  have same (unchanged : port = t.comm node.value.hComm) :
      Unchanged fd t (t.setComm node.value.hComm port) := by
    have table : t.setComm node.value.hComm port = t := by
      rw [unchanged, Table.setComm, Function.update_eq_self]
    rw [table]
    exact .refl fd t
  rcases tcsetattrPort_failed sent with ⟨late, stored⟩ | ⟨early, stored⟩
  · rw [← tcsetattrDcb_own_iff]
    constructor
    · intro unchanged _
      have device := congrFun unchanged.comm node.value.hComm
      simp only [Table.setComm, Function.update_self, stored] at device
      exact congrArg CommPort.dcb device
    · intro own
      apply same
      rw [stored, own late]
  · exact iff_of_true (same stored) fun late => absurd late early

/-- A `tcsetattr` that fails leaves everything as it was exactly where no port of that number has
    its timeouts refused last, its DCB not having the settings already. -/
theorem tcsetattr_atomic_iff (results : CommResults) (fd action : Int) (s s' : Termios)
    (t t' : Table) (failed : tcsetattr results fd action s t = .ok (-1, s', t')) :
    Unchanged fd t t' ↔
      ∀ index node, findPort fd t = .ok (some index) → t.heap.cells index = some node →
        TimeoutsRefused results s → HasSettings (t.comm node.value.hComm).dcb s := by
  obtain ⟨port, found, missed⟩ := tcsetattr_searched failed
  cases port with
  | none =>
    rw [missed rfl]
    refine iff_of_true (.refl fd t) ?_
    intro index node opened
    cases found.symm.trans opened
  | some index =>
    obtain ⟨-, node, cell, -⟩ := findPort_some found
    rw [tcsetattr_unchanged_iff found cell failed]
    constructor
    · intro settings index' node' opened cell'
      cases found.symm.trans opened
      cases cell.symm.trans cell'
      exact settings
    · intro settings
      exact settings index node found cell

def flowControl : Termios := { initTermios with cIflag := initTermios.cIflag ||| ixon }

theorem tcsetattr_atomic_unreadable :
    ∃ s' t', tcsetattr ⟨false, true, true, false⟩ 1 0 flowControl defaultPort = .ok (-1, s', t') ∧
      Unchanged 1 defaultPort t' := by
  obtain ⟨s', t', failed⟩ : ∃ s' t', tcsetattr ⟨false, true, true, false⟩ 1 0 flowControl
      defaultPort = .ok (-1, s', t') := ⟨_, _, rfl⟩
  refine ⟨s', t', failed, ?_⟩
  apply (tcsetattr_atomic_iff _ 1 0 flowControl s' defaultPort t' failed).mpr
  intro index node opened cell late
  exact absurd late.getCommState (by decide)

/-- Flow control is set in the DCB of a fresh port before its timeouts are refused. -/
theorem tcsetattr_not_atomic :
    ¬ ∀ (results : CommResults) (fd action : Int) (s s' : Termios) (t t' : Table),
      tcsetattr results fd action s t = .ok (-1, s', t') → Unchanged fd t t' := by
  intro atomic
  obtain ⟨s', t', failed⟩ : ∃ s' t', tcsetattr ⟨true, true, true, false⟩ 1 0 flowControl
      defaultPort = .ok (-1, s', t') := ⟨_, _, rfl⟩
  have cell : defaultPort.heap.cells 0 = some defaultNode := rfl
  have late : TimeoutsRefused ⟨true, true, true, false⟩ flowControl :=
    ⟨by decide, rfl, rfl, rfl, rfl⟩
  have settings := (tcsetattr_unchanged_iff rfl cell failed).mp
    (atomic _ 1 0 flowControl s' defaultPort t' failed) late
  exact absurd settings.fOutX (by decide)

end Rxtx.Win32
