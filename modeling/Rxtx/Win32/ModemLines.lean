import Rxtx.Library.Runs
import Rxtx.Library.Shadow
import Rxtx.Win32.PortTable

open FlagWord Runs Shadow

namespace Rxtx.Win32

inductive Line where
  | dtr | rts
  deriving DecidableEq, Repr

def tiocm {w : Nat} : Line → BitVec w
  | .dtr => 0x002#w
  | .rts => 0x004#w

def tiocmCts : BitVec 32 := 0x020
def tiocmCar : BitVec 32 := 0x040
def tiocmRng : BitVec 32 := 0x080
def tiocmDsr : BitVec 32 := 0x100

def msCtsOn : DWord := 0x0010
def msDsrOn : DWord := 0x0020
def msRingOn : DWord := 0x0040
def msRlsdOn : DWord := 0x0080

/-- `MSR` of the port's entry, the settings of its driver and the lines it drives. -/
structure ModemPort where
  msr : BitVec 8
  comm : CommPort
  level : Line → Bool

structure LineDriver where
  setCommState : Dcb → (Line → Bool) → Line → Bool
  dtr_enable : ∀ dcb level, dcb.fDtrControl = dtrControlEnable → setCommState dcb level .dtr = true
  rts_disable : ∀ dcb level, dcb.fRtsControl = rtsControlDisable →
    setCommState dcb level .rts = false

def escapeCommFunction (line : Line) (set : Bool) (level : Line → Bool) : Line → Bool :=
  Function.update level line set

/-- The driver's answers to `TIOCMGET`; the status is 0 where it has none. -/
structure ModemReply where
  clearErrors : Bool
  status : DWord

def tiocmget (reply : ModemReply) (arg : BitVec 32) (index : ModemPort) : Int × BitVec 32 :=
  if !reply.clearErrors then (-1, arg)
  else
    let arg := assign arg tiocmCar (reply.status &&& msRlsdOn ≠ 0)
    let arg := assign arg tiocmRng (reply.status &&& msRingOn ≠ 0)
    let arg := assign arg tiocmDsr (reply.status &&& msDsrOn ≠ 0)
    let arg := assign arg tiocmCts (reply.status &&& msCtsOn ≠ 0)
    let arg := assign arg (tiocm .dtr) (index.msr &&& tiocm .dtr ≠ 0)
    (0, assign arg (tiocm .rts) (index.msr &&& tiocm .rts ≠ 0))

def tiocmsetLine (line : Line) (arg : BitVec 32) (index : ModemPort) : ModemPort :=
  { index with
    msr := assign index.msr (tiocm line) (arg &&& tiocm line ≠ 0)
    level := escapeCommFunction line (arg &&& tiocm line ≠ 0) index.level }

def tiocmset (clearErrors : Bool) (arg : BitVec 32) (index : ModemPort) : Int × ModemPort :=
  if !clearErrors then (-1, index)
  else (0, tiocmsetLine .rts arg (tiocmsetLine .dtr arg index))

def isLine (line : Line) (reply : ModemReply) (index : ModemPort) : Bool :=
  (tiocmget reply 0 index).2 &&& tiocm line ≠ 0

def isDTR : ModemReply → ModemPort → Bool := isLine .dtr

def isRTS : ModemReply → ModemPort → Bool := isLine .rts

/-- `set` is the answer to the `ClearErrors` of `TIOCMSET`. -/
def setLine (line : Line) (state : Bool) (get : ModemReply) (set : Bool) (index : ModemPort) :
    ModemPort :=
  let result := (tiocmget get 0 index).2
  (tiocmset set (assign result (tiocm line) state) index).2

def setDTR : Bool → ModemReply → Bool → ModemPort → ModemPort := setLine .dtr

def setRTS : Bool → ModemReply → Bool → ModemPort → ModemPort := setLine .rts

/-- `tcsetattr` comes to `SetCommState`, and it succeeds. -/
def setsCommState (results : CommResults) (s : Termios) : Bool :=
  s.cLflag &&& icanon = 0 && results.getCommState && results.getCommTimeouts &&
    results.setCommState

def tcsetattrLines (driver : LineDriver) (results : CommResults) (s : Termios)
    (index : ModemPort) : ModemPort :=
  let (_, _, comm) := tcsetattrPort results s index.comm
  { index with
    comm
    level := if setsCommState results s then driver.setCommState comm.dcb index.level
      else index.level }

/-- `asked` holds the levels that the calls since `serial_open` have asked for, `left` those that
    the last `SetCommState` has left, and `written` that lines were set since. -/
structure Watched where
  port : ModemPort
  asked : Line → Bool
  left : Line → Bool
  written : Bool

inductive ModemLabel where
  | tcsetattr (results : CommResults) (s : Termios)
  | set (line : Line) (state : Bool) (get : ModemReply) (set : Bool)

def modemStep (driver : LineDriver) (label : ModemLabel) (w : Watched) : Watched :=
  match label with
  | .tcsetattr results s =>
    let port := tcsetattrLines driver results s w.port
    if setsCommState results s then { w with port, left := port.level, written := false }
    else { w with port }
  | .set line state get set =>
    let port := setLine line state get set w.port
    if set then
      let asked := if get.clearErrors then w.asked else fun _ => false
      { w with port, asked := Function.update asked line state, written := true }
    else { w with port }

/-- A port as `serial_open` leaves it; the driver has had `comm` and `level` before. -/
def opened (driver : LineDriver) (results : CommResults) (comm : CommPort) (level : Line → Bool) :
    Watched :=
  modemStep driver (.tcsetattr results initTermios) ⟨⟨0, comm, level⟩, fun _ => false, level, false⟩

/-- No `tcsetattr` asks for hardware flow control. -/
def NoHandshake : ModemLabel → Prop
  | .tcsetattr _ s => s.cCflag &&& hardwareFlowControl = 0
  | .set _ _ _ _ => True

def ModemMoves (driver : LineDriver) (w : Watched) (label : ModemLabel) (w' : Watched) : Prop :=
  NoHandshake label ∧ modemStep driver label w = w'

def ModemPort.shown (index : ModemPort) (line : Line) : Bool := index.msr &&& tiocm line ≠ 0

theorem tiocm_ne_zero (line : Line) :
    (tiocm line : BitVec 8) ≠ 0 ∧ (tiocm line : BitVec 32) ≠ 0 := by
  cases line <;> decide

theorem tiocm_apart {line other : Line} (differ : line ≠ other) :
    Apart (tiocm line : BitVec 8) (tiocm other) ∧ Apart (tiocm line : BitVec 32) (tiocm other) := by
  cases line <;> cases other <;> first | contradiction | decide

theorem assign_lines {w : Nat} (nonzero : ∀ line, (tiocm line : BitVec w) ≠ 0)
    (apart : Apart (tiocm .rts : BitVec w) (tiocm .dtr)) (word : BitVec w) (value : Line → Bool)
    (line : Line) :
    decide (assign (assign word (tiocm .dtr) (value .dtr)) (tiocm .rts) (value .rts) &&&
      tiocm line ≠ 0) = value line := by
  rw [Bool.eq_iff_iff, decide_eq_true_eq]
  cases line with
  | dtr =>
    rw [assign_and_apart apart]
    exact assign_and_same (nonzero .dtr) _ _
  | rts => exact assign_and_same (nonzero .rts) _ _

theorem isLine_eq (line : Line) (reply : ModemReply) (index : ModemPort) :
    isLine line reply index = (reply.clearErrors && index.shown line) := by
  rcases reply with ⟨clearErrors, status⟩
  cases clearErrors with
  | false => simp [isLine, tiocmget]
  | true =>
    rw [Bool.true_and]
    exact assign_lines (fun line => (tiocm_ne_zero line).2) (tiocm_apart (by decide)).2 _
      index.shown line

def requested (line : Line) (state : Bool) (get : ModemReply) (index : ModemPort) : Line → Bool :=
  Function.update (fun other => isLine other get index) line state

theorem requested_eq (line other : Line) (state : Bool) (get : ModemReply) (index : ModemPort) :
    requested line state get index other =
      decide (assign (tiocmget get 0 index).2 (tiocm line) state &&& tiocm other ≠ 0) := by
  rw [Bool.eq_iff_iff, decide_eq_true_eq]
  by_cases same : other = line
  · subst same
    rw [requested, Function.update_self]
    exact (assign_and_same (tiocm_ne_zero other).2 _ _).symm
  · rw [assign_and_apart (tiocm_apart (Ne.symm same)).2]
    simp [requested, same, isLine]

theorem tiocmset_shown (arg : BitVec 32) (index : ModemPort) (line : Line) :
    (tiocmset true arg index).2.shown line = decide (arg &&& tiocm line ≠ 0) ∧
      (tiocmset true arg index).2.level line = decide (arg &&& tiocm line ≠ 0) := by
  constructor
  · exact assign_lines (fun line => (tiocm_ne_zero line).1) (tiocm_apart (by decide)).1 index.msr
      (fun line => arg &&& tiocm line ≠ 0) line
  · cases line <;> simp [tiocmset, tiocmsetLine, escapeCommFunction]

theorem setLine_spec (line : Line) (state : Bool) (get : ModemReply) (index : ModemPort) :
    (setLine line state get true index).shown = requested line state get index ∧
      (setLine line state get true index).level = requested line state get index := by
  constructor
  · funext other
    rw [requested_eq]
    exact (tiocmset_shown _ index other).1
  · funext other
    rw [requested_eq]
    exact (tiocmset_shown _ index other).2

theorem setLine_refused (line : Line) (state : Bool) (get : ModemReply) (index : ModemPort) :
    setLine line state get false index = index := rfl

theorem tcsetattrPort_sets {results : CommResults} {s : Termios}
    (sets : setsCommState results s = true) (port : CommPort) :
    (tcsetattrPort results s port).2.2.dcb = (tcsetattrDcb s port.dcb).2 := by
  simp only [setsCommState, Bool.and_eq_true, decide_eq_true_eq] at sets
  rcases sets with ⟨⟨⟨raw, state⟩, timeouts⟩, set⟩
  unfold tcsetattrPort
  cases stored : results.setCommTimeouts <;> simp [raw, state, timeouts, set]

theorem tcsetattrPort_leaves {results : CommResults} {s : Termios}
    (sets : setsCommState results s = false) (port : CommPort) :
    (tcsetattrPort results s port).2.2 = port := by
  unfold tcsetattrPort
  split_ifs with canonical state timeouts set
  · rfl
  · rfl
  · rfl
  · rfl
  · simp_all [setsCommState]
  · simp_all [setsCommState]

theorem tcsetattrDcb_rts {s : Termios} (none : s.cCflag &&& hardwareFlowControl = 0) (dcb : Dcb) :
    (tcsetattrDcb s dcb).2.fRtsControl =
      if s.cCflag &&& cignore = 0 then rtsControlDisable else dcb.fRtsControl := by
  by_cases set : s.cCflag &&& cignore = 0
  · simp [tcsetattrDcb, set, termiosToDcb, none]
  · simp only [tcsetattrDcb, if_neg set]

theorem tcsetattrLines_driven (driver : LineDriver) {results : CommResults} {s : Termios}
    (sets : setsCommState results s = true) (index : ModemPort) :
    (tcsetattrLines driver results s index).comm.dcb = (tcsetattrDcb s index.comm.dcb).2 ∧
      (tcsetattrLines driver results s index).level =
        driver.setCommState (tcsetattrDcb s index.comm.dcb).2 index.level := by
  have stored := tcsetattrPort_sets sets index.comm
  constructor
  · exact stored
  · simp only [tcsetattrLines, sets, if_true, stored]

theorem tcsetattrLines_left (driver : LineDriver) {results : CommResults} {s : Termios}
    (sets : setsCommState results s = false) (index : ModemPort) :
    tcsetattrLines driver results s index = index := by
  simp [tcsetattrLines, sets, tcsetattrPort_leaves sets]

def Watched.outputs (w : Watched) : Outputs Line Bool :=
  ⟨w.asked, w.port.level, w.left, w.written⟩

structure Agrees (w : Watched) : Prop where
  shown : w.port.shown = w.asked
  tracked : Tracked w.outputs

theorem requested_asked {w : Watched} (shown : w.port.shown = w.asked) (line : Line)
    (state : Bool) (get : ModemReply) : requested line state get w.port =
      Function.update (if get.clearErrors then w.asked else fun _ => false) line state := by
  unfold requested
  congr 1
  funext other
  rw [isLine_eq, shown]
  cases get.clearErrors <;> rfl

theorem Agrees.step {driver : LineDriver} {label : ModemLabel} {w : Watched}
    (agrees : Agrees w) : Agrees (modemStep driver label w) := by
  rcases agrees with ⟨shown, tracked⟩
  cases label with
  | tcsetattr results s =>
    cases sets : setsCommState results s with
    | false =>
      simp only [modemStep, sets, tcsetattrLines_left driver sets, Bool.false_eq_true, if_false]
      exact ⟨shown, tracked⟩
    | true =>
      simp only [modemStep, sets, if_true]
      exact ⟨shown, tracked.step (.drive _)⟩
  | set line state get set =>
    cases set with
    | false =>
      simp only [modemStep, setLine_refused, Bool.false_eq_true, if_false]
      exact ⟨shown, tracked⟩
    | true =>
      obtain ⟨byte, level⟩ := setLine_spec line state get w.port
      rw [requested_asked shown] at byte level
      have written := tracked.step (.write (Function.update
        (if get.clearErrors then w.asked else fun _ => false) line state))
      simp only [modemStep, if_true]
      constructor
      · exact byte
      · simp only [Watched.outputs, level]
        exact written

structure Idle (w : Watched) : Prop where
  control : w.port.comm.dcb.fRtsControl = rtsControlDisable
  dtr : w.left .dtr = true
  rts : w.left .rts = false

theorem idle_of_sets {driver : LineDriver} {results : CommResults} {s : Termios} {w : Watched}
    (sets : setsCommState results s = true)
    (control : (tcsetattrDcb s w.port.comm.dcb).2.fRtsControl = rtsControlDisable) :
    Idle (modemStep driver (.tcsetattr results s) w) := by
  obtain ⟨dcb, level⟩ := tcsetattrLines_driven driver sets w.port
  simp only [modemStep, sets, if_true]
  constructor
  · simp only [dcb, control]
  · simp only [level]
    exact driver.dtr_enable _ _ rfl
  · simp only [level]
    exact driver.rts_disable _ _ control

theorem Idle.step {driver : LineDriver} {label : ModemLabel} {w : Watched} (idle : Idle w)
    (allowed : NoHandshake label) : Idle (modemStep driver label w) := by
  cases label with
  | tcsetattr results s =>
    cases sets : setsCommState results s with
    | false =>
      simp only [modemStep, sets, tcsetattrLines_left driver sets, Bool.false_eq_true, if_false]
      exact idle
    | true =>
      have control := tcsetattrDcb_rts allowed w.port.comm.dcb
      rw [idle.control, ite_self] at control
      exact idle_of_sets sets control
  | set line state get set =>
    rcases idle with ⟨control, dtr, rts⟩
    cases set with
    | false => exact ⟨control, dtr, rts⟩
    | true => exact ⟨control, dtr, rts⟩

theorem agrees_of_path {driver : LineDriver} {results : CommResults} {comm : CommPort}
    {level : Line → Bool} {labels : List ModemLabel} {w : Watched}
    (path : Path (ModemMoves driver) (opened driver results comm level) labels w) : Agrees w := by
  have start : Agrees ⟨⟨0, comm, level⟩, fun _ => false, level, false⟩ := by
    constructor
    · funext line
      simp [ModemPort.shown]
    · exact ⟨fun written => absurd written (by simp [Watched.outputs]), fun _ => rfl⟩
  apply path.invariant Agrees
  · intro w label w' agrees moves
    rw [← moves.2]
    exact agrees.step
  · exact start.step

theorem idle_of_path {driver : LineDriver} {results : CommResults} {comm : CommPort}
    {level : Line → Bool} {labels : List ModemLabel} {w : Watched}
    (path : Path (ModemMoves driver) (opened driver results comm level) labels w)
    (sets : setsCommState results initTermios = true) : Idle w := by
  apply path.invariant Idle
  · intro w label w' idle moves
    rw [← moves.2]
    exact idle.step moves.1
  · exact idle_of_sets sets (tcsetattrDcb_rts (by decide) comm.dcb)

/-- A call that reads the line's bit of the byte finds its level: the lines were set since the last
    `SetCommState`, or that has left the line as it was asked for last. A failing `ClearErrors`
    hides the byte. -/
def Watched.Known (w : Watched) (clearErrors : Bool) (line : Line) : Prop :=
  if clearErrors then w.written = true ∨ w.asked line = w.left line
  else (if w.written then w.asked line else w.left line) = false

theorem isLine_known {w : Watched} (agrees : Agrees w) (line : Line) (reply : ModemReply) :
    isLine line reply w.port = w.port.level line ↔ w.Known reply.clearErrors line := by
  rw [isLine_eq, agrees.shown]
  cases reply.clearErrors with
  | false =>
    have actual : w.port.level line = if w.written then w.asked line else w.left line :=
      agrees.tracked.actual_eq line
    rw [actual]
    exact eq_comm
  | true => exact agrees.tracked.shown_iff line

theorem setLine_known {w : Watched} (agrees : Agrees w) {line other : Line}
    (differ : other ≠ line) (state : Bool) (get : ModemReply) (set : Bool) :
    (setLine line state get set w.port).level other = w.port.level other ↔
      (set = true → w.Known get.clearErrors other) := by
  cases set with
  | false => simp [setLine_refused]
  | true =>
    rw [(setLine_spec line state get w.port).2, ← isLine_known agrees]
    simp [requested, differ]

/-- `isDTR` and `isRTS` report the level of the line, and setting one line keeps the other, exactly
    where the line is known. -/
theorem lines_known (driver : LineDriver) {results : CommResults} {comm : CommPort}
    {level : Line → Bool} {labels : List ModemLabel} {w : Watched}
    (path : Path (ModemMoves driver) (opened driver results comm level) labels w) :
    (∀ reply, isDTR reply w.port = w.port.level .dtr ↔ w.Known reply.clearErrors .dtr) ∧
    (∀ reply, isRTS reply w.port = w.port.level .rts ↔ w.Known reply.clearErrors .rts) ∧
    (∀ state get set, (setRTS state get set w.port).level .dtr = w.port.level .dtr ↔
      (set = true → w.Known get.clearErrors .dtr)) ∧
    (∀ state get set, (setDTR state get set w.port).level .rts = w.port.level .rts ↔
      (set = true → w.Known get.clearErrors .rts)) ∧
    (setsCommState results initTermios = true → w.left .dtr = true ∧ w.left .rts = false) := by
  have agrees := agrees_of_path path
  and_intros
  · exact isLine_known agrees .dtr
  · exact isLine_known agrees .rts
  · exact setLine_known agrees (by decide)
  · exact setLine_known agrees (by decide)
  · intro sets
    have idle := idle_of_path path sets
    exact ⟨idle.dtr, idle.rts⟩

def plainDriver : LineDriver where
  setCommState := fun dcb _ line => match line with
    | .dtr => dcb.fDtrControl ≠ 0
    | .rts => dcb.fRtsControl ≠ 0
  dtr_enable := fun _ _ enable => by simp [enable, dtrControlEnable]
  rts_disable := fun _ _ disable => by simp [disable, rtsControlDisable]

theorem lines_known_after_setDTR :
    let granted : CommResults := ⟨true, true, true, true⟩
    let start := opened plainDriver granted default fun _ => false
    let w := modemStep plainDriver (.set .dtr true ⟨true, msCtsOn⟩ true) start
    isDTR ⟨true, 0⟩ w.port = w.port.level .dtr ∧
      (setRTS true ⟨true, 0⟩ true w.port).level .dtr = w.port.level .dtr ∧
      (w.left .dtr = true ∧ w.left .rts = false) := by
  intro granted start w
  have path : Path (ModemMoves plainDriver) start [.set .dtr true ⟨true, msCtsOn⟩ true] w :=
    .cons ⟨trivial, rfl⟩ (.nil w)
  obtain ⟨dtr, -, setRTS, -, left⟩ := lines_known plainDriver path
  have known : w.Known true .dtr := .inl rfl
  exact ⟨(dtr ⟨true, 0⟩).mpr known, (setRTS true ⟨true, 0⟩ true).mpr fun _ => known, left rfl⟩

/-- Opening the port drives DTR and not the byte; setting RTS then drops DTR. -/
theorem lines_lost_after_open :
    ∃ results comm level,
      let w := opened plainDriver results comm level
      isDTR ⟨true, 0⟩ w.port = false ∧ w.port.level .dtr = true ∧
        (setRTS true ⟨true, 0⟩ true w.port).level .dtr = false :=
  ⟨⟨true, true, true, true⟩, default, fun _ => false, by decide⟩

end Rxtx.Win32
