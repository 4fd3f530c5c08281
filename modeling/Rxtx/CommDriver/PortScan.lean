import Mathlib.Data.List.Count
import Rxtx.CommDriver.PortPrefixes

namespace Rxtx.CommDriver

inductive Thrown where
  | nullPointer
  | arrayIndexOutOfBounds
  deriving DecidableEq, Repr

def prefixSlots : Nat := 256

def keepValid (valid : Nat → Bool) (j : Nat) (kept : List JavaString) :
    List JavaString → Except Thrown (List JavaString)
  | [] => return kept
  | candidate :: rest =>
    if valid j then
      if kept.length < prefixSlots then keepValid valid (j + 1) (kept ++ [candidate]) rest
      else throw .arrayIndexOutOfBounds
    else keepValid valid (j + 1) kept rest

/-- A null array is only reported before its length is taken (`RXTXCommDriver.java`). -/
def getValidPortPrefixes (valid : Nat → Bool) (candidatePortPrefixes : Option (List JavaString)) :
    Except Thrown (List JavaString) :=
  match candidatePortPrefixes with
  | none => throw .nullPointer
  | some table => keepValid valid 0 [] table

structure TestReadCall where
  dev : JavaString
  portType : Int
  result : Bool
  deriving DecidableEq, Repr

def TestReadCall.port (call : TestReadCall) : JavaString × Int := (call.dev, call.portType)

structure Scan where
  tested : List TestReadCall
  ports : List (JavaString × Int)
  deriving DecidableEq, Repr

/-- `answers` gives what the device says at each call in turn. -/
def testRead (answers : Nat → Bool) (dev : JavaString) (portType : Int) (scan : Scan) :
    Bool × Scan :=
  let result := answers scan.tested.length
  (result, { scan with tested := scan.tested ++ [⟨dev, portType, result⟩] })

def addPortName (portName : JavaString) (portType : Int) (scan : Scan) : Scan :=
  { scan with ports := scan.ports ++ [(portName, portType)] }

def tryPort (answers : Nat → Bool) (portName : JavaString) (portType : Int) (scan : Scan) : Scan :=
  match testRead answers portName portType scan with
  | (true, scan) => addPortName portName portType scan
  | (false, scan) => scan

def checkSolaris (answers : Nat → Bool) (portName : JavaString) (portType : Int) (scan : Scan) :
    Scan :=
  (List.range 26).foldl
    (fun scan p => tryPort answers (portName ++ [Char.ofNat (97 + p)]) portType scan) scan

def regionMatches (s other : JavaString) (len : Nat) : Prop :=
  len ≤ s.length ∧ len ≤ other.length ∧ s.take len = other.take len

instance (s other : JavaString) (len : Nat) : Decidable (regionMatches s other len) :=
  inferInstanceAs (Decidable (_ ∧ _))

def System.portName (system : System) (C : JavaString) : JavaString :=
  if ¬ system.nameHolds "windows" then system.deviceDirectory ++ C else C

section

variable (system : System) (answers : Nat → Bool) (portType : Int)

def checkCandidate (C : JavaString) (scan : Scan) (V : JavaString) : Scan :=
  if C.length < V.length then scan
  else
    let CU := system.locale.toUpperCase (C.drop V.length)
    let Cl := system.locale.toLowerCase (C.drop V.length)
    if ¬ (regionMatches C V V.length ∧ CU = Cl) then scan
    else if system.solaris then checkSolaris answers (system.portName C) portType scan
    else tryPort answers (system.portName C) portType scan

def registerValidPorts (candidateDeviceNames validPortPrefixes : Option (List JavaString))
    (scan : Scan) : Scan :=
  match candidateDeviceNames, validPortPrefixes with
  | some names, some valid =>
    names.foldl (fun scan C => valid.foldl (checkCandidate system answers portType C) scan) scan
  | _, _ => scan

def candidateDeviceNames (listed term : Option (List JavaString)) :
    Except Thrown (Option (List JavaString)) :=
  if system.named "Windows CE" then
    return some ((List.range 8).map fun i => "COM".toList ++ (toString (i + 1)).toList ++ [':'])
  else if system.nameHolds "windows" then
    return some ((List.range 256).map (fun i => "COM".toList ++ (toString (i + 1)).toList) ++
      (List.range 3).map fun i => "LPT".toList ++ (toString (i + 1)).toList)
  else if system.solaris then
    match term with
    | none => throw .nullPointer
    | some _ => return some ["term/".toList]
  else return listed

def registerScannedPorts (listed term : Option (List JavaString)) (scan : Scan) :
    Except Thrown Scan := do
  match ← candidateDeviceNames system listed term with
  | none => return scan
  | some names =>
    return registerValidPorts system answers portType (some names)
      (some (candidatePortPrefixes system portType)) scan

end

theorem keepValid_eq (valid : Nat → Bool) (j : Nat) (kept table : List JavaString)
    (room : kept.length + table.length ≤ prefixSlots) :
    keepValid valid j kept table =
      .ok (kept ++ ((table.zipIdx j).filter fun entry => valid entry.2).map Prod.fst) := by
  induction table generalizing j kept with
  | nil => rw [List.zipIdx_nil, List.filter_nil, List.map_nil, List.append_nil]; rfl
  | cons candidate rest ih =>
    rw [List.length_cons] at room
    rw [keepValid, List.zipIdx_cons, List.filter_cons]
    split_ifs with here space
    · have left : (kept ++ [candidate]).length + rest.length ≤ prefixSlots := by
        rw [List.length_append, List.length_singleton]
        omega
      rw [ih (j + 1) (kept ++ [candidate]) left, List.append_assoc]
      rfl
    · omega
    · exact ih (j + 1) kept (by omega)

theorem getValidPortPrefixes_eq (system : System) (portType : Int) (valid : Nat → Bool) :
    getValidPortPrefixes valid (some (candidatePortPrefixes system portType)) =
      .ok ((((candidatePortPrefixes system portType).zipIdx).filter fun entry =>
        valid entry.2).map Prod.fst) := by
  have few := length_candidatePortPrefixes system portType
  exact keepValid_eq valid 0 [] _ (by rw [prefixSlots, List.length_nil]; omega)

theorem getValidPortPrefixes_apart {system : System} {portType : Int} {valid : Nat → Bool}
    {found : List JavaString}
    (obtained : getValidPortPrefixes valid (some (candidatePortPrefixes system portType)) =
      .ok found) : Apart found := by
  rw [getValidPortPrefixes_eq] at obtained
  cases obtained
  apply (candidatePortPrefixes_apart system portType).sublist
  have sub := (List.filter_sublist (p := fun entry => valid entry.2)
    (l := (candidatePortPrefixes system portType).zipIdx)).map Prod.fst
  rwa [List.zipIdx_map_fst] at sub

section

variable {system : System} {answers : Nat → Bool} {portType : Int}

theorem tryPort_tested (portName : JavaString) (scan : Scan) :
    (tryPort answers portName portType scan).tested =
      scan.tested ++ [⟨portName, portType, answers scan.tested.length⟩] := by
  unfold tryPort testRead
  cases answers scan.tested.length <;> rfl

def Scan.Registers (scan : Scan) : Prop :=
  scan.ports = (scan.tested.filter (·.result)).map TestReadCall.port

/-- Behind the ports `known`, which nobody reads first, are those that could be read. -/
def Scan.RegistersBehind (known : List (JavaString × Int)) (scan : Scan) : Prop :=
  scan.ports = known ++ (scan.tested.filter (·.result)).map TestReadCall.port

theorem tryPort_registers {known : List (JavaString × Int)} (portName : JavaString) {scan : Scan}
    (registers : scan.RegistersBehind known) :
    (tryPort answers portName portType scan).RegistersBehind known := by
  unfold Scan.RegistersBehind at registers ⊢
  unfold tryPort testRead
  cases answers scan.tested.length <;> simp [addPortName, registers, TestReadCall.port]

theorem regionMatches_iff_fits {C V : JavaString} (ascii : Ascii C) :
    (regionMatches C V V.length ∧ system.locale.toUpperCase (C.drop V.length) =
      system.locale.toLowerCase (C.drop V.length)) ↔ Fits V C := by
  have behind : Ascii (C.drop V.length) := fun c member => ascii c (List.mem_of_mem_drop member)
  rw [system.locale.cases_eq_iff behind, Fits, Stems.continues_iff]
  apply and_congr_left
  intro _
  rw [regionMatches, List.take_length, List.prefix_iff_eq_take]
  constructor
  · rintro ⟨_, _, same⟩
    exact same.symm
  · intro same
    have long := congrArg List.length same
    rw [List.length_take] at long
    exact ⟨by omega, Nat.le_refl _, same.symm⟩

theorem checkCandidate_eq {C V : JavaString} {scan : Scan} (ascii : Ascii C)
    (other : ¬ system.solaris) :
    checkCandidate system answers portType C scan V =
      if Fits V C then tryPort answers (system.portName C) portType scan else scan := by
  unfold checkCandidate
  simp only [regionMatches_iff_fits ascii, if_neg other]
  by_cases fits : Fits V C
  · have long : V.length ≤ C.length := by
      obtain ⟨tail, rfl, _⟩ := fits
      simp
    rw [if_neg (by omega), if_neg (not_not_intro fits), if_pos fits]
  · rw [if_pos fits, if_neg fits, ite_self]

abbrev Listed (valid : List JavaString) (name : JavaString) : Prop := ∃ V ∈ valid, Fits V name

theorem checkPrefixes_eq {valid : List JavaString} (apart : Apart valid) {C : JavaString}
    {scan : Scan} (ascii : Ascii C) (other : ¬ system.solaris) :
    valid.foldl (checkCandidate system answers portType C) scan =
      if Listed valid C then tryPort answers (system.portName C) portType scan else scan := by
  have body : checkCandidate system answers portType C = fun scan V =>
      if decide (Fits V C) then tryPort answers (system.portName C) portType scan else scan := by
    funext scan V
    simp only [checkCandidate_eq ascii other, decide_eq_true_eq]
  rw [body, ← List.foldl_filter]
  by_cases listed : Listed valid C
  · obtain ⟨V, member, fits⟩ := listed
    rw [apart.filter_continues member fits, if_pos ⟨V, member, fits⟩]
    rfl
  · have nothing : valid.filter (fun V => decide (Fits V C)) = [] := by
      rw [List.filter_eq_nil_iff]
      intro V member fits
      exact listed ⟨V, member, of_decide_eq_true fits⟩
    rw [nothing, if_neg listed]
    rfl

variable (answers portType) in
theorem tryPorts_tested (portName : JavaString → JavaString) (names : List JavaString)
    (scan : Scan) :
    (names.foldl (fun scan C => tryPort answers (portName C) portType scan) scan).tested.map
        TestReadCall.port =
      scan.tested.map TestReadCall.port ++ names.map fun C => (portName C, portType) := by
  induction names generalizing scan with
  | nil => simp
  | cons C names ih =>
    rw [List.foldl_cons, ih, tryPort_tested, List.map_append, List.append_assoc]
    rfl

theorem tryPorts_registers {known : List (JavaString × Int)} (portName : JavaString → JavaString)
    (names : List JavaString) {scan : Scan} (registers : scan.RegistersBehind known) :
    (names.foldl (fun scan C => tryPort answers (portName C) portType scan) scan).RegistersBehind
      known := by
  induction names generalizing scan with
  | nil => exact registers
  | cons C names ih => exact ih (tryPort_registers (portName C) registers)

theorem registerValidPorts_eq {valid : List JavaString} (apart : Apart valid)
    (other : ¬ system.solaris) {candidates : List JavaString}
    (ascii : ∀ name ∈ candidates, Ascii name) (scan : Scan) :
    registerValidPorts system answers portType (some candidates) (some valid) scan =
      (candidates.filter (Listed valid)).foldl
        (fun scan C => tryPort answers (system.portName C) portType scan) scan := by
  rw [List.foldl_filter]
  show candidates.foldl _ scan = _
  apply List.foldl_ext
  intro scan C member
  rw [checkPrefixes_eq apart (ascii C member) other]
  simp only [decide_eq_true_eq]

theorem System.portName_injective (system : System) : Function.Injective system.portName := by
  intro C D same
  unfold System.portName at same
  split_ifs at same
  · exact same
  · exact List.append_cancel_left same

/-- What a search owes the candidates: a call of `testRead` for each one that is listed, for no
    other, and a port for each call that returned true. -/
structure ProbesOnce (system : System) (portType : Int) (valid candidates : List JavaString)
    (scan : Scan) : Prop where
  once : ∀ name ∈ candidates, (scan.tested.map (·.dev)).count (system.portName name) =
    if Listed valid name then 1 else 0
  others : ∀ call ∈ scan.tested, call.portType = portType ∧
    ∃ name ∈ candidates, Listed valid name ∧ call.dev = system.portName name
  registers : scan.Registers

theorem registerValidPorts_probes {valid : List JavaString} (apart : Apart valid)
    (other : ¬ system.solaris) {candidates : List JavaString}
    (ascii : ∀ name ∈ candidates, Ascii name) (distinct : candidates.Nodup) :
    ProbesOnce system portType valid candidates
      (registerValidPorts system answers portType (some candidates) (some valid) ⟨[], []⟩) := by
  rw [registerValidPorts_eq apart other ascii]
  have tested := tryPorts_tested answers portType system.portName
    (candidates.filter (Listed valid)) ⟨[], []⟩
  rw [List.map_nil, List.nil_append] at tested
  refine ⟨?_, ?_, @tryPorts_registers answers portType [] system.portName _ ⟨[], []⟩ rfl⟩
  · intro name member
    have devs := congrArg (List.map Prod.fst) tested
    rw [List.map_map, List.map_map] at devs
    change List.map TestReadCall.dev _ = List.map system.portName _ at devs
    rw [devs, List.count_map_of_injective _ _ system.portName_injective]
    split_ifs with listed
    · exact List.count_eq_one_of_mem (distinct.filter _) (by simp [member, listed])
    · exact List.count_eq_zero_of_not_mem (by simp [listed])
  · intro call member
    have inside : call.port ∈ List.map (fun C => (system.portName C, portType)) _ :=
      tested ▸ List.mem_map_of_mem member
    obtain ⟨name, among, same⟩ := List.mem_map.mp inside
    rw [List.mem_filter, decide_eq_true_eq] at among
    exact ⟨(congrArg Prod.snd same).symm, name, among.1, among.2, (congrArg Prod.fst same).symm⟩

theorem registerScannedPorts_probes {listed term : Option (List JavaString)}
    {names : List JavaString} (other : ¬ system.solaris)
    (found : candidateDeviceNames system listed term = .ok (some names))
    (ascii : ∀ name ∈ names, Ascii name) (distinct : names.Nodup) :
    ∃ scan, registerScannedPorts system answers portType listed term ⟨[], []⟩ = .ok scan ∧
      ProbesOnce system portType (candidatePortPrefixes system portType) names scan := by
  have run : registerScannedPorts system answers portType listed term ⟨[], []⟩ =
      .ok (registerValidPorts system answers portType (some names)
        (some (candidatePortPrefixes system portType)) ⟨[], []⟩) := by
    rw [registerScannedPorts, found]
    rfl
  exact ⟨_, run, registerValidPorts_probes (candidatePortPrefixes_apart system portType) other
    ascii distinct⟩

end

/-- On every system but Solaris, each candidate that is a valid prefix and no letter behind it is
    read once, no other one is, and the ports are those that could be read. -/
theorem port_scan_probes_once (system : System) (answers valid : Nat → Bool) (portType : Int)
    (validPortPrefixes candidates : List JavaString)
    (obtained : getValidPortPrefixes valid (some (candidatePortPrefixes system portType)) =
      .ok validPortPrefixes)
    (other : ¬ system.solaris) (ascii : ∀ name ∈ candidates, Ascii name)
    (distinct : candidates.Nodup) :
    ProbesOnce system portType validPortPrefixes candidates
      (registerValidPorts system answers portType (some candidates) (some validPortPrefixes)
        ⟨[], []⟩) :=
  registerValidPorts_probes (getValidPortPrefixes_apart obtained) other ascii distinct

def linux : System := ⟨"Linux".toList, "/dev/".toList, Locale.root⟩

theorem port_scan_probes_once_linux :
    ProbesOnce linux portSerial ["ttySA".toList] ["ttyS0".toList, "ttySA0".toList]
      (registerValidPorts linux (fun _ => true) portSerial
        (some ["ttyS0".toList, "ttySA0".toList]) (some ["ttySA".toList]) ⟨[], []⟩) :=
  port_scan_probes_once linux (fun _ => true) (fun j => j == 1) portSerial _ _ (by decide)
    (by decide) (by simp [Ascii]) (by decide)

end Rxtx.CommDriver
