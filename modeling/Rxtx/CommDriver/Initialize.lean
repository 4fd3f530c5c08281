import Rxtx.CommDriver.PortScan

namespace Rxtx.CommDriver

abbrev Properties := JavaString → Option JavaString

structure Host where
  properties : Properties
  files : JavaString → Option Properties

def concatenated (s : Option JavaString) : JavaString := s.getD "null".toList

def Host.propertiesFile (host : Host) : JavaString :=
  concatenated (host.properties "java.ext.dirs".toList) ++
    concatenated (host.properties "file.separator".toList) ++ "javax.comm.rxtx.properties".toList

/-- `System.setProperties( p )` leaves none of the old ones; the loop behind it stores into `p` what
    `p` has. Where the file is not there, the exception is caught. -/
def Host.loaded (host : Host) : Host :=
  match host.files host.propertiesFile with
  | none => host
  | some p => { host with properties := p }

def Host.pathSep (host : Host) : JavaString :=
  (host.properties "path.separator".toList).getD ":".toList

def Host.specified (host : Host) (portType : Int) : Option JavaString :=
  if portType = portSerial then
    (host.properties "javax.comm.rxtx.SerialPorts".toList).or
      (host.properties "javax.comm.SerialPorts".toList)
  else if portType = portParallel then
    (host.properties "javax.comm.rxtx.ParallelPorts".toList).or
      (host.properties "javax.comm.ParallelPorts".toList)
  else none

def tokens (delim s : JavaString) : List JavaString :=
  (s.splitOnP (· ∈ delim)).filter (· ≠ [])

section

variable (answers : Nat → Bool)

def addSpecifiedPorts (host : Host) (names : JavaString) (portType : Int) (scan : Scan) : Scan :=
  (tokens host.pathSep names).foldl (fun scan name => tryPort answers name portType scan) scan

def registerSpecifiedPorts (portType : Int) (host : Host) (scan : Scan) : Bool × Host × Scan :=
  let host := host.loaded
  match host.specified portType with
  | some val => (true, host, addSpecifiedPorts answers host val portType scan)
  | none => (false, host, scan)

variable (known : List (JavaString × JavaString))

/-- `known` are the dial-in and call-out devices that IOKit lists, none where the library is not
    built with `__APPLE__` or the listing fails. -/
def registerKnownSerialPorts (portType : Int) (scan : Scan) : Nat × Scan :=
  known.foldl (fun (numPorts, scan) port =>
    (numPorts + 2, addPortName port.2 portType (addPortName port.1 portType scan))) (0, scan)

def registerKnownPorts (portType : Int) (scan : Scan) : Bool × Scan :=
  if portType = portSerial then
    match registerKnownSerialPorts known portSerial scan with
    | (numPorts, scan) => (decide (numPorts > 0), scan)
  else (false, scan)

variable (system : System) (listed term : Option (List JavaString))

def initializeType (portType : Int) (host : Host) (scan : Scan) : Except Thrown (Host × Scan) := do
  let (specified, host, scan) := registerSpecifiedPorts answers portType host scan
  if specified then return (host, scan)
  let (registered, scan) := registerKnownPorts known portType scan
  if registered then return (host, scan)
  return (host, ← registerScannedPorts system answers portType listed term scan)

def initializeDriver (host : Host) (scan : Scan) : Except Thrown (Host × Scan) := do
  let (host, scan) ← initializeType answers known system listed term portSerial host scan
  initializeType answers known system listed term portParallel host scan

end

theorem splitOnP_token {delim : JavaString} {name : JavaString} (free : ∀ c ∈ name, c ∉ delim)
    {sep : Char} (separates : sep ∈ delim) (rest : JavaString) :
    (name ++ sep :: rest).splitOnP (· ∈ delim) = name :: rest.splitOnP (· ∈ delim) :=
  List.splitOnP_append_cons_of_forall_mem (by simpa using free) sep (by simpa using separates) rest

theorem tokens_terminated {delim : JavaString} {sep : Char} (separates : sep ∈ delim)
    {names : List JavaString} (free : ∀ name ∈ names, ∀ c ∈ name, c ∉ delim)
    (nonempty : ∀ name ∈ names, name ≠ []) :
    tokens delim (names.flatMap fun name => name ++ [sep]) = names := by
  induction names with
  | nil => rfl
  | cons name names ih =>
    have first := splitOnP_token (free name List.mem_cons_self) separates
    have rest := ih (fun other member => free other (List.mem_cons_of_mem _ member))
      fun other member => nonempty other (List.mem_cons_of_mem _ member)
    rw [List.flatMap_cons, List.append_assoc, List.singleton_append]
    unfold tokens at rest ⊢
    rw [first, List.filter_cons, rest]
    simp [nonempty name List.mem_cons_self]

def matching (system : System) (portType : Int) (candidates : Option (List JavaString)) :
    List (JavaString × Int) :=
  ((candidates.getD []).filter (Listed (candidatePortPrefixes system portType))).map fun name =>
    (system.portName name, portType)

/-- The ports that IOKit lists, where the ports of the type are looked for there. -/
def unread (known : List (JavaString × JavaString)) (host : Host) (portType : Int) :
    List (JavaString × Int) :=
  if portType = portSerial ∧ host.specified portType = none then
    known.flatMap fun port => [(port.1, portSerial), (port.2, portSerial)]
  else []

/-- What the driver has to read for the ports of a type: the names that are specified, and without a
    specification and ports that are known, what matches among the candidates. -/
def sought (known : List (JavaString × JavaString)) (system : System)
    (listed term : Option (List JavaString)) (host : Host) (portType : Int) :
    List (JavaString × Int) :=
  match host.specified portType with
  | some names => (tokens host.pathSep names).map fun name => (name, portType)
  | none =>
    if unread known host portType ≠ [] then []
    else
      match candidateDeviceNames system listed term with
      | .ok candidates => matching system portType candidates
      | .error _ => []

def Scan.probed (scan : Scan) : List (JavaString × Int) := scan.tested.map TestReadCall.port

def AsciiDevices (system : System) (listed term : Option (List JavaString)) : Prop :=
  ∀ names, candidateDeviceNames system listed term = .ok (some names) → ∀ name ∈ names, Ascii name

section

variable {system : System} {listed term : Option (List JavaString)} {answers : Nat → Bool}
  {known : List (JavaString × JavaString)}

theorem candidateDeviceNames_ok (other : ¬ system.solaris) :
    ∃ candidates, candidateDeviceNames system listed term = .ok candidates := by
  unfold candidateDeviceNames
  split_ifs
  · exact ⟨_, rfl⟩
  · exact ⟨_, rfl⟩
  · exact ⟨_, rfl⟩

theorem registerScannedPorts_probed (portType : Int) (other : ¬ system.solaris)
    (ascii : AsciiDevices system listed term) {candidates : Option (List JavaString)}
    (found : candidateDeviceNames system listed term = .ok candidates) {scan : Scan}
    {before : List (JavaString × Int)} (registers : scan.RegistersBehind before) :
    ∃ after, registerScannedPorts system answers portType listed term scan = .ok after ∧
      after.RegistersBehind before ∧
      after.probed = scan.probed ++ matching system portType candidates := by
  unfold registerScannedPorts
  rw [found]
  cases candidates with
  | none => exact ⟨scan, rfl, registers, by simp [matching]⟩
  | some names =>
    have same := @registerValidPorts_eq system answers portType _
      (candidatePortPrefixes_apart system portType) other names (ascii names found) scan
    refine ⟨_, rfl, ?_, ?_⟩
    · rw [same]
      exact tryPorts_registers system.portName _ registers
    · rw [same]
      exact tryPorts_tested answers portType system.portName _ scan

theorem registerKnownSerialPorts_eq (known : List (JavaString × JavaString)) (portType : Int)
    (numPorts : Nat) (scan : Scan) :
    known.foldl (fun (numPorts, scan) port =>
        (numPorts + 2, addPortName port.2 portType (addPortName port.1 portType scan)))
        (numPorts, scan) =
      (numPorts + 2 * known.length, { scan with
        ports := scan.ports ++
          (known.flatMap fun port => [(port.1, portType), (port.2, portType)]) }) := by
  induction known generalizing numPorts scan with
  | nil => simp
  | cons port known ih =>
    rw [List.foldl_cons, ih]
    simp [addPortName, Nat.mul_add, Nat.add_assoc, Nat.add_comm]

/-- Where ports are known, they are registered and nothing is read. -/
theorem registerKnownPorts_eq (host : Host) {portType : Int}
    (unspecified : host.specified portType = none) (scan : Scan) :
    registerKnownPorts known portType scan =
      (decide (unread known host portType ≠ []),
        { scan with ports := scan.ports ++ unread known host portType }) := by
  unfold registerKnownPorts unread
  by_cases serial : portType = portSerial
  · subst serial
    rw [if_pos rfl, if_pos ⟨rfl, unspecified⟩, registerKnownSerialPorts,
      registerKnownSerialPorts_eq]
    cases known <;> simp
  · simp [serial]

theorem initializeType_probes (portType : Int) (other : ¬ system.solaris)
    (ascii : AsciiDevices system listed term) (host : Host) {scan : Scan}
    {before : List (JavaString × Int)} (registers : scan.RegistersBehind before)
    (first : portType = portSerial → scan.tested = []) :
    ∃ after, initializeType answers known system listed term portType host scan =
        .ok (host.loaded, after) ∧
      after.RegistersBehind (before ++ unread known host.loaded portType) ∧
      after.probed = scan.probed ++ sought known system listed term host.loaded portType := by
  unfold initializeType registerSpecifiedPorts sought
  simp only []
  cases given : host.loaded.specified portType with
  | some names =>
    have none_unread : unread known host.loaded portType = [] := by simp [unread, given]
    rw [none_unread, List.append_nil]
    refine ⟨addSpecifiedPorts answers host.loaded names portType scan, rfl, ?_, ?_⟩
    · exact tryPorts_registers id _ registers
    · exact tryPorts_tested answers portType id _ scan
  | none =>
    simp only [registerKnownPorts_eq host.loaded given]
    by_cases empty : unread known host.loaded portType = []
    · obtain ⟨candidates, found⟩ := @candidateDeviceNames_ok system listed term other
      obtain ⟨after, run, still, probed⟩ :=
        @registerScannedPorts_probed _ _ _ answers portType other ascii _ found _ _ registers
      simp only [empty, List.append_nil, ne_eq, not_true_eq_false, decide_false]
      exact ⟨after, by rw [run]; rfl, still, by rw [found]; exact probed⟩
    · have serial : portType = portSerial := by
        by_contra parallel
        simp [unread, parallel] at empty
      have untested := first serial
      simp only [empty, ne_eq, not_false_eq_true, decide_true, if_true, List.append_nil]
      refine ⟨_, rfl, ?_, rfl⟩
      unfold Scan.RegistersBehind at registers ⊢
      rw [registers]
      simp [untested]

end

/-- On every system but Solaris the driver reads the ports it seeks, serial before parallel, each as
    often as it is sought, and registers those that it can read, behind the ports that are known.
    Each type first looks for the file of properties where those of the type before it say that it
    is, and goes by what that leaves. A specification with a separator behind each name is read as
    these names. -/
theorem initialize_probes_what_is_sought (known : List (JavaString × JavaString))
    (system : System) (listed term : Option (List JavaString)) (answers : Nat → Bool) (host : Host)
    (other : ¬ system.solaris) (ascii : AsciiDevices system listed term) :
    ∃ scan, initializeDriver answers known system listed term host ⟨[], []⟩ =
        .ok (host.loaded.loaded, scan) ∧
      scan.RegistersBehind (unread known host.loaded portSerial) ∧
      scan.probed = sought known system listed term host.loaded portSerial ++
        sought known system listed term host.loaded.loaded portParallel ∧
      ∀ (host : Host) (portType : Int) (names : List JavaString) (sep : Char), sep ∈ host.pathSep →
        (∀ name ∈ names, name ≠ [] ∧ ∀ c ∈ name, c ∉ host.pathSep) →
        host.specified portType = some (names.flatMap fun name => name ++ [sep]) →
        sought known system listed term host portType = names.map fun name => (name, portType) := by
  obtain ⟨first, serial, registers, probed⟩ :=
    @initializeType_probes system listed term answers known portSerial other ascii host ⟨[], []⟩
      [] rfl fun _ => rfl
  obtain ⟨second, parallel, still, more⟩ :=
    @initializeType_probes system listed term answers known portParallel other ascii host.loaded
      first _ registers fun type => absurd type (by decide)
  refine ⟨second, ?_, ?_, ?_, ?_⟩
  · unfold initializeDriver
    rw [serial]
    exact parallel
  · simpa [unread, portParallel, portSerial] using still
  · rw [more, probed]
    rfl
  · intro host portType names sep separates valid given
    have read := tokens_terminated separates (fun name member => (valid name member).2)
      fun name member => (valid name member).1
    unfold sought
    rw [given]
    simp only [read]

def specifying : Host where
  properties := fun key => if key = "file.separator".toList then some "/".toList else none
  files := fun path =>
    if path = "null/javax.comm.rxtx.properties".toList then
      some fun key =>
        if key = "javax.comm.rxtx.SerialPorts".toList then some "/dev/ttyS0:/dev/ttyS1:".toList
        else none
    else none

theorem initialize_probes_what_is_sought_specified :
    ∃ scan, initializeDriver (fun _ => true) [] linux (some ["lp0".toList]) none specifying
        ⟨[], []⟩ = .ok (specifying.loaded.loaded, scan) ∧
      scan.probed = [("/dev/ttyS0".toList, 1), ("/dev/ttyS1".toList, 1), ("/dev/lp0".toList, 2)] := by
  obtain ⟨scan, run, -, probed, -⟩ :=
    initialize_probes_what_is_sought [] linux (some ["lp0".toList]) none (fun _ => true) specifying
      (by decide) (by
        intro names found
        cases found
        simp [Ascii])
  refine ⟨scan, run, ?_⟩
  rw [probed]
  decide

end Rxtx.CommDriver
