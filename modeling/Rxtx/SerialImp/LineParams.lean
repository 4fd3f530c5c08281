import Rxtx.Library.FlagWord
import Rxtx.SerialImp.Preopened

open FlagWord LinkedHeap

namespace Rxtx.SerialImp

abbrev TcFlag := BitVec 32

/-- The masks of the system's `termios.h`; `cmspar` is what `#ifdef CMSPAR` tests. -/
structure CFlagMasks where
  csize : TcFlag
  cs5 : TcFlag
  cs6 : TcFlag
  cs7 : TcFlag
  cs8 : TcFlag
  cstopb : TcFlag
  parenb : TcFlag
  parodd : TcFlag
  cmspar : Option TcFlag
  sizes_within : ∀ size ∈ [cs5, cs6, cs7, cs8], Within size csize
  sizes_distinct : [cs5, cs6, cs7, cs8].Nodup
  single : ∀ mask ∈ cstopb :: parenb :: parodd :: cmspar.toList, Single mask
  apart : (csize :: cstopb :: parenb :: parodd :: cmspar.toList).Pairwise Apart

/-- The values of `win32termios.h`, which Linux shares. -/
def CFlagMasks.win32 : CFlagMasks where
  csize := 0o60
  cs5 := 0o0
  cs6 := 0o20
  cs7 := 0o40
  cs8 := 0o60
  cstopb := 0o100
  parenb := 0o400
  parodd := 0o1000
  cmspar := some 0o10000000000
  sizes_within := by simp [Within]
  sizes_distinct := by simp
  single := by
    intro mask member
    simp only [Option.toList_some, List.mem_cons, List.not_mem_nil, or_false] at member
    rcases member with rfl | rfl | rfl | rfl
    · exact ⟨6, rfl⟩
    · exact ⟨8, rfl⟩
    · exact ⟨9, rfl⟩
    · exact ⟨30, rfl⟩
  apart := by simp [Apart]

def CFlagMasks.withoutCmspar (masks : CFlagMasks) : CFlagMasks where
  __ := masks
  cmspar := none
  single mask member := masks.single mask (by simp at member ⊢; tauto)
  apart := masks.apart.sublist (by simp)

def jdatabits5 : Int := 5
def jdatabits6 : Int := 6
def jdatabits7 : Int := 7
def jdatabits8 : Int := 8
def jparityNone : Int := 0
def jparityOdd : Int := 1
def jparityEven : Int := 2
def jparityMark : Int := 3
def jparitySpace : Int := 4
def stopbits1 : Int := 1
def stopbits2 : Int := 2
def stopbits15 : Int := 3

variable (masks : CFlagMasks)

def translateDataBits (cflag : TcFlag) (dataBits : Int) : Option TcFlag :=
  let temp := clear cflag masks.csize
  if dataBits = jdatabits5 then some (temp ||| masks.cs5)
  else if dataBits = jdatabits6 then some (temp ||| masks.cs6)
  else if dataBits = jdatabits7 then some (temp ||| masks.cs7)
  else if dataBits = jdatabits8 then some (temp ||| masks.cs8)
  else none

def translateStopBits (cflag : TcFlag) (stopBits : Int) : Option TcFlag :=
  if stopBits = stopbits1 then some (clear cflag masks.cstopb)
  else if stopBits = stopbits15 then translateDataBits masks cflag jdatabits5
  else if stopBits = stopbits2 then some (cflag ||| masks.cstopb)
  else none

def translateParity (cflag : TcFlag) (parity : Int) : Option TcFlag :=
  let cflag := match masks.cmspar with
    | some cmspar => clear cflag (masks.parenb ||| masks.parodd ||| cmspar)
    | none => cflag
  if parity = jparityNone then some cflag
  else if parity = jparityEven then some (cflag ||| masks.parenb)
  else if parity = jparityOdd then some (cflag ||| (masks.parenb ||| masks.parodd))
  else match masks.cmspar with
    | some cmspar =>
      if parity = jparityMark then some (cflag ||| (masks.parenb ||| masks.parodd ||| cmspar))
      else if parity = jparitySpace then some (cflag ||| (masks.parenb ||| cmspar))
      else none
    | none => none

def translateLineParams (cflag : TcFlag) (dataBits stopBits parity : Int) : Option TcFlag := do
  let cflag ← translateDataBits masks cflag dataBits
  let cflag ← translateStopBits masks cflag stopBits
  translateParity masks cflag parity

def dataBitsSwitch (cflag : TcFlag) : Int :=
  let size := cflag &&& masks.csize
  if size = masks.cs5 then jdatabits5
  else if size = masks.cs6 then jdatabits6
  else if size = masks.cs7 then jdatabits7
  else if size = masks.cs8 then jdatabits8
  else -1

def CFlagMasks.parityMask : TcFlag :=
  match masks.cmspar with
  | some cmspar => masks.parenb ||| masks.parodd ||| cmspar
  | none => masks.parenb ||| masks.parodd

def paritySwitch (cflag : TcFlag) : Int :=
  let bits := cflag &&& masks.parityMask
  if bits = 0 then jparityNone
  else if bits = masks.parenb then jparityEven
  else if bits = masks.parenb ||| masks.parodd then jparityOdd
  else match masks.cmspar with
    | some cmspar =>
      if bits = masks.parenb ||| masks.parodd ||| cmspar then jparityMark
      else if bits = masks.parenb ||| cmspar then jparitySpace
      else -1
    | none => -1

def stopBitsSwitch (cflag : TcFlag) : Int :=
  let bits := cflag &&& masks.cstopb
  if bits = 0 then stopbits1
  else if bits = masks.cstopb then stopbits2
  else stopbits15

structure JavaVars where
  dataBits : Int
  stopBits : Int
  parity : Int
  deriving DecidableEq, Repr

def setJavaVars (cflag : TcFlag) : JavaVars :=
  ⟨dataBitsSwitch masks cflag, stopBitsSwitch masks cflag, paritySwitch masks cflag⟩

def nativeStaticGet (switch : TcFlag → Int) (tcgetattr : Int → Option TcFlag)
    (filename : CString) (s : Ports) : Except Fault (Int × Ports) := do
  let (fd, s) ← findPreopenedPorts filename s
  if fd = 0 then return (-1, s)
  match tcgetattr fd with
  | none => return (-1, s)
  | some cflag => return (switch cflag, s)

def nativeStaticGetDataBits := nativeStaticGet (dataBitsSwitch masks)
def nativeStaticGetParity := nativeStaticGet (paritySwitch masks)
def nativeStaticGetStopBits := nativeStaticGet (stopBitsSwitch masks)

theorem CFlagMasks.cstopb_csize : Apart masks.cstopb masks.csize := by
  have apart := masks.apart
  simp only [List.pairwise_cons] at apart
  exact (apart.1 masks.cstopb (by simp)).symm

theorem CFlagMasks.parityMask_apart {other : TcFlag}
    (apart : ∀ mask ∈ masks.parenb :: masks.parodd :: masks.cmspar.toList, Apart mask other) :
    Apart masks.parityMask other := by
  have enabled := apart masks.parenb (by simp)
  have odd := apart masks.parodd (by simp)
  unfold parityMask
  split
  next cmspar defined => exact (enabled.or odd).or (apart cmspar (by simp [defined]))
  next => exact enabled.or odd

theorem CFlagMasks.parityMask_csize : Apart masks.parityMask masks.csize := by
  apply masks.parityMask_apart
  intro mask member
  have apart := masks.apart
  rw [List.pairwise_cons] at apart
  exact (apart.1 mask (List.mem_cons_of_mem _ member)).symm

theorem CFlagMasks.parityMask_cstopb : Apart masks.parityMask masks.cstopb := by
  apply masks.parityMask_apart
  intro mask member
  have apart := masks.apart
  rw [List.pairwise_cons, List.pairwise_cons] at apart
  exact (apart.2.1 mask member).symm

theorem translateDataBits_some {cflag result : TcFlag} {dataBits : Int}
    (accepted : translateDataBits masks cflag dataBits = some result) :
    ∃ size, Within size masks.csize ∧ result = clear cflag masks.csize ||| size ∧
      dataBitsSwitch masks size = dataBits := by
  have within := masks.sizes_within
  have distinct := masks.sizes_distinct
  simp only [List.mem_cons, List.not_mem_nil, or_false, forall_eq_or_imp, forall_eq, Within]
    at within
  rcases within with ⟨h5, h6, h7, h8⟩
  simp only [List.nodup_cons, List.mem_cons, List.not_mem_nil, or_false, not_or] at distinct
  rcases distinct with ⟨⟨d56, d57, d58⟩, ⟨d67, d68⟩, d78, -⟩
  unfold translateDataBits at accepted
  simp only [] at accepted
  split_ifs at accepted with five six seven eight
  · exact ⟨masks.cs5, h5, (Option.some.inj accepted).symm, by simp [dataBitsSwitch, h5, five]⟩
  · exact ⟨masks.cs6, h6, (Option.some.inj accepted).symm,
      by simp [dataBitsSwitch, h6, six, Ne.symm d56]⟩
  · exact ⟨masks.cs7, h7, (Option.some.inj accepted).symm,
      by simp [dataBitsSwitch, h7, seven, Ne.symm d57, Ne.symm d67]⟩
  · exact ⟨masks.cs8, h8, (Option.some.inj accepted).symm,
      by simp [dataBitsSwitch, h8, eight, Ne.symm d58, Ne.symm d68, Ne.symm d78]⟩

theorem dataBitsSwitch_field {word other : TcFlag}
    (same : word &&& masks.csize = other &&& masks.csize) :
    dataBitsSwitch masks word = dataBitsSwitch masks other := by
  simp only [dataBitsSwitch, same]

theorem translateStopBits_cases {cflag result : TcFlag} {stopBits : Int}
    (accepted : translateStopBits masks cflag stopBits = some result) :
    (stopBits = stopbits1 ∧ result = clear cflag masks.cstopb) ∨
    (stopBits = stopbits2 ∧ result = cflag ||| masks.cstopb) ∨
    (stopBits = stopbits15 ∧ translateDataBits masks cflag jdatabits5 = some result) := by
  unfold translateStopBits at accepted
  split_ifs at accepted with one half two
  · exact .inl ⟨one, (Option.some.inj accepted).symm⟩
  · exact .inr (.inr ⟨half, accepted⟩)
  · exact .inr (.inl ⟨two, (Option.some.inj accepted).symm⟩)

theorem stopBitsSwitch_whole (cflag : TcFlag) : stopBitsSwitch masks cflag ≠ stopbits15 := by
  have single := masks.single masks.cstopb (by simp)
  unfold stopBitsSwitch
  rcases single.cases cflag with zero | set
  · simp [zero, stopbits1, stopbits15]
  · simp [set, single.ne_zero, stopbits2, stopbits15]

theorem stopBitsSwitch_translated {cflag result : TcFlag} {stopBits : Int}
    (accepted : translateStopBits masks cflag stopBits = some result)
    (whole : stopBits ≠ stopbits15) : stopBitsSwitch masks result = stopBits := by
  have set := (masks.single masks.cstopb (by simp)).ne_zero
  unfold stopBitsSwitch
  rcases translateStopBits_cases masks accepted with ⟨rfl, rfl⟩ | ⟨rfl, rfl⟩ | ⟨half, -⟩
  · simp [clear_and_same]
  · simp [set_and_same, set]
  · exact absurd half whole

def parityFlags (parity : Int) : Option TcFlag :=
  if parity = jparityNone then some 0
  else if parity = jparityEven then some masks.parenb
  else if parity = jparityOdd then some (masks.parenb ||| masks.parodd)
  else match masks.cmspar with
    | some cmspar =>
      if parity = jparityMark then some (masks.parenb ||| masks.parodd ||| cmspar)
      else if parity = jparitySpace then some (masks.parenb ||| cmspar)
      else none
    | none => none

theorem translateParity_eq (cflag : TcFlag) (parity : Int) :
    translateParity masks cflag parity = (parityFlags masks parity).map fun flags =>
      (if masks.cmspar.isSome then clear cflag masks.parityMask else cflag) ||| flags := by
  unfold translateParity parityFlags CFlagMasks.parityMask
  cases masks.cmspar <;> simp only [] <;> split_ifs <;> simp_all

theorem parityFlags_within {parity : Int} {flags : TcFlag}
    (accepted : parityFlags masks parity = some flags) : Within flags masks.parityMask := by
  have enabled := within_self masks.parenb
  have odd := within_self masks.parodd
  unfold parityFlags at accepted
  unfold CFlagMasks.parityMask
  cases defined : masks.cmspar with
  | none =>
    simp only [defined] at accepted ⊢
    split_ifs at accepted <;> cases accepted
    · exact within_zero _
    · exact enabled.left _
    · exact within_self _
  | some cmspar =>
    simp only [defined] at accepted ⊢
    split_ifs at accepted <;> cases accepted
    · exact within_zero _
    · exact (enabled.left _).left _
    · exact (within_self _).left _
    · exact within_self _
    · exact ((enabled.left _).left _).or ((within_self _).right _)

theorem paritySwitch_of_flags {parity : Int} {flags cflag : TcFlag}
    (accepted : parityFlags masks parity = some flags)
    (field : cflag &&& masks.parityMask = flags) : paritySwitch masks cflag = parity := by
  have enabled := (masks.single masks.parenb (by simp)).ne_zero
  have odd := (masks.single masks.parodd (by simp)).ne_zero
  have apart := masks.apart
  rw [List.pairwise_cons, List.pairwise_cons, List.pairwise_cons, List.pairwise_cons] at apart
  have enabledOdd : Apart masks.parenb masks.parodd := apart.2.2.1 _ (by simp)
  unfold parityFlags at accepted
  unfold paritySwitch
  rw [field]
  cases defined : masks.cmspar with
  | none =>
    have distinct := pair_nodup enabled odd enabledOdd
    simp only [List.nodup_cons, List.mem_cons, List.not_mem_nil, or_false, not_or] at distinct
    rcases distinct with ⟨⟨z1, z2⟩, e2, -⟩
    simp only [defined] at accepted ⊢
    split_ifs at accepted with none even odd <;> cases accepted
    · simp [none]
    · simp [even, Ne.symm z1]
    · simp [odd, Ne.symm z2, Ne.symm e2]
  | some cmspar =>
    have third := (masks.single cmspar (by simp [defined])).ne_zero
    have distinct := triple_nodup enabled odd third enabledOdd
      (apart.2.2.1 _ (by simp [defined])) (apart.2.2.2.1 _ (by simp [defined]))
    simp only [List.nodup_cons, List.mem_cons, List.not_mem_nil, or_false, not_or] at distinct
    rcases distinct with ⟨⟨z1, z2, z3, z4⟩, ⟨e2, e3, e4⟩, ⟨o3, o4⟩, m4, -⟩
    simp only [defined] at accepted ⊢
    split_ifs at accepted with none even odd mark space <;> cases accepted
    · simp [none]
    · simp [even, Ne.symm z1]
    · simp [odd, Ne.symm z2, Ne.symm e2]
    · simp [mark, Ne.symm z3, Ne.symm e3, Ne.symm o3]
    · simp [space, Ne.symm z4, Ne.symm e4, Ne.symm o4, Ne.symm m4]

theorem paritySwitch_flags (cflag : TcFlag) :
    paritySwitch masks cflag = -1 ∨
      parityFlags masks (paritySwitch masks cflag) = some (cflag &&& masks.parityMask) := by
  unfold paritySwitch
  generalize cflag &&& masks.parityMask = bits
  cases defined : masks.cmspar with
  | none =>
    simp only []
    split_ifs with none even odd
    · simp [parityFlags, none]
    · simp [parityFlags, even, jparityEven, jparityNone]
    · simp [parityFlags, odd, jparityOdd, jparityEven, jparityNone]
    · exact .inl rfl
  | some cmspar =>
    simp only []
    split_ifs with none even odd mark space
    · simp [parityFlags, none]
    · simp [parityFlags, even, jparityEven, jparityNone]
    · simp [parityFlags, odd, jparityOdd, jparityEven, jparityNone]
    · simp [parityFlags, defined, mark, jparityMark, jparityOdd, jparityEven, jparityNone]
    · simp [parityFlags, defined, space, jparitySpace, jparityMark, jparityOdd, jparityEven,
        jparityNone]
    · exact .inl rfl

theorem paritySwitch_iff {parity : Int} {flags : TcFlag}
    (accepted : parityFlags masks parity = some flags) (cflag : TcFlag) :
    paritySwitch masks cflag = parity ↔ cflag &&& masks.parityMask = flags := by
  refine ⟨?_, paritySwitch_of_flags masks accepted⟩
  intro same
  rcases same with rfl
  rcases paritySwitch_flags masks cflag with missed | decoded
  · have unknown : parityFlags masks (-1) = none := by
      unfold parityFlags
      cases masks.cmspar <;> rfl
    rw [missed, unknown] at accepted
    cases accepted
  · rw [decoded] at accepted
    exact Option.some.inj accepted

theorem stopBitsSwitch_field {word other : TcFlag}
    (same : word &&& masks.cstopb = other &&& masks.cstopb) :
    stopBitsSwitch masks word = stopBitsSwitch masks other := by
  simp only [stopBitsSwitch, same]

theorem translateLineParams_cases {cflag result : TcFlag} {dataBits stopBits parity : Int}
    (accepted : translateLineParams masks cflag dataBits stopBits parity = some result) :
    ∃ sized stopped flags, translateDataBits masks cflag dataBits = some sized ∧
      translateStopBits masks sized stopBits = some stopped ∧
      parityFlags masks parity = some flags ∧
      result = (if masks.cmspar.isSome then clear stopped masks.parityMask else stopped) |||
        flags := by
  simp only [translateLineParams, Option.bind_eq_bind, Option.bind_eq_some_iff,
    translateParity_eq, Option.map_eq_some_iff] at accepted
  rcases accepted with ⟨sized, data, stopped, stop, flags, known, rfl⟩
  exact ⟨sized, stopped, flags, data, stop, known, rfl⟩

theorem parity_step_apart {stopped flags other : TcFlag} (within : Within flags masks.parityMask)
    (apart : Apart masks.parityMask other) :
    ((if masks.cmspar.isSome then clear stopped masks.parityMask else stopped) ||| flags) &&& other
      = stopped &&& other := by
  rw [or_and_apart _ (within.apart apart)]
  split
  · exact clear_and_apart _ apart
  · rfl

theorem translateDataBits_apart {cflag result other : TcFlag} {dataBits : Int}
    (accepted : translateDataBits masks cflag dataBits = some result)
    (apart : Apart other masks.csize) : result &&& other = cflag &&& other := by
  obtain ⟨size, within, rfl, -⟩ := translateDataBits_some masks accepted
  exact put_and_apart _ within apart.symm

theorem translateStopBits_apart {cflag result other : TcFlag} {stopBits : Int}
    (accepted : translateStopBits masks cflag stopBits = some result)
    (size : Apart other masks.csize) (stop : Apart other masks.cstopb) :
    result &&& other = cflag &&& other := by
  rcases translateStopBits_cases masks accepted with ⟨-, rfl⟩ | ⟨-, rfl⟩ | ⟨-, five⟩
  · exact clear_and_apart _ stop.symm
  · exact or_and_apart _ stop.symm
  · exact translateDataBits_apart masks five size

theorem translateLineParams_apart {cflag result other : TcFlag} {dataBits stopBits parity : Int}
    (accepted : translateLineParams masks cflag dataBits stopBits parity = some result)
    (size : Apart other masks.csize) (stop : Apart other masks.cstopb)
    (flags : Apart masks.parityMask other) : result &&& other = cflag &&& other := by
  obtain ⟨sized, stopped, bits, data, stopping, known, rfl⟩ :=
    translateLineParams_cases masks accepted
  rw [parity_step_apart masks (parityFlags_within masks known) flags,
    translateStopBits_apart masks stopping size stop, translateDataBits_apart masks data size]

theorem dataBitsSwitch_translated {cflag sized stopped : TcFlag} {dataBits stopBits : Int}
    (data : translateDataBits masks cflag dataBits = some sized)
    (stop : translateStopBits masks sized stopBits = some stopped) :
    dataBitsSwitch masks stopped = if stopBits = stopbits15 then jdatabits5 else dataBits := by
  have put {word result : TcFlag} {bits : Int}
      (translated : translateDataBits masks word bits = some result) :
      dataBitsSwitch masks result = bits := by
    obtain ⟨size, within, rfl, decoded⟩ := translateDataBits_some masks translated
    rw [← decoded]
    exact dataBitsSwitch_field masks ((put_and_same _ within).trans within.symm)
  rcases translateStopBits_cases masks stop with ⟨rfl, rfl⟩ | ⟨rfl, rfl⟩ | ⟨rfl, five⟩
  · rw [if_neg (by decide), dataBitsSwitch_field masks (clear_and_apart _ masks.cstopb_csize)]
    exact put data
  · rw [if_neg (by decide), dataBitsSwitch_field masks (or_and_apart _ masks.cstopb_csize)]
    exact put data
  · rw [if_pos rfl]
    exact put five

/-- What every decoder says about a `c_cflag` word. -/
structure Decodes (cflag : TcFlag) (dataBits stopBits parity : Int) : Prop where
  javaVars : setJavaVars masks cflag = ⟨dataBits, stopBits, parity⟩
  staticGet : ∀ (tcgetattr : Int → Option TcFlag) (filename : CString) (s s' : Ports) (fd : Int),
    findPreopenedPorts filename s = .ok (fd, s') → fd ≠ 0 → tcgetattr fd = some cflag →
    nativeStaticGetDataBits masks tcgetattr filename s = .ok (dataBits, s') ∧
    nativeStaticGetStopBits masks tcgetattr filename s = .ok (stopBits, s') ∧
    nativeStaticGetParity masks tcgetattr filename s = .ok (parity, s')

theorem decodes_iff {cflag : TcFlag} {dataBits stopBits parity : Int} :
    Decodes masks cflag dataBits stopBits parity ↔ dataBitsSwitch masks cflag = dataBits ∧
      stopBitsSwitch masks cflag = stopBits ∧ paritySwitch masks cflag = parity := by
  constructor
  · intro decodes
    have vars := decodes.javaVars
    simpa [setJavaVars] using vars
  · intro same
    rcases same with ⟨rfl, rfl, rfl⟩
    refine ⟨rfl, ?_⟩
    intro tcgetattr filename s s' fd found known settings
    have get (switch : TcFlag → Int) :
        nativeStaticGet switch tcgetattr filename s = .ok (switch cflag, s') := by
      simp [nativeStaticGet, found, known, settings, Bind.bind, Except.bind, Pure.pure, Except.pure]
    exact ⟨get _, get _, get _⟩

/-- The decoders give an accepted request back exactly when it does not ask for one and a half stop
    bits and, on systems without `CMSPAR`, no parity flag was set before that it does not set. -/
theorem line_params_decode_iff (cflag result : TcFlag) (dataBits stopBits parity : Int)
    (accepted : translateLineParams masks cflag dataBits stopBits parity = some result) :
    Decodes masks result (if stopBits = stopbits15 then jdatabits5 else dataBits) stopBits parity ↔
      stopBits ≠ stopbits15 ∧ (masks.cmspar = none →
        ∀ flags ∈ parityFlags masks parity, Within (cflag &&& masks.parityMask) flags) := by
  obtain ⟨sized, stopped, flags, data, stop, known, rfl⟩ := translateLineParams_cases masks accepted
  have within := parityFlags_within masks known
  have before : stopped &&& masks.parityMask = cflag &&& masks.parityMask := by
    rw [translateStopBits_apart masks stop masks.parityMask_csize masks.parityMask_cstopb,
      translateDataBits_apart masks data masks.parityMask_csize]
  rw [decodes_iff, paritySwitch_iff masks known,
    dataBitsSwitch_field masks (parity_step_apart masks within masks.parityMask_csize),
    dataBitsSwitch_translated masks data stop]
  rw [stopBitsSwitch_field masks (parity_step_apart masks within masks.parityMask_cstopb)]
  have stops : stopBitsSwitch masks stopped = stopBits ↔ stopBits ≠ stopbits15 := by
    constructor
    · rintro rfl
      exact stopBitsSwitch_whole masks stopped
    · exact stopBitsSwitch_translated masks stop
  have parities : ((if masks.cmspar.isSome then clear stopped masks.parityMask else stopped) |||
      flags) &&& masks.parityMask = flags ↔
        (masks.cmspar = none → Within (cflag &&& masks.parityMask) flags) := by
    cases masks.cmspar with
    | some cmspar => simp [put_and_same stopped within]
    | none =>
      rw [← or_eq_iff_within]
      simp [BitVec.and_or_distrib_right, before,
        show flags &&& masks.parityMask = flags from within]
  simp [stops, parities, known]

theorem line_params_decode_iff_marked :
    Decodes .win32 0o10000001460 8 1 3 ↔ (1 : Int) ≠ stopbits15 ∧
      (CFlagMasks.win32.cmspar = none → ∀ flags ∈ parityFlags .win32 3,
        Within (0 &&& CFlagMasks.win32.parityMask) flags) :=
  line_params_decode_iff .win32 0 0o10000001460 8 1 3 (by decide)

/-- Headers without `CMSPAR`, a port left at odd parity: a request for no parity keeps it odd. -/
theorem line_params_not_decoded :
    ¬ ∀ (masks : CFlagMasks) (cflag result : TcFlag) (dataBits stopBits parity : Int),
      translateLineParams masks cflag dataBits stopBits parity = some result →
      Decodes masks result (if stopBits = stopbits15 then jdatabits5 else dataBits) stopBits
        parity := by
  intro decoded
  have parity := (decoded CFlagMasks.win32.withoutCmspar 0o1460 0o1460 8 1 0 (by decide)).javaVars
  revert parity
  decide

end Rxtx.SerialImp
