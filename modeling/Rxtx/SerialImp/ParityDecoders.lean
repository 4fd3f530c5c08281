import Rxtx.SerialImp.LineParams

open FlagWord LinkedHeap

namespace Rxtx.SerialImp

/-- C's `left && right` -/
def logicalAnd (left right : TcFlag) : TcFlag := if left ≠ 0 ∧ right ≠ 0 then 1 else 0

variable (masks : CFlagMasks)

def oddEvenNone (cflag : TcFlag) : Int :=
  if cflag &&& masks.parenb ≠ 0 ∧ cflag &&& masks.parodd ≠ 0 then jparityOdd
  else if cflag &&& masks.parenb ≠ 0 then jparityEven
  else jparityNone

def nativeGetParity (tcgetattr : Int → Option TcFlag) (fd : Int) : Int :=
  match tcgetattr fd with
  | none => -1
  | some cflag =>
    match masks.cmspar with
    | none => oddEvenNone masks cflag
    | some cmspar =>
      if cflag &&& masks.parenb ≠ 0 ∧ cflag &&& masks.parodd ≠ 0 ∧ cflag &&& cmspar ≠ 0 then
        jparityMark
      -- the parenthesis is closed late: `PARENB && …` is a truth value and masks the word
      else if cflag &&& logicalAnd masks.parenb (cflag &&& cmspar) ≠ 0 then jparitySpace
      else oddEvenNone masks cflag

/-- The three decoders find `parity` in a `c_cflag` word. -/
structure ParityDecoded (cflag : TcFlag) (parity : Int) : Prop where
  get : ∀ (tcgetattr : Int → Option TcFlag) (fd : Int), tcgetattr fd = some cflag →
    nativeGetParity masks tcgetattr fd = parity
  staticGet : ∀ (tcgetattr : Int → Option TcFlag) (filename : CString) (s s' : Ports) (fd : Int),
    findPreopenedPorts filename s = .ok (fd, s') → fd ≠ 0 → tcgetattr fd = some cflag →
    nativeStaticGetParity masks tcgetattr filename s = .ok (parity, s')
  javaVars : (setJavaVars masks cflag).parity = parity

theorem paritySwitch_translated {cflag word result : TcFlag} {parity : Int}
    (defined : masks.cmspar.isSome) (accepted : translateParity masks word parity = some result)
    (field : cflag &&& masks.parityMask = result &&& masks.parityMask) :
    ∃ flags, parityFlags masks parity = some flags ∧ cflag &&& masks.parityMask = flags := by
  rw [translateParity_eq, Option.map_eq_some_iff] at accepted
  rcases accepted with ⟨flags, known, rfl⟩
  refine ⟨flags, known, ?_⟩
  rw [field, if_pos defined]
  exact put_and_same word (parityFlags_within masks known)

theorem and_within {word mask field flags : TcFlag} (within : Within mask field)
    (same : word &&& field = flags) : word &&& mask = flags &&& mask := by
  have inside : field &&& mask = mask := by
    rw [BitVec.and_comm]
    exact within
  rw [← same, BitVec.and_assoc, inside]

theorem logicalAnd_of_ne {left : TcFlag} (set : left ≠ 0) (right : TcFlag) :
    logicalAnd left right = if right ≠ 0 then 1 else 0 := by
  unfold logicalAnd
  split_ifs with both set <;> simp_all

theorem nativeGetParity_flags {tcgetattr : Int → Option TcFlag} {cflag flags : TcFlag}
    {parity fd : Int} (defined : masks.cmspar.isSome)
    (known : parityFlags masks parity = some flags)
    (field : cflag &&& masks.parityMask = flags) (settings : tcgetattr fd = some cflag) :
    nativeGetParity masks tcgetattr fd =
      if parity = jparitySpace ∧ cflag &&& 1 = 0 then jparityEven else parity := by
  obtain ⟨cmspar, defined⟩ := Option.isSome_iff_exists.mp defined
  have enabled := (masks.single masks.parenb (by simp)).ne_zero
  have odd := (masks.single masks.parodd (by simp)).ne_zero
  have third := (masks.single cmspar (by simp [defined])).ne_zero
  have apart := masks.apart
  rw [List.pairwise_cons, List.pairwise_cons, List.pairwise_cons, List.pairwise_cons] at apart
  have ab : masks.parenb &&& masks.parodd = 0#32 := apart.2.2.1 _ (by simp)
  have ac : masks.parenb &&& cmspar = 0#32 := apart.2.2.1 _ (by simp [defined])
  have bc : masks.parodd &&& cmspar = 0#32 := apart.2.2.2.1 _ (by simp [defined])
  have ba : masks.parodd &&& masks.parenb = 0#32 := by rw [BitVec.and_comm, ab]
  have ca : cmspar &&& masks.parenb = 0#32 := by rw [BitVec.and_comm, ac]
  have cb : cmspar &&& masks.parodd = 0#32 := by rw [BitVec.and_comm, bc]
  have mask : masks.parityMask = masks.parenb ||| masks.parodd ||| cmspar := by
    simp only [CFlagMasks.parityMask, defined]
  rw [mask] at field
  have enabledBit := and_within (((within_self masks.parenb).left masks.parodd).left cmspar) field
  have oddBit := and_within (((within_self masks.parodd).right masks.parenb).left cmspar) field
  have thirdBit := and_within ((within_self cmspar).right (masks.parenb ||| masks.parodd)) field
  simp only [nativeGetParity, settings, defined, oddEvenNone, enabledBit, oddBit, thirdBit,
    logicalAnd_of_ne enabled]
  unfold parityFlags at known
  simp only [defined] at known
  split_ifs at known with isNone isEven isOdd isMark isSpace <;> cases known
  · simp [isNone, jparityNone, jparitySpace]
  · simp [isEven, jparityEven, jparitySpace, ab, ac, enabled]
  · simp [isOdd, jparityOdd, jparitySpace, BitVec.and_or_distrib_right, ab, ba, ac, bc, enabled,
      odd]
  · simp [isMark, jparityMark, jparitySpace, BitVec.and_or_distrib_right, ab, ba, ac, bc, ca, cb,
      enabled, odd, third]
  · simp [isSpace, BitVec.and_or_distrib_right, ab, ac, ca, cb, enabled, third]

/-- The decoders agree on what `translateParity` encoded except where it is space parity and bit 0
    of the word is clear. -/
theorem parity_decoders_agree_iff (cflag word result : TcFlag) (parity : Int)
    (defined : masks.cmspar.isSome) (accepted : translateParity masks word parity = some result)
    (field : cflag &&& masks.parityMask = result &&& masks.parityMask) :
    ParityDecoded masks cflag parity ↔ (parity = jparitySpace → cflag &&& 1 ≠ 0) := by
  obtain ⟨flags, known, bits⟩ := paritySwitch_translated masks defined accepted field
  constructor
  · intro decoded space low
    have get := decoded.get (fun _ => some cflag) 0 rfl
    rw [nativeGetParity_flags masks defined known bits rfl, if_pos ⟨space, low⟩, space] at get
    cases get
  · intro bit
    have decodes := (decodes_iff masks).mpr ⟨rfl, rfl, paritySwitch_of_flags masks known bits⟩
    refine ⟨?_, ?_, ?_⟩
    · intro tcgetattr fd settings
      rw [nativeGetParity_flags masks defined known bits settings, if_neg]
      intro misread
      exact bit misread.1 misread.2
    · intro tcgetattr filename s s' fd found known settings
      exact (decodes.staticGet tcgetattr filename s s' fd found known settings).2.2
    · rw [decodes.javaVars]

theorem parity_decoders_agree_iff_mark :
    ParityDecoded .win32 0o10000001475 3 ↔ ((3 : Int) = jparitySpace → (0o10000001475 : TcFlag) &&&
      1 ≠ 0) :=
  parity_decoders_agree_iff .win32 0o10000001475 0 0o10000001400 3 rfl (by decide) (by decide)

/-- Space parity at B19200 is read as even parity. -/
theorem parity_decoders_disagree :
    ¬ ∀ (masks : CFlagMasks) (cflag word result : TcFlag) (parity : Int),
      masks.cmspar.isSome → translateParity masks word parity = some result →
      cflag &&& masks.parityMask = result &&& masks.parityMask →
      ParityDecoded masks cflag parity := by
  intro agree
  have get := (agree .win32 0o10000000476 0 0o10000000400 4 rfl (by decide) (by decide)).get
    (fun _ => some 0o10000000476) 0 rfl
  revert get
  decide

end Rxtx.SerialImp
