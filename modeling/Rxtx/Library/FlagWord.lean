import Mathlib.Data.BitVec
import Mathlib.Logic.Function.Basic

namespace FlagWord

variable {w : Nat}

def clear (word mask : BitVec w) : BitVec w := word &&& ~~~mask

def assign (word mask : BitVec w) (on : Bool) : BitVec w :=
  if on then word ||| mask else clear word mask

def Within (value mask : BitVec w) : Prop := value &&& mask = value

def Apart (left right : BitVec w) : Prop := left &&& right = 0#w

instance (value mask : BitVec w) : Decidable (Within value mask) :=
  inferInstanceAs (Decidable (value &&& mask = value))

instance (left right : BitVec w) : Decidable (Apart left right) :=
  inferInstanceAs (Decidable (left &&& right = 0#w))

def Single (mask : BitVec w) : Prop := ∃ i : Fin w, mask = BitVec.twoPow w i

theorem Single.ne_zero {mask : BitVec w} (single : Single mask) : mask ≠ 0#w := by
  rcases single with ⟨i, rfl⟩
  intro zero
  have bit := congrArg (fun word : BitVec w => word.getLsbD i) zero
  simp at bit

theorem Single.cases {mask : BitVec w} (single : Single mask) (word : BitVec w) :
    word &&& mask = 0#w ∨ word &&& mask = mask := by
  rcases single with ⟨i, rfl⟩
  rw [BitVec.and_twoPow]
  split
  · exact .inr rfl
  · exact .inl rfl

theorem within_iff {value mask : BitVec w} :
    Within value mask ↔ ∀ i, value.getLsbD i = true → mask.getLsbD i = true := by
  constructor
  · intro within i set
    have bit := congrArg (fun word : BitVec w => word.getLsbD i) within
    simpa [set] using bit
  · intro bits
    apply BitVec.eq_of_getLsbD_eq
    intro i _
    rw [BitVec.getLsbD_and]
    cases set : value.getLsbD i
    · rfl
    · rw [bits i set, Bool.and_true]

theorem apart_iff {left right : BitVec w} :
    Apart left right ↔ ∀ i, left.getLsbD i = true → right.getLsbD i = false := by
  constructor
  · intro apart i set
    have bit := congrArg (fun word : BitVec w => word.getLsbD i) apart
    simpa [set] using bit
  · intro bits
    apply BitVec.eq_of_getLsbD_eq
    intro i _
    rw [BitVec.getLsbD_and, BitVec.getLsbD_zero]
    cases set : left.getLsbD i
    · rfl
    · rw [bits i set, Bool.and_false]

theorem Apart.symm {left right : BitVec w} (apart : Apart left right) : Apart right left := by
  rw [Apart, BitVec.and_comm]
  exact apart

theorem Within.apart {value mask other : BitVec w} (within : Within value mask)
    (apart : Apart mask other) : Apart value other := by
  rw [apart_iff] at apart ⊢
  exact fun i set => apart i (within_iff.mp within i set)

theorem within_zero (mask : BitVec w) : Within 0#w mask := BitVec.zero_and

theorem within_self (mask : BitVec w) : Within mask mask := BitVec.and_self

theorem Within.or {left right mask : BitVec w} (hl : Within left mask) (hr : Within right mask) :
    Within (left ||| right) mask := by
  rw [within_iff] at hl hr ⊢
  intro i set
  rw [BitVec.getLsbD_or, Bool.or_eq_true] at set
  exact set.elim (hl i) (hr i)

theorem Within.left {value left : BitVec w} (within : Within value left) (right : BitVec w) :
    Within value (left ||| right) := by
  rw [within_iff] at within ⊢
  intro i set
  rw [BitVec.getLsbD_or, within i set, Bool.true_or]

theorem Within.right {value right : BitVec w} (within : Within value right) (left : BitVec w) :
    Within value (left ||| right) := by
  rw [within_iff] at within ⊢
  intro i set
  rw [BitVec.getLsbD_or, within i set, Bool.or_true]

theorem Apart.or {left right other : BitVec w} (hl : Apart left other) (hr : Apart right other) :
    Apart (left ||| right) other := by
  rw [apart_iff] at hl hr ⊢
  intro i set
  rw [BitVec.getLsbD_or, Bool.or_eq_true] at set
  exact set.elim (hl i) (hr i)

theorem clear_and_same (word mask : BitVec w) : clear word mask &&& mask = 0#w := by
  apply BitVec.eq_of_getLsbD_eq
  intro i hi
  simp only [clear, BitVec.getLsbD_and, BitVec.getLsbD_not, BitVec.getLsbD_zero]
  cases mask.getLsbD i <;> simp

theorem clear_and_apart {mask other : BitVec w} (word : BitVec w) (apart : Apart mask other) :
    clear word mask &&& other = word &&& other := by
  apply BitVec.eq_of_getLsbD_eq
  intro i hi
  have bit := apart_iff.mp apart i
  simp only [clear, BitVec.getLsbD_and, BitVec.getLsbD_not, hi, decide_true, Bool.true_and]
  cases set : mask.getLsbD i
  · simp
  · simp [bit set]

theorem clear_or (left right mask : BitVec w) :
    clear (left ||| right) mask = clear left mask ||| clear right mask :=
  BitVec.and_or_distrib_right

theorem clear_clear (word left right : BitVec w) :
    clear (clear word left) right = clear word (left ||| right) := by
  unfold clear
  rw [BitVec.and_assoc, ← BitVec.not_or]

theorem clear_self (mask : BitVec w) : clear mask mask = 0#w := BitVec.and_not_self mask

theorem clear_set_clear (word left right : BitVec w) :
    clear (clear (word ||| left) right) (left ||| right) = clear word (left ||| right) := by
  rw [BitVec.or_comm left right, ← clear_clear, clear_clear _ right right, BitVec.or_self,
    clear_clear, BitVec.or_comm right left, ← clear_clear, clear_or, clear_self, BitVec.or_zero,
    clear_clear]

theorem clear_of_and {word mask : BitVec w} (zero : word &&& mask = 0#w) :
    clear word mask = word := by
  apply BitVec.eq_of_getLsbD_eq
  intro i hi
  have bit := apart_iff.mp zero i
  simp only [clear, BitVec.getLsbD_and, BitVec.getLsbD_not, hi, decide_true, Bool.true_and]
  cases set : word.getLsbD i
  · rfl
  · simp [bit set]

theorem put_and_same {value mask : BitVec w} (word : BitVec w) (within : Within value mask) :
    (clear word mask ||| value) &&& mask = value := by
  rw [BitVec.and_or_distrib_right, clear_and_same, BitVec.zero_or]
  exact within

theorem put_and_apart {value mask other : BitVec w} (word : BitVec w) (within : Within value mask)
    (apart : Apart mask other) : (clear word mask ||| value) &&& other = word &&& other := by
  rw [BitVec.and_or_distrib_right, clear_and_apart word apart,
    show value &&& other = 0#w from within.apart apart, BitVec.or_zero]

theorem put_own (word mask : BitVec w) : clear word mask ||| (word &&& mask) = word := by
  apply BitVec.eq_of_getLsbD_eq
  intro i hi
  simp only [clear, BitVec.getLsbD_or, BitVec.getLsbD_and, BitVec.getLsbD_not, hi, decide_true,
    Bool.true_and]
  cases word.getLsbD i <;> cases mask.getLsbD i <;> rfl

theorem put_eq_iff {word value mask : BitVec w} (within : Within value mask) :
    clear word mask ||| value = word ↔ word &&& mask = value := by
  constructor
  · intro own
    rw [← own]
    exact put_and_same word within
  · intro field
    rw [← field]
    exact put_own word mask

theorem clear_and_eq_iff {word field mask : BitVec w} (within : Within field mask) :
    clear word field &&& mask = word &&& mask ↔ word &&& field = 0#w := by
  have inside : mask &&& field = field := by
    rw [BitVec.and_comm]
    exact within
  constructor
  · intro same
    have part := congrArg (· &&& field) same
    simp only [BitVec.and_assoc, inside, clear_and_same] at part
    exact part.symm
  · intro zero
    rw [clear_of_and zero]

theorem clear_eq_zero {word mask : BitVec w} : clear word mask = 0#w ↔ Within word mask := by
  constructor
  · intro zero
    have own := put_own word mask
    rw [zero, BitVec.zero_or] at own
    exact own
  · intro within
    have own : word &&& mask = word := within
    rw [← own, clear, BitVec.and_assoc]
    simp

theorem and_of_within {field mask word other : BitVec w} (within : Within field mask)
    (same : word &&& mask = other &&& mask) : word &&& field = other &&& field := by
  rw [← within, BitVec.and_comm field mask, ← BitVec.and_assoc, same, BitVec.and_assoc]

theorem or_own (word mask : BitVec w) : word ||| (word &&& mask) = word := by
  apply BitVec.eq_of_getLsbD_eq
  intro i _
  simp only [BitVec.getLsbD_or, BitVec.getLsbD_and]
  cases word.getLsbD i <;> simp

theorem set_and_same (word mask : BitVec w) : (word ||| mask) &&& mask = mask := by
  apply BitVec.eq_of_getLsbD_eq
  intro i _
  simp only [BitVec.getLsbD_and, BitVec.getLsbD_or]
  cases word.getLsbD i <;> simp

theorem or_eq_iff_within {value word : BitVec w} : value ||| word = word ↔ Within value word := by
  rw [within_iff]
  constructor
  · intro same i set
    rw [← same, BitVec.getLsbD_or, set, Bool.true_or]
  · intro bits
    apply BitVec.eq_of_getLsbD_eq
    intro i _
    rw [BitVec.getLsbD_or]
    cases set : value.getLsbD i
    · rfl
    · rw [bits i set, Bool.or_true]

theorem assign_own {word mask : BitVec w} (single : Single mask) {on : Bool}
    (same : on = true ↔ word &&& mask ≠ 0#w) : assign word mask on = word := by
  unfold assign
  rcases single.cases word with zero | set
  · rw [if_neg (by simp [same, zero])]
    exact clear_of_and zero
  · rw [if_pos (by simp [same, set, single.ne_zero]), BitVec.or_comm]
    exact or_eq_iff_within.mpr (by rw [Within, BitVec.and_comm, set])

theorem clear_assign {mask field : BitVec w} (within : Within mask field) (word : BitVec w)
    (on : Bool) : clear (assign word mask on) field = clear word field := by
  cases on
  · show clear (clear word mask) field = clear word field
    rw [clear_clear, or_eq_iff_within.mpr within]
  · show clear (word ||| mask) field = clear word field
    rw [clear_or, clear_eq_zero.mpr within, BitVec.or_zero]

theorem assign_and_same {mask : BitVec w} (nonzero : mask ≠ 0#w) (word : BitVec w) (on : Bool) :
    assign word mask on &&& mask ≠ 0#w ↔ on = true := by
  cases on
  · simp [assign, clear_and_same]
  · simp [assign, set_and_same, nonzero]

theorem assign_and_apart {mask other : BitVec w} (apart : Apart mask other) (word : BitVec w)
    (on : Bool) : assign word mask on &&& other = word &&& other := by
  cases on
  · exact clear_and_apart word apart
  · rw [assign, if_pos rfl, BitVec.and_or_distrib_right, show mask &&& other = 0#w from apart,
      BitVec.or_zero]

theorem or_and_apart {value other : BitVec w} (word : BitVec w) (apart : Apart value other) :
    (word ||| value) &&& other = word &&& other := by
  rw [BitVec.and_or_distrib_right, show value &&& other = 0#w from apart, BitVec.or_zero]

theorem ne_of_and {left right : BitVec w} (mask : BitVec w)
    (differ : left &&& mask ≠ right &&& mask) : left ≠ right :=
  fun same => differ (by rw [same])

theorem pair_nodup {a b : BitVec w} (ha : a ≠ 0#w) (hb : b ≠ 0#w) (ab : Apart a b) :
    [0#w, a, a ||| b].Nodup := by
  have ba : b &&& a = 0#w := ab.symm
  have ab : a &&& b = 0#w := ab
  have both : a ||| b ≠ 0#w := ne_of_and a (by simp [BitVec.and_or_distrib_right, ba, ha])
  have second : a ≠ a ||| b := ne_of_and b (by simp [BitVec.and_or_distrib_right, ab, hb.symm])
  simp [ha.symm, both.symm, second]

theorem triple_nodup {a b c : BitVec w} (ha : a ≠ 0#w) (hb : b ≠ 0#w) (hc : c ≠ 0#w)
    (ab : Apart a b) (ac : Apart a c) (bc : Apart b c) :
    [0#w, a, a ||| b, a ||| b ||| c, a ||| c].Nodup := by
  have ba : b &&& a = 0#w := ab.symm
  have ca : c &&& a = 0#w := ac.symm
  have cb : c &&& b = 0#w := bc.symm
  have ab : a &&& b = 0#w := ab
  have ac : a &&& c = 0#w := ac
  have bc : b &&& c = 0#w := bc
  have zero : ∀ rest, rest &&& a = 0#w → 0#w ≠ a ||| rest :=
    fun rest none => ne_of_and a (by simp [BitVec.and_or_distrib_right, none, ha.symm])
  have first : a ≠ a ||| b := ne_of_and b (by simp [BitVec.and_or_distrib_right, ab, hb.symm])
  have all : a ≠ a ||| b ||| c :=
    ne_of_and b (by simp [BitVec.and_or_distrib_right, ab, cb, hb.symm])
  have third : a ≠ a ||| c := ne_of_and c (by simp [BitVec.and_or_distrib_right, ac, hc.symm])
  have added : a ||| b ≠ a ||| b ||| c :=
    ne_of_and c (by simp [BitVec.and_or_distrib_right, ac, bc, hc.symm])
  have swapped : a ||| b ≠ a ||| c :=
    ne_of_and c (by simp [BitVec.and_or_distrib_right, ac, bc, hc.symm])
  have dropped : a ||| b ||| c ≠ a ||| c :=
    ne_of_and b (by simp [BitVec.and_or_distrib_right, ab, cb, hb])
  have zeroAll : 0#w ≠ a ||| b ||| c := by
    rw [BitVec.or_assoc]
    exact zero _ (by simp [BitVec.and_or_distrib_right, ba, ca])
  simp [ha.symm, zero b ba, zeroAll, zero c ca, first, all, third, added, swapped, dropped]

section Union

variable {κ : Type}

def union (keys : List κ) (masks : κ → BitVec w) (enabled : κ → Bool) : BitVec w :=
  keys.foldl (fun word key => if enabled key then word ||| masks key else word) 0#w

theorem foldl_getLsbD (keys : List κ) (masks : κ → BitVec w) (enabled : κ → Bool)
    (word : BitVec w) (i : Nat) :
    (keys.foldl (fun word key => if enabled key then word ||| masks key else word) word).getLsbD i =
        true ↔
      word.getLsbD i = true ∨ ∃ key ∈ keys, enabled key = true ∧ (masks key).getLsbD i = true := by
  induction keys generalizing word with
  | nil => simp
  | cons key keys ih =>
    rw [List.foldl_cons, ih]
    by_cases on : enabled key = true
    · simp [on, or_assoc]
    · simp [on]

theorem union_getLsbD {keys : List κ} {masks : κ → BitVec w} {enabled : κ → Bool} {i : Nat} :
    (union keys masks enabled).getLsbD i = true ↔
      ∃ key ∈ keys, enabled key = true ∧ (masks key).getLsbD i = true := by
  rw [union, foldl_getLsbD]
  simp

theorem clear_getLsbD {word mask : BitVec w} {i : Nat} :
    (clear word mask).getLsbD i = true ↔ word.getLsbD i = true ∧ mask.getLsbD i = false := by
  rw [clear, BitVec.getLsbD_and, BitVec.getLsbD_not]
  by_cases inside : i < w
  · simp [inside]
  · simp [inside, BitVec.getLsbD_of_ge word i (Nat.le_of_not_lt inside)]

theorem eq_of_bits {left right : BitVec w}
    (bits : ∀ i, left.getLsbD i = true ↔ right.getLsbD i = true) : left = right := by
  apply BitVec.eq_of_getLsbD_eq
  intro i _
  exact Bool.eq_iff_iff.mpr (bits i)

theorem and_eq_iff {left right mask : BitVec w} :
    left &&& mask = right &&& mask ↔
      ∀ i, mask.getLsbD i = true → left.getLsbD i = right.getLsbD i := by
  constructor
  · intro same i inside
    have bit := congrArg (fun word => word.getLsbD i) same
    simpa [BitVec.getLsbD_and, inside] using bit
  · intro bits
    apply BitVec.eq_of_getLsbD_eq
    intro i _
    rw [BitVec.getLsbD_and, BitVec.getLsbD_and]
    cases inside : mask.getLsbD i
    · simp
    · simp [bits i inside]

theorem assign_getLsbD (word mask : BitVec w) (on : Bool) (i : Nat) :
    (assign word mask on).getLsbD i = if mask.getLsbD i then on else word.getLsbD i := by
  cases on with
  | true =>
    rw [assign, if_pos rfl, BitVec.getLsbD_or]
    cases mask.getLsbD i <;> simp
  | false =>
    apply Bool.eq_iff_iff.mpr
    rw [assign, if_neg Bool.false_ne_true, clear_getLsbD]
    cases mask.getLsbD i <;> simp

theorem assign_and_eq_iff (left right mask outputs : BitVec w) (on : Bool) :
    assign left mask on &&& outputs = assign right mask on &&& outputs ↔
      left &&& clear outputs mask = right &&& clear outputs mask := by
  rw [and_eq_iff, and_eq_iff]
  constructor
  · intro same i inside
    obtain ⟨output, other⟩ := clear_getLsbD.mp inside
    have bit := same i output
    rwa [assign_getLsbD, assign_getLsbD, other, if_neg Bool.false_ne_true,
      if_neg Bool.false_ne_true] at bit
  · intro same i output
    rw [assign_getLsbD, assign_getLsbD]
    cases own : mask.getLsbD i
    · exact same i (clear_getLsbD.mpr ⟨output, own⟩)
    · rfl

theorem and_clear_of_and {left right outputs : BitVec w} (mask : BitVec w)
    (same : left &&& outputs = right &&& outputs) :
    left &&& clear outputs mask = right &&& clear outputs mask := by
  rw [and_eq_iff] at same ⊢
  intro i inside
  exact same i (clear_getLsbD.mp inside).1

theorem clear_union (keys : List κ) (masks : κ → BitVec w) (enabled : κ → Bool) (mask : BitVec w) :
    clear (union keys masks enabled) mask =
      union keys (fun key => clear (masks key) mask) enabled := by
  apply eq_of_bits
  intro i
  simp only [clear_getLsbD, union_getLsbD]
  constructor
  · intro set
    rcases set with ⟨⟨key, member, on, bit⟩, outside⟩
    exact ⟨key, member, on, bit, outside⟩
  · intro set
    rcases set with ⟨key, member, on, bit, outside⟩
    exact ⟨⟨key, member, on, bit⟩, outside⟩

theorem not_apart {left right : BitVec w} (together : ¬ Apart left right) :
    ∃ i, left.getLsbD i = true ∧ right.getLsbD i = true := by
  rw [apart_iff] at together
  obtain ⟨i, bits⟩ := not_forall.mp together
  obtain ⟨left, right⟩ := Classical.not_imp.mp bits
  exact ⟨i, left, by simpa using right⟩

theorem assign_union_iff [DecidableEq κ] {keys : List κ} {key : κ} (member : key ∈ keys)
    (masks : κ → BitVec w) (enabled : κ → Bool) (on : Bool) :
    assign (union keys masks enabled) (masks key) on =
        union keys masks (Function.update enabled key on) ↔
      on = true ∨
        ∀ other ∈ keys, other ≠ key → enabled other = true → Apart (masks other) (masks key) := by
  have kept {other : κ} (different : other ≠ key) :
      Function.update enabled key on other = enabled other := Function.update_of_ne different _ _
  constructor
  · intro same
    by_cases enabling : on = true
    · exact .inl enabling
    · refine .inr fun other inside different otherOn => ?_
      by_contra together
      obtain ⟨i, bit, keyBit⟩ := not_apart together
      have set : (union keys masks (Function.update enabled key on)).getLsbD i = true :=
        union_getLsbD.mpr ⟨other, inside, by rw [kept different, otherOn], bit⟩
      rw [← same, assign, if_neg enabling, clear_getLsbD, keyBit] at set
      exact absurd set.2 (by decide)
  · intro allowed
    apply eq_of_bits
    intro i
    by_cases enabling : on = true
    · subst enabling
      rw [assign, if_pos rfl, BitVec.getLsbD_or, Bool.or_eq_true, union_getLsbD, union_getLsbD]
      constructor
      · intro set
        rcases set with ⟨other, inside, otherOn, bit⟩ | bit
        · by_cases same : other = key
          · exact ⟨key, member, by simp, same ▸ bit⟩
          · exact ⟨other, inside, by rw [kept same, otherOn], bit⟩
        · exact ⟨key, member, by simp, bit⟩
      · intro set
        rcases set with ⟨other, inside, otherOn, bit⟩
        by_cases same : other = key
        · exact .inr (same ▸ bit)
        · exact .inl ⟨other, inside, by rw [← kept same, otherOn], bit⟩
    · have apart := allowed.resolve_left enabling
      rw [assign, if_neg enabling, clear_getLsbD, union_getLsbD, union_getLsbD]
      constructor
      · intro set
        rcases set with ⟨⟨other, inside, otherOn, bit⟩, outside⟩
        have different : other ≠ key := by
          intro same
          rw [← same, bit] at outside
          cases outside
        exact ⟨other, inside, by rw [kept different, otherOn], bit⟩
      · intro set
        rcases set with ⟨other, inside, otherOn, bit⟩
        have different : other ≠ key := by
          intro same
          rw [same, Function.update_self] at otherOn
          exact enabling otherOn
        rw [kept different] at otherOn
        exact ⟨⟨other, inside, otherOn, bit⟩,
          apart_iff.mp (apart other inside different otherOn) i bit⟩

end Union

end FlagWord
