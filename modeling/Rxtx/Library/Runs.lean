import Mathlib.Data.List.Infix

namespace Runs

variable {σ τ ι ο ε : Type}

def perform (step : ι → σ → Except ε (ο × σ)) : List ι → σ → Except ε (List ο × σ)
  | [], s => .ok ([], s)
  | c :: calls, s =>
    match step c s with
    | .error fault => .error fault
    | .ok (result, s) =>
      match perform step calls s with
      | .error fault => .error fault
      | .ok (results, s) => .ok (result :: results, s)

def specified (spec : ι → τ → ο × τ) : List ι → τ → List ο × τ
  | [], t => ([], t)
  | c :: calls, t =>
    ((spec c t).1 :: (specified spec calls (spec c t).2).1, (specified spec calls (spec c t).2).2)

def EachMeets (spec : ι → τ → ο × τ) (ok : τ → ι → Prop) : List ι → τ → Prop
  | [], _ => True
  | c :: calls, t => ok t c ∧ EachMeets spec ok calls (spec c t).2

def Answers (step : ι → σ → Except ε (ο × σ)) (spec : ι → τ → ο × τ) (calls : List ι) (s : σ)
    (t : τ) : Prop :=
  (perform step calls s).map Prod.fst = .ok (specified spec calls t).1

theorem perform_append (step : ι → σ → Except ε (ο × σ)) {first : List ι} {s s' : σ}
    {results : List ο} (done : perform step first s = .ok (results, s')) (second : List ι) :
    perform step (first ++ second) s =
      (perform step second s').map fun r => (results ++ r.1, r.2) := by
  induction first generalizing s results with
  | nil =>
    cases done
    simp only [List.nil_append]
    cases perform step second s' <;> rfl
  | cons c calls ih =>
    simp only [perform, List.cons_append] at done ⊢
    cases called : step c s with
    | error fault => simp [called] at done
    | ok pair =>
      rcases pair with ⟨result, middle⟩
      simp only [called] at done ⊢
      cases rest : perform step calls middle with
      | error fault => simp [rest] at done
      | ok pair =>
        rcases pair with ⟨more, last⟩
        simp only [rest, Except.ok.injEq, Prod.mk.injEq] at done
        rcases done with ⟨rfl, rfl⟩
        rw [ih rest]
        cases perform step second last <;> rfl

theorem specified_append (spec : ι → τ → ο × τ) (first second : List ι) (t : τ) :
    specified spec (first ++ second) t =
      ((specified spec first t).1 ++ (specified spec second (specified spec first t).2).1,
        (specified spec second (specified spec first t).2).2) := by
  induction first generalizing t with
  | nil => rfl
  | cons c calls ih => simp only [List.cons_append, specified, ih]

theorem specified_related {step : ι → σ → ο × σ} {spec : ι → τ → ο × τ} {R : σ → τ → Prop}
    (keeps : ∀ c s t, R s t → (step c s).1 = (spec c t).1 ∧ R (step c s).2 (spec c t).2)
    (calls : List ι) {s : σ} {t : τ} (related : R s t) :
    (specified step calls s).1 = (specified spec calls t).1 ∧
      R (specified step calls s).2 (specified spec calls t).2 := by
  induction calls generalizing s t with
  | nil => exact ⟨rfl, related⟩
  | cons c calls ih =>
    obtain ⟨answered, after⟩ := keeps c s t related
    obtain ⟨rest, last⟩ := ih after
    exact ⟨congrArg₂ List.cons answered rest, last⟩

theorem eachMeets_append (spec : ι → τ → ο × τ) (ok : τ → ι → Prop) (first second : List ι)
    (t : τ) :
    EachMeets spec ok (first ++ second) t ↔
      EachMeets spec ok first t ∧ EachMeets spec ok second (specified spec first t).2 := by
  induction first generalizing t with
  | nil => simp [EachMeets, specified]
  | cons c calls ih => simp only [List.cons_append, EachMeets, specified, ih, and_assoc]

theorem eachMeets_congr {spec : ι → τ → ο × τ} {ok ok' : τ → ι → Prop}
    (same : ∀ t c, ok t c ↔ ok' t c) (calls : List ι) (t : τ) :
    EachMeets spec ok calls t ↔ EachMeets spec ok' calls t := by
  induction calls generalizing t with
  | nil => exact Iff.rfl
  | cons c calls ih => exact and_congr (same t c) (ih _)

theorem answers_append {step : ι → σ → Except ε (ο × σ)} {spec : ι → τ → ο × τ} {first : List ι}
    {s s' : σ} {t : τ} (done : perform step first s = .ok ((specified spec first t).1, s'))
    (second : List ι) :
    Answers step spec (first ++ second) s t ↔
      Answers step spec second s' (specified spec first t).2 := by
  simp only [Answers, perform_append step done, specified_append]
  cases perform step second s' with
  | error fault => simp [Except.map]
  | ok pair => simp [Except.map]

/-- Forward simulation: a relation kept by every call that meets `ok` gives the specified answers
    along every run of such calls. -/
theorem simulates {step : ι → σ → Except ε (ο × σ)} {spec : ι → τ → ο × τ}
    {ok : τ → ι → Prop} {R : σ → τ → Prop}
    (keeps : ∀ c s t, R s t → ok t c →
      ∃ s', step c s = .ok ((spec c t).1, s') ∧ R s' (spec c t).2)
    {calls : List ι} {s : σ} {t : τ} (related : R s t) (meets : EachMeets spec ok calls t) :
    ∃ s', perform step calls s = .ok ((specified spec calls t).1, s') ∧
      R s' (specified spec calls t).2 := by
  induction calls generalizing s t with
  | nil => exact ⟨s, rfl, related⟩
  | cons c calls ih =>
    obtain ⟨middle, called, relatedMiddle⟩ := keeps c s t related meets.1
    obtain ⟨last, rest, relatedLast⟩ := ih relatedMiddle meets.2
    exact ⟨last, by simp [perform, specified, called, rest], relatedLast⟩

/-- Where each of its calls keeps the relation, a run gives the specified answers. -/
theorem refines {step : ι → σ → Except ε (ο × σ)} {spec : ι → τ → ο × τ} {R : σ → τ → Prop}
    {calls : List ι}
    (keeps : ∀ c ∈ calls, ∀ s t, R s t → ∃ s', step c s = .ok ((spec c t).1, s') ∧ R s' (spec c t).2)
    {s : σ} {t : τ} (related : R s t) :
    ∃ s', perform step calls s = .ok ((specified spec calls t).1, s') ∧
      R s' (specified spec calls t).2 := by
  induction calls generalizing s t with
  | nil => exact ⟨s, rfl, related⟩
  | cons c calls ih =>
    obtain ⟨here, later⟩ := List.forall_mem_cons.mp keeps
    obtain ⟨middle, called, after⟩ := here s t related
    obtain ⟨last, rest, end_⟩ := ih later after
    exact ⟨last, by simp [perform, specified, called, rest], end_⟩

theorem first_unmet (spec : ι → τ → ο × τ) (ok : τ → ι → Prop) {calls : List ι} {t : τ}
    (unmet : ¬ EachMeets spec ok calls t) :
    ∃ first c second, calls = first ++ c :: second ∧ EachMeets spec ok first t ∧
      ¬ ok (specified spec first t).2 c := by
  induction calls generalizing t with
  | nil => exact absurd trivial unmet
  | cons c calls ih =>
    by_cases here : ok t c
    · obtain ⟨first, d, second, split, met, notOk⟩ := ih fun later => unmet ⟨here, later⟩
      exact ⟨c :: first, d, second, by simp [split], ⟨here, met⟩, notOk⟩
    · exact ⟨[], c, calls, rfl, trivial, here⟩

def Throughout (spec : ι → τ → ο × τ) (P : τ → Prop) : List ι → τ → Prop
  | [], t => P t
  | c :: calls, t => P t ∧ Throughout spec P calls (spec c t).2

/-- Where a call keeps `P` exactly under `ok`, a run keeps it exactly where each call meets `ok`. -/
theorem throughout_iff {spec : ι → τ → ο × τ} {ok : τ → ι → Prop} {P : τ → Prop}
    (exact : ∀ c t, P t → (P (spec c t).2 ↔ ok t c)) {calls : List ι} {t : τ} (start : P t) :
    Throughout spec P calls t ↔ EachMeets spec ok calls t := by
  induction calls generalizing t with
  | nil => exact iff_of_true start trivial
  | cons c calls ih =>
    constructor
    · intro throughout
      have after : P (spec c t).2 := by
        cases calls with
        | nil => exact throughout.2
        | cons d calls => exact throughout.2.1
      exact ⟨(exact c t start).mp after, (ih after).mp throughout.2⟩
    · intro meets
      exact ⟨start, (ih ((exact c t start).mpr meets.1)).mpr meets.2⟩

theorem throughout_of_meets {spec : ι → τ → ο × τ} {ok : τ → ι → Prop} {Q : τ → Prop}
    (P : τ → Prop) (keeps : ∀ c t, P t → ok t c → P (spec c t).2) (implies : ∀ t, P t → Q t)
    {calls : List ι} {t : τ} (start : P t) (meets : EachMeets spec ok calls t) :
    Throughout spec Q calls t := by
  induction calls generalizing t with
  | nil => exact implies t start
  | cons c calls ih => exact ⟨implies t start, ih (keeps c t start meets.1) meets.2⟩

/-- Every call gives the answer that is due whatever came before it, and `P` holds throughout. -/
def Observes (step : ι → σ → Except ε (ο × σ)) (answer : ι → ο) (P : σ → Prop) : List ι → σ → Prop
  | [], s => P s
  | c :: calls, s => P s ∧ ∃ s', step c s = .ok (answer c, s') ∧ Observes step answer P calls s'

theorem observes_iff {step : ι → σ → Except ε (ο × σ)} {answer : ι → ο} {P : σ → Prop}
    {ok : ι → Prop}
    (exact : ∀ c s, P s → ((∃ s', step c s = .ok (answer c, s') ∧ P s') ↔ ok c)) {calls : List ι}
    {s : σ} (start : P s) : Observes step answer P calls s ↔ ∀ c ∈ calls, ok c := by
  induction calls generalizing s with
  | nil => exact iff_of_true start (by simp)
  | cons c calls ih =>
    rw [List.forall_mem_cons]
    constructor
    · intro observes
      rcases observes with ⟨-, s', called, rest⟩
      have after : P s' := by
        cases calls with
        | nil => exact rest
        | cons d calls => exact rest.1
      exact ⟨(exact c s start).mp ⟨s', called, after⟩, (ih after).mp rest⟩
    · intro meets
      obtain ⟨s', called, after⟩ := (exact c s start).mpr meets.1
      exact ⟨start, s', called, (ih after).mpr meets.2⟩

/-- No call fails, and `P` holds at the start and after each of them. -/
def Visits (step : ι → σ → Except ε (ο × σ)) (P : σ → Prop) : List ι → σ → Prop
  | [], s => P s
  | c :: calls, s => P s ∧ ∃ result s', step c s = .ok (result, s') ∧ Visits step P calls s'

theorem visits_iff_throughout {step : ι → σ → Except ε (ο × σ)} {spec : ι → τ → ο × τ}
    {R : σ → τ → Prop} {P : σ → Prop} {Q : τ → Prop} {calls : List ι}
    (keeps : ∀ c ∈ calls, ∀ s t, R s t → ∃ s', step c s = .ok ((spec c t).1, s') ∧ R s' (spec c t).2)
    (same : ∀ s t, R s t → (P s ↔ Q t)) {s : σ} {t : τ} (related : R s t) :
    Visits step P calls s ↔ Throughout spec Q calls t := by
  induction calls generalizing s t with
  | nil => exact same s t related
  | cons c calls ih =>
    obtain ⟨here, later⟩ := List.forall_mem_cons.mp keeps
    obtain ⟨middle, called, after⟩ := here s t related
    apply and_congr (same s t related)
    rw [← ih later after]
    constructor
    · intro visits
      obtain ⟨result, s', stepped, rest⟩ := visits
      obtain ⟨-, rfl⟩ := Prod.mk.inj (Except.ok.inj (called.symm.trans stepped))
      exact rest
    · intro rest
      exact ⟨_, middle, called, rest⟩

inductive Path (step : σ → ι → σ → Prop) : σ → List ι → σ → Prop
  | nil (s : σ) : Path step s [] s
  | cons {s middle last : σ} {label : ι} {labels : List ι} :
      step s label middle → Path step middle labels last → Path step s (label :: labels) last

def Guarded (ok : σ → ι → Prop) (step : σ → ι → σ → Prop) (s : σ) (label : ι) (s' : σ) : Prop :=
  ok s label ∧ step s label s'

def Takes (step : ι → σ → Option σ) (s : σ) (label : ι) (s' : σ) : Prop := step label s = some s'

def follow (step : ι → σ → Option σ) : List ι → σ → Option σ
  | [], s => some s
  | label :: labels, s => (step label s).bind (follow step labels)

theorem follow_path {step : ι → σ → Option σ} {labels : List ι} {s s' : σ}
    (followed : follow step labels s = some s') : Path (Takes step) s labels s' := by
  induction labels generalizing s with
  | nil =>
    cases followed
    exact .nil _
  | cons label labels ih =>
    obtain ⟨middle, taken, rest⟩ := Option.bind_eq_some_iff.mp followed
    exact .cons taken (ih rest)

def checked (ok : σ → ι → Prop) [∀ s label, Decidable (ok s label)] (step : ι → σ → Option σ)
    (label : ι) (s : σ) : Option σ :=
  if ok s label then step label s else none

theorem follow_checked {step : ι → σ → Option σ} {ok : σ → ι → Prop}
    [∀ s label, Decidable (ok s label)] {labels : List ι} {s s' : σ}
    (followed : follow (checked ok step) labels s = some s') :
    Path (Guarded ok (Takes step)) s labels s' := by
  induction labels generalizing s with
  | nil =>
    cases followed
    exact .nil _
  | cons label labels ih =>
    obtain ⟨middle, taken, rest⟩ := Option.bind_eq_some_iff.mp followed
    have guarded : Guarded ok (Takes step) s label middle :=
      Option.ite_none_right_eq_some.mp taken
    exact .cons guarded (ih rest)

theorem Path.invariant {step : σ → ι → σ → Prop} (Inv : σ → Prop)
    (preserved : ∀ s label s', Inv s → step s label s' → Inv s') {s s' : σ} {labels : List ι}
    (path : Path step s labels s') (initial : Inv s) : Inv s' := by
  induction path with
  | nil => exact initial
  | cons taken _ ih => exact ih (preserved _ _ _ initial taken)

def spent (cost : ι → Nat) : List ι → Nat
  | [] => 0
  | label :: labels => cost label + spent cost labels

theorem Path.spent_le {step : σ → ι → σ → Prop} {P : σ → Prop} {cost : ι → Nat} {left : σ → Nat}
    (pays : ∀ s label s', P s → step s label s' → P s' ∧ cost label + left s' ≤ left s) {s s' : σ}
    {labels : List ι} (path : Path step s labels s') (start : P s) :
    spent cost labels + left s' ≤ left s := by
  induction path with
  | nil s => exact Nat.le_of_eq (Nat.zero_add _)
  | cons taken _ ih =>
    obtain ⟨kept, paid⟩ := pays _ _ _ start taken
    have rest := ih kept
    simp only [spent]
    omega

theorem Path.map {τ κ : Type} {step : σ → ι → σ → Prop} {other : τ → κ → τ → Prop} (view : σ → τ)
    (follows : ∀ s label s', step s label s' → ∃ label', other (view s) label' (view s'))
    {s s' : σ} {labels : List ι} (path : Path step s labels s') :
    ∃ labels', Path other (view s) labels' (view s') := by
  induction path with
  | nil s => exact ⟨[], .nil _⟩
  | cons taken _ ih =>
    obtain ⟨label, first⟩ := follows _ _ _ taken
    obtain ⟨labels, rest⟩ := ih
    exact ⟨label :: labels, .cons first rest⟩

/-- Where every guarded step is taken and keeps the invariant, no guarded run gets stuck. -/
theorem Path.progress {step : ι → σ → Option σ} {ok : σ → ι → Prop} (Inv : σ → Prop)
    (total : ∀ s label, Inv s → ok s label → ∃ s', step label s = some s' ∧ Inv s')
    {s s' : σ} {labels : List ι} (path : Path (Guarded ok (Takes step)) s labels s')
    (initial : Inv s) :
    Inv s' ∧ ∀ label, ok s' label → ∃ s'', step label s' = some s'' := by
  have preserved : ∀ s label s', Inv s → Guarded ok (Takes step) s label s' → Inv s' := by
    intro s label s' before guarded
    obtain ⟨last, taken, after⟩ := total s label before guarded.1
    have same : last = s' := Option.some.inj (taken.symm.trans guarded.2)
    rw [← same]
    exact after
  have kept := path.invariant Inv preserved initial
  constructor
  · exact kept
  · intro label allowed
    obtain ⟨last, taken, _⟩ := total s' label kept allowed
    exact ⟨last, taken⟩

end Runs
