import Mathlib.Algebra.Order.BigOperators.Group.List

namespace Throwing

variable {G ε α β : Type}

/-- A program over a counter, which keeps its value where an exception is thrown. `none` is a
    program that does not come back. -/
abbrev Program (G ε : Type) := ExceptT ε (StateT G Option)

def exits (m : Program G ε α) (n : G) : Option (Except ε α × G) := m.run.run n

def never : Program G ε α := ExceptT.mk fun _ => none

def ending (result : Except ε α) : Program G ε α := ExceptT.mk (pure result)

def await (blocked : Bool) : Program G ε Unit := if blocked then never else pure ()

/-- `finally`: an exception of the finalizer replaces what the body ended with. -/
def ensuring (body : Program G ε α) (finalizer : Program G ε Unit) : Program G ε α :=
  ExceptT.mk do
    let result ← body.run
    let finished ← finalizer.run
    return finished.bind fun _ => result

theorem exits_pure (a : α) (n : G) : exits (pure a : Program G ε α) n = some (.ok a, n) := rfl

theorem exits_throw (e : ε) (n : G) : exits (throw e : Program G ε α) n = some (.error e, n) := rfl

theorem exits_ending (result : Except ε α) (n : G) :
    exits (ending result : Program G ε α) n = some (result, n) := rfl

theorem exits_bind (m : Program G ε α) (f : α → Program G ε β) (n : G) :
    exits (m >>= f) n = (exits m n).bind fun exit =>
      match exit.1 with
      | .ok a => exits (f a) exit.2
      | .error e => some (.error e, exit.2) := by
  unfold exits
  rw [ExceptT.run_bind, StateT.run_bind]
  cases m.run.run n with
  | none => rfl
  | some exit =>
    rcases exit with ⟨result, n'⟩
    cases result <;> rfl

theorem exits_tryCatch (m : Program G ε α) (handler : ε → Program G ε α) (n : G) :
    exits (tryCatch m handler) n = (exits m n).bind fun exit =>
      match exit.1 with
      | .ok a => some (.ok a, exit.2)
      | .error e => exits (handler e) exit.2 := by
  unfold exits
  simp only [tryCatch, tryCatchThe, MonadExceptOf.tryCatch, ExceptT.tryCatch, ExceptT.run_mk,
    StateT.run_bind]
  change (m.run.run n).bind _ = (m.run.run n).bind _
  cases m.run.run n with
  | none => rfl
  | some exit =>
    rcases exit with ⟨result, n'⟩
    cases result <;> rfl

theorem exits_ensuring (body : Program G ε α) (finalizer : Program G ε Unit) (n : G) :
    exits (ensuring body finalizer) n = (exits body n).bind fun exit =>
      (exits finalizer exit.2).map fun finished =>
        (finished.1.bind fun _ => exit.1, finished.2) := by
  unfold exits ensuring
  simp only [ExceptT.run_mk, StateT.run_bind, Option.bind_eq_bind, StateT.run_pure,
    Option.pure_def, Option.map_eq_bind, Function.comp_def]

def Ends (m : Program G ε α) (result : Except ε α) : Prop := ∀ n, exits m n = some (result, n)

theorem ends_ending (result : Except ε α) : Ends (ending result : Program G ε α) result :=
  fun n => exits_ending result n

theorem Ends.bind {m : Program G ε α} {result : Except ε α} (ends : Ends m result)
    {f : α → Program G ε β} {next : α → Except ε β} (rest : ∀ a, Ends (f a) (next a)) :
    Ends (m >>= f) (result.bind next) := by
  intro n
  rw [exits_bind, ends n, Option.bind_some]
  cases result with
  | ok a => exact rest a n
  | error e => rfl

section Counter

variable [AddCommGroup G]

def count (k : G) : Program G ε Unit := modify (· + k)

theorem exits_count (k n : G) : exits (count k : Program G ε Unit) n = some (.ok (), n + k) := rfl

/-- However the program ends, it has added `k`. -/
def Shifts (m : Program G ε α) (k : G) : Prop :=
  ∀ n result n', exits m n = some (result, n') → n' = n + k

theorem Ends.shifts {m : Program G ε α} {result : Except ε α} (ends : Ends m result) :
    Shifts m 0 := by
  intro n other n' exit
  rw [ends n] at exit
  cases exit
  exact (add_zero n).symm

theorem shifts_pure (a : α) : Shifts (pure a : Program G ε α) 0 :=
  Ends.shifts (fun n => exits_pure a n)

theorem shifts_throw (e : ε) : Shifts (throw e : Program G ε α) 0 :=
  Ends.shifts (fun n => exits_throw e n)

theorem Shifts.then {m : Program G ε α} {k : G} (shifts : Shifts m k) {f : α → Program G ε β}
    (rest : ∀ a, Shifts (f a) 0) : Shifts (m >>= f) k := by
  intro n result n' exit
  rw [exits_bind] at exit
  obtain ⟨⟨first, middle⟩, ran, exit⟩ := Option.bind_eq_some_iff.mp exit
  rw [← shifts n first middle ran]
  cases first with
  | ok a =>
    rw [rest a _ _ _ exit, add_zero]
  | error e =>
    cases exit
    rfl

theorem Shifts.map {m : Program G ε α} {k : G} (shifts : Shifts m k) (f : α → β) :
    Shifts (f <$> m) k := by
  rw [map_eq_pure_bind]
  exact shifts.then fun a => shifts_pure (f a)

theorem Shifts.counted {m : Program G ε α} {k : G} (shifts : Shifts m k) (j : G) :
    Shifts (count j >>= fun _ => m) (j + k) := by
  intro n result n' exit
  rw [exits_bind, exits_count, Option.bind_some] at exit
  rw [shifts _ _ _ exit, add_assoc]

theorem Shifts.awaited {m : Program G ε α} {k : G} (shifts : Shifts m k) (blocked : Bool) :
    Shifts (await blocked >>= fun _ => m) k := by
  intro n result n' exit
  cases blocked with
  | true => cases exit
  | false => exact shifts n result n' exit

theorem Shifts.ensuring {m : Program G ε α} {k : G} (shifts : Shifts m k) (j : G) :
    Shifts (ensuring m (count j)) (k + j) := by
  intro n result n' exit
  rw [exits_ensuring] at exit
  obtain ⟨⟨ended, middle⟩, ran, rest⟩ := Option.bind_eq_some_iff.mp exit
  rw [exits_count] at rest
  cases rest
  rw [shifts n ended middle ran, add_assoc]

/-- What is counted at the end where only the exceptions that are `caught` are. -/
def settled (caught : ε → Bool) (k : G) : Except ε α → G
  | .ok _ => k
  | .error e => if caught e then k else 0

def rethrowing (caught : ε → Bool) (body : Program G ε Unit) (k : G) : Program G ε Unit := do
  tryCatch body fun e => do
    if caught e then count k
    throw e
  count k

theorem Ends.exits_rethrowing {caught : ε → Bool} {body : Program G ε Unit}
    {result : Except ε Unit} (ends : Ends body result) (k n : G) :
    exits (rethrowing caught body k) n = some (result, n + settled caught k result) := by
  unfold rethrowing
  rw [exits_bind, exits_tryCatch, ends n, Option.bind_some]
  cases result with
  | ok done => rfl
  | error e =>
    cases known : caught e with
    | true =>
      simp only [known, if_true, exits_bind, exits_count, exits_throw, Option.bind_some, settled]
    | false =>
      simp only [known, Bool.false_eq_true, if_false, exits_throw, Option.bind_some, settled,
        add_zero]

theorem Ends.rethrowing {caught : ε → Bool} {body : Program G ε Unit} {result : Except ε Unit}
    (ends : Ends body result) (k : G) :
    Shifts (rethrowing caught body k) (settled caught k result) := by
  intro n other n' exit
  rw [ends.exits_rethrowing] at exit
  cases exit
  rfl

def inTurn : List (Program G ε α) → G → Option G
  | [], n => some n
  | m :: programs, n => (exits m n).bind fun exit => inTurn programs exit.2

theorem inTurn_shifts {ι : Type} {program : ι → Program G ε α} {shift : ι → G}
    (shifts : ∀ i, Shifts (program i) (shift i)) {calls : List ι} {n n' : G}
    (ran : inTurn (calls.map program) n = some n') : n' = n + (calls.map shift).sum := by
  induction calls generalizing n with
  | nil =>
    cases ran
    simp
  | cons i calls ih =>
    obtain ⟨⟨result, middle⟩, first, rest⟩ := Option.bind_eq_some_iff.mp ran
    rw [ih rest, shifts i n result middle first, List.map_cons, List.sum_cons, add_assoc]

/-- Where nothing counts down for good, a run leaves the counter as it was exactly if each of its
    programs does. -/
theorem inTurn_same_iff [PartialOrder G] [IsOrderedAddMonoid G] {ι : Type}
    {program : ι → Program G ε α} {shift : ι → G}
    (shifts : ∀ i, Shifts (program i) (shift i)) (nonneg : ∀ i, 0 ≤ shift i) {calls : List ι}
    {n n' : G} (ran : inTurn (calls.map program) n = some n') :
    n' = n ↔ ∀ i ∈ calls, shift i = 0 := by
  rw [inTurn_shifts shifts ran, add_eq_left]
  constructor
  · intro none i member
    apply List.all_zero_of_le_zero_le_of_sum_eq_zero ?_ none (List.mem_map_of_mem member)
    intro k inside
    obtain ⟨j, -, rfl⟩ := List.mem_map.mp inside
    exact nonneg j
  · intro none
    apply List.sum_eq_zero
    intro k inside
    obtain ⟨j, member, rfl⟩ := List.mem_map.mp inside
    exact none j member

end Counter

end Throwing
