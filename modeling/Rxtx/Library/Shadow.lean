namespace Shadow

/-- `left` is what the outputs were driven to last, and `written` that a write has come since. -/
structure Outputs (κ ν : Type) where
  shown : κ → ν
  actual : κ → ν
  left : κ → ν
  written : Bool

variable {κ ν : Type}

inductive Step (o : Outputs κ ν) : Outputs κ ν → Prop
  | stay : Step o o
  | write (values : κ → ν) :
      Step o { o with shown := values, actual := values, written := true }
  | drive (values : κ → ν) :
      Step o { o with actual := values, left := values, written := false }

structure Tracked (o : Outputs κ ν) : Prop where
  written : o.written = true → o.actual = o.shown
  driven : o.written = false → o.actual = o.left

theorem Tracked.step {o o' : Outputs κ ν} (tracked : Tracked o) (step : Step o o') :
    Tracked o' := by
  cases step with
  | stay => exact tracked
  | write values => exact ⟨fun _ => rfl, fun unwritten => absurd unwritten (by simp)⟩
  | drive values => exact ⟨fun written => absurd written (by simp), fun _ => rfl⟩

theorem Tracked.actual_eq {o : Outputs κ ν} (tracked : Tracked o) (key : κ) :
    o.actual key = if o.written then o.shown key else o.left key := by
  cases written : o.written
  · simpa using congrFun (tracked.driven written) key
  · simpa using congrFun (tracked.written written) key

/-- The copy is right about an output that was written last, and about one that was driven to what
    the copy shows. -/
theorem Tracked.shown_iff {o : Outputs κ ν} (tracked : Tracked o) (key : κ) :
    o.shown key = o.actual key ↔ o.written = true ∨ o.shown key = o.left key := by
  rw [tracked.actual_eq key]
  cases o.written <;> simp

end Shadow
