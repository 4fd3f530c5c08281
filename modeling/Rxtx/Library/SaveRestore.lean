namespace SaveRestore

/-- `last` is the value last set, and `since` what that was when the cell was borrowed. -/
structure Cell (α : Type) where
  value : α
  saved : Option α
  last : α
  since : α

variable {α : Type}

def Cell.borrow (change : α → α) (c : Cell α) : Cell α :=
  { c with value := change c.value, saved := some c.value, since := c.last }

def Cell.restore (c : Cell α) : Cell α :=
  match c.saved with
  | none => c
  | some old => { c with value := old, saved := none }

def Cell.release (c : Cell α) : Cell α := { c with saved := none }

def Cell.set (new : α) (c : Cell α) : Cell α := { c with value := new, last := new }

def Cell.Agrees (c : Cell α) : Prop := c.saved = none → c.value = c.last

def Cell.Sound (c : Cell α) : Prop :=
  match c.saved with
  | none => c.value = c.last
  | some old => old = c.since

theorem Cell.sound_iff {c : Cell α} (idle : c.saved = none) : c.Sound ↔ c.value = c.last := by
  unfold Cell.Sound
  rw [idle]

theorem Cell.Sound.agrees {c : Cell α} (sound : c.Sound) : c.Agrees :=
  fun idle => (c.sound_iff idle).mp sound

@[simp] theorem Cell.restore_saved (c : Cell α) : c.restore.saved = none := by
  unfold Cell.restore
  cases saved : c.saved with
  | none => exact saved
  | some old => rfl

@[simp] theorem Cell.restore_last (c : Cell α) : c.restore.last = c.last := by
  unfold Cell.restore
  cases c.saved <;> rfl

theorem Cell.Sound.borrow {c : Cell α} (sound : c.Sound) (idle : c.saved = none)
    (change : α → α) : (c.borrow change).Sound := sound.agrees idle

theorem Cell.Sound.set {c : Cell α} (sound : c.Sound) (new : α) : (c.set new).Sound := by
  unfold Cell.Sound at sound ⊢
  cases saved : c.saved with
  | none => simp [Cell.set, saved]
  | some old =>
    rw [saved] at sound
    simp only [Cell.set, saved]
    exact sound

/-- A restore loses what was set since the borrow, and nothing else. -/
theorem Cell.Sound.restore_sound_iff {c : Cell α} (sound : c.Sound) (borrowed : c.saved ≠ none) :
    c.restore.Sound ↔ c.last = c.since := by
  unfold Cell.Sound at sound
  unfold Cell.restore
  cases saved : c.saved with
  | none => exact absurd saved borrowed
  | some old =>
    rw [saved] at sound
    simp only [Cell.Sound]
    rw [sound]
    exact eq_comm

/-- A borrower that leaves the value alone: it agrees all the time. -/
structure Cell.Clear (c : Cell α) : Prop where
  sound : c.Sound
  agrees : c.value = c.last

theorem Cell.Clear.borrow {c : Cell α} (clear : c.Clear) (idle : c.saved = none) :
    (c.borrow id).Clear := ⟨clear.sound.borrow idle id, clear.agrees⟩

theorem Cell.Clear.set {c : Cell α} (clear : c.Clear) (new : α) : (c.set new).Clear :=
  ⟨clear.sound.set new, rfl⟩

theorem Cell.Clear.release {c : Cell α} (clear : c.Clear) : c.release.Clear :=
  ⟨clear.agrees, clear.agrees⟩

theorem Cell.Clear.restore_clear_iff {c : Cell α} (clear : c.Clear) (borrowed : c.saved ≠ none) :
    c.restore.Clear ↔ c.last = c.since := by
  have restored := clear.sound.restore_sound_iff borrowed
  constructor
  · exact fun after => restored.mp after.sound
  · intro unchanged
    have sound := restored.mpr unchanged
    exact ⟨sound, sound.agrees c.restore_saved⟩

end SaveRestore
