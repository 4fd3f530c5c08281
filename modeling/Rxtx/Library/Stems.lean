import Mathlib.Data.List.Nodup

namespace Stems

variable {α : Type} (P : α → Prop)

/-- `word` is `stem` and behind it letters with `P` only. -/
def Continues (stem word : List α) : Prop := ∃ tail, word = stem ++ tail ∧ ∀ a ∈ tail, P a

/-- No stem of the table goes on to another one with letters of `P`. -/
structure Apart (table : List (List α)) : Prop where
  separated : ∀ stem ∈ table, ∀ other ∈ table, Continues P stem other → stem = other
  nodup : table.Nodup

variable {P}

theorem continues_iff {stem word : List α} :
    Continues P stem word ↔ stem <+: word ∧ ∀ a ∈ word.drop stem.length, P a := by
  constructor
  · rintro ⟨tail, rfl, letters⟩
    rw [List.drop_left]
    exact ⟨List.prefix_append .., letters⟩
  · rintro ⟨⟨tail, rfl⟩, letters⟩
    rw [List.drop_left] at letters
    exact ⟨tail, rfl, letters⟩

instance [DecidableEq α] [DecidablePred P] (stem word : List α) :
    Decidable (Continues P stem word) :=
  decidable_of_iff _ continues_iff.symm

theorem Continues.eq_of_ends {stem other : List α} (continues : Continues P stem other)
    (ends : ∃ a ∈ other.getLast?, ¬ P a) : stem = other := by
  obtain ⟨tail, rfl, letters⟩ := continues
  obtain ⟨a, last, outside⟩ := ends
  cases tail with
  | nil => rw [List.append_nil]
  | cons b tail =>
    rw [List.getLast?_append_of_ne_nil _ (List.cons_ne_nil b tail)] at last
    exact absurd (letters a (List.mem_of_getLast? last)) outside

theorem apart_of_ends {table : List (List α)}
    (ends : ∀ stem ∈ table, ∃ a ∈ stem.getLast?, ¬ P a) (nodup : table.Nodup) : Apart P table :=
  ⟨fun _ _ other member continues => continues.eq_of_ends (ends other member), nodup⟩

theorem apart_nil : Apart P ([] : List (List α)) := ⟨by simp, List.nodup_nil⟩

theorem apart_singleton (stem : List α) : Apart P [stem] := ⟨by simp, List.nodup_singleton stem⟩

namespace Apart

variable {table kept : List (List α)}

theorem sublist (apart : Apart P table) (sub : kept.Sublist table) : Apart P kept :=
  ⟨fun stem member other member' =>
    apart.separated stem (sub.subset member) other (sub.subset member'), apart.nodup.sublist sub⟩

theorem unique (apart : Apart P table) {stem other word : List α} (member : stem ∈ table)
    (member' : other ∈ table) (continues : Continues P stem word)
    (continues' : Continues P other word) : stem = other := by
  obtain ⟨tail, rfl, letters⟩ := continues
  obtain ⟨tail', same, letters'⟩ := continues'
  rcases List.append_eq_append_iff.mp same with ⟨middle, rfl, rfl⟩ | ⟨middle, rfl, rfl⟩
  · exact apart.separated _ member _ member'
      ⟨middle, rfl, fun a inside => letters a (List.mem_append_left _ inside)⟩
  · exact (apart.separated _ member' _ member
      ⟨middle, rfl, fun a inside => letters' a (List.mem_append_left _ inside)⟩).symm

theorem filter_continues [DecidableEq α] [DecidablePred P] (apart : Apart P table)
    {stem word : List α} (member : stem ∈ table) (continues : Continues P stem word) :
    table.filter (fun other => Continues P other word) = [stem] := by
  have found : stem ∈ table.filter (fun other => Continues P other word) := by
    simp [member, continues]
  have only : ∀ other ∈ table.filter (fun other => Continues P other word), other = stem := by
    intro other member'
    rw [List.mem_filter, decide_eq_true_eq] at member'
    exact apart.unique member'.1 member member'.2 continues
  have copies := List.eq_replicate_of_mem only
  have once := apart.nodup.filter (fun other => Continues P other word)
  rw [copies, List.nodup_replicate] at once
  have some := List.length_pos_of_mem found
  rw [copies, show (table.filter fun other => Continues P other word).length = 1 by omega,
    List.replicate_one]

end Apart

end Stems
