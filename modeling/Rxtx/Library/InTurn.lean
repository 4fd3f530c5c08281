import Mathlib.Data.List.Forall2

namespace InTurn

structure Service (κ α ρ : Type) where
  serve : κ → List α → ρ
  used : ρ → List α
  /-- The call has not ended, or nothing comes after it. -/
  stops : ρ → Bool

variable {κ α ρ : Type} (service : Service κ α ρ)

def Service.serveAll : List κ → List α → List ρ
  | [], _ => []
  | call :: calls, answers =>
    let run := service.serve call answers
    if service.stops run then [run]
    else run :: serveAll calls (answers.drop (service.used run).length)

/-- The runs are those of the calls in their order, up to the first that stops, and the answers
    that they use the first ones. -/
structure Service.InOrder (meets : κ → ρ → Prop) (calls : List κ) (answers : List α)
    (runs : List ρ) : Prop where
  each : List.Forall₂ meets (calls.take runs.length) runs
  used : runs.flatMap service.used <+: answers
  stops : runs.length = calls.length ∨ ∃ run, runs.getLast? = some run ∧ service.stops run = true

theorem Service.serveAll_inOrder {meets : κ → ρ → Prop}
    (first : ∀ call answers, service.used (service.serve call answers) <+: answers)
    (serves : ∀ call answers, meets call (service.serve call answers)) (calls : List κ)
    (answers : List α) :
    service.InOrder meets calls answers (service.serveAll calls answers) := by
  induction calls generalizing answers with
  | nil => exact ⟨.nil, List.nil_prefix, .inl rfl⟩
  | cons call calls ih =>
    have here := serves call answers
    by_cases stops : service.stops (service.serve call answers) = true
    · rw [serveAll, if_pos stops]
      exact ⟨.cons here .nil, by simpa using first call answers, .inr ⟨_, rfl, stops⟩⟩
    · have rest := ih (answers.drop (service.used (service.serve call answers)).length)
      rw [serveAll, if_neg stops]
      refine ⟨.cons here rest.each, ?_, ?_⟩
      · obtain ⟨left, whole⟩ := rest.used
        refine ⟨left, ?_⟩
        rw [List.flatMap_cons, List.append_assoc, whole]
        exact List.prefix_iff_eq_append.mp (first call answers)
      · rcases rest.stops with all | ⟨run, last, ended⟩
        · exact .inl (by simp [all])
        · exact .inr ⟨run, by simp [List.getLast?_cons, last], ended⟩

theorem Service.serveAll_used
    (first : ∀ call answers, service.used (service.serve call answers) <+: answers)
    (all : ∀ call answers, service.stops (service.serve call answers) = true →
      service.used (service.serve call answers) = answers)
    {calls : List κ} {answers : List α} {run : ρ} (member : run ∈ service.serveAll calls answers)
    (stops : service.stops run = true) :
    (service.serveAll calls answers).flatMap service.used = answers := by
  induction calls generalizing answers with
  | nil => cases member
  | cons call calls ih =>
    by_cases here : service.stops (service.serve call answers) = true
    · rw [serveAll, if_pos here]
      simpa using all call answers here
    · rw [serveAll, if_neg here] at member ⊢
      have later := (List.mem_cons.mp member).resolve_left (by
        rintro rfl
        exact here stops)
      rw [List.flatMap_cons, ih later]
      exact List.prefix_iff_eq_append.mp (first call answers)

end InTurn
