import Conditions.Proofs.Condition.Classification
import Conditions.Proofs.Evaluation.Eager
import Mathlib.Data.List.Basic

set_option autoImplicit false

namespace Conditions

namespace Condition

theorem target_of_mem_trace {x : Bindings} {depth : Nat} {c : Condition} {event : Event}
    (h : event ∈ c.trace x depth) : event.target = "condition_eval::engine" := by
  induction c using operand_induction generalizing depth with
  | comparison r reference literal =>
    rw [trace, List.mem_singleton] at h
    rw [h]
    rfl
  | logical k cs ih =>
    rw [trace, List.mem_append, List.mem_singleton] at h
    rcases h with h | h
    · obtain ⟨events, hevents, hevent⟩ := List.mem_flatten.1 h
      have hmem := List.mem_of_mem_take hevents
      rw [traces_eq_map] at hmem
      obtain ⟨c, hc, rfl⟩ := List.mem_map.1 hmem
      exact ih c hc hevent
    · rw [h]
      rfl

theorem target_of_mem_evaluate {x : Bindings} {c : Condition} {event : Event}
    (h : event ∈ (c.evaluate x).events) : event.target = "condition_eval::engine" := by
  rw [evaluate_eq] at h
  rcases List.mem_append.1 h with h | h
  · exact target_of_mem_trace h
  · rw [List.mem_singleton.1 h]
    rfl

end Condition

theorem Defect.target_of_mem_announcement {d : Defect} {event : Event}
    (h : event ∈ d.announcement) : event.target = "condition_eval::parser" := by
  unfold announcement at h
  split at h
  · rw [List.mem_singleton.1 h]
    rfl
  · cases h

theorem Defect.announcement_eq_nil {d : Defect} (h : ∀ tag path, d ≠ ⟨.unrecognized tag, path⟩) :
    d.announcement = [] := by
  obtain ⟨flaw, path⟩ := d
  cases flaw with
  | unrecognized tag => exact absurd rfl (h tag path)
  | _ => rfl

theorem evaluateJson_of_malformed {v : Json} {d : Defect} (h : Condition.ofJson v = .error d)
    (x : Bindings) : evaluateJson v x = ⟨.error d, d.announcement⟩ := by
  rw [evaluateJson, Condition.classify_eq, h]
  simp [Traced.bind, Traced.pure, announced]

theorem evaluateJson_of_classified {v : Json} {c : Condition} (h : Condition.ofJson v = .ok c)
    (x : Bindings) : evaluateJson v x = (c.evaluate x).map .ok := by
  rw [evaluateJson, Condition.classify_eq, h]
  rfl

def EvaluationError.announcement : EvaluationError → List Event
  | .unreadable _ => []
  | .malformed d => d.announcement

theorem EvaluationError.target_of_mem_announcement {e : EvaluationError} {event : Event}
    (h : event ∈ e.announcement) : event.target = "condition_eval::parser" := by
  cases e with
  | unreadable j => cases h
  | malformed d => exact Defect.target_of_mem_announcement h

theorem EvaluationError.announcement_eq_nil {e : EvaluationError}
    (h : ∀ tag path, e ≠ .malformed ⟨.unrecognized tag, path⟩) : e.announcement = [] := by
  cases e with
  | unreadable j => rfl
  | malformed d =>
    apply Defect.announcement_eq_nil
    intro tag path hd
    exact h tag path (congrArg malformed hd)

section

variable {condition bindings : String} {v : Json} {x : Bindings}

theorem evaluateText_of_unreadable {j : Json.Error} (h : Json.ofText condition = .error j)
    (bindings : String) :
    evaluateText condition bindings = ⟨.error (.unreadable j), []⟩ := by
  simp only [evaluateText, h]
  rfl

theorem evaluateText_of_unreadable_bindings {j : Json.Error} (hv : Json.ofText condition = .ok v)
    (h : Bindings.ofText bindings = .error j) :
    evaluateText condition bindings = ⟨.error (.unreadable j), []⟩ := by
  simp only [evaluateText, hv, h]
  rfl

theorem evaluateText_of_malformed {d : Defect} (hv : Json.ofText condition = .ok v)
    (hx : Bindings.ofText bindings = .ok x) (h : Condition.ofJson v = .error d) :
    evaluateText condition bindings = ⟨.error (.malformed d), d.announcement⟩ := by
  simp only [evaluateText, hv, hx, evaluateJson_of_malformed h]
  rfl

theorem evaluateText_of_classified {c : Condition} (hv : Json.ofText condition = .ok v)
    (hx : Bindings.ofText bindings = .ok x) (h : Condition.ofJson v = .ok c) :
    evaluateText condition bindings = (c.evaluate x).map .ok := by
  simp only [evaluateText, hv, hx, evaluateJson_of_classified h]
  rfl

end

theorem evaluateText_cases (condition bindings : String) :
    (∃ e, evaluateText condition bindings = ⟨.error e, e.announcement⟩) ∨
      ∃ v x c, Json.ofText condition = .ok v ∧ Bindings.ofText bindings = .ok x ∧
        Condition.ofJson v = .ok c ∧ evaluateText condition bindings = (c.evaluate x).map .ok := by
  cases hv : Json.ofText condition with
  | error j => exact .inl ⟨.unreadable j, evaluateText_of_unreadable hv bindings⟩
  | ok v =>
    cases hx : Bindings.ofText bindings with
    | error j => exact .inl ⟨.unreadable j, evaluateText_of_unreadable_bindings hv hx⟩
    | ok x =>
      cases hc : Condition.ofJson v with
      | error d => exact .inl ⟨.malformed d, evaluateText_of_malformed hv hx hc⟩
      | ok c => exact .inr ⟨v, x, c, rfl, rfl, hc, evaluateText_of_classified hv hx hc⟩

/-- A run fails before anything is evaluated, whatever the operands before the defect would decide.
An unknown symbol is told if the run fails for it, and once. -/
theorem evaluateText_events (condition bindings : String) :
    (∀ e, (evaluateText condition bindings).value = .error e →
      (∀ event ∈ (evaluateText condition bindings).events,
        event.target ≠ "condition_eval::engine") ∧
      (∀ tag path, e = .malformed ⟨.unrecognized tag, path⟩ →
        (evaluateText condition bindings).events = [.unrecognized tag path]) ∧
      ((∀ tag path, e ≠ .malformed ⟨.unrecognized tag, path⟩) →
        (evaluateText condition bindings).events = [])) ∧
    (∀ result, (evaluateText condition bindings).value = .ok result →
      (∀ event ∈ (evaluateText condition bindings).events,
        event.target ≠ "condition_eval::parser") ∧
      ∃ v x c, Json.ofText condition = .ok v ∧ Bindings.ofText bindings = .ok x ∧
        Condition.ofJson v = .ok c ∧ result = (c.evaluate x).value ∧
        (evaluateText condition bindings).events = (c.evaluate x).events) ∧
    (∀ j, Json.ofText condition = .error j →
      evaluateText condition bindings = ⟨.error (.unreadable j), []⟩) ∧
    (∀ v j, Json.ofText condition = .ok v → Bindings.ofText bindings = .error j →
      evaluateText condition bindings = ⟨.error (.unreadable j), []⟩) ∧
    ∀ v x d, Json.ofText condition = .ok v → Bindings.ofText bindings = .ok x →
      Condition.ofJson v = .error d →
      (evaluateText condition bindings).value = .error (.malformed d) := by
  refine ⟨?_, ?_, fun j h => evaluateText_of_unreadable h bindings,
    fun v j hv h => evaluateText_of_unreadable_bindings hv h, ?_⟩
  · intro e he
    rcases evaluateText_cases condition bindings with ⟨e', run⟩ | ⟨v, x, c, -, -, -, run⟩
    · rw [run] at he ⊢
      cases he
      refine ⟨?_, ?_, EvaluationError.announcement_eq_nil⟩
      · intro event hevent
        rw [EvaluationError.target_of_mem_announcement hevent]
        decide
      · rintro tag path rfl
        rfl
    · rw [run] at he
      cases he
  · intro result hresult
    rcases evaluateText_cases condition bindings with ⟨e, run⟩ | ⟨v, x, c, hv, hx, hc, run⟩
    · rw [run] at hresult
      cases hresult
    · rw [run] at hresult ⊢
      cases hresult
      refine ⟨?_, v, x, c, hv, hx, hc, rfl, rfl⟩
      intro event hevent
      rw [Condition.target_of_mem_evaluate hevent]
      decide
  · intro v x d hv hx hd
    rw [evaluateText_of_malformed hv hx hd]

theorem evaluateText_events_unknown_symbol :
    let condition := "[\"OR\",[\"AND\"],[\"NOT\"],[\"XOR\"]]"
    (evaluateText condition "\x7b\x7d").value = .error (.malformed ⟨.unrecognized "NOT", ⟨[2]⟩⟩) ∧
      (evaluateText condition "\x7b\x7d").events = [.unrecognized "NOT" ⟨[2]⟩] := by
  intro condition
  have failed : (evaluateText condition "\x7b\x7d").value =
      .error (.malformed ⟨.unrecognized "NOT", ⟨[2]⟩⟩) := by decide +kernel
  exact ⟨failed, ((evaluateText_events condition "\x7b\x7d").1 _ failed).2.1 _ _ rfl⟩

end Conditions
