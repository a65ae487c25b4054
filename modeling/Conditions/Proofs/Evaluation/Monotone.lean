import Conditions.Proofs.Evaluation.References

set_option autoImplicit false

namespace Conditions

namespace Bindings

/-- What is bound in `x` is bound to the same in `y`, which may bind more. -/
def Within (x y : Bindings) : Prop :=
  ∀ name value, x.get? name = some value → y.get? name = some value

theorem Within.trans {x y z : Bindings} (h : x.Within y) (h' : y.Within z) : x.Within z :=
  fun name value hx => h' name value (h name value hx)

theorem within_insert {x : Bindings} {name : String} (h : x.get? name = none) (value : String) :
    x.Within (x.insert name value) := by
  intro k v hk
  have hne : k ≠ name := by
    rintro rfl
    rw [h] at hk
    cases hk
  rw [get?_insert, if_neg hne, hk]

theorem Within.agree {x y : Bindings} (h : x.Within y) {reference : Option String}
    {literal : String} (hx : x.agree reference literal = true) :
    y.agree reference literal = true := by
  rw [agree_eq_true_iff] at hx ⊢
  obtain ⟨name, hname, hvalue⟩ := hx
  exact ⟨name, hname, h name literal hvalue⟩

end Bindings

namespace Condition

variable {x : Bindings}

theorem value_of_within {y : Bindings} (h : x.Within y) {c : Condition} (hx : value x c = true) :
    value y c = true := by
  induction c using operand_induction with
  | comparison r reference literal => exact h.agree hx
  | logical k cs ih =>
    cases k with
    | and =>
      rw [value_and_eq_true_iff] at hx ⊢
      exact fun c hc => ih c hc (hx c hc)
    | or =>
      rw [value_or_eq_true_iff] at hx ⊢
      obtain ⟨c, hc, hvalue⟩ := hx
      exact ⟨c, hc, ih c hc hvalue⟩

theorem value_comparison_of_unbound {reference : Option String} {name : String}
    (hname : named reference = some name) (h : x.get? name = none) (r : Relation)
    (literal : String) : value x (.comparison r reference literal) = false := by
  rw [value, Bool.eq_false_iff]
  intro htrue
  obtain ⟨other, hother, hvalue⟩ := Bindings.agree_eq_true_iff.1 htrue
  rw [hname, Option.some.injEq] at hother
  rw [← hother, h] at hvalue
  cases hvalue

theorem value_comparison_insert {reference : Option String} {name : String}
    (hname : named reference = some name) (r : Relation) (literal : String) :
    value (x.insert name literal) (.comparison r reference literal) = true := by
  rw [value, Bindings.agree_eq_true_iff]
  exact ⟨name, hname, by rw [Bindings.get?_insert, if_pos rfl]⟩

/-- A variable that is unbound has no value, not even the empty one, so that binding it can make a
comparison true but none false. -/
theorem evaluate_monotone (c : Condition) :
    (∀ x y : Bindings, x.Within y → (c.evaluate x).value = true → (c.evaluate y).value = true) ∧
    (∀ (x : Bindings) (name value : String), x.get? name = none →
      (c.evaluate x).value = true → (c.evaluate (x.insert name value)).value = true) ∧
    ∀ (x : Bindings) (r : Relation) (reference : Option String) (name : String),
      named reference = some name → x.get? name = none →
      (∀ literal, ((comparison r reference literal).evaluate x).value = false) ∧
      ((comparison r reference "").evaluate (x.insert name "")).value = true := by
  simp only [evaluate_eq]
  refine ⟨fun x y h hx => value_of_within h hx, ?_, ?_⟩
  · intro x name value h hx
    exact value_of_within (Bindings.within_insert h value) hx
  · intro x r reference name hname h
    exact ⟨value_comparison_of_unbound hname h r, value_comparison_insert hname r ""⟩

/-- The variable of the second operand is unbound, then bound to the empty string. -/
theorem evaluate_monotone_empty_value :
    let c := or [and [equals "$a" "1", or []], equals "$b" "", and [equals "$a" "2", and []]]
    let x := Bindings.ofList [("a", "2")]
    let y := (x.insert "b" "").insert "c" "1"
    x.Within y ∧ x.get? "b" = none ∧ named (some "$b") = some "b" ∧
      (c.evaluate x).value = true ∧ (c.evaluate y).value = true ∧
      (c.evaluate (x.insert "b" "")).value = true ∧
      ((equals "$b" "").evaluate x).value = false ∧
      ((equals "$b" "").evaluate (x.insert "b" "")).value = true := by
  intro c x y
  have unbound : x.get? "b" = none := by decide
  have within : x.Within y :=
    (Bindings.within_insert unbound "").trans (Bindings.within_insert (by decide) "1")
  have name : named (some "$b") = some "b" := by decide
  have value : (c.evaluate x).value = true := by decide
  obtain ⟨grown, inserted, compared⟩ := evaluate_monotone c
  obtain ⟨different, equal⟩ := compared x .equal (some "$b") "b" name unbound
  exact ⟨within, unbound, name, value, grown x y within value, inserted x "b" "" unbound value,
    different "", equal⟩

end Condition

end Conditions
