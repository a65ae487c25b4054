import Conditions.Proofs.CommandLine.Operands

set_option autoImplicit false

namespace Conditions

theorem value_evaluateText_eq_ok_iff {condition bindings : String} {value : Bool} :
    (evaluateText condition bindings).value = .ok value ↔
      ∃ c x, (Condition.ofText condition).value = .ok c ∧ Bindings.ofText bindings = .ok x ∧
        (c.evaluate x).value = value := by
  constructor
  · intro h
    rcases evaluateText_cases condition bindings with ⟨e, run⟩ | ⟨v, x, c, hv, hx, hc, run⟩
    · rw [run] at h
      cases h
    · rw [run] at h
      cases h
      rw [Condition.ofJson_eq_ok_iff] at hc
      exact ⟨c, x, Condition.ofText_eq_ok_iff.2 (hc ▸ hv), hx, rfl⟩
  · rintro ⟨c, x, hc, hx, rfl⟩
    rw [Condition.ofText_eq_ok_iff] at hc
    rw [evaluateText_of_classified hc hx (Condition.ofJson_toJson c)]
    rfl

namespace CommandLine

variable {read : ReadFile} {condition bindings : String}

theorem value_perform_eval_eq_ok_iff {verdict : Verdict} :
    (perform read (.eval condition bindings)).value = .ok verdict ↔
      ∃ a b value, Denotes read condition a ∧ Denotes read bindings b ∧
        (evaluateText a b).value = .ok value ∧ evalVerdict value = verdict := by
  rw [perform_eval, value_judged_eq_ok_iff]
  simp only [value_evaluateText_eq_ok_iff]
  constructor
  · rintro ⟨a, c, b, x, ha, hc, hb, hx, rfl⟩
    exact ⟨a, b, _, ha, hb, ⟨c, x, hc, hx, rfl⟩, rfl⟩
  · rintro ⟨a, b, _, ha, hb, ⟨c, x, hc, hx, rfl⟩, rfl⟩
    exact ⟨a, c, b, x, ha, hc, hb, hx, rfl⟩

theorem run_eval_eq (read : ReadFile) (filterText : Option String)
    (hcondition : condition.toList.head? ≠ some '-')
    (hbindings : bindings.toList.head? ≠ some '-') :
    run read filterText ["eval", condition, bindings] =
      runInvocation read filterText ⟨0, .eval condition bindings⟩ := by
  rw [run, request?_eval hcondition hbindings]

theorem run_eval_omitted (read : ReadFile) (filterText : Option String)
    (hcondition : condition.toList.head? ≠ some '-') :
    run read filterText ["eval", condition] =
      run read filterText ["eval", condition, "\x7b\x7d"] := by
  have hname : Word.of "eval" = .operand := by decide
  have request : request? ["eval", condition] = some (.run ⟨0, .eval condition "\x7b\x7d"⟩) := by
    simp [request?, requestAfter?, hname, operands?, Word.of_eq_operand hcondition, command?]
  rw [run_eval_eq read filterText hcondition (by decide), run, request]

theorem run_eval_of_value (filterText : Option String) {a b : String} {value : Bool}
    (ha : Denotes read condition a) (hb : Denotes read bindings b) (h : (evaluateText a b).value = .ok value) :
    (runInvocation read filterText ⟨0, .eval condition bindings⟩).exitCode = 0 ∧
      (runInvocation read filterText ⟨0, .eval condition bindings⟩).output =
        if value then "true\n" else "false\n" := by
  have performed := value_perform_eval_eq_ok_iff.2 ⟨a, b, value, ha, hb, h, rfl⟩
  obtain ⟨hcode, houtput, -⟩ :=
    runInvocation_of_verdict filterText ⟨0, .eval condition bindings⟩ performed
  exact ⟨hcode, houtput⟩

/-- A command that has no value fails, and so does not exit as for a case that fails. -/
theorem run_eval (read : ReadFile) (filterText : Option String) (condition bindings : String)
    (hcondition : condition.toList.head? ≠ some '-') (hbindings : bindings.toList.head? ≠ some '-') :
    (∀ value : Bool,
      ((run read filterText ["eval", condition, bindings]).exitCode = 0 ∧
        (run read filterText ["eval", condition, bindings]).output =
          if value then "true\n" else "false\n") ↔
      ∃ a b, Denotes read condition a ∧ Denotes read bindings b ∧
        (evaluateText a b).value = .ok value) ∧
    ((¬ ∃ a b value, Denotes read condition a ∧ Denotes read bindings b ∧
      (evaluateText a b).value = .ok value) →
        (run read filterText ["eval", condition, bindings]).Fails) ∧
    (run read filterText ["eval", condition, bindings]).exitCode ≠ 1 ∧
    run read filterText ["eval", condition] =
      run read filterText ["eval", condition, "\x7b\x7d"] := by
  rw [run_eval_omitted read filterText hcondition, run_eval_eq read filterText hcondition hbindings]
  have printed {a b : String} {value : Bool} (ha : Denotes read condition a)
      (hb : Denotes read bindings b) (h : (evaluateText a b).value = .ok value) :=
    run_eval_of_value filterText ha hb h
  cases hperform : (perform read (.eval condition bindings)).value with
  | error complaint =>
    have fails : (runInvocation read filterText ⟨0, .eval condition bindings⟩).Fails :=
      runInvocation_fails filterText _ (perform_eval read condition bindings) hperform
    refine ⟨?_, fun _ => fails, by rw [fails.exitCode]; decide, rfl⟩
    intro value
    constructor
    · rintro ⟨hcode, -⟩
      rw [fails.exitCode] at hcode
      cases hcode
    · rintro ⟨a, b, ha, hb, h⟩
      exact printed ha hb h
  | ok verdict =>
    obtain ⟨a, b, value, ha, hb, h, -⟩ := value_perform_eval_eq_ok_iff.1 hperform
    obtain ⟨hcode, houtput⟩ := printed ha hb h
    refine ⟨?_, fun hnone => absurd ⟨a, b, value, ha, hb, h⟩ hnone, by rw [hcode]; decide, rfl⟩
    intro value'
    constructor
    · rintro ⟨-, houtput'⟩
      have same : value = value' := by
        rw [houtput] at houtput'
        cases value <;> cases value' <;> first | rfl | exact absurd houtput' (by decide)
      exact ⟨a, b, ha, hb, same ▸ h⟩
    · rintro ⟨a', b', ha', hb', h'⟩
      exact printed ha' hb' h'

theorem run_eval_of_file :
    let read : ReadFile := fun path =>
      if path = "c.json" then .ok " [\"==\",\"$State\",\"Texas\"]" else .error .missing
    let bindings := "\x7b\"State\":\"Texas\"\x7d"
    "@c.json".toList.head? ≠ some '-' ∧ bindings.toList.head? ≠ some '-' ∧
      (run read none ["eval", "@c.json", bindings]).exitCode = 0 ∧
      (run read none ["eval", "@c.json", bindings]).output = "true\n" ∧
      (run read none ["eval", "@c.json", "@d.json"]).Fails := by
  intro read bindings
  have value : (evaluateText " [\"==\",\"$State\",\"Texas\"]" bindings).value = .ok true := by
    decide +kernel
  have file : Denotes read "@c.json" " [\"==\",\"$State\",\"Texas\"]" :=
    .inr ⟨"c.json", by decide, rfl⟩
  have inline : Denotes read bindings bindings := .inl ⟨by decide, rfl⟩
  have missing (t : String) : ¬ Denotes read "@d.json" t := by
    have unreadable : operandText read "@d.json" = .error (.unreadableFile "d.json" .missing) := by
      decide
    rw [← operandText_eq_ok_iff, unreadable]
    exact fun h => nomatch h
  obtain ⟨printed, -, -, -⟩ := run_eval read none "@c.json" bindings (by decide) (by decide)
  obtain ⟨-, fails, -, -⟩ := run_eval read none "@c.json" "@d.json" (by decide) (by decide)
  obtain ⟨hcode, houtput⟩ := (printed true).2 ⟨_, _, file, inline, value⟩
  refine ⟨by decide, by decide, hcode, houtput, fails ?_⟩
  rintro ⟨_, t, _, -, ht, -⟩
  exact missing t ht

end CommandLine

end Conditions
