import Conditions.CommandLine.Run
import Conditions.Proofs.Condition.Rendering
import Conditions.Proofs.Evaluation.Texts

set_option autoImplicit false

namespace Conditions

open Json (Error)

theorem Condition.target_of_mem_ofText {t : String} {event : Event}
    (h : event ∈ (ofText t).events) : event.target = "condition_eval::parser" := by
  unfold ofText at h
  split at h
  · cases h
  · rename_i v rest _
    rw [Traced.events_map, classify_eq] at h
    cases hv : ofJson v with
    | error d =>
      rw [hv] at h
      exact Defect.target_of_mem_announcement h
    | ok c =>
      rw [hv] at h
      cases h

namespace CommandLine

variable {read : ReadFile} {argument text : String}

/-- An argument is a text itself, unless it starts with `@` and so names the file that holds the text. -/
def Denotes (read : ReadFile) (argument text : String) : Prop :=
  (argument.toList.head? ≠ some '@' ∧ text = argument) ∨
    ∃ path : String, argument.toList = '@' :: path.toList ∧ read path = .ok text

theorem operandText_eq_ok_iff : operandText read argument = .ok text ↔ Denotes read argument text := by
  unfold operandText Denotes
  split
  · rename_i path heq
    rw [heq, List.head?_cons]
    constructor
    · intro h
      split at h
      · rename_i hread
        cases h
        exact .inr ⟨String.ofList path, by rw [String.toList_ofList], hread⟩
      · cases h
    · rintro (⟨hat, -⟩ | ⟨path', hpath, hread⟩)
      · exact absurd rfl hat
      · cases hpath
        rw [String.ofList_toList, hread]
  · rename_i hplain
    have hat : argument.toList.head? ≠ some '@' := by
      intro hhead
      obtain ⟨path, heq⟩ := List.head?_eq_some_iff.1 hhead
      exact hplain path heq
    constructor
    · intro h
      cases h
      exact .inl ⟨hat, rfl⟩
    · rintro (⟨-, rfl⟩ | ⟨path, heq, -⟩)
      · rfl
      · exact absurd heq (hplain path.toList)

theorem value_readCondition_eq_ok_iff {c : Condition} :
    (readCondition read argument).value = .ok c ↔
      ∃ t, Denotes read argument t ∧ (Condition.ofText t).value = .ok c := by
  simp only [← operandText_eq_ok_iff]
  cases htext : operandText read argument with
  | error e => simp [readCondition, htext]
  | ok t =>
    simp only [readCondition, htext, Traced.value_map, Except.ok.injEq, exists_eq_left']
    cases (Condition.ofText t).value <;> simp

theorem readOperand_eq_ok_iff {α : Type} {ofText : String → Except Error α} {a : α} :
    readOperand ofText read argument = .ok a ↔
      ∃ t, Denotes read argument t ∧ ofText t = .ok a := by
  simp only [← operandText_eq_ok_iff]
  cases htext : operandText read argument with
  | error e => simp [readOperand, htext]
  | ok t =>
    simp only [readOperand, htext, Except.ok.injEq, exists_eq_left']
    cases ofText t <;> simp

theorem operandText_ne_usage (read : ReadFile) (argument : String) :
    operandText read argument ≠ .error .usage := by
  unfold operandText
  split
  · split <;> simp
  · simp

theorem value_readCondition_ne_usage : (readCondition read argument).value ≠ .error .usage := by
  cases htext : operandText read argument with
  | error e =>
    have hne := htext ▸ operandText_ne_usage read argument
    simpa [readCondition, htext] using hne
  | ok t =>
    simp only [readCondition, htext, Traced.value_map]
    cases (Condition.ofText t).value <;> simp

theorem readOperand_ne_usage {α : Type} {ofText : String → Except Error α} :
    readOperand ofText read argument ≠ .error .usage := by
  cases htext : operandText read argument with
  | error e =>
    have hne := htext ▸ operandText_ne_usage read argument
    simpa [readOperand, htext] using hne
  | ok t =>
    simp only [readOperand, htext]
    cases ofText t <;> simp

theorem target_of_mem_readCondition {event : Event} (h : event ∈ (readCondition read argument).events) :
    event.target = "condition_eval::parser" := by
  unfold readCondition at h
  split at h
  · cases h
  · rw [Traced.events_map] at h
    exact Condition.target_of_mem_ofText h

section

variable {α : Type} {ofText : String → Except Error α} {judge : Condition → α → Traced Verdict}
  {condition operand : String}

/-- A condition and a second operand are read and then judged. -/
def judged (read : ReadFile) (ofText : String → Except Error α)
    (judge : Condition → α → Traced Verdict) (condition operand : String) :
    Traced (Except Complaint Verdict) :=
  (readCondition read condition).bind fun
    | .error e => .pure (.error e)
    | .ok c =>
      match readOperand ofText read operand with
      | .error e => .pure (.error e)
      | .ok a => (judge c a).map .ok

theorem perform_eval (read : ReadFile) (condition bindings : String) :
    perform read (.eval condition bindings) =
      judged read Bindings.ofText (fun c x => (c.evaluate x).map evalVerdict) condition bindings := by
  rw [perform, judged]
  congr 1
  funext result
  cases result with
  | error e => rfl
  | ok c => cases readOperand Bindings.ofText read bindings <;> rfl

theorem perform_cases (read : ReadFile) (condition table : String) :
    perform read (.cases condition table) =
      judged read CaseTable.ofText (fun c cases => (c.runCases cases).map casesVerdict)
        condition table := by
  rw [perform, judged]
  congr 1
  funext result
  cases result with
  | error e => rfl
  | ok c => cases readOperand CaseTable.ofText read table <;> rfl

theorem value_judged_eq_ok_iff {verdict : Verdict} :
    (judged read ofText judge condition operand).value = .ok verdict ↔
      ∃ t c u a, Denotes read condition t ∧ (Condition.ofText t).value = .ok c ∧
        Denotes read operand u ∧ ofText u = .ok a ∧ (judge c a).value = verdict := by
  have read : (judged read ofText judge condition operand).value = .ok verdict ↔
      ∃ c a, (readCondition read condition).value = .ok c ∧
        readOperand ofText read operand = .ok a ∧ (judge c a).value = verdict := by
    rw [judged, Traced.value_bind]
    cases (readCondition read condition).value with
    | error e => simp
    | ok c => cases readOperand ofText read operand <;> simp
  rw [read]
  simp only [value_readCondition_eq_ok_iff, readOperand_eq_ok_iff]
  constructor
  · rintro ⟨c, a, ⟨t, ht, hc⟩, ⟨u, hu, ha⟩, hverdict⟩
    exact ⟨t, c, u, a, ht, hc, hu, ha, hverdict⟩
  · rintro ⟨t, c, u, a, ht, hc, hu, ha, hverdict⟩
    exact ⟨c, a, ⟨t, ht, hc⟩, ⟨u, hu, ha⟩, hverdict⟩

theorem events_judged_of_error {complaint : Complaint}
    (h : (judged read ofText judge condition operand).value = .error complaint) :
    complaint ≠ .usage ∧
      (judged read ofText judge condition operand).events =
        (readCondition read condition).events := by
  rw [judged, Traced.value_bind] at h
  rw [judged, Traced.events_bind]
  cases hc : (readCondition read condition).value with
  | error e =>
    rw [hc] at h
    cases h
    refine ⟨?_, by simp⟩
    rintro rfl
    exact value_readCondition_ne_usage hc
  | ok c =>
    rw [hc] at h
    cases ha : readOperand ofText read operand with
    | error e =>
      simp only [ha, Traced.value_pure, Except.error.injEq] at h
      subst h
      refine ⟨?_, by simp⟩
      rintro rfl
      exact readOperand_ne_usage ha
    | ok a =>
      simp [ha] at h

end

theorem Word.of_eq_operand (h : argument.toList.head? ≠ some '-') : Word.of argument = .operand := by
  unfold Word.of
  split
  · rename_i heq
    exact absurd (by rw [heq]; rfl) h
  · rename_i heq
    exact absurd (by rw [heq]; rfl) h
  · rename_i heq
    exact absurd (by rw [heq]; rfl) h
  · rfl

theorem operands?_pair {a b : String} (ha : a.toList.head? ≠ some '-')
    (hb : b.toList.head? ≠ some '-') : operands? [a, b] = some (0, [a, b]) := by
  simp [operands?, Word.of_eq_operand ha, Word.of_eq_operand hb]

theorem request?_eval {condition bindings : String} (hcondition : condition.toList.head? ≠ some '-')
    (hbindings : bindings.toList.head? ≠ some '-') :
    request? ["eval", condition, bindings] = some (.run ⟨0, .eval condition bindings⟩) := by
  have hname : Word.of "eval" = .operand := by decide
  simp [request?, requestAfter?, hname, operands?_pair hcondition hbindings, command?]

theorem request?_cases {condition table : String} (hcondition : condition.toList.head? ≠ some '-')
    (htable : table.toList.head? ≠ some '-') :
    request? ["cases", condition, table] = some (.run ⟨0, .cases condition table⟩) := by
  have hname : Word.of "cases" = .operand := by decide
  simp [request?, requestAfter?, hname, operands?_pair hcondition htable, command?]

/-- Nothing is printed but a line that says what went wrong, and nothing was evaluated. -/
structure Run.Fails (r : Run) : Prop where
  exitCode : r.exitCode = 2
  output : r.output = ""
  complaint : ∃ message, r.complaint.map Complaint.text = some ("error: " ++ message ++ "\n")
  log : ∀ event ∈ r.log, event.target ≠ "condition_eval::engine"

theorem Complaint.text_of_ne_usage {complaint : Complaint} (h : complaint ≠ .usage) :
    ∃ message, complaint.text = "error: " ++ message ++ "\n" := by
  unfold text
  cases complaint with
  | usage => exact absurd rfl h
  | unreadableFile path failure =>
    refine ⟨"cannot read " ++ path ++ ": " ++ failure.text, ?_⟩
    rw [← String.toList_inj]
    simp
  | unreadableText e => exact ⟨unreadableMessage e, rfl⟩

section

variable {α : Type} {ofText : String → Except Error α} {judge : Condition → α → Traced Verdict}
  {condition operand : String} (filterText : Option String) (i : Invocation)

theorem runInvocation_of_verdict {verdict : Verdict}
    (h : (perform read i.command).value = .ok verdict) :
    (runInvocation read filterText i).exitCode = (if verdict.passed then 0 else 1) ∧
      (runInvocation read filterText i).output = verdict.output ∧
      (runInvocation read filterText i).complaint = none := by
  simp only [runInvocation, h]
  exact ⟨trivial, trivial, trivial⟩

theorem runInvocation_fails
    (hcommand : perform read i.command = judged read ofText judge condition operand)
    {complaint : Complaint} (h : (perform read i.command).value = .error complaint) :
    (runInvocation read filterText i).Fails := by
  obtain ⟨hne, hevents⟩ := events_judged_of_error (hcommand ▸ h)
  obtain ⟨message, hmessage⟩ := Complaint.text_of_ne_usage hne
  have run : runInvocation read filterText i = .failed complaint
      ((perform read i.command).events.filter (filterFor filterText i.verbosity).shows) := by
    rw [runInvocation, h]
  rw [run]
  refine ⟨rfl, rfl, ⟨message, congrArg some hmessage⟩, ?_⟩
  intro event hevent
  have hmem : event ∈ (perform read i.command).events := List.mem_of_mem_filter hevent
  rw [hcommand, hevents] at hmem
  rw [target_of_mem_readCondition hmem]
  decide

end

end CommandLine

end Conditions
