import Conditions.Proofs.CommandLine.Flags

set_option autoImplicit false

namespace Conditions

open Json (Error)

/-- There is one event, and it tells of an operator that does not exist. -/
def Unrecognized (events : List Event) : Prop :=
  ∃ symbol path, events = [.unrecognized symbol path]

theorem Condition.events_ofText (t : String) :
    (ofText t).events = [] ∨ Unrecognized (ofText t).events := by
  unfold ofText
  split
  · exact .inl rfl
  · rename_i v rest _
    rw [Traced.events_map, classify_eq]
    cases ofJson v with
    | ok c => exact .inl rfl
    | error d =>
      obtain ⟨flaw, path⟩ := d
      cases flaw with
      | unrecognized symbol => exact .inr ⟨symbol, path, rfl⟩
      | _ => exact .inl rfl

namespace CommandLine

def Command.condition : Command → String
  | .eval condition _ => condition
  | .cases condition _ => condition

variable {read : ReadFile} {condition : String}

/-- No text that the operand denotes is a condition, or it denotes none. -/
def Unreadable (read : ReadFile) (condition : String) : Prop :=
  ∀ t c, Denotes read condition t → (Condition.ofText t).value ≠ .ok c

theorem Unreadable.readCondition (h : Unreadable read condition) :
    ∃ complaint, (readCondition read condition).value = .error complaint ∧ complaint ≠ .usage := by
  cases hvalue : (CommandLine.readCondition read condition).value with
  | ok c =>
    obtain ⟨t, ht, hc⟩ := value_readCondition_eq_ok_iff.1 hvalue
    exact absurd hc (h t c ht)
  | error complaint =>
    refine ⟨complaint, rfl, ?_⟩
    rintro rfl
    exact value_readCondition_ne_usage hvalue

theorem events_readCondition (read : ReadFile) (condition : String) :
    (readCondition read condition).events = [] ∨
      Unrecognized (readCondition read condition).events := by
  unfold readCondition
  split
  · exact .inl rfl
  · rw [Traced.events_map]
    exact Condition.events_ofText _

theorem judged_of_error {α : Type} (ofText : String → Except Error α)
    (judge : Condition → α → Traced Verdict) (operand : String) {complaint : Complaint}
    (h : (readCondition read condition).value = .error complaint) :
    judged read ofText judge condition operand =
      ⟨.error complaint, (readCondition read condition).events⟩ := by
  simp [judged, Traced.bind, Traced.pure, h]

theorem perform_of_error (command : Command) {complaint : Complaint}
    (h : (readCondition read command.condition).value = .error complaint) :
    perform read command = ⟨.error complaint, (readCondition read command.condition).events⟩ := by
  cases command with
  | eval condition bindings => exact perform_eval read condition bindings ▸ judged_of_error _ _ _ h
  | cases condition table => exact perform_cases read condition table ▸ judged_of_error _ _ _ h

/-- The arguments are those of a command for this condition. -/
def ForCondition (verbosity : Nat) (condition : String) (arguments : List String) : Prop :=
  (∃ bindings, Line verbosity "eval" [condition, bindings] arguments) ∨
    Line verbosity "eval" [condition] arguments ∨
    ∃ table, Line verbosity "cases" [condition, table] arguments

theorem ForCondition.request {verbosity : Nat} {arguments : List String}
    (h : ForCondition verbosity condition arguments) :
    ∃ command, command.condition = condition ∧
      request? arguments = some (.run ⟨verbosity, command⟩) := by
  rcases h with ⟨bindings, line⟩ | line | ⟨table, line⟩
  · exact ⟨.eval condition bindings, rfl, request?_of_line (by decide) line⟩
  · exact ⟨.eval condition "\x7b\x7d", rfl, request?_of_line (by decide) line⟩
  · exact ⟨.cases condition table, rfl, request?_of_line (by decide) line⟩

def refusal (read : ReadFile) (filterText : Option String) (verbosity : Nat) (condition : String)
    (complaint : Complaint) : Run :=
  .failed complaint
    ((readCondition read condition).events.filter (filterFor filterText verbosity).shows)

theorem run_eq_refusal (filterText : Option String) {verbosity : Nat} {arguments : List String}
    (harguments : ForCondition verbosity condition arguments) {complaint : Complaint}
    (h : (readCondition read condition).value = .error complaint) :
    run read filterText arguments = refusal read filterText verbosity condition complaint := by
  obtain ⟨command, rfl, hrequest⟩ := harguments.request
  simp only [run, hrequest, runInvocation, perform_of_error command h]
  rfl

theorem filter_unrecognized {events : List Event} (h : events = [] ∨ Unrecognized events)
    (shows : Event → Bool) : events.filter shows = [] ∨ Unrecognized (events.filter shows) := by
  rcases h with rfl | ⟨symbol, path, rfl⟩
  · exact .inl rfl
  · rw [List.filter_singleton]
    cases shows (.unrecognized symbol path) with
    | true => exact .inr ⟨symbol, path, rfl⟩
    | false => exact .inl rfl

/-- If the condition is refused, it alone and the verbosity determine the run: it fails, and at most the
symbol of an operator that does not exist is logged. -/
theorem run_of_unreadable_condition (read : ReadFile) (filterText : Option String) (verbosity : Nat)
    (condition : String) (h : Unreadable read condition) :
    ∃ r : Run, (∀ arguments, ForCondition verbosity condition arguments →
        run read filterText arguments = r) ∧
      r.exitCode = 2 ∧ r.output = "" ∧
      (∃ message, r.complaint.map Complaint.text = some ("error: " ++ message ++ "\n")) ∧
      (r.log = [] ∨ Unrecognized r.log) := by
  obtain ⟨complaint, herror, hne⟩ := h.readCondition
  obtain ⟨message, hmessage⟩ := Complaint.text_of_ne_usage hne
  refine ⟨refusal read filterText verbosity condition complaint, ?_, rfl, rfl,
    ⟨message, congrArg some hmessage⟩, ?_⟩
  · exact fun _ harguments => run_eq_refusal filterText harguments herror
  · exact filter_unrecognized (events_readCondition read condition) _

/-- There is no file at all, and the flags stand in different places. -/
theorem run_of_unreadable_condition_unknown_symbol :
    let read : ReadFile := fun _ => .error .missing
    let condition := "[\"OR\",[\"AND\"],[\"NOT\"]]"
    Unreadable read condition ∧
      ForCondition 2 condition ["-vv", "eval", condition, "@bindings.json"] ∧
      ForCondition 2 condition ["eval", "-v", condition, "--verbose"] ∧
      ForCondition 2 condition ["--verbose", "cases", "-vv", condition, "[]"] ∧
      ∃ r : Run, (∀ arguments, ForCondition 2 condition arguments →
          run read none arguments = r) ∧
        r.exitCode = 2 ∧ r.output = "" ∧
        (∃ message, r.complaint.map Complaint.text = some ("error: " ++ message ++ "\n")) ∧
        (r.log = [] ∨ Unrecognized r.log) := by
  intro read condition
  have plain : condition.toList.head? ≠ some '-' := by decide
  have unreadable : Unreadable read condition := by
    have refused : (Condition.ofText condition).value.isOk = false := by decide +kernel
    rintro t c (⟨-, rfl⟩ | ⟨path, hpath, -⟩) hc
    · rw [hc] at refused
      cases refused
    · have hhead : condition.toList.head? = some '@' := by rw [hpath, List.head?_cons]
      exact absurd hhead (by decide)
  have bindings : ForCondition 2 condition ["-vv", "eval", condition, "@bindings.json"] :=
    .inl ⟨_, 2, 0, ["-vv"], _, .cons (.short 1) .nil,
      .operand plain (.operand (by decide) .nil), rfl, rfl⟩
  have alone : ForCondition 2 condition ["eval", "-v", condition, "--verbose"] :=
    .inr (.inl ⟨0, 2, [], _, .nil, .flag (.short 0) (.operand plain (.flag .long .nil)), rfl, rfl⟩)
  have table : ForCondition 2 condition ["--verbose", "cases", "-vv", condition, "[]"] :=
    .inr (.inr ⟨_, 1, 2, ["--verbose"], _, .cons .long .nil,
      .flag (.short 1) (.operand plain (.operand (by decide) .nil)), rfl, rfl⟩)
  exact ⟨unreadable, bindings, alone, table,
    run_of_unreadable_condition read none 2 condition unreadable⟩

end CommandLine

end Conditions
