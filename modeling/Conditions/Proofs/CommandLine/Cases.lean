import Conditions.Proofs.CaseTable.Rendering
import Conditions.Proofs.CaseTable.Report
import Conditions.Proofs.CommandLine.Evaluation

set_option autoImplicit false

namespace Conditions

open Json (Blank Bracketed BooleanSpelling Enclosed Padded)

theorem Json.Padded.head?_ne {P : List Char → Prop} {w : List Char} {c d : Char} (h : Padded P w)
    (start : ∀ v, P v → ∃ inner, v = c :: inner) (hcd : c ≠ d) (hd : isBlank d = false) :
    w.head? ≠ some d := by
  obtain ⟨b, v, b', hb, hv, -, rfl⟩ := h
  obtain ⟨inner, rfl⟩ := start v hv
  cases b with
  | nil => simpa using hcd
  | cons e b =>
    have he : isBlank e = true := isBlank_iff.2 (hb e List.mem_cons_self)
    rw [List.cons_append, List.head?_cons, ne_eq, Option.some.injEq]
    rintro rfl
    exact absurd he (by rw [hd]; decide)

theorem Condition.head?_ne_of_ofText {t : String} {c : Condition} (h : (ofText t).value = .ok c)
    {d : Char} (hd : '[' ≠ d) (hblank : Json.isBlank d = false) : t.toList.head? ≠ some d := by
  rw [ofText_eq_ok_iff, (spelledBy_rendering c).ofText_eq_ok_iff] at h
  refine h.head?_ne ?_ hd hblank
  intro v hv
  cases c with
  | comparison r reference literal =>
    rw [rendering_comparison] at hv
    exact hv.start
  | logical k cs =>
    rw [rendering_logical] at hv
    exact hv.start

theorem Bindings.head?_ne_of_ofText {t : String} {x : Bindings} (h : ofText t = .ok x)
    {d : Char} (hd : '\x7b' ≠ d) (hblank : Json.isBlank d = false) : t.toList.head? ≠ some d := by
  refine ((takes_read x).ofText_eq_ok_iff.1 h).head?_ne ?_ hd hblank
  rintro v ⟨es, hv, -⟩
  exact hv.start

theorem text_lineFeed (o : CaseOutcome) :
    o.text ++ "\n" = Nat.repr o.index ++ if o.passed then " ok\n" else " FAIL\n" := by
  rw [o.text_eq, outcomeLine, String.append_assoc]
  cases o.passed <;> rfl

theorem intercalate_lineFeed {l : List String} (h : l ≠ []) :
    "\n".intercalate l ++ "\n" = String.join (l.map (· ++ "\n")) := by
  induction l with
  | nil => exact absurd rfl h
  | cons line l ih =>
    cases l with
    | nil => simp
    | cons next l =>
      rw [String.intercalate_cons_cons, List.map_cons, String.join_cons, ← ih (List.cons_ne_nil _ _)]
      simp only [String.append_assoc]

namespace CommandLine

theorem output_casesVerdict (outcomes : List CaseOutcome) :
    (casesVerdict outcomes).output = String.join (outcomes.map fun o => o.text ++ "\n") := by
  cases outcomes with
  | nil => rfl
  | cons o outcomes =>
    have lines := intercalate_lineFeed (l := (o :: outcomes).map CaseOutcome.text) (by simp)
    rw [List.map_map] at lines
    exact lines

variable (read : ReadFile) (filterText : Option String) {condition : String}

/-- Whether the command that evaluates prints the expected value under the bindings of a row. -/
def rowPasses (condition : String) (row : String × Bool) : Bool :=
  (run read filterText ["eval", condition, row.1]).output = if row.2 then "true\n" else "false\n"

def rowLine (condition : String) (index : Nat) (row : String × Bool) : String :=
  Nat.repr index ++ if rowPasses read filterText condition row then " ok\n" else " FAIL\n"

/-- The texts of a table whose cases have these texts of bindings and expected values. -/
def RowsSpelling (rows : List (String × Bool)) : List Char → Prop :=
  Bracketed (rows.map fun row => Bracketed [(· = row.1.toList), BooleanSpelling row.2])

/-- The bindings of a case are read from the text of a row alone. -/
def OfRow (row : String × Bool) (case : Case) : Prop :=
  Bindings.ofText row.1 = .ok case.bindings ∧ case.expected = row.2

theorem exists_forall₂_ofRow {rows : List (String × Bool)}
    (h : ∀ row ∈ rows, ∃ x, Bindings.ofText row.1 = .ok x) :
    ∃ cases, List.Forall₂ OfRow rows cases := by
  induction rows with
  | nil => exact ⟨[], .nil⟩
  | cons row rows ih =>
    obtain ⟨⟨x, hx⟩, hrows⟩ := List.forall_mem_cons.1 h
    obtain ⟨cases, hcases⟩ := ih hrows
    exact ⟨⟨x, row.2⟩ :: cases, .cons ⟨hx, rfl⟩ hcases⟩

theorem rendering_of_rowsSpelling {rows : List (String × Bool)} {cases : List Case}
    (h : List.Forall₂ OfRow rows cases) {w : List Char} (hw : RowsSpelling rows w) :
    CaseTable.Rendering cases w := by
  refine hw.imp ?_
  rw [List.forall₂_map_left_iff, List.forall₂_map_right_iff]
  refine h.imp ?_
  intro row case ⟨hx, hexpected⟩ w hrow
  have bindings : Padded case.bindings.Rendering row.1.toList :=
    (Bindings.takes_read case.bindings).ofText_eq_ok_iff.1 hx
  apply Padded.of_exact
  rw [Case.Rendering, hexpected]
  refine hrow.imp (.cons ?_ (.cons (fun _ => .of_exact) .nil))
  rintro _ rfl
  exact bindings

theorem rowPasses_eq {c : Condition} (hc : (Condition.ofText condition).value = .ok c)
    {row : String × Bool} {case : Case} (h : OfRow row case) :
    rowPasses read filterText condition row =
      (case.expected == (c.evaluate case.bindings).value) := by
  obtain ⟨hx, hexpected⟩ := h
  have value : (evaluateText condition row.1).value = .ok (c.evaluate case.bindings).value :=
    value_evaluateText_eq_ok_iff.2 ⟨c, case.bindings, hc, hx, rfl⟩
  have first : Denotes read condition condition :=
    .inl ⟨Condition.head?_ne_of_ofText hc (by decide) (by decide), rfl⟩
  have second : Denotes read row.1 row.1 :=
    .inl ⟨Bindings.head?_ne_of_ofText hx (by decide) (by decide), rfl⟩
  have output := (run_eval_of_value filterText first second value).2
  have run := run_eval_eq read filterText
    (Condition.head?_ne_of_ofText hc (by decide) (by decide))
    (Bindings.head?_ne_of_ofText hx (by decide) (by decide))
  rw [rowPasses, run, output, ← hexpected]
  cases case.expected <;> cases (c.evaluate case.bindings).value <;> decide

theorem map_text_runCasesFrom {c : Condition} (hc : (Condition.ofText condition).value = .ok c)
    {rows : List (String × Bool)} {cases : List Case} (h : List.Forall₂ OfRow rows cases)
    (index : Nat) :
    (c.runCasesFrom index cases).value.map (fun o => o.text ++ "\n") =
      (rows.zipIdx index).map fun p => rowLine read filterText condition p.2 p.1 := by
  induction h generalizing index with
  | nil => rfl
  | @cons row case rows cases hrow _ ih =>
    have passes := rowPasses_eq read filterText hc hrow
    rw [Condition.value_runCasesFrom_cons, List.map_cons, ih, text_lineFeed, List.zipIdx_cons, List.map_cons,
      rowLine, passes]
    rfl

theorem all_passed_runCasesFrom {c : Condition} (hc : (Condition.ofText condition).value = .ok c)
    {rows : List (String × Bool)} {cases : List Case} (h : List.Forall₂ OfRow rows cases)
    (index : Nat) :
    (c.runCasesFrom index cases).value.all CaseOutcome.passed =
      rows.all (rowPasses read filterText condition) := by
  induction h generalizing index with
  | nil => rfl
  | @cons row case rows cases hrow _ ih =>
    have passes := rowPasses_eq read filterText hc hrow
    rw [Condition.value_runCasesFrom_cons, List.all_cons, ih, List.all_cons, passes]
    rfl

theorem run_cases_eq {table : String} (hcondition : condition.toList.head? ≠ some '-')
    (htable : table.toList.head? ≠ some '-') :
    run read filterText ["cases", condition, table] =
      runInvocation read filterText ⟨0, .cases condition table⟩ := by
  rw [run, request?_cases hcondition htable]

/-- The report on a table says of each row what the command that evaluates says of it alone. Where there
is no table, also one that starts with good rows, nothing is run. -/
theorem run_cases (read : ReadFile) (filterText : Option String) :
    (∀ (condition table : String) (rows : List (String × Bool)),
      (∃ c, (Condition.ofText condition).value = .ok c) →
      (∀ row ∈ rows, ∃ x, Bindings.ofText row.1 = .ok x) →
      Padded (RowsSpelling rows) table.toList →
      (run read filterText ["cases", condition, table]).output =
        String.join (rows.zipIdx.map fun p => rowLine read filterText condition p.2 p.1) ∧
      (run read filterText ["cases", condition, table]).exitCode =
        (if ∀ row ∈ rows, rowPasses read filterText condition row then 0 else 1) ∧
      (run read filterText ["cases", condition, table]).complaint = none) ∧
    ∀ condition table : String, condition.toList.head? ≠ some '-' → table.toList.head? ≠ some '-' →
      table.toList.head? ≠ some '@' → (∀ cases, CaseTable.ofText table ≠ .ok cases) →
      (run read filterText ["cases", condition, table]).Fails := by
  constructor
  · rintro condition table rows ⟨c, hc⟩ hrows htable
    obtain ⟨cases, hcases⟩ := exists_forall₂_ofRow hrows
    have table_start {d : Char} (hd : '[' ≠ d) (hblank : Json.isBlank d = false) :
        table.toList.head? ≠ some d :=
      htable.head?_ne (fun _ => Enclosed.start) hd hblank
    have hread : CaseTable.ofText table = .ok cases :=
      (CaseTable.takes_read cases).ofText_eq_ok_iff.2
        (htable.imp fun _ hw => .of_exact (rendering_of_rowsSpelling hcases hw))
    have performed : (perform read (.cases condition table)).value =
        .ok (casesVerdict (c.runCases cases).value) := by
      rw [perform_cases, value_judged_eq_ok_iff]
      exact ⟨condition, c, table, cases,
        .inl ⟨Condition.head?_ne_of_ofText hc (by decide) (by decide), rfl⟩, hc,
        .inl ⟨table_start (by decide) (by decide), rfl⟩, hread, rfl⟩
    obtain ⟨hcode, houtput, hcomplaint⟩ := runInvocation_of_verdict filterText
      ⟨0, .cases condition table⟩ performed
    rw [run_cases_eq read filterText (Condition.head?_ne_of_ofText hc (by decide) (by decide))
      (table_start (by decide) (by decide))]
    refine ⟨?_, ?_, hcomplaint⟩
    · rw [houtput, output_casesVerdict]
      exact congrArg String.join (map_text_runCasesFrom read filterText hc hcases 0)
    · have all : (casesVerdict (c.runCases cases).value).passed =
          rows.all (rowPasses read filterText condition) :=
        all_passed_runCasesFrom read filterText hc hcases 0
      rw [hcode, all]
      simp only [List.all_eq_true]
  · intro condition table hcondition htable hat hnone
    rw [run_cases_eq read filterText hcondition htable]
    cases hperform : (perform read (.cases condition table)).value with
    | error complaint =>
      exact runInvocation_fails filterText _ (perform_cases read condition table) hperform
    | ok verdict =>
      rw [perform_cases, value_judged_eq_ok_iff] at hperform
      obtain ⟨_, _, t, cases, -, -, ht, hcases, -⟩ := hperform
      rcases ht with ⟨-, rfl⟩ | ⟨path, hpath, -⟩
      · exact absurd hcases (hnone cases)
      · exact absurd (by rw [hpath]; rfl) hat

/-- The first row passes and the second does not; a table with a third, empty row is not run. -/
theorem run_cases_two_rows :
    let read : ReadFile := fun _ => .error .missing
    let condition := "[\"==\",\"$S\",\"x\"]"
    let rows := [("\x7b\"S\":\"x\"\x7d", true), ("\x7b\x7d", true)]
    let table := "[[\x7b\"S\":\"x\"\x7d,true],[\x7b\x7d, true]]"
    let longer := "[[\x7b\"S\":\"x\"\x7d,true],[\x7b\x7d, true],[]]"
    (∃ c, (Condition.ofText condition).value = .ok c) ∧
      (∀ row ∈ rows, ∃ x, Bindings.ofText row.1 = .ok x) ∧
      Padded (RowsSpelling rows) table.toList ∧
      (run read none ["cases", condition, table]).output = "0 ok\n1 FAIL\n" ∧
      (run read none ["cases", condition, table]).exitCode = 1 ∧
      (run read none ["cases", condition, longer]).Fails := by
  intro read condition rows table longer
  have hc : (Condition.ofText condition).value = .ok (.comparison .equal (some "$S") "x") := by
    decide +kernel
  have hrows : ∀ row ∈ rows, ∃ x, Bindings.ofText row.1 = .ok x := by
    refine List.forall_mem_cons.2 ⟨⟨.ofList [("S", "x")], by decide +kernel⟩, ?_⟩
    exact List.forall_mem_cons.2 ⟨⟨.empty, by decide +kernel⟩, List.forall_mem_nil _⟩
  have first : Bracketed [(· = "\x7b\"S\":\"x\"\x7d".toList), BooleanSpelling true]
      "[\x7b\"S\":\"x\"\x7d,true]".toList := by
    have text : "[\x7b\"S\":\"x\"\x7d,true]".toList = '[' :: ("\x7b\"S\":\"x\"\x7d".toList ++
        ((',' :: ("true".toList ++ [])) ++ [']'])) := by decide
    rw [text]
    exact .parts (.of_exact rfl) (.cons (.of_exact rfl) .nil)
  have second : Bracketed [(· = "\x7b\x7d".toList), BooleanSpelling true]
      "[\x7b\x7d, true]".toList := by
    have text : "[\x7b\x7d, true]".toList = '[' :: ("\x7b\x7d".toList ++
        ((',' :: (" true".toList ++ [])) ++ [']'])) := by decide
    rw [text]
    refine .parts (.of_exact rfl) (.cons ⟨[' '], "true".toList, [], ?_, rfl, ?_, by decide⟩ .nil)
    · simp [Blank]
    · exact List.forall_mem_nil _
  have htable : Padded (RowsSpelling rows) table.toList := by
    have ht : table.toList = '[' :: ("[\x7b\"S\":\"x\"\x7d,true]".toList ++
        ((',' :: ("[\x7b\x7d, true]".toList ++ [])) ++ [']'])) := by decide
    apply Padded.of_exact
    rw [RowsSpelling, ht]
    exact .parts (.of_exact first) (.cons (.of_exact second) .nil)
  have rejected : (CaseTable.ofText longer).toOption.isNone = true := by decide +kernel
  obtain ⟨report, unread⟩ := run_cases read none
  obtain ⟨houtput, hcode, -⟩ := report condition table rows ⟨_, hc⟩ hrows htable
  refine ⟨⟨_, hc⟩, hrows, htable, ?_, ?_, ?_⟩
  · rw [houtput]
    decide +kernel
  · rw [hcode]
    decide +kernel
  · apply unread condition longer (by decide) (by decide) (by decide)
    intro cases hcases
    rw [hcases] at rejected
    cases rejected

end CommandLine

end Conditions
