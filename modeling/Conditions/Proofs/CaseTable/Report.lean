import Conditions.CaseTable
import Mathlib.Data.List.Forall2

set_option autoImplicit false

namespace Conditions

namespace Condition

theorem value_runCasesFrom_cons (c : Condition) (index : Nat) (case : Case) (cases : List Case) :
    (c.runCasesFrom index (case :: cases)).value =
      ⟨index, case.expected, (c.evaluate case.bindings).value⟩ ::
        (c.runCasesFrom (index + 1) cases).value := rfl

theorem value_runCasesFrom (c : Condition) (index : Nat) (cases : List Case) :
    (c.runCasesFrom index cases).value =
      (cases.zipIdx index).map fun p => ⟨p.2, p.1.expected, (c.evaluate p.1.bindings).value⟩ := by
  induction cases generalizing index with
  | nil => rfl
  | cons case cases ih =>
    rw [value_runCasesFrom_cons, ih, List.zipIdx_cons, List.map_cons]

theorem events_runCasesFrom (c : Condition) (index : Nat) (cases : List Case) :
    (c.runCasesFrom index cases).events =
      cases.flatMap fun case => (c.evaluate case.bindings).events := by
  induction cases generalizing index with
  | nil => rfl
  | cons case cases ih =>
    rw [runCasesFrom, Traced.events_bind, Traced.events_map, ih, List.flatMap_cons]

end Condition

def outcomeLine (index : Nat) (passed : Bool) : String :=
  Nat.repr index ++ if passed then " ok" else " FAIL"

theorem CaseOutcome.text_eq (o : CaseOutcome) : o.text = outcomeLine o.index o.passed := by
  rw [text, outcomeLine, String.append_assoc]
  cases o.passed <;> rfl

/-- The index that starts a line, and whether what stands behind it says that the case passed. -/
def readOutcome? (line : List Char) : Option (Nat × Bool) :=
  let index := Nat.ofDigitChars 10 (line.takeWhile Char.isDigit) 0
  let verdict := line.dropWhile Char.isDigit
  if verdict = " ok".toList then some (index, true)
  else if verdict = " FAIL".toList then some (index, false)
  else none

theorem toList_outcomeLine (index : Nat) (passed : Bool) :
    (outcomeLine index passed).toList =
      Nat.toDigits 10 index ++ ' ' :: (if passed then "ok" else "FAIL").toList := by
  rw [outcomeLine, String.toList_append, Nat.toList_repr]
  cases passed <;> rfl

theorem isDigit_of_mem_toDigits {index : Nat} : ∀ d ∈ Nat.toDigits 10 index, d.isDigit = true :=
  fun _ hd => Nat.isDigit_of_mem_toDigits (by decide) (by decide) hd

theorem lineFeed_not_mem_outcomeLine (index : Nat) (passed : Bool) :
    '\n' ∉ (outcomeLine index passed).toList := by
  rw [toList_outcomeLine, List.mem_append, not_or]
  constructor
  · intro h
    exact absurd (isDigit_of_mem_toDigits '\n' h) (by decide)
  · cases passed <;> decide

theorem readOutcome?_outcomeLine (index : Nat) (passed : Bool) :
    readOutcome? (outcomeLine index passed).toList = some (index, passed) := by
  have digits : (outcomeLine index passed).toList.takeWhile Char.isDigit =
      Nat.toDigits 10 index := by
    rw [toList_outcomeLine, List.takeWhile_append_of_pos isDigit_of_mem_toDigits,
      List.takeWhile_cons_of_neg (by decide), List.append_nil]
  have verdict : (outcomeLine index passed).toList.dropWhile Char.isDigit =
      ' ' :: (if passed then "ok" else "FAIL").toList := by
    rw [toList_outcomeLine, List.dropWhile_append_of_pos isDigit_of_mem_toDigits,
      List.dropWhile_cons_of_neg (by decide)]
  unfold readOutcome?
  rw [digits, verdict, Nat.ofDigitChars_toDigits (by decide) (by decide)]
  cases passed <;> rfl

/-- What the lines of a report tell. A line that tells nothing is passed over. -/
def readReport (text : String) : List (Nat × Bool) :=
  (text.toList.splitOn '\n').filterMap readOutcome?

theorem splitOn_report {outcomes : List CaseOutcome} (h : outcomes ≠ []) :
    (report outcomes).toList.splitOn '\n' =
      outcomes.map fun o => (outcomeLine o.index o.passed).toList := by
  rw [report, String.toList_intercalate, List.map_map]
  simp only [Function.comp_def, CaseOutcome.text_eq]
  apply List.splitOn_intercalate
  · intro line hline
    obtain ⟨o, -, rfl⟩ := List.mem_map.1 hline
    exact lineFeed_not_mem_outcomeLine o.index o.passed
  · simpa using h

theorem readReport_report (outcomes : List CaseOutcome) :
    readReport (report outcomes) = outcomes.map fun o => (o.index, o.passed) := by
  by_cases h : outcomes = []
  · subst h
    decide
  · rw [readReport, splitOn_report h, List.filterMap_map]
    simp only [Function.comp_def, readOutcome?_outcomeLine]
    rw [List.filterMap_eq_map']

example :
    readReport "0 ok\n18446744073709551615 FAIL" = [(0, true), (18446744073709551615, false)] := by
  decide

theorem report_eq_iff {os ps : List CaseOutcome} :
    report os = report ps ↔
      List.Forall₂ (fun o p => o.index = p.index ∧ o.passed = p.passed) os ps := by
  constructor
  · intro h
    have told := congrArg readReport h
    rw [readReport_report, readReport_report, ← List.forall₂_eq_eq_eq, List.forall₂_map_left_iff,
      List.forall₂_map_right_iff] at told
    exact told.imp fun o p hop => Prod.mk.inj hop
  · intro h
    have lines : os.map CaseOutcome.text = ps.map CaseOutcome.text := by
      rw [← List.forall₂_eq_eq_eq, List.forall₂_map_left_iff, List.forall₂_map_right_iff]
      refine h.imp fun o p ⟨hindex, hpassed⟩ => ?_
      rw [CaseOutcome.text_eq, CaseOutcome.text_eq, hindex, hpassed]
    rw [report, report, lines]

theorem report_eq_empty_iff {outcomes : List CaseOutcome} : report outcomes = "" ↔ outcomes = [] := by
  have empty : report [] = "" := by decide
  rw [← empty, report_eq_iff, List.forall₂_nil_right_iff]

/-- Every case has its outcome and leaves its events, also behind one that fails, and a report on
outcomes, of whatever indices, tells each index and whether it passed. -/
theorem runCases_reported :
    (∀ (c : Condition) (cases : List Case),
      (c.runCases cases).value =
        cases.mapIdx (fun i case => ⟨i, case.expected, (c.evaluate case.bindings).value⟩) ∧
      (c.runCases cases).events =
        cases.flatMap fun case => (c.evaluate case.bindings).events) ∧
    (∀ outcomes, readReport (report outcomes) = outcomes.map fun o => (o.index, o.passed)) ∧
    (∀ os ps, report os = report ps ↔
      List.Forall₂ (fun o p => o.index = p.index ∧ o.passed = p.passed) os ps) ∧
    ∀ outcomes, report outcomes = "" ↔ outcomes = [] := by
  refine ⟨fun c cases => ⟨?_, ?_⟩, readReport_report, fun _ _ => report_eq_iff,
    fun _ => report_eq_empty_iff⟩
  · rw [Condition.runCases, Condition.value_runCasesFrom, List.mapIdx_eq_zipIdx_map]
  · exact c.events_runCasesFrom 0 cases

end Conditions
