import Conditions.Evaluation

set_option autoImplicit false

namespace Conditions

structure Case where
  bindings : Bindings
  expected : Bool

structure CaseOutcome where
  index : Nat
  expected : Bool
  actual : Bool
deriving DecidableEq

namespace CaseOutcome

def passed (o : CaseOutcome) : Bool := o.expected == o.actual

/-- As in `3 ok` or `4 FAIL`. -/
def text (o : CaseOutcome) : String :=
  Nat.repr o.index ++ " " ++ if o.passed then "ok" else "FAIL"

end CaseOutcome

namespace Condition

def runCasesFrom (c : Condition) (index : Nat) : List Case → Traced (List CaseOutcome)
  | [] => .pure []
  | case :: cases =>
    (c.evaluate case.bindings).bind fun actual =>
      (runCasesFrom c (index + 1) cases).map (⟨index, case.expected, actual⟩ :: ·)

def runCases (c : Condition) (cases : List Case) : Traced (List CaseOutcome) :=
  c.runCasesFrom 0 cases

end Condition

/-- One line for each outcome, without a line end behind the last. -/
def report (outcomes : List CaseOutcome) : String :=
  "\n".intercalate (outcomes.map CaseOutcome.text)

namespace CaseTable

open Json (Fault Reader)

def readCaseEnd (cs : List Char) : Except Fault (List Char) :=
  match Json.skipBlank cs with
  | [] => .error (.before .eofInList [])
  | ']' :: rest => .ok rest
  | ',' :: rest =>
    match Json.skipBlank rest with
    | ']' :: rest => .error (.next .trailingComma (']' :: rest))
    | rest => .error (.next .trailingCharacters rest)
  | rest => .error (.next .trailingCharacters rest)

def readCase : Reader Case := fun cs =>
  match Json.skipBlank cs with
  | '[' :: rest =>
    match Json.nextItem true rest with
    | .error f => .error f
    | .ok (.close rest) => .error (.before (.wrongLength 0 .caseOfTwo) rest)
    | .ok (.item () rest) =>
      match Bindings.read rest with
      | .error f => .error f
      | .ok (x, rest) =>
        match Json.nextItem false rest with
        | .error f => .error f
        | .ok (.close rest) => .error (.before (.wrongLength 1 .caseOfTwo) rest)
        | .ok (.item () rest) =>
          match Json.readBoolean rest with
          | .error f => .error f
          | .ok (expected, rest) => (readCaseEnd rest).map fun rest => (⟨x, expected⟩, rest)
  | rest => .error (Json.mismatch .case rest)

theorem length_readCaseEnd {cs rest : List Char} (h : readCaseEnd cs = .ok rest) :
    rest.length < cs.length := by
  have hcs := Json.length_skipBlank cs
  unfold readCaseEnd at h
  split at h
  · simp at h
  · rename_i heq
    simp only [heq, List.length_cons] at hcs
    simp only [Except.ok.injEq] at h
    exact h ▸ hcs
  · split at h <;> simp at h
  · simp at h

theorem length_readCase {cs rest : List Char} {case : Case} (h : readCase cs = .ok (case, rest)) :
    rest.length < cs.length := by
  have hcs := Json.length_skipBlank cs
  unfold readCase at h
  split at h
  · rename_i heq
    simp only [heq, List.length_cons] at hcs
    split at h
    · simp at h
    · simp at h
    · rename_i hn
      have hn := Json.length_nextItem hn
      split at h
      · simp at h
      · rename_i hx
        have hx := Bindings.length_read hx
        split at h
        · simp at h
        · simp at h
        · rename_i hm
          have hm := Json.length_nextItem hm
          split at h
          · simp at h
          · rename_i r hb
            have hb := Json.length_readBoolean hb
            cases he : readCaseEnd r with
            | error f => simp [he, Except.map] at h
            | ok r' =>
              have := length_readCaseEnd he
              simp only [he, Except.map, Except.ok.injEq, Prod.mk.injEq] at h
              simp only [Json.Next.rest] at hn hm
              rw [← h.2]
              omega
  · simp at h

def readCases (first : Bool) (cs : List Char) : Except Fault (List Case × List Char) :=
  match h : Json.nextItem first cs with
  | .error f => .error f
  | .ok (.close rest) => .ok ([], rest)
  | .ok (.item () rest) =>
    match hc : readCase rest with
    | .error f => .error f
    | .ok (case, rest') =>
      have : rest'.length < cs.length :=
        Nat.lt_of_lt_of_le (length_readCase hc) (Json.length_nextItem h)
      (readCases false rest').map fun p => (case :: p.1, p.2)
termination_by cs.length

def read : Reader (List Case) := fun cs =>
  match Json.skipBlank cs with
  | '[' :: rest => readCases true rest
  | rest => .error (Json.mismatch .sequence rest)

def ofText (text : String) : Except Json.Error (List Case) :=
  read.ofText text

def expectedOfJson : Json → Except Json.Error Bool
  | .boolean b => .ok b
  | v => .error ⟨.wrongType v.shape .boolean, none⟩

/-- The elements are looked at before their number. -/
def caseOfJson : Json → Except Json.Error Case
  | .array [] => .error ⟨.wrongLength 0 .caseOfTwo, none⟩
  | .array [x] => do
    let _ ← Bindings.ofJson x
    .error ⟨.wrongLength 1 .caseOfTwo, none⟩
  | .array (x :: expected :: more) => do
    let bindings ← Bindings.ofJson x
    let expected ← expectedOfJson expected
    if more.isEmpty then .ok ⟨bindings, expected⟩
    else .error ⟨.wrongLength (2 + more.length) .fewerElements, none⟩
  | v => .error ⟨.wrongType v.shape .case, none⟩

def casesOfJson : List Json → Except Json.Error (List Case)
  | [] => .ok []
  | v :: vs => do
    let case ← caseOfJson v
    let cases ← casesOfJson vs
    return case :: cases

def ofJson : Json → Except Json.Error (List Case)
  | .array vs => casesOfJson vs
  | v => .error ⟨.wrongType v.shape .sequence, none⟩

end CaseTable

end Conditions
