import Conditions.Json.Reader.Value

set_option autoImplicit false

namespace Conditions.Json

/-- The fault of a reader that expects something else; leading blanks are skipped before. -/
def mismatch (expected : Expected) (cs : List Char) : Fault :=
  match cs with
  | '[' :: _ => .before (.wrongType .sequence expected) cs
  | '{' :: _ => .before (.wrongType .map expected) cs
  | _ =>
    match readScalar cs with
    | .error f => f
    | .ok (v, rest) => .before (.wrongType v.shape expected) rest

def readBoolean : Reader Bool := fun cs =>
  match skipBlank cs with
  | 't' :: rest => (readLetters ['r', 'u', 'e'] rest).map fun rest => (true, rest)
  | 'f' :: rest => (readLetters ['a', 'l', 's', 'e'] rest).map fun rest => (false, rest)
  | rest => .error (mismatch .boolean rest)

def readOptionalString : Reader (Option String) := fun cs =>
  match skipBlank cs with
  | 'n' :: rest => (readLetters ['u', 'l', 'l'] rest).map fun rest => (none, rest)
  | '"' :: rest => (readString rest).map fun p => (some (String.ofList p.1), p.2)
  | rest => .error (mismatch .string rest)

theorem length_readOptionalString {cs rest : List Char} {s : Option String}
    (h : readOptionalString cs = .ok (s, rest)) : rest.length < cs.length := by
  have hcs := length_skipBlank cs
  unfold readOptionalString at h
  split at h
  · rename_i r heq
    cases hl : readLetters ['u', 'l', 'l'] r with
    | error f => simp [hl, Except.map] at h
    | ok r' =>
      simp only [hl, Except.map, Except.ok.injEq, Prod.mk.injEq] at h
      have := length_readLetters hl
      simp only [heq, List.length_cons] at hcs
      rw [← h.2]
      omega
  · rename_i r heq
    cases hs : readString r with
    | error f => simp [hs, Except.map] at h
    | ok p =>
      simp only [hs, Except.map, Except.ok.injEq, Prod.mk.injEq] at h
      have := length_readString hs
      simp only [heq, List.length_cons] at hcs
      rw [← h.2]
      omega
  · simp at h

theorem length_readBoolean {cs rest : List Char} {b : Bool}
    (h : readBoolean cs = .ok (b, rest)) : rest.length < cs.length := by
  have hcs := length_skipBlank cs
  have letters {ws r : List Char} {u : Bool} (heq : (skipBlank cs).length = r.length + 1)
      (h : (readLetters ws r).map (fun rest => (u, rest)) = .ok (b, rest)) :
      rest.length < cs.length := by
    cases hl : readLetters ws r with
    | error f => simp [hl, Except.map] at h
    | ok r' =>
      simp only [hl, Except.map, Except.ok.injEq, Prod.mk.injEq] at h
      have := length_readLetters hl
      rw [← h.2]
      omega
  unfold readBoolean at h
  split at h
  · rename_i heq
    exact letters (by rw [heq, List.length_cons]) h
  · rename_i heq
    exact letters (by rw [heq, List.length_cons]) h
  · simp at h

end Conditions.Json
