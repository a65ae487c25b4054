import Conditions.Json.Reader.Next
import Conditions.Json.Reader.Number

set_option autoImplicit false

/-!
# Values

`readValue` takes one value of any depth, and leading blanks with it. The functions before it carry
the proof that something was read, which ends their recursion; `readValue_eq` and its companions
state the same equations without it.
-/
namespace Conditions.Json

def readScalar (cs : List Char) : Except Fault (Json × List Char) :=
  match cs with
  | [] => .error (.before .eofInValue [])
  | 'n' :: rest => (readLetters ['u', 'l', 'l'] rest).map fun rest => (.null, rest)
  | 't' :: rest => (readLetters ['r', 'u', 'e'] rest).map fun rest => (.boolean true, rest)
  | 'f' :: rest => (readLetters ['a', 'l', 's', 'e'] rest).map fun rest => (.boolean false, rest)
  | '"' :: rest => (readString rest).map fun (s, rest) => (.string (String.ofList s), rest)
  | c :: _ =>
    if c = '-' ∨ c.isDigit then (readNumber cs).map fun (n, rest) => (.number n, rest)
    else .error (.next .expectedValue cs)

theorem length_readScalar {cs rest : List Char} {v : Json} (h : readScalar cs = .ok (v, rest)) :
    rest.length < cs.length := by
  have letters {ws r rest : List Char} {u v : Json}
      (h : (readLetters ws r).map (fun rest => (u, rest)) = .ok (v, rest)) :
      rest.length < r.length + 1 := by
    cases hl : readLetters ws r with
    | error f => simp [hl, Except.map] at h
    | ok r' =>
      simp only [hl, Except.map, Except.ok.injEq, Prod.mk.injEq] at h
      exact h.2 ▸ Nat.lt_succ_of_le (length_readLetters hl)
  unfold readScalar at h
  split at h
  · simp at h
  · exact letters h
  · exact letters h
  · exact letters h
  · rename_i r
    cases hs : readString r with
    | error f => simp [hs, Except.map] at h
    | ok p =>
      simp only [hs, Except.map, Except.ok.injEq, Prod.mk.injEq] at h
      exact h.2 ▸ Nat.lt_succ_of_lt (length_readString hs)
  · rename_i c r _ _ _ _
    split at h
    · cases hn : readNumber (c :: r) with
      | error f => simp [hn, Except.map] at h
      | ok p =>
        simp only [hn, Except.map, Except.ok.injEq, Prod.mk.injEq] at h
        exact h.2 ▸ length_readNumber hn
    · simp at h

abbrev Shorter (α : Type) (cs : List Char) := { p : α × List Char // p.2.length < cs.length }

mutual

def takeValue (cs : List Char) : Except Fault (Shorter Json cs) :=
  match h : skipBlank cs with
  | '[' :: rest =>
    have hlt : rest.length < cs.length := by
      have := length_skipBlank cs
      simp_all only [List.length_cons]
      omega
    match takeItems true rest with
    | .error f => .error f
    | .ok ⟨(vs, left), hleft⟩ => .ok ⟨(.array vs, left), Nat.lt_trans hleft hlt⟩
  | '{' :: rest =>
    have hlt : rest.length < cs.length := by
      have := length_skipBlank cs
      simp_all only [List.length_cons]
      omega
    match takeMembers true rest with
    | .error f => .error f
    | .ok ⟨(ms, left), hleft⟩ => .ok ⟨(.ofMembers ms, left), Nat.lt_trans hleft hlt⟩
  | cs' =>
    match hs : readScalar cs' with
    | .error f => .error f
    | .ok p => .ok ⟨p, Nat.lt_of_lt_of_le (length_readScalar hs) (h ▸ length_skipBlank cs)⟩
termination_by 2 * cs.length

def takeItems (first : Bool) (cs : List Char) : Except Fault (Shorter (List Json) cs) :=
  match h : nextItem first cs with
  | .error f => .error f
  | .ok (.close left) => .ok ⟨([], left), length_nextItem_close h⟩
  | .ok (.item () rest) =>
    have hle : rest.length ≤ cs.length := length_nextItem h
    match takeValue rest with
    | .error f => .error f
    | .ok ⟨(v, rest'), hlt⟩ =>
      have hlt' : rest'.length < cs.length := Nat.lt_of_lt_of_le hlt hle
      match takeItems false rest' with
      | .error f => .error f
      | .ok ⟨(vs, left), hleft⟩ => .ok ⟨(v :: vs, left), Nat.lt_trans hleft hlt'⟩
termination_by 2 * cs.length + 1

def takeMembers (first : Bool) (cs : List Char) : Except Fault (Shorter (List (String × Json)) cs) :=
  match h : nextMember first cs with
  | .error f => .error f
  | .ok (.close left) => .ok ⟨([], left), length_nextMember h⟩
  | .ok (.item key rest) =>
    have hle : rest.length < cs.length := length_nextMember h
    match takeValue rest with
    | .error f => .error f
    | .ok ⟨(v, rest'), hlt⟩ =>
      have hlt' : rest'.length < cs.length := Nat.lt_trans hlt hle
      match takeMembers false rest' with
      | .error f => .error f
      | .ok ⟨(ms, left), hleft⟩ => .ok ⟨((key, v) :: ms, left), Nat.lt_trans hleft hlt'⟩
termination_by 2 * cs.length + 1

end

def readValue : Reader Json := fun cs => (takeValue cs).map Subtype.val

def readItems (first : Bool) : Reader (List Json) := fun cs => (takeItems first cs).map Subtype.val

def readMembers (first : Bool) : Reader (List (String × Json)) := fun cs =>
  (takeMembers first cs).map Subtype.val

theorem readValue_eq (cs : List Char) :
    readValue cs =
      match skipBlank cs with
      | '[' :: rest => (readItems true rest).map fun p => (.array p.1, p.2)
      | '{' :: rest => (readMembers true rest).map fun p => (.ofMembers p.1, p.2)
      | rest => readScalar rest := by
  unfold readValue readItems readMembers
  rw [takeValue]
  split <;> rename_i heq
  · simp only [heq]
    cases takeItems true _ <;> rfl
  · simp only [heq]
    cases takeMembers true _ <;> rfl
  · split <;> split <;> simp_all [Except.map]

theorem readItems_eq (first : Bool) (cs : List Char) :
    readItems first cs =
      match nextItem first cs with
      | .error f => .error f
      | .ok (.close left) => .ok ([], left)
      | .ok (.item () rest) =>
        match readValue rest with
        | .error f => .error f
        | .ok (v, rest) => (readItems false rest).map fun p => (v :: p.1, p.2) := by
  unfold readValue readItems
  rw [takeItems]
  split <;> rename_i heq <;> simp only [heq]
  · rfl
  · rfl
  · cases hv : takeValue _ with
    | error f => rfl
    | ok p => simp only [Except.map]; cases takeItems false p.1.2 <;> rfl

theorem readMembers_eq (first : Bool) (cs : List Char) :
    readMembers first cs =
      match nextMember first cs with
      | .error f => .error f
      | .ok (.close left) => .ok ([], left)
      | .ok (.item key rest) =>
        match readValue rest with
        | .error f => .error f
        | .ok (v, rest) => (readMembers false rest).map fun p => ((key, v) :: p.1, p.2) := by
  unfold readValue readMembers
  rw [takeMembers]
  split <;> rename_i heq <;> simp only [heq]
  · rfl
  · rfl
  · cases hv : takeValue _ with
    | error f => rfl
    | ok p => simp only [Except.map]; cases takeMembers false p.1.2 <;> rfl

theorem length_readValue {cs rest : List Char} {v : Json} (h : readValue cs = .ok (v, rest)) :
    rest.length < cs.length := by
  unfold readValue at h
  cases hv : takeValue cs with
  | error f => simp [hv, Except.map] at h
  | ok p =>
    simp only [hv, Except.map, Except.ok.injEq] at h
    have := p.2
    rwa [h] at this

def ofText (text : String) : Except Error Json :=
  Reader.ofText readValue text

end Conditions.Json
