import Conditions.Json.Reader.String

set_option autoImplicit false

namespace Conditions.Json

inductive Next (α : Type) where
  | item (head : α) (rest : List Char)
  | close (rest : List Char)

def Next.rest {α : Type} : Next α → List Char
  | .item _ rest => rest
  | .close rest => rest

def nextItem (first : Bool) (cs : List Char) : Except Fault (Next Unit) :=
  match skipBlank cs with
  | [] => .error (.before .eofInList [])
  | ']' :: rest => .ok (.close rest)
  | c :: rest =>
    if first then .ok (.item () (c :: rest))
    else if c = ',' then
      match skipBlank rest with
      | [] => .error (.before .eofInValue [])
      | ']' :: rest => .error (.next .trailingComma (']' :: rest))
      | rest => .ok (.item () rest)
    else .error (.next .expectedListComma (c :: rest))

def readColon (cs : List Char) : Except Fault (List Char) :=
  match skipBlank cs with
  | [] => .error (.before .eofInObject [])
  | ':' :: rest => .ok rest
  | rest => .error (.next .expectedColon rest)

def readKey (cs : List Char) : Except Fault (Next String) :=
  match cs with
  | '"' :: rest =>
    match readString rest with
    | .error f => .error f
    | .ok (key, rest) =>
      match readColon rest with
      | .error f => .error f
      | .ok rest => .ok (.item (String.ofList key) rest)
  | rest => .error (.next .keyNotString rest)

def nextMember (first : Bool) (cs : List Char) : Except Fault (Next String) :=
  match skipBlank cs with
  | [] => .error (.before .eofInObject [])
  | '}' :: rest => .ok (.close rest)
  | c :: rest =>
    if first then readKey (c :: rest)
    else if c = ',' then
      match skipBlank rest with
      | [] => .error (.before .eofInValue [])
      | '}' :: rest => .error (.next .trailingComma ('}' :: rest))
      | rest => readKey rest
    else .error (.next .expectedObjectComma (c :: rest))

theorem length_nextItem {first : Bool} {cs : List Char} {n : Next Unit}
    (h : nextItem first cs = .ok n) : n.rest.length ≤ cs.length := by
  have hcs := length_skipBlank cs
  unfold nextItem at h
  split at h
  · simp at h
  · rename_i heq
    simp only [heq, List.length_cons] at hcs
    simp only [Except.ok.injEq] at h
    subst h
    exact Nat.le_of_succ_le hcs
  · rename_i c rest hne heq
    simp only [heq, List.length_cons] at hcs
    have hrest := length_skipBlank rest
    split at h
    · simp only [Except.ok.injEq] at h
      subst h
      exact hcs
    · split at h
      · split at h
        · simp at h
        · simp at h
        · simp only [Except.ok.injEq] at h
          subst h
          simp only [Next.rest]
          omega
      · simp at h

theorem length_readColon {cs rest : List Char} (h : readColon cs = .ok rest) :
    rest.length < cs.length := by
  have hcs := length_skipBlank cs
  unfold readColon at h
  split at h
  · simp at h
  · rename_i heq
    simp only [heq, List.length_cons] at hcs
    simp only [Except.ok.injEq] at h
    subst h
    exact hcs
  · simp at h

theorem length_readKey {cs : List Char} {n : Next String} (h : readKey cs = .ok n) :
    n.rest.length < cs.length := by
  unfold readKey at h
  split at h
  · split at h
    · simp at h
    · rename_i hs
      split at h
      · simp at h
      · rename_i hc
        simp only [Except.ok.injEq] at h
        subst h
        have hs := length_readString hs
        have hc := length_readColon hc
        simp only [Next.rest, List.length_cons]
        omega
  · simp at h

theorem length_nextMember {first : Bool} {cs : List Char} {n : Next String}
    (h : nextMember first cs = .ok n) : n.rest.length < cs.length := by
  have hcs := length_skipBlank cs
  unfold nextMember at h
  split at h
  · simp at h
  · rename_i heq
    simp only [heq, List.length_cons] at hcs
    simp only [Except.ok.injEq] at h
    subst h
    exact hcs
  · rename_i c rest hne heq
    simp only [heq, List.length_cons] at hcs
    have hrest := length_skipBlank rest
    split at h
    · exact Nat.lt_of_lt_of_le (length_readKey h) (by simpa using hcs)
    · split at h
      · split at h
        · simp at h
        · simp at h
        · have := length_readKey h
          omega
      · simp at h

theorem length_nextItem_close {first : Bool} {cs rest : List Char}
    (h : nextItem first cs = .ok (.close rest)) : rest.length < cs.length := by
  have hcs := length_skipBlank cs
  unfold nextItem at h
  split at h
  · simp at h
  · rename_i heq
    simp only [heq, List.length_cons] at hcs
    simp only [Except.ok.injEq, Next.close.injEq] at h
    subst h
    exact hcs
  · split at h
    · simp at h
    · split at h
      · split at h <;> simp at h
      · simp at h

end Conditions.Json
