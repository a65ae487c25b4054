import Conditions.Json.Reader.Basic

set_option autoImplicit false

namespace Conditions.Json

def hexValue? (c : Char) : Option Nat :=
  if '0' ≤ c ∧ c ≤ '9' then some (c.toNat - 48)
  else if 'a' ≤ c ∧ c ≤ 'f' then some (c.toNat - 87)
  else if 'A' ≤ c ∧ c ≤ 'F' then some (c.toNat - 55)
  else none

def hexQuad? (a b c d : Char) : Option Nat := do
  let a ← hexValue? a
  let b ← hexValue? b
  let c ← hexValue? c
  let d ← hexValue? d
  return ((a * 16 + b) * 16 + c) * 16 + d

/-- Four hexadecimal digits. Four bytes are taken whatever they are, if there are so many. -/
def readQuad (cs : List Char) : Except Fault (Nat × List Char) :=
  if Text.byteCount (cs.take 4) < 4 then .error (.before .eofInString [])
  else
    match cs with
    | a :: b :: c :: d :: rest =>
      match hexQuad? a b c d with
      | some n => .ok (n, rest)
      | none => .error ⟨.invalidEscape, cs, 4⟩
    | _ => .error ⟨.invalidEscape, cs, 4⟩

def isHighSurrogate (n : Nat) : Bool := 0xD800 ≤ n && n ≤ 0xDBFF

def isLowSurrogate (n : Nat) : Bool := 0xDC00 ≤ n && n ≤ 0xDFFF

def joinSurrogates (high low : Nat) : Char :=
  Char.ofNat (0x10000 + (high - 0xD800) * 0x400 + (low - 0xDC00))

/-- The second half of a pair, with the backslash before it. -/
def readLowSurrogate (high : Nat) (cs : List Char) : Except Fault (Char × List Char) :=
  match cs with
  | [] => .error (.before .eofInString [])
  | '\\' :: [] => .error (.before .eofInString [])
  | '\\' :: 'u' :: rest =>
    match readQuad rest with
    | .error f => .error f
    | .ok (low, rest) =>
      if isLowSurrogate low then .ok (joinSurrogates high low, rest)
      else .error (.before .loneSurrogate rest)
  | '\\' :: rest => .error (.next .unfinishedSurrogate rest)
  | rest => .error (.next .unfinishedSurrogate rest)

def readEscape (cs : List Char) : Except Fault (Char × List Char) :=
  match cs with
  | [] => .error (.before .eofInString [])
  | '"' :: rest => .ok ('"', rest)
  | '\\' :: rest => .ok ('\\', rest)
  | '/' :: rest => .ok ('/', rest)
  | 'b' :: rest => .ok ('\x08', rest)
  | 'f' :: rest => .ok ('\x0c', rest)
  | 'n' :: rest => .ok ('\n', rest)
  | 'r' :: rest => .ok ('\r', rest)
  | 't' :: rest => .ok ('\t', rest)
  | 'u' :: rest =>
    match readQuad rest with
    | .error f => .error f
    | .ok (n, rest) =>
      if isLowSurrogate n then .error (.before .loneSurrogate rest)
      else if isHighSurrogate n then readLowSurrogate n rest
      else .ok (Char.ofNat n, rest)
  | rest => .error (.next .invalidEscape rest)

theorem length_readQuad {cs rest : List Char} {n : Nat} (h : readQuad cs = .ok (n, rest)) :
    rest.length < cs.length := by
  unfold readQuad at h
  split at h
  · simp at h
  · split at h
    · split at h
      · simp only [Except.ok.injEq, Prod.mk.injEq] at h
        obtain ⟨-, rfl⟩ := h
        simp only [List.length_cons]
        omega
      · simp at h
    · simp at h

theorem length_readLowSurrogate {high : Nat} {cs rest : List Char} {c : Char}
    (h : readLowSurrogate high cs = .ok (c, rest)) : rest.length < cs.length := by
  unfold readLowSurrogate at h
  split at h
  · simp at h
  · simp at h
  · split at h
    · simp at h
    · rename_i low rest' hq
      split at h
      · simp only [Except.ok.injEq, Prod.mk.injEq] at h
        obtain ⟨-, rfl⟩ := h
        have := length_readQuad hq
        simp only [List.length_cons]
        omega
      · simp at h
  · simp at h
  · simp at h

theorem length_readEscape {cs rest : List Char} {c : Char}
    (h : readEscape cs = .ok (c, rest)) : rest.length < cs.length := by
  unfold readEscape at h
  split at h
  case h_10 r =>
    split at h
    · simp at h
    · rename_i n rest' hq
      have hq := length_readQuad hq
      split at h
      · simp at h
      · split at h
        · have := length_readLowSurrogate h
          simp only [List.length_cons]
          omega
        · simp only [Except.ok.injEq, Prod.mk.injEq] at h
          obtain ⟨-, rfl⟩ := h
          simp only [List.length_cons]
          omega
  all_goals simp_all

def readString (cs : List Char) : Except Fault (List Char × List Char) :=
  match cs with
  | [] => .error (.before .eofInString [])
  | '"' :: rest => .ok ([], rest)
  | '\\' :: rest =>
    match h : readEscape rest with
    | .error f => .error f
    | .ok (c, rest') =>
      have : rest'.length < rest.length := length_readEscape h
      match readString rest' with
      | .error f => .error f
      | .ok (s, left) => .ok (c :: s, left)
  | c :: rest =>
    if c.toNat < 0x20 then .error (.next .controlCharacter (c :: rest))
    else
      match readString rest with
      | .error f => .error f
      | .ok (s, left) => .ok (c :: s, left)
termination_by cs.length

theorem length_readString {cs rest s : List Char} (h : readString cs = .ok (s, rest)) :
    rest.length < cs.length := by
  fun_induction readString cs generalizing s rest with
  | case1 => simp at h
  | case2 r => simp_all
  | case3 => simp at h
  | case4 => simp at h
  | case5 r c r' hc hlt s' e he ih =>
    simp only [Except.ok.injEq, Prod.mk.injEq] at h
    have := ih he
    simp only [List.length_cons]
    rw [← h.2]
    omega
  | case6 => simp at h
  | case7 => simp at h
  | case8 c r _ _ hc s' e he ih =>
    simp only [Except.ok.injEq, Prod.mk.injEq] at h
    have := ih he
    simp only [List.length_cons]
    rw [← h.2]
    omega

end Conditions.Json
