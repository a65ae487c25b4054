import Conditions.Pattern.Basic

set_option autoImplicit false

namespace Conditions.Pattern

inductive Escape where
  | literal (l : Literal)
  | letterClass (negated : Bool)
  | wordBoundary
  | textEnd
deriving DecidableEq

def hexValue? (c : Char) : Option Nat :=
  if '0' ≤ c ∧ c ≤ '9' then some (c.toNat - 48)
  else if 'a' ≤ c ∧ c ≤ 'f' then some (c.toNat - 87)
  else if 'A' ≤ c ∧ c ≤ 'F' then some (c.toNat - 55)
  else none

def readHex (f : Flags) (value : Nat) : Nat → List Char → Option (Nat × List Char)
  | 0, cs => some (value, cs)
  | n + 1, cs =>
    match skipBlanks f cs with
    | [] => none
    | c :: cs =>
      match hexValue? c with
      | none => none
      | some d => readHex f (16 * value + d) n cs

def readScalar (f : Flags) (digits : Nat) (cs : List Char) : Option (Escape × List Char) :=
  match readHex f 0 digits cs with
  | some (code, rest) => if code.isValidChar then some (.literal ⟨code, digits = 2⟩, rest) else none
  | none => none

def control? (c : Char) : Option Nat :=
  if c = 'a' then some 7
  else if c = 't' then some 9
  else if c = 'n' then some 10
  else if c = 'v' then some 11
  else if c = 'f' then some 12
  else if c = 'r' then some 13
  else none

def readEscape (f : Flags) (cs : List Char) : Option (Escape × List Char) :=
  match cs with
  | [] => none
  | c :: cs =>
    if c = 'x' then readScalar f 2 cs
    else if c = 'u' then readScalar f 4 cs
    else if c = 'U' then readScalar f 8 cs
    else if c = 'd' ∨ c = 's' ∨ c = 'w' then some (.letterClass false, cs)
    else if c = 'D' ∨ c = 'S' ∨ c = 'W' then some (.letterClass true, cs)
    else if c = 'A' ∨ c = 'z' then some (.textEnd, cs)
    else if c = 'b' ∨ c = 'B' ∨ c = '<' ∨ c = '>' then some (.wordBoundary, cs)
    else
      match control? c with
      | some code => some (.literal ⟨code, false⟩, cs)
      | none =>
        if c.toNat < 0x80 ∧ !c.isAlphanum then some (.literal ⟨c.toNat, false⟩, cs) else none

theorem length_readHex {f : Flags} {value n code : Nat} {cs rest : List Char}
    (h : readHex f value n cs = some (code, rest)) : rest.length ≤ cs.length := by
  induction n generalizing value cs with
  | zero => simp [readHex] at h; simp [h]
  | succ n ih =>
    have hs := length_skipBlanks f cs
    simp only [readHex] at h
    split at h
    · simp at h
    · rename_i c ds e
      split at h
      · simp at h
      · have := ih h
        rw [e, List.length_cons] at hs
        omega

theorem length_readScalar {f : Flags} {n : Nat} {cs rest : List Char} {e : Escape}
    (h : readScalar f n cs = some (e, rest)) : rest.length ≤ cs.length := by
  unfold readScalar at h
  split at h
  · rename_i hr
    split at h
    · simp only [Option.some.injEq, Prod.mk.injEq] at h
      exact h.2 ▸ length_readHex hr
    · simp at h
  · simp at h

theorem length_readEscape {f : Flags} {cs rest : List Char} {e : Escape}
    (h : readEscape f cs = some (e, rest)) : rest.length < cs.length := by
  unfold readEscape at h
  split at h
  · simp at h
  · refine Nat.lt_succ_of_le ?_
    split at h
    · exact length_readScalar h
    · split at h
      · exact length_readScalar h
      · split at h
        · exact length_readScalar h
        · grind

end Conditions.Pattern
