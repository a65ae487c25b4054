import Conditions.Pattern.Brackets
import Conditions.Text.Characters

set_option autoImplicit false

namespace Conditions.Pattern

inductive Opening where
  | flags (f : Flags)
  | group (f : Flags) (name : Option (List Char))
deriving DecidableEq

/-- The flags after a list of letters, where those behind a hyphen are turned off. -/
def Flags.change? (f : Flags) (letters : List Char) : Option Flags :=
  let on := letters.takeWhile (· != '-')
  let off := letters.dropWhile (· != '-')
  let named := on ++ off.drop 1
  let value (letter : Char) (old : Bool) : Bool :=
    if on.contains letter then true else if off.contains letter then false else old
  if named.all ("imsURux".toList.contains ·) ∧ named.Nodup ∧ off.length ≠ 1 then
    some ⟨value 'i' f.ignoresCase, value 'u' f.unicode, value 'x' f.spaced⟩
  else none

/-- Flags stand before a colon, if a group follows, or a closing parenthesis. -/
def readFlags (f : Flags) (cs : List Char) : Option (Opening × List Char) :=
  let isLetter (c : Char) : Bool := c != ':' && c != ')'
  let letters := cs.takeWhile isLetter
  match f.change? letters, cs.dropWhile isLetter with
  | some g, ':' :: rest => some (.group g none, rest)
  | some g, ')' :: rest => if letters.isEmpty then none else some (.flags g, rest)
  | _, _ => none

def isGroupName : List Char → Bool
  | [] => false
  | c :: cs =>
    (c = '_' || Text.isAlphabetic c) &&
      cs.all fun d => "_.[]".toList.contains d || Text.isAlphanumeric d

def readGroupName (f : Flags) (cs : List Char) : Option (Opening × List Char) :=
  let name := cs.takeWhile (· != '>')
  match cs.dropWhile (· != '>') with
  | _ :: rest => if isGroupName name then some (.group f (some name), rest) else none
  | [] => none

def readGroupStart (f : Flags) (cs : List Char) : Option (Opening × List Char) :=
  match skipBlanks f cs with
  | '?' :: 'P' :: '<' :: rest => readGroupName f rest
  | '?' :: '<' :: rest => readGroupName f rest
  | '?' :: rest => readFlags f rest
  | rest => some (.group f none, rest)

def Flags.allowsEscape (f : Flags) : Escape → Bool
  | .literal l => f.allowsLiteral l
  | .letterClass negated => f.allowsLetterClass negated
  | .wordBoundary => f.allowsWordBoundary
  | .textEnd => true

/-- The text behind a part that is no group and no repetition, and how deep the part is nested. -/
def readPart (f : Flags) (c : Char) (cs : List Char) : Option (Nat × List Char) :=
  if c = '[' then
    match readOpening f cs with
    | some (b, rest) => readBrackets f [] b rest
    | none => none
  else if c = '\\' then
    match readEscape f cs with
    | some (e, rest) => if f.allowsEscape e then some (0, rest) else none
    | none => none
  else if c = '.' then (if f.allowsDot then some (0, cs) else none)
  else if c = '^' ∨ c = '$' then some (0, cs)
  else if f.allowsLiteral ⟨c.toNat, false⟩ then some (0, cs)
  else none

theorem length_readFlags {f : Flags} {cs rest : List Char} {o : Opening}
    (h : readFlags f cs = some (o, rest)) : rest.length ≤ cs.length := by
  have hd := (List.dropWhile_suffix (l := cs) fun c => c != ':' && c != ')').length_le
  simp only [readFlags] at h
  split at h
  · rename_i e
    rw [e] at hd
    cases h
    exact Nat.le_of_succ_le hd
  · rename_i e
    rw [e] at hd
    split at h
    · simp at h
    · cases h
      exact Nat.le_of_succ_le hd
  · simp at h

theorem length_readGroupName {f : Flags} {cs rest : List Char} {o : Opening}
    (h : readGroupName f cs = some (o, rest)) : rest.length ≤ cs.length := by
  have hd := (List.dropWhile_suffix (l := cs) (· != '>')).length_le
  simp only [readGroupName] at h
  split at h
  · rename_i e
    rw [e] at hd
    split at h
    · cases h
      exact Nat.le_of_succ_le hd
    · simp at h
  · simp at h

theorem length_readGroupStart {f : Flags} {cs rest : List Char} {o : Opening}
    (h : readGroupStart f cs = some (o, rest)) : rest.length ≤ cs.length := by
  have hs := length_skipBlanks f cs
  unfold readGroupStart at h
  split at h
  · rename_i e
    rw [e] at hs
    have := length_readGroupName h
    simp only [List.length_cons] at hs
    omega
  · rename_i e
    rw [e] at hs
    have := length_readGroupName h
    simp only [List.length_cons] at hs
    omega
  · rename_i e
    rw [e] at hs
    have := length_readFlags h
    simp only [List.length_cons] at hs
    omega
  · cases h
    exact hs

theorem length_readBrackets {f : Flags} {outer : List Brackets} {b : Brackets}
    {cs rest : List Char} {depth : Nat} (h : readBrackets f outer b cs = some (depth, rest)) :
    rest.length ≤ cs.length := by
  fun_induction readBrackets f outer b cs <;> grind

theorem length_readPart {f : Flags} {c : Char} {cs rest : List Char} {depth : Nat}
    (h : readPart f c cs = some (depth, rest)) : rest.length ≤ cs.length := by
  unfold readPart at h
  split at h
  · split at h
    · rename_i ho
      exact Nat.le_trans (length_readBrackets h) (length_readOpening ho)
    · simp at h
  · split at h
    · split at h
      · rename_i he
        split at h
        · cases h
          exact Nat.le_of_lt (length_readEscape he)
        · simp at h
      · simp at h
    · grind

def skipLazy : List Char → List Char
  | '?' :: rest => rest
  | rest => rest

theorem length_skipLazy (cs : List Char) : (skipLazy cs).length ≤ cs.length := by
  unfold skipLazy
  split
  · exact Nat.le_succ _
  · exact Nat.le_refl _

/-- Reads the rest of a pattern, with the groups around the present one and the names of groups so
far. The result is how deep the parts are nested. -/
def readRest (outer : List Group) (g : Group) (names : List (List Char)) (cs : List Char) :
    Option Nat :=
  have hs := length_skipBlanks g.flags cs
  match h : skipBlanks g.flags cs with
  | [] => if outer.isEmpty then some g.total else none
  | '(' :: rest =>
    have : rest.length < cs.length := by simp [h] at hs; omega
    match ho : readGroupStart g.flags rest with
    | some (.flags f, behind) =>
      have := length_readGroupStart ho
      readRest outer ⟨f, g.branches, g.sequence.pushFlags⟩ names behind
    | some (.group f name, behind) =>
      have := length_readGroupStart ho
      if name.any names.contains then none
      else readRest (g :: outer) (.start f) (name.toList ++ names) behind
    | none => none
  | ')' :: rest =>
    have : rest.length < cs.length := by simp [h] at hs; omega
    match outer with
    | [] => none
    | o :: outer => readRest outer (o.push (g.total + 1)) names rest
  | '|' :: rest =>
    have : rest.length < cs.length := by simp [h] at hs; omega
    readRest outer g.endBranch names rest
  | c :: rest =>
    have : rest.length < cs.length := by simp [h] at hs; omega
    if c = '?' ∨ c = '*' ∨ c = '+' then
      match g.sequence.repeatLast? with
      | some s =>
        have := length_skipLazy rest
        readRest outer { g with sequence := s } names (skipLazy rest)
      | none => none
    else if c = '{' then none
    else
      match hp : readPart g.flags c rest with
      | some (depth, behind) =>
        have := length_readPart hp
        readRest outer (g.push depth) names behind
      | none => none
termination_by cs.length

def deepest : Nat := 250

def isPattern (cs : List Char) : Bool :=
  (readRest [] (.start .start) [] cs).any (· ≤ deepest)

end Conditions.Pattern
