import Conditions.Pattern.Escape

set_option autoImplicit false

/-!
# Brackets in patterns

Brackets hold characters, ranges, classes and brackets in turn. `&&`, `--` and `~~` join what stands
before and behind them. A closing bracket right behind the opening one is a character, and so are
hyphens there and one before the closing bracket.
-/
namespace Conditions.Pattern

structure Brackets where
  /-- The depth of what stands before the last operator. -/
  left : Option Nat
  members : Nat
  depth : Nat
deriving DecidableEq

namespace Brackets

def empty : Brackets := ⟨none, 0, 0⟩

def push (b : Brackets) (depth : Nat) : Brackets :=
  { b with members := b.members + 1, depth := max b.depth depth }

/-- Several members are one level of their own, and so is an operator. -/
def total (b : Brackets) : Nat :=
  let right := if b.members ≤ 1 then b.depth else b.depth + 1
  match b.left with
  | none => right
  | some left => max left right + 1

def operator (b : Brackets) : Brackets :=
  ⟨some b.total, 0, 0⟩

end Brackets

def readHyphens (f : Flags) (b : Brackets) : List Char → Brackets × List Char
  | '-' :: cs => readHyphens f (b.push 0) (skipBlanks f cs)
  | cs => (b, cs)
termination_by cs => cs.length
decreasing_by exact Nat.lt_succ_of_le (length_skipBlanks f cs)

/-- Reads behind an opening bracket what has a meaning of its own there. -/
def readOpening (f : Flags) (cs : List Char) : Option (Brackets × List Char) :=
  let body := skipBlanks f cs
  let negated := body.head? = some '^'
  let start := if negated then skipBlanks f (body.drop 1) else body
  let (b, rest) := match readHyphens f .empty start with
    | (b, ']' :: rest) => if b.members = 0 then (b.push 0, rest) else (b, ']' :: rest)
    | r => r
  if f.allowsBrackets negated && (b.members = 0 || f.allowsMember ⟨']'.toNat, false⟩) then
    some (b, rest)
  else none

def classNames : List String :=
  ["alnum", "alpha", "ascii", "blank", "cntrl", "digit", "graph", "lower", "print", "punct",
    "space", "upper", "word", "xdigit"]

def readClassName (cs : List Char) : Option (List Char) :=
  match cs.dropWhile (· != ':') with
  | ':' :: ']' :: rest =>
    if classNames.contains (String.ofList (cs.takeWhile (· != ':'))) then some rest else none
  | _ => none

/-- Whether a class in colons is a complement, and the text behind it. -/
def readNamedClass (cs : List Char) : Option (Bool × List Char) :=
  match cs with
  | ':' :: '^' :: cs => (readClassName cs).map fun rest => (true, rest)
  | ':' :: cs => (readClassName cs).map fun rest => (false, rest)
  | _ => none

inductive Member where
  | literal (l : Literal)
  | letterClass (negated : Bool)
deriving DecidableEq

def Flags.allows (f : Flags) : Member → Bool
  | .literal l => f.allowsMember l
  | .letterClass negated => f.allowsLetterClass negated

def readMember (f : Flags) (cs : List Char) : Option (Member × List Char) :=
  match cs with
  | [] => none
  | '\\' :: cs =>
    match readEscape f cs with
    | some (.literal l, rest) => some (.literal l, rest)
    | some (.letterClass negated, rest) => some (.letterClass negated, rest)
    | _ => none
  | c :: cs => some (.literal ⟨c.toNat, false⟩, cs)

/-- What follows a hyphen, past blanks and past the sign that starts a comment. -/
def lookPast (f : Flags) (cs : List Char) : Option Char :=
  if f.spaced then
    let found := match cs.dropWhile Text.isBlank with
      | '#' :: comment => (comment.dropWhile Text.isBlank).head?
      | rest => rest.head?
    found.or cs.head?
  else cs.head?

def readRange (f : Flags) (cs : List Char) : Option (List Char) :=
  match readMember f cs with
  | none => none
  | some (first, rest) =>
    match skipBlanks f rest with
    | '-' :: behind =>
      if lookPast f behind = some ']' ∨ lookPast f behind = some '-' then
        if f.allows first then some ('-' :: behind) else none
      else
        match first, readMember f (skipBlanks f behind) with
        | .literal a, some (.literal b, rest) =>
          if a.code ≤ b.code ∧ f.allowsMember a ∧ f.allowsMember b then some rest else none
        | _, _ => none
    | rest => if f.allows first then some rest else none

theorem length_readHyphens (f : Flags) (b : Brackets) (cs : List Char) :
    (readHyphens f b cs).2.length ≤ cs.length := by
  fun_induction readHyphens f b cs with
  | case1 b cs ih =>
    have := length_skipBlanks f cs
    simp only [List.length_cons]
    omega
  | case2 => exact Nat.le_refl _

theorem length_readOpening {f : Flags} {cs rest : List Char} {b : Brackets}
    (h : readOpening f cs = some (b, rest)) : rest.length ≤ cs.length := by
  have hb := length_skipBlanks f cs
  have hd := length_skipBlanks f ((skipBlanks f cs).drop 1)
  have hh := length_readHyphens f .empty
  grind [readOpening]

theorem length_readClassName {cs rest : List Char} (h : readClassName cs = some rest) :
    rest.length ≤ cs.length := by
  have hd := (List.dropWhile_suffix (l := cs) (· != ':')).length_le
  unfold readClassName at h
  split at h
  · rename_i e
    rw [e] at hd
    simp only [List.length_cons] at hd
    split at h
    · cases h
      omega
    · simp at h
  · simp at h

theorem length_readNamedClass {cs rest : List Char} {negated : Bool}
    (h : readNamedClass cs = some (negated, rest)) : rest.length ≤ cs.length := by
  unfold readNamedClass at h
  split at h
  · obtain ⟨_, hn, he⟩ := Option.map_eq_some_iff.1 h
    cases he
    exact Nat.le_succ_of_le (Nat.le_succ_of_le (length_readClassName hn))
  · obtain ⟨_, hn, he⟩ := Option.map_eq_some_iff.1 h
    cases he
    exact Nat.le_succ_of_le (length_readClassName hn)
  · simp at h

theorem length_readMember {f : Flags} {cs rest : List Char} {m : Member}
    (h : readMember f cs = some (m, rest)) : rest.length < cs.length := by
  unfold readMember at h
  split at h
  · simp at h
  · refine Nat.lt_succ_of_lt ?_
    split at h
    · rename_i he
      cases h
      exact length_readEscape he
    · rename_i he
      cases h
      exact length_readEscape he
    · simp at h
  · cases h
    exact Nat.lt_succ_self _

theorem length_readRange {f : Flags} {cs rest : List Char}
    (h : readRange f cs = some rest) : rest.length < cs.length := by
  have hm (ds rest : List Char) (m : Member) (h : readMember f ds = some (m, rest)) :=
    length_readMember h
  have hs := length_skipBlanks f
  grind [readRange]

/-- Reads on in brackets, with those around them. The result is how deep they are nested and the
text behind the last closing bracket. -/
def readBrackets (f : Flags) (outer : List Brackets) (b : Brackets) (cs : List Char) :
    Option (Nat × List Char) :=
  have hs := length_skipBlanks f cs
  match h : skipBlanks f cs with
  | [] => none
  | '[' :: rest =>
    have : rest.length < cs.length := by simp [h] at hs; omega
    match hc : readNamedClass rest with
    | some (negated, behind) =>
      have := length_readNamedClass hc
      if f.allowsNamedClass negated then readBrackets f outer (b.push 0) behind else none
    | none =>
      match ho : readOpening f rest with
      | some (inner, behind) =>
        have := length_readOpening ho
        readBrackets f (b :: outer) inner behind
      | none => none
  | ']' :: rest =>
    have : rest.length < cs.length := by simp [h] at hs; omega
    match outer with
    | [] => some (b.total + 1, rest)
    | o :: outer => readBrackets f outer (o.push (b.total + 1)) rest
  | '&' :: '&' :: rest =>
    have : rest.length < cs.length := by simp [h] at hs; omega
    readBrackets f outer b.operator rest
  | '-' :: '-' :: rest =>
    have : rest.length < cs.length := by simp [h] at hs; omega
    readBrackets f outer b.operator rest
  | '~' :: '~' :: rest =>
    have : rest.length < cs.length := by simp [h] at hs; omega
    readBrackets f outer b.operator rest
  | c :: rest =>
    match hr : readRange f (c :: rest) with
    | some behind =>
      have := length_readRange hr
      have : behind.length < cs.length := by simp [h] at hs this; omega
      readBrackets f outer (b.push 0) behind
    | none => none
termination_by cs.length

end Conditions.Pattern
