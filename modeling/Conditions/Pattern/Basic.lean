import Conditions.Text.Characters

set_option autoImplicit false

/-!
# Patterns

A pattern is a regular expression in text. It is about characters, or about bytes where `u` is
turned off. There are no tables of case and of classes of characters, so a pattern about characters
has no part that needs one; and what a pattern about bytes matches is valid UTF-8, so none of its
parts stands for a byte beyond ASCII. No part is in braces: a pattern ends at a closing one. `Flags`
says which parts a pattern may have, `Sequence` and `Group` how deep they are nested.
-/
namespace Conditions.Pattern

structure Flags where
  ignoresCase : Bool
  unicode : Bool
  spaced : Bool
deriving DecidableEq

def Flags.start : Flags := ⟨false, true, false⟩

/-- A character, or a byte if it is written as two hexadecimal digits. -/
structure Literal where
  code : Nat
  isByte : Bool
deriving DecidableEq

namespace Flags

def allowsLiteral (f : Flags) (l : Literal) : Bool :=
  if f.unicode then !f.ignoresCase else !l.isByte || l.code < 0x80

/-- In brackets a pattern about bytes can name ASCII only. -/
def allowsMember (f : Flags) (l : Literal) : Bool :=
  if f.unicode then !f.ignoresCase else l.code < 0x80

def allowsLetterClass (f : Flags) (negated : Bool) : Bool :=
  !f.unicode && !negated

def allowsNamedClass (f : Flags) (negated : Bool) : Bool :=
  if f.unicode then !f.ignoresCase else !negated

/-- A complement of ASCII bytes has bytes that are not. -/
def allowsBrackets (f : Flags) (negated : Bool) : Bool :=
  f.unicode || !negated

def allowsWordBoundary (f : Flags) : Bool := !f.unicode

def allowsDot (f : Flags) : Bool := f.unicode

end Flags

structure Sequence where
  size : Nat
  depth : Nat
  /-- The depth of the last part, if that part can be repeated. -/
  last : Option Nat
deriving DecidableEq

namespace Sequence

def empty : Sequence := ⟨0, 0, none⟩

def push (s : Sequence) (depth : Nat) : Sequence :=
  ⟨s.size + 1, max s.depth depth, some depth⟩

def pushFlags (s : Sequence) : Sequence :=
  ⟨s.size + 1, s.depth, none⟩

def repeatLast? (s : Sequence) : Option Sequence :=
  s.last.map fun depth => ⟨s.size, max s.depth (depth + 1), some (depth + 1)⟩

/-- A row of several parts is one level of its own. -/
def total (s : Sequence) : Nat :=
  if s.size ≤ 1 then s.depth else s.depth + 1

end Sequence

structure Group where
  flags : Flags
  /-- The depth of the deepest branch before the last bar. -/
  branches : Option Nat
  sequence : Sequence
deriving DecidableEq

namespace Group

def start (f : Flags) : Group := ⟨f, none, .empty⟩

def total (g : Group) : Nat :=
  match g.branches with
  | none => g.sequence.total
  | some depth => max depth g.sequence.total + 1

def endBranch (g : Group) : Group :=
  ⟨g.flags, some (max (g.branches.getD 0) g.sequence.total), .empty⟩

def push (g : Group) (depth : Nat) : Group :=
  { g with sequence := g.sequence.push depth }

end Group

def skipSpaced (comment : Bool) : List Char → List Char
  | [] => []
  | c :: cs =>
    if comment then skipSpaced (c != '\n') cs
    else if c = '#' then skipSpaced true cs
    else if Text.isBlank c then skipSpaced false cs
    else c :: cs

def skipBlanks (f : Flags) (cs : List Char) : List Char :=
  if f.spaced then skipSpaced false cs else cs

theorem length_skipSpaced (comment : Bool) (cs : List Char) :
    (skipSpaced comment cs).length ≤ cs.length := by
  induction cs generalizing comment with
  | nil => simp [skipSpaced]
  | cons c cs ih =>
    have h (b : Bool) : (skipSpaced b cs).length ≤ (c :: cs).length :=
      Nat.le_succ_of_le (ih b)
    unfold skipSpaced
    split
    · exact h _
    · split
      · exact h _
      · split
        · exact h _
        · exact Nat.le_refl _

theorem length_skipBlanks (f : Flags) (cs : List Char) :
    (skipBlanks f cs).length ≤ cs.length := by
  unfold skipBlanks
  split
  · exact length_skipSpaced _ _
  · exact Nat.le_refl _

end Conditions.Pattern
