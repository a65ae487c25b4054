import Conditions.Json.Value

set_option autoImplicit false

namespace Conditions

inductive Connective where
  | and
  | or
deriving DecidableEq

inductive Relation where
  | equal
deriving DecidableEq

def Connective.symbol : Connective → String
  | .and => "AND"
  | .or => "OR"

def Relation.symbol : Relation → String
  | .equal => "=="

def Connective.ofSymbol? (s : String) : Option Connective :=
  if s = "AND" then some .and
  else if s = "OR" then some .or
  else none

def Relation.ofSymbol? (s : String) : Option Relation :=
  if s = "==" then some .equal else none

theorem Connective.ofSymbol?_eq_some_iff {s : String} {c : Connective} :
    ofSymbol? s = some c ↔ s = c.symbol := by
  unfold ofSymbol?
  split
  · cases c <;> simp_all [symbol]
  · split <;> cases c <;> simp_all [symbol]

theorem Relation.ofSymbol?_eq_some_iff {s : String} {r : Relation} :
    ofSymbol? s = some r ↔ s = r.symbol := by
  cases r
  simp [ofSymbol?, symbol]

/-- A comparison without a reference names no variable; it is not the same as one that refers to the
empty string. -/
inductive Condition where
  | logical (connective : Connective) (operands : List Condition)
  | comparison (relation : Relation) (reference : Option String) (literal : String)

namespace Condition

mutual

def decEq : (c d : Condition) → Decidable (c = d)
  | .logical k cs, .logical l ds =>
    if h : k = l then
      match decEqList cs ds with
      | .isTrue h' => .isTrue (by rw [h, h'])
      | .isFalse h' => .isFalse (by simp [h'])
    else .isFalse (by simp [h])
  | .comparison k v s, .comparison l w t =>
    if h : k = l ∧ v = w ∧ s = t then .isTrue (by rw [h.1, h.2.1, h.2.2])
    else .isFalse (by simpa using h)
  | .logical .., .comparison .. => .isFalse (by simp)
  | .comparison .., .logical .. => .isFalse (by simp)

def decEqList : (cs ds : List Condition) → Decidable (cs = ds)
  | [], [] => .isTrue rfl
  | [], _ :: _ => .isFalse (by simp)
  | _ :: _, [] => .isFalse (by simp)
  | c :: cs, d :: ds =>
    match decEq c d with
    | .isFalse h => .isFalse (by simp [h])
    | .isTrue h =>
      match decEqList cs ds with
      | .isTrue h' => .isTrue (by rw [h, h'])
      | .isFalse h' => .isFalse (by simp [h'])

end

instance : DecidableEq Condition := decEq

def and (operands : List Condition) : Condition := .logical .and operands

def or (operands : List Condition) : Condition := .logical .or operands

/-- The reference names its variable behind its first character, as in `$State`. -/
def equals (reference literal : String) : Condition := .comparison .equal (some reference) literal

mutual

def depth : Condition → Nat
  | .comparison .. => 1
  | .logical _ cs => 1 + greatestDepth cs

def greatestDepth : List Condition → Nat
  | [] => 0
  | c :: cs => max c.depth (greatestDepth cs)

end

def symbol : Condition → String
  | .logical k _ => k.symbol
  | .comparison r _ _ => r.symbol

mutual

def toJson : Condition → Json
  | .logical k cs => .array (.string k.symbol :: toJsonList cs)
  | .comparison r v s =>
    .array [.string r.symbol, match v with | some v => .string v | none => .null, .string s]

def toJsonList : List Condition → List Json
  | [] => []
  | c :: cs => c.toJson :: toJsonList cs

end

theorem toJsonList_eq_map (cs : List Condition) : toJsonList cs = cs.map toJson := by
  induction cs with
  | nil => rfl
  | cons c cs ih => simp [toJsonList, ih]

def text (c : Condition) : String := c.toJson.text

end Condition

/-- The innermost index comes first. -/
structure Path where
  indices : List Nat
deriving DecidableEq

namespace Path

def root : Path := ⟨[]⟩

def child (p : Path) (i : Nat) : Path := ⟨i :: p.indices⟩

def segment (i : Nat) : String := "[" ++ Nat.repr i ++ "]"

def text (p : Path) : String :=
  p.indices.foldr (fun i s => s ++ segment i) "$"

@[simp] theorem text_child (p : Path) (i : Nat) : (p.child i).text = p.text ++ segment i := rfl

end Path

end Conditions
