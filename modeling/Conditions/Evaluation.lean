import Conditions.Bindings
import Conditions.Condition.Classification

set_option autoImplicit false

/-!
# Evaluation

A comparison is true if its reference is not empty and the variable behind the reference's first
character is bound to exactly the literal. Operands are visited from the left up to the first that
decides their node: a false one of AND, a true one of OR.
-/
namespace Conditions

/-- All but the first character of a reference, whatever that is. -/
def variableName (reference : String) : String :=
  String.ofList (reference.toList.drop 1)

def Bindings.satisfies (x : Bindings) (r : Relation) (reference : Option String)
    (literal : String) : Bool :=
  match reference with
  | none => false
  | some v =>
    if v = "" then false
    else
      match r with
      | .equal => x.get? (variableName v) = some literal

/-- The value of an operand that decides a node without the operands after it. -/
def Connective.deciding : Connective → Bool
  | .and => false
  | .or => true

namespace Condition

mutual

def visit (x : Bindings) (depth : Nat) : Condition → Traced Bool
  | .comparison r v s =>
    let matched := x.satisfies r v s
    ⟨matched, [.comparison depth v s matched]⟩
  | .logical k cs =>
    (visitOperands x (depth + 1) k cs).bind fun result =>
      ⟨result, [.logical depth k cs.length result]⟩

def visitOperands (x : Bindings) (depth : Nat) (k : Connective) : List Condition → Traced Bool
  | [] => .pure !k.deciding
  | c :: cs =>
    (visit x depth c).bind fun result =>
      if result = k.deciding then .pure result else visitOperands x depth k cs

end

def evaluate (c : Condition) (x : Bindings) : Traced Bool :=
  (c.visit x 0).bind fun result => ⟨result, [.evaluated c result]⟩

end Condition

inductive EvaluationError where
  | unreadable (error : Json.Error)
  | malformed (defect : Defect)
deriving DecidableEq

def unreadableMessage (e : Json.Error) : String := "json error: " ++ e.message

/-- Nothing is evaluated unless the whole condition is well formed. -/
def evaluateJson (v : Json) (x : Bindings) : Traced (Except Defect Bool) :=
  (Condition.classify v).bind fun
    | .error d => .pure (.error d)
    | .ok c => (c.evaluate x).map .ok

/-- Both texts are read before the condition is classified. -/
def evaluateText (condition bindings : String) : Traced (Except EvaluationError Bool) :=
  match Json.ofText condition with
  | .error e => .pure (.error (.unreadable e))
  | .ok v =>
    match Bindings.ofText bindings with
    | .error e => .pure (.error (.unreadable e))
    | .ok x => (evaluateJson v x).map fun result => result.mapError .malformed

end Conditions
