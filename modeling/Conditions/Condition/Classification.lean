import Conditions.Log.Event
import Conditions.Json.Reader.Value

set_option autoImplicit false

/-!
# From JSON to conditions

Classification goes depth first and from left to right, and ends with the first defect. It looks a
symbol up twice: first in the lists of symbols for its kind, then for the operator of that kind.
The second look-up has defects of its own, which occur only if the lists and the operators do not
agree.
-/
namespace Conditions

inductive OperatorKind where
  | logical
  | comparison
deriving DecidableEq

def logicalSymbols : List String := ["AND", "OR"]

def comparisonSymbols : List String := ["=="]

def OperatorKind.ofSymbol? (s : String) : Option OperatorKind :=
  if s ∈ logicalSymbols then some .logical
  else if s ∈ comparisonSymbols then some .comparison
  else none

inductive Flaw where
  | notAList
  | symbolNotString
  | unrecognized (symbol : String)
  /-- Among the symbols for AND and OR, but neither of them. -/
  | notConnective (symbol : String)
  | arity (found : Nat)
  | operandNotString
deriving DecidableEq

structure Defect where
  flaw : Flaw
  path : Path
deriving DecidableEq

def Defect.message (d : Defect) : String :=
  match d.flaw with
  | .notAList => "condition at " ++ d.path.text ++ " must be a non-empty array"
  | .symbolNotString => "operator at " ++ d.path.text ++ " must be a string"
  | .unrecognized symbol =>
    "unrecognized operator `" ++ symbol ++ "` at " ++ d.path.text ++
      ": the first element must be a logical or comparison operator"
  | .notConnective symbol =>
    "invalid logical operator `" ++ symbol ++ "` at " ++ d.path.text ++
      ": a logical operator must be AND or OR"
  | .arity found =>
    "comparison at " ++ d.path.text ++ " expects 2 operands, found " ++ Nat.repr found
  | .operandNotString => "comparison operand at " ++ d.path.text ++ " must be a string"

namespace Condition

def classifyComparison (path : Path) (r : Relation) : List Json → Except Defect Condition
  | [v, s] =>
    match v with
    | .string reference =>
      match s with
      | .string literal => .ok (.comparison r (some reference) literal)
      | _ => .error ⟨.operandNotString, path.child 2⟩
    | .null =>
      match s with
      | .string literal => .ok (.comparison r none literal)
      | _ => .error ⟨.operandNotString, path.child 2⟩
    | _ => .error ⟨.operandNotString, path.child 1⟩
  | rest => .error ⟨.arity rest.length, path⟩

mutual

/-- The condition that has `v` as its JSON form, where `path` leads to `v`. -/
def classifyAt (path : Path) : Json → Traced (Except Defect Condition)
  | .array (.string symbol :: rest) =>
    match OperatorKind.ofSymbol? symbol with
    | some .logical =>
      match Connective.ofSymbol? symbol with
      | some k => (classifyOperands path 1 rest).map fun cs => cs.map (.logical k)
      | none => .pure (.error ⟨.notConnective symbol, path⟩)
    | some .comparison =>
      match Relation.ofSymbol? symbol with
      | some r => .pure (classifyComparison path r rest)
      -- Not told as an event, unlike a symbol of no kind.
      | none => .pure (.error ⟨.unrecognized symbol, path⟩)
    | none => ⟨.error ⟨.unrecognized symbol, path⟩, [.unrecognized symbol path]⟩
  | .array (_ :: _) => .pure (.error ⟨.symbolNotString, path⟩)
  | _ => .pure (.error ⟨.notAList, path⟩)

def classifyOperands (path : Path) (i : Nat) : List Json → Traced (Except Defect (List Condition))
  | [] => .pure (.ok [])
  | v :: vs =>
    (classifyAt (path.child i) v).bind fun
      | .error d => .pure (.error d)
      | .ok c => (classifyOperands path (i + 1) vs).map fun cs => cs.map (c :: ·)

end

def classify (v : Json) : Traced (Except Defect Condition) :=
  classifyAt .root v

def ofJson (v : Json) : Except Defect Condition :=
  (classify v).value

end Condition

def Defect.toError (d : Defect) : Json.Error :=
  .ofReason d.message

/-- A defect of the value is told before anything that follows the value. -/
def Condition.ofText (text : String) : Traced (Except Json.Error Condition) :=
  match Json.readValue text.toList with
  | .error f => .pure (.error (f.locate text.toList))
  | .ok (v, rest) =>
    (Condition.classify v).map fun
      | .error d => .error d.toError
      | .ok c =>
        match Json.readEnd rest with
        | .error f => .error (f.locate text.toList)
        | .ok () => .ok c

end Conditions
