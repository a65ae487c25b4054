import Conditions.Condition.Basic
import Conditions.Text.Quoted

set_option autoImplicit false

namespace Conditions

inductive Event where
  | comparison (depth : Nat) (reference : Option String) (literal : String) (matched : Bool)
  /-- A logical node was decided, after the operands that had to be visited. -/
  | logical (depth : Nat) (connective : Connective) (operands : Nat) (result : Bool)
  | evaluated (condition : Condition) (result : Bool)
  | unrecognized (symbol : String) (path : Path)
deriving DecidableEq

structure Traced (α : Type) where
  value : α
  events : List Event
deriving DecidableEq

namespace Traced

variable {α β : Type}

def pure (a : α) : Traced α := ⟨a, []⟩

def map (f : α → β) (t : Traced α) : Traced β := ⟨f t.value, t.events⟩

def bind (t : Traced α) (f : α → Traced β) : Traced β :=
  let next := f t.value
  ⟨next.value, t.events ++ next.events⟩

@[simp] theorem value_pure (a : α) : (pure a).value = a := rfl

@[simp] theorem value_map (f : α → β) (t : Traced α) : (t.map f).value = f t.value := rfl

@[simp] theorem value_bind (t : Traced α) (f : α → Traced β) :
    (t.bind f).value = (f t.value).value := rfl

@[simp] theorem events_pure (a : α) : (pure a).events = [] := rfl

@[simp] theorem events_map (f : α → β) (t : Traced α) : (t.map f).events = t.events := rfl

@[simp] theorem events_bind (t : Traced α) (f : α → Traced β) :
    (t.bind f).events = t.events ++ (f t.value).events := rfl

end Traced

inductive Level where
  | error
  | warn
  | info
  | debug
  | trace
deriving DecidableEq

def Level.rank : Level → Nat
  | .error => 1
  | .warn => 2
  | .info => 3
  | .debug => 4
  | .trace => 5

def Level.name : Level → String
  | .error => "ERROR"
  | .warn => "WARN"
  | .info => "INFO"
  | .debug => "DEBUG"
  | .trace => "TRACE"

inductive Field where
  | count (n : Nat)
  | flag (b : Bool)
  | plain (s : String)
  | quoted (s : String)
deriving DecidableEq

def Field.text : Field → String
  | .count n => Nat.repr n
  | .flag true => "true"
  | .flag false => "false"
  | .plain s => s
  | .quoted s => Text.quoted s

namespace Event

def level : Event → Level
  | .comparison .. => .trace
  | .logical .. => .trace
  | .evaluated .. => .debug
  | .unrecognized .. => .debug

def target : Event → String
  | .unrecognized .. => "condition_eval::parser"
  | _ => "condition_eval::engine"

def message : Event → String
  | .comparison .. => "comparison"
  | .logical .. => "logical"
  | .evaluated .. => "evaluated condition"
  | .unrecognized .. => "unrecognized operator"

def fields : Event → List (String × Field)
  | .comparison depth reference literal matched =>
    [("depth", .count depth), ("variable", .plain (Text.quotedOption reference)),
      ("literal", .plain literal), ("matched", .flag matched)]
  | .logical depth connective operands result =>
    [("depth", .count depth), ("operator", .quoted connective.symbol),
      ("operands", .count operands), ("result", .flag result)]
  | .evaluated condition result =>
    [("condition", .plain condition.text), ("result", .flag result)]
  | .unrecognized symbol path =>
    [("tag", .quoted symbol), ("path", .quoted path.text)]

def line (e : Event) : String :=
  let fields := e.fields.map fun f => " " ++ f.1 ++ "=" ++ f.2.text
  e.level.name ++ " " ++ e.target ++ ": " ++ e.message ++ String.join fields

end Event

end Conditions
