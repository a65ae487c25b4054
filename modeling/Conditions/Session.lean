import Conditions.Evaluation

set_option autoImplicit false

namespace Conditions

inductive Step where
  | new
  | insert (name value : String)
  | get (name : String)
  | isEmpty
  | loadText (text : String)
  | loadJson (value : Json)
  | ofPairs (pairs : List (String × String))
  | save (slot : String)
  | restore (slot : String)
  | equals (slot : String)
  | evaluate (condition : Condition)
  | evaluateJson (value : Json)
  | evaluateText (text : String)

inductive Answer where
  | nothing
  | string (value : String)
  | boolean (value : Bool)
deriving DecidableEq

def Answer.ofOption : Option String → Answer
  | none => .nothing
  | some s => .string s

inductive StepError where
  | unreadableText (error : Json.Error)
  | unreadableValue (error : Json.Error)
  | malformed (defect : Defect)
deriving DecidableEq

structure Session where
  bindings : Bindings
  saved : List (String × Bindings)

namespace Session

def start : Session := ⟨.empty, []⟩

def withBindings (s : Session) (x : Bindings) : Session := { s with bindings := x }

def attempt (s : Session) : Step → Except StepError (Answer × Session)
  | .new => .ok (.nothing, s.withBindings .empty)
  | .insert name value =>
    .ok (.ofOption (s.bindings.get? name), s.withBindings (s.bindings.insert name value))
  | .get name => .ok (.ofOption (s.bindings.get? name), s)
  | .isEmpty => .ok (.boolean s.bindings.isEmpty, s)
  | .loadText text =>
    match Bindings.ofText text with
    | .error e => .error (.unreadableText e)
    | .ok x => .ok (.nothing, s.withBindings x)
  | .loadJson v =>
    match Bindings.ofJson v with
    | .error e => .error (.unreadableValue e)
    | .ok x => .ok (.nothing, s.withBindings x)
  | .ofPairs pairs => .ok (.nothing, s.withBindings (.ofList pairs))
  | .save slot => .ok (.nothing, { s with saved := Entries.insert slot s.bindings s.saved })
  | .restore slot =>
    match Entries.find? slot s.saved with
    | some x => .ok (.nothing, s.withBindings x)
    | none => .ok (.nothing, s)
  | .equals slot =>
    match Entries.find? slot s.saved with
    | some x => .ok (.boolean (x = s.bindings), s)
    | none => .ok (.boolean false, s)
  | .evaluate c => .ok (.boolean (c.evaluate s.bindings).value, s)
  | .evaluateJson v =>
    match (Conditions.evaluateJson v s.bindings).value with
    | .error d => .error (.malformed d)
    | .ok b => .ok (.boolean b, s)
  | .evaluateText text =>
    match (Condition.ofText text).value with
    | .error e => .error (.unreadableText e)
    | .ok c => .ok (.boolean (c.evaluate s.bindings).value, s)

def after (s : Session) (step : Step) : Session :=
  match s.attempt step with
  | .error _ => s
  | .ok (_, t) => t

def run (s : Session) : List Step → List (Except StepError Answer × Session)
  | [] => []
  | step :: steps =>
    ((s.attempt step).map Prod.fst, s.after step) :: run (s.after step) steps

end Session

end Conditions
