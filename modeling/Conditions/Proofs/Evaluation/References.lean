import Conditions.Proofs.Evaluation.Eager
import Mathlib.Data.List.Forall2

set_option autoImplicit false

namespace Conditions

/-- The variable that a reference names: what is behind its first character. An empty reference names
none. -/
def named (reference : Option String) : Option String :=
  match reference.map String.toList with
  | some (_ :: name) => some (String.ofList name)
  | _ => none

theorem Bindings.agree_eq_true_iff {x : Bindings} {reference : Option String} {literal : String} :
    x.agree reference literal = true ↔
      ∃ name, named reference = some name ∧ x.get? name = some literal := by
  unfold agree named
  cases reference.map String.toList with
  | none => simp
  | some cs => cases cs <;> simp

theorem Bindings.agree_congr {x y : Bindings} {v w : Option String} (h : named v = named w)
    (hxy : ∀ name, named v = some name → x.get? name = y.get? name) (literal : String) :
    x.agree v literal = y.agree w literal := by
  rw [Bool.eq_iff_iff, agree_eq_true_iff, agree_eq_true_iff, ← h]
  refine exists_congr fun name => and_congr_right fun hname => ?_
  rw [hxy name hname]

namespace Condition

mutual

def names : Condition → List String
  | .comparison _ reference _ => (named reference).toList
  | .logical _ cs => namesList cs

def namesList : List Condition → List String
  | [] => []
  | c :: cs => names c ++ namesList cs

end

theorem mem_names_logical_iff {name : String} {k : Connective} {cs : List Condition} :
    name ∈ names (.logical k cs) ↔ ∃ c ∈ cs, name ∈ names c := by
  rw [names]
  induction cs with
  | nil => simp [namesList]
  | cons c cs ih => simp [namesList, ih]

/-- Alike but for the references, which name the same variables. -/
inductive Alike : Condition → Condition → Prop
  | comparison (r : Relation) {v w : Option String} (literal : String) (h : named v = named w) :
      Alike (.comparison r v literal) (.comparison r w literal)
  | logical (k : Connective) {cs ds : List Condition} (h : List.Forall₂ Alike cs ds) :
      Alike (.logical k cs) (.logical k ds)

end Condition

/-- Events that tell the same, but for the references. -/
inductive Event.Alike : Event → Event → Prop
  | comparison (depth : Nat) {v w : Option String} (literal : String) (matched : Bool)
      (h : named v = named w) :
      Event.Alike (.comparison depth v literal matched) (.comparison depth w literal matched)
  | logical (depth : Nat) (k : Connective) (operands : Nat) (result : Bool) :
      Event.Alike (.logical depth k operands result) (.logical depth k operands result)
  | evaluated {c d : Condition} (h : c.Alike d) (result : Bool) :
      Event.Alike (.evaluated c result) (.evaluated d result)

namespace Condition

variable {x y : Bindings}

def EvaluatedAlike (x y : Bindings) (depth : Nat) (c d : Condition) : Prop :=
  value x c = value y d ∧ List.Forall₂ Event.Alike (trace x depth c) (trace y depth d)

theorem evaluatedAlike_comparison {v w : Option String} (h : named v = named w)
    (hxy : ∀ name, named v = some name → x.get? name = y.get? name) (r : Relation)
    (literal : String) (depth : Nat) :
    EvaluatedAlike x y depth (.comparison r v literal) (.comparison r w literal) := by
  have matched : x.agree v literal = y.agree w literal := Bindings.agree_congr h hxy literal
  refine ⟨by rw [value, value, matched], ?_⟩
  rw [trace, trace, matched]
  exact .cons (.comparison depth literal _ h) .nil

theorem evaluatedAlike_logical {cs ds : List Condition} {depth : Nat}
    (h : List.Forall₂ (EvaluatedAlike x y (depth + 1)) cs ds) (k : Connective) :
    EvaluatedAlike x y depth (.logical k cs) (.logical k ds) := by
  have values_eq : values x cs = values y ds := by
    rw [values_eq_map, values_eq_map, ← List.forall₂_eq_eq_eq, List.forall₂_map_left_iff,
      List.forall₂_map_right_iff]
    exact h.imp fun c d hcd => hcd.1
  have traces_alike : List.Forall₂ (List.Forall₂ Event.Alike) (traces x (depth + 1) cs)
      (traces y (depth + 1) ds) := by
    rw [traces_eq_map, traces_eq_map, List.forall₂_map_left_iff, List.forall₂_map_right_iff]
    exact h.imp fun c d hcd => hcd.2
  refine ⟨by rw [value, value, values_eq], ?_⟩
  rw [trace, trace, values_eq, h.length_eq]
  -- The values decide which operands are needed, so as many of them leave events on both sides.
  exact List.rel_append (List.rel_flatten (List.forall₂_take _ traces_alike))
    (.cons (.logical depth k _ _) .nil)

theorem Alike.evaluatedAlike {c d : Condition} (h : c.Alike d)
    (hxy : ∀ name ∈ c.names, x.get? name = y.get? name) (depth : Nat) :
    EvaluatedAlike x y depth c d := by
  induction c using operand_induction generalizing d depth with
  | comparison r v literal =>
    cases h with
    | comparison _ _ h =>
      refine evaluatedAlike_comparison h (fun name hname => hxy name ?_) r literal depth
      rw [names, hname]
      exact List.mem_singleton_self name
  | logical k cs ih =>
    cases h with
    | @logical _ _ ds h =>
      have operand : ∀ c ∈ cs, ∀ d, c.Alike d → EvaluatedAlike x y (depth + 1) c d := by
        intro c hc d hcd
        refine ih c hc hcd (fun name hname => hxy name ?_) (depth + 1)
        exact mem_names_logical_iff.2 ⟨c, hc, hname⟩
      have operands := ((List.forall₂_and_left cs ds).2 ⟨operand, h⟩).imp fun c d hcd => hcd.1 d hcd.2
      exact evaluatedAlike_logical operands k

/-- Nothing counts but what the named variables are bound to. -/
theorem evaluate_alike {c d : Condition} (h : c.Alike d)
    (hxy : ∀ name ∈ c.names, x.get? name = y.get? name) :
    (c.evaluate x).value = (d.evaluate y).value ∧
      List.Forall₂ Event.Alike (c.evaluate x).events (d.evaluate y).events := by
  obtain ⟨hvalue, htrace⟩ := h.evaluatedAlike hxy 0
  rw [evaluate_eq, evaluate_eq, hvalue]
  exact ⟨rfl, List.rel_append htrace (.cons (.evaluated h _) .nil)⟩

theorem evaluate_alike_first_characters :
    let c := or [equals "$a" "1", .comparison .equal none "", and [equals "$" "2", equals "éb" ""]]
    let d := or [equals "€a" "1", equals "" "", and [equals "𝄞" "2", equals "ab" ""]]
    let x := Bindings.ofList [("a", "2"), ("", "2"), ("b", ""), ("c", "1")]
    let y := Bindings.ofList [("b", ""), ("", "2"), ("a", "2")]
    c.Alike d ∧ (∀ name ∈ c.names, x.get? name = y.get? name) ∧
      (c.evaluate x).value = (d.evaluate y).value ∧
      List.Forall₂ Event.Alike (c.evaluate x).events (d.evaluate y).events := by
  intro c d x y
  have inner : List.Forall₂ Alike [equals "$" "2", equals "éb" ""]
      [equals "𝄞" "2", equals "ab" ""] :=
    .cons (.comparison .equal "2" (by decide)) (.cons (.comparison .equal "" (by decide)) .nil)
  have alike : c.Alike d :=
    .logical .or (.cons (.comparison .equal "1" (by decide))
      (.cons (.comparison .equal "" (by decide)) (.cons (.logical .and inner) .nil)))
  have agreeing : ∀ name ∈ c.names, x.get? name = y.get? name := by decide
  exact ⟨alike, agreeing, evaluate_alike alike agreeing⟩

end Condition

end Conditions
