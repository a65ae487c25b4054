import Conditions.Evaluation
import Conditions.Log.Event
import Conditions.Proofs.Condition.Classification

set_option autoImplicit false

namespace Conditions

/-- Whether the variable behind the first character of the reference is bound to the literal. -/
def Bindings.agree (x : Bindings) (reference : Option String) (literal : String) : Bool :=
  match reference.map String.toList with
  | some (_ :: name) => x.get? (String.ofList name) = some literal
  | _ => false

theorem Bindings.satisfies_eq_agree (x : Bindings) (r : Relation) (reference : Option String)
    (literal : String) : x.satisfies r reference literal = x.agree reference literal := by
  cases reference with
  | none => rfl
  | some v =>
    by_cases hv : v = ""
    · subst hv
      rfl
    · have hcs : v.toList ≠ [] := by simpa using hv
      obtain ⟨first, name, heq⟩ := List.exists_cons_of_ne_nil hcs
      cases r
      simp [satisfies, agree, variableName, hv, heq]

namespace Connective

def join : Connective → List Bool → Bool
  | .and, values => values.all id
  | .or, values => values.any id

/-- How many operands are needed: those up to the first false one of AND, the first true one of OR,
and all if there is none. -/
def needed : Connective → List Bool → Nat
  | .and, values => values.findIdx (fun value => value = false) + 1
  | .or, values => values.findIdx (fun value => value = true) + 1

theorem eq_of_deciding_iff (k : Connective) {a b : Bool} (h : a = k.deciding ↔ b = k.deciding) :
    a = b := by
  cases k <;> cases a <;> cases b <;> simp_all [deciding]

theorem join_eq_deciding_iff (k : Connective) (values : List Bool) :
    k.join values = k.deciding ↔ k.deciding ∈ values := by
  cases k <;> simp [join, deciding]

theorem join_nil (k : Connective) : k.join [] = !k.deciding := by
  cases k <;> rfl

theorem join_deciding (k : Connective) (values : List Bool) :
    k.join (k.deciding :: values) = k.deciding := by
  rw [join_eq_deciding_iff]
  exact List.mem_cons_self

theorem join_of_ne_deciding {k : Connective} {value : Bool} (h : value ≠ k.deciding)
    (values : List Bool) : k.join (value :: values) = k.join values := by
  cases k <;> simp_all [join, deciding]

theorem needed_deciding (k : Connective) (values : List Bool) :
    k.needed (k.deciding :: values) = 1 := by
  cases k <;> simp [needed, deciding, List.findIdx_cons]

theorem needed_of_ne_deciding {k : Connective} {value : Bool} (h : value ≠ k.deciding)
    (values : List Bool) : k.needed (value :: values) = k.needed values + 1 := by
  cases k <;> simp_all [needed, deciding, List.findIdx_cons]

end Connective

namespace Condition

mutual

def value (x : Bindings) : Condition → Bool
  | .comparison _ reference literal => x.agree reference literal
  | .logical k cs => k.join (values x cs)

def values (x : Bindings) : List Condition → List Bool
  | [] => []
  | c :: cs => value x c :: values x cs

end

mutual

/-- The events of a node at the given depth: those of the operands that are needed, then its own. -/
def trace (x : Bindings) (depth : Nat) : Condition → List Event
  | .comparison _ reference literal =>
    [.comparison depth reference literal (x.agree reference literal)]
  | .logical k cs =>
    ((traces x (depth + 1) cs).take (k.needed (values x cs))).flatten ++
      [.logical depth k cs.length (k.join (values x cs))]

def traces (x : Bindings) (depth : Nat) : List Condition → List (List Event)
  | [] => []
  | c :: cs => trace x depth c :: traces x depth cs

end

theorem traces_eq_map (x : Bindings) (depth : Nat) (cs : List Condition) :
    traces x depth cs = cs.map (trace x depth) := by
  induction cs with
  | nil => rfl
  | cons c cs ih => rw [traces, ih, List.map_cons]

theorem values_eq_map (x : Bindings) (cs : List Condition) : values x cs = cs.map (value x) := by
  induction cs with
  | nil => rfl
  | cons c cs ih => rw [values, ih, List.map_cons]

def Decided (x : Bindings) (k : Connective) (cs : List Condition) : Prop :=
  ∃ c ∈ cs, value x c = k.deciding

theorem value_logical_iff_decided {x : Bindings} {k : Connective} {cs : List Condition} :
    value x (.logical k cs) = k.deciding ↔ Decided x k cs := by
  rw [value, values_eq_map, Connective.join_eq_deciding_iff, List.mem_map, Decided]

theorem value_and_eq_true_iff {x : Bindings} {cs : List Condition} :
    value x (.logical .and cs) = true ↔ ∀ c ∈ cs, value x c = true := by
  rw [value, values_eq_map]
  simp [Connective.join]

theorem value_or_eq_true_iff {x : Bindings} {cs : List Condition} :
    value x (.logical .or cs) = true ↔ ∃ c ∈ cs, value x c = true :=
  value_logical_iff_decided (k := .or)

theorem visitOperands_eq_eager {x : Bindings} {k : Connective} {depth : Nat} {cs : List Condition}
    (h : ∀ c ∈ cs, visit x depth c = ⟨value x c, trace x depth c⟩) :
    visitOperands x depth k cs =
      ⟨k.join (values x cs), ((traces x depth cs).take (k.needed (values x cs))).flatten⟩ := by
  induction cs with
  | nil =>
    rw [visitOperands, values, traces, Connective.join_nil, List.take_nil]
    rfl
  | cons c cs ih =>
    have rest := ih fun d hd => h d (List.mem_cons_of_mem c hd)
    rw [visitOperands, h c List.mem_cons_self, values, traces]
    by_cases hc : value x c = k.deciding
    · rw [hc, Connective.join_deciding, Connective.needed_deciding]
      simp [Traced.bind, Traced.pure]
    · rw [Connective.join_of_ne_deciding hc, Connective.needed_of_ne_deciding hc]
      simp [Traced.bind, hc, rest]

theorem visit_eq_eager (x : Bindings) (depth : Nat) (c : Condition) :
    visit x depth c = ⟨value x c, trace x depth c⟩ := by
  induction c using operand_induction generalizing depth with
  | comparison r reference literal =>
    rw [visit, value, trace, Bindings.satisfies_eq_agree]
  | logical k cs ih =>
    have operands := visitOperands_eq_eager (k := k) fun c hc => ih c hc (depth + 1)
    rw [visit, operands, value, trace]
    rfl

theorem evaluate_eq (c : Condition) (x : Bindings) :
    c.evaluate x = ⟨c.value x, c.trace x 0 ++ [.evaluated c (c.value x)]⟩ := by
  rw [evaluate, visit_eq_eager]
  rfl

/-- Stopping early changes nothing but the events of the operands that are not needed. -/
theorem evaluate_eq_eager (c : Condition) (x : Bindings) :
    (c.evaluate x).value = c.value x ∧
      (c.evaluate x).events = c.trace x 0 ++ [.evaluated c (c.value x)] ∧
      (Event.evaluated c (c.value x)).level = .debug ∧
      (Event.evaluated c (c.value x)).fields =
        [("condition", .plain c.text), ("result", .flag (c.value x))] := by
  rw [evaluate_eq]
  exact ⟨rfl, rfl, rfl, rfl⟩

/-- The empty AND decides, so the comparison behind it leaves no event. -/
example :
    let c : Condition := .or [.and [], .equals "$a" ""]
    (c.evaluate .empty).events =
      [.logical 1 .and 0 true, .logical 0 .or 2 true, .evaluated c true] := by decide

end Condition

end Conditions
