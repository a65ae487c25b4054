import Conditions.Condition.Classification
import Conditions.Json.Reader.Basic

set_option autoImplicit false

namespace Conditions

namespace Path

def append (p q : Path) : Path := ⟨q.indices ++ p.indices⟩

@[simp] theorem append_child (p q : Path) (i : Nat) :
    p.append (q.child i) = (p.append q).child i := rfl

end Path

def Defect.under (p : Path) (d : Defect) : Defect := ⟨d.flaw, p.append d.path⟩

@[simp] theorem Defect.under_mk (p q : Path) (f : Flaw) :
    under p ⟨f, q⟩ = ⟨f, p.append q⟩ := rfl

@[simp] theorem Connective.ofSymbol?_symbol (k : Connective) : ofSymbol? k.symbol = some k :=
  ofSymbol?_eq_some_iff.2 rfl

@[simp] theorem Relation.ofSymbol?_symbol (r : Relation) : ofSymbol? r.symbol = some r :=
  ofSymbol?_eq_some_iff.2 rfl

theorem Connective.ofSymbol?_eq_none_iff {s : String} :
    ofSymbol? s = none ↔ s ≠ "AND" ∧ s ≠ "OR" := by
  unfold ofSymbol?
  split
  · simp_all
  · split <;> simp_all

theorem Relation.ofSymbol?_eq_none_iff {s : String} : ofSymbol? s = none ↔ s ≠ "==" := by
  simp [ofSymbol?]

theorem not_mem_logicalSymbols_iff {s : String} :
    s ∉ logicalSymbols ↔ Connective.ofSymbol? s = none := by
  rw [Connective.ofSymbol?_eq_none_iff]
  simp [logicalSymbols]

theorem not_mem_comparisonSymbols_iff {s : String} :
    s ∉ comparisonSymbols ↔ Relation.ofSymbol? s = none := by
  rw [Relation.ofSymbol?_eq_none_iff]
  simp [comparisonSymbols]

namespace OperatorKind

@[simp] theorem ofSymbol?_connective (k : Connective) : ofSymbol? k.symbol = some .logical := by
  cases k <;> decide

@[simp] theorem ofSymbol?_relation (r : Relation) : ofSymbol? r.symbol = some .comparison := by
  cases r
  decide

/-- A symbol has a kind just if it has an operator, so the second look-up never fails. -/
theorem ofSymbol?_eq_none_iff {s : String} :
    ofSymbol? s = none ↔ Connective.ofSymbol? s = none ∧ Relation.ofSymbol? s = none := by
  rw [← not_mem_logicalSymbols_iff, ← not_mem_comparisonSymbols_iff]
  unfold ofSymbol?
  split
  · simp [*]
  · split <;> simp [*]

end OperatorKind

namespace Condition

@[elab_as_elim]
theorem operand_induction {motive : Condition → Prop}
    (comparison : ∀ r reference literal, motive (.comparison r reference literal))
    (logical : ∀ k cs, (∀ c ∈ cs, motive c) → motive (.logical k cs)) : ∀ c, motive c
  | .comparison r reference literal => comparison r reference literal
  | .logical k cs => logical k cs fun c _ => operand_induction comparison logical c

@[elab_as_elim]
theorem node_induction {motive : Json → Prop}
    (logical : ∀ (k : Connective) vs, (∀ v ∈ vs, motive v) →
      motive (.array (.string k.symbol :: vs)))
    (comparison : ∀ (r : Relation) vs, motive (.array (.string r.symbol :: vs)))
    (unrecognized : ∀ symbol vs, Connective.ofSymbol? symbol = none →
      Relation.ofSymbol? symbol = none → motive (.array (.string symbol :: vs)))
    (untagged : ∀ head vs, (∀ s, head ≠ .string s) → motive (.array (head :: vs)))
    (notAList : ∀ v, (∀ head vs, v ≠ .array (head :: vs)) → motive v) : ∀ v, motive v
  | .array (.string symbol :: vs) => by
    have operands : ∀ v ∈ vs, motive v := fun v _ =>
      node_induction logical comparison unrecognized untagged notAList v
    cases hk : Connective.ofSymbol? symbol with
    | some k =>
      rw [Connective.ofSymbol?_eq_some_iff.1 hk]
      exact logical k vs operands
    | none =>
      cases hr : Relation.ofSymbol? symbol with
      | some r =>
        rw [Relation.ofSymbol?_eq_some_iff.1 hr]
        exact comparison r vs
      | none => exact unrecognized symbol vs hk hr
  | .array [] => notAList _ (by simp)
  | .array (.null :: vs) | .array (.boolean _ :: vs) | .array (.number _ :: vs)
  | .array (.array _ :: vs) | .array (.object _ :: vs) => untagged _ vs (by simp)
  | .null | .boolean _ | .number _ | .string _ | .object _ => notAList _ (by simp)

theorem classifyAt_logical (path : Path) (k : Connective) (vs : List Json) :
    classifyAt path (.array (.string k.symbol :: vs)) =
      (classifyOperands path 1 vs).map fun cs => cs.map (.logical k) := by
  simp [classifyAt]

theorem classifyAt_comparison (path : Path) (r : Relation) (vs : List Json) :
    classifyAt path (.array (.string r.symbol :: vs)) = .pure (classifyComparison path r vs) := by
  simp [classifyAt]

theorem classifyAt_unrecognized (path : Path) {symbol : String} (vs : List Json)
    (hk : Connective.ofSymbol? symbol = none) (hr : Relation.ofSymbol? symbol = none) :
    classifyAt path (.array (.string symbol :: vs)) =
      ⟨.error ⟨.unrecognized symbol, path⟩, [.unrecognized symbol path]⟩ := by
  simp [classifyAt, OperatorKind.ofSymbol?_eq_none_iff.2 ⟨hk, hr⟩]

theorem classifyAt_untagged (path : Path) {head : Json} (vs : List Json)
    (h : ∀ s, head ≠ .string s) :
    classifyAt path (.array (head :: vs)) = .pure (.error ⟨.symbolNotString, path⟩) := by
  rw [classifyAt]
  exact fun s e => h s e

theorem classifyAt_notAList (path : Path) {v : Json} (h : ∀ head vs, v ≠ .array (head :: vs)) :
    classifyAt path v = .pure (.error ⟨.notAList, path⟩) := by
  rw [classifyAt]
  · exact fun symbol vs e => h (.string symbol) vs e
  · exact fun head vs e => h head vs e

theorem classifyComparison_append (p q : Path) (r : Relation) (vs : List Json) :
    classifyComparison (p.append q) r vs =
      (classifyComparison q r vs).mapError (Defect.under p) := by
  unfold classifyComparison
  split
  · split
    · split <;> rfl
    · split <;> rfl
    · rfl
  · rfl

theorem value_classifyOperands_cons (path : Path) (i : Nat) (v : Json) (vs : List Json) :
    (classifyOperands path i (v :: vs)).value =
      match (classifyAt (path.child i) v).value with
      | .error d => .error d
      | .ok c => (classifyOperands path (i + 1) vs).value.map (c :: ·) := by
  rw [classifyOperands, Traced.value_bind]
  cases (classifyAt (path.child i) v).value <;> rfl

theorem classifyOperands_append {p : Path} {vs : List Json}
    (h : ∀ v ∈ vs, ∀ q, (classifyAt (p.append q) v).value =
      (classifyAt q v).value.mapError (Defect.under p)) (q : Path) (i : Nat) :
    (classifyOperands (p.append q) i vs).value =
      (classifyOperands q i vs).value.mapError (Defect.under p) := by
  induction vs generalizing i with
  | nil => rfl
  | cons v vs ih =>
    have rest := ih (fun u hu => h u (List.mem_cons_of_mem v hu)) (i + 1)
    rw [value_classifyOperands_cons, value_classifyOperands_cons, ← Path.append_child,
      h v List.mem_cons_self, rest]
    cases (classifyAt (q.child i) v).value with
    | error d => rfl
    | ok c => cases (classifyOperands q (i + 1) vs).value <;> rfl

theorem classifyAt_append (p q : Path) (v : Json) :
    (classifyAt (p.append q) v).value = (classifyAt q v).value.mapError (Defect.under p) := by
  induction v using node_induction generalizing q with
  | logical k vs ih =>
    rw [classifyAt_logical, classifyAt_logical, Traced.value_map, Traced.value_map,
      classifyOperands_append (fun v hv q => ih v hv q)]
    cases (classifyOperands q 1 vs).value <;> rfl
  | comparison r vs =>
    rw [classifyAt_comparison, classifyAt_comparison]
    exact classifyComparison_append p q r vs
  | unrecognized symbol vs hk hr =>
    rw [classifyAt_unrecognized _ _ hk hr, classifyAt_unrecognized _ _ hk hr]
    rfl
  | untagged head vs h =>
    rw [classifyAt_untagged _ _ h, classifyAt_untagged _ _ h]
    rfl
  | notAList v h =>
    rw [classifyAt_notAList _ h, classifyAt_notAList _ h]
    rfl

theorem classifyAt_value (path : Path) (v : Json) :
    (classifyAt path v).value = (ofJson v).mapError (Defect.under path) :=
  classifyAt_append path .root v

theorem ofJson_logical (k : Connective) (vs : List Json) :
    ofJson (.array (.string k.symbol :: vs)) =
      (classifyOperands .root 1 vs).value.map (.logical k) := by
  rw [ofJson, classify, classifyAt_logical, Traced.value_map]

theorem ofJson_comparison (r : Relation) (vs : List Json) :
    ofJson (.array (.string r.symbol :: vs)) = classifyComparison .root r vs := by
  rw [ofJson, classify, classifyAt_comparison, Traced.value_pure]

theorem ofJson_unrecognized {symbol : String} (vs : List Json)
    (hk : Connective.ofSymbol? symbol = none) (hr : Relation.ofSymbol? symbol = none) :
    ofJson (.array (.string symbol :: vs)) = .error ⟨.unrecognized symbol, .root⟩ := by
  rw [ofJson, classify, classifyAt_unrecognized _ _ hk hr]

theorem ofJson_untagged {head : Json} (vs : List Json) (h : ∀ s, head ≠ .string s) :
    ofJson (.array (head :: vs)) = .error ⟨.symbolNotString, .root⟩ := by
  rw [ofJson, classify, classifyAt_untagged _ _ h, Traced.value_pure]

theorem ofJson_notAList {v : Json} (h : ∀ head vs, v ≠ .array (head :: vs)) :
    ofJson v = .error ⟨.notAList, .root⟩ := by
  rw [ofJson, classify, classifyAt_notAList _ h, Traced.value_pure]

theorem classifyOperands_eq_ok_iff {path : Path} {i : Nat} {vs : List Json}
    {cs : List Condition} :
    (classifyOperands path i vs).value = .ok cs ↔ vs.map ofJson = cs.map .ok := by
  induction vs generalizing i cs with
  | nil => cases cs <;> simp [classifyOperands]
  | cons v vs ih =>
    rw [value_classifyOperands_cons, classifyAt_value, List.map_cons]
    cases hv : ofJson v with
    | error d =>
      rw [Except.mapError_error]
      cases cs <;> simp
    | ok c =>
      simp only [Except.mapError_ok, Except.map_eq_ok_iff, ih]
      cases cs with
      | nil => simp
      | cons c' cs =>
        rw [List.map_cons, List.cons.injEq, Except.ok.injEq]
        constructor
        · rintro ⟨ds, hds, heq⟩
          cases heq
          exact ⟨rfl, hds⟩
        · rintro ⟨rfl, hcs⟩
          exact ⟨cs, hcs, rfl⟩

theorem classifyOperands_eq_error_iff {path : Path} {i : Nat} {vs : List Json} {d : Defect} :
    (classifyOperands path i vs).value = .error d ↔
      ∃ j v e, vs[j]? = some v ∧ (∀ l < j, ∃ u c, vs[l]? = some u ∧ ofJson u = .ok c) ∧
        ofJson v = .error e ∧ d = e.under (path.child (i + j)) := by
  induction vs generalizing i with
  | nil => simp [classifyOperands]
  | cons v vs ih =>
    rw [value_classifyOperands_cons, classifyAt_value]
    cases hv : ofJson v with
    | error e =>
      simp only [Except.mapError_error, Except.error.injEq]
      constructor
      · rintro rfl
        exact ⟨0, v, e, rfl, fun l hl => absurd hl (Nat.not_lt_zero l), hv, rfl⟩
      · rintro ⟨j, u, e', hu, hok, he, rfl⟩
        cases j with
        | zero =>
          cases hu
          rw [hv] at he
          rw [Except.error.inj he, Nat.add_zero]
        | succ j =>
          obtain ⟨w, c, hw, hc⟩ := hok 0 (Nat.zero_lt_succ j)
          cases hw
          rw [hv] at hc
          cases hc
    | ok c =>
      simp only [Except.mapError_ok, Except.map_eq_error_iff, ih]
      constructor
      · rintro ⟨j, u, e, hu, hok, he, rfl⟩
        refine ⟨j + 1, u, e, hu, ?_, he, by rw [Nat.add_right_comm, Nat.add_assoc]⟩
        intro l hl
        cases l with
        | zero => exact ⟨v, c, rfl, hv⟩
        | succ l => exact hok l (Nat.lt_of_succ_lt_succ hl)
      · rintro ⟨j, u, e, hu, hok, he, rfl⟩
        cases j with
        | zero =>
          cases hu
          rw [hv] at he
          cases he
        | succ j =>
          refine ⟨j, u, e, hu, ?_, he, by rw [Nat.add_right_comm, Nat.add_assoc]⟩
          intro l hl
          exact hok (l + 1) (Nat.succ_lt_succ hl)

end Condition

/-- An unknown symbol is told with its place, and nothing of the other flaws. -/
def Defect.announcement (d : Defect) : List Event :=
  match d.flaw with
  | .unrecognized symbol => [.unrecognized symbol d.path]
  | _ => []

def announced {α : Type} : Except Defect α → List Event
  | .ok _ => []
  | .error d => d.announcement

theorem announced_map {α β : Type} (f : α → β) (x : Except Defect α) :
    announced (x.map f) = announced x := by
  cases x <;> rfl

namespace Condition

theorem announced_classifyComparison (path : Path) (r : Relation) (vs : List Json) :
    announced (classifyComparison path r vs) = [] := by
  unfold classifyComparison
  split
  · split
    · split <;> rfl
    · split <;> rfl
    · rfl
  · rfl

theorem events_classifyOperands {vs : List Json}
    (h : ∀ v ∈ vs, ∀ path, (classifyAt path v).events = announced (classifyAt path v).value)
    (path : Path) (i : Nat) :
    (classifyOperands path i vs).events = announced (classifyOperands path i vs).value := by
  induction vs generalizing i with
  | nil => rfl
  | cons v vs ih =>
    have head := h v List.mem_cons_self (path.child i)
    have tail := ih (fun u hu => h u (List.mem_cons_of_mem v hu)) (i + 1)
    rw [classifyOperands, Traced.events_bind, Traced.value_bind, head]
    cases (classifyAt (path.child i) v).value with
    | error d => simp [announced]
    | ok c =>
      rw [Traced.events_map, Traced.value_map, announced_map, tail]
      rfl

theorem events_classifyAt (path : Path) (v : Json) :
    (classifyAt path v).events = announced (classifyAt path v).value := by
  induction v using node_induction generalizing path with
  | logical k vs ih =>
    rw [classifyAt_logical, Traced.events_map, Traced.value_map, announced_map]
    exact events_classifyOperands (fun v hv path => ih v hv path) path 1
  | comparison r vs =>
    rw [classifyAt_comparison, Traced.events_pure, Traced.value_pure, announced_classifyComparison]
  | unrecognized symbol vs hk hr =>
    rw [classifyAt_unrecognized path vs hk hr]
    rfl
  | untagged head vs h =>
    rw [classifyAt_untagged path vs h]
    rfl
  | notAList v h =>
    rw [classifyAt_notAList path h]
    rfl

theorem classify_eq (v : Json) : classify v = ⟨ofJson v, announced (ofJson v)⟩ := by
  have events : (classify v).events = announced (ofJson v) := events_classifyAt .root v
  rw [← events]
  rfl

end Condition

end Conditions
