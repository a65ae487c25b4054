import Conditions.Proofs.Condition.FirstDefect

set_option autoImplicit false

namespace Conditions

structure PlacedFlaw where
  flaw : Flaw
  place : String
deriving DecidableEq

def Defect.placed (start : String) (d : Defect) : PlacedFlaw := ⟨d.flaw, start ++ d.path.suffix⟩

@[simp] theorem Defect.placed_mk (start : String) (f : Flaw) (p : Path) :
    placed start ⟨f, p⟩ = ⟨f, start ++ p.suffix⟩ := rfl

namespace Condition

def classifyComparisonFrom (start : String) (r : Relation) :
    List Json → Except PlacedFlaw Condition
  | [v, s] => do
    let reference ← match v with
      | .string reference => .ok (some reference)
      | .null => .ok none
      | _ => .error ⟨.operandNotString, start ++ Path.segment 1⟩
    let literal ← match s with
      | .string literal => .ok literal
      | _ => .error ⟨.operandNotString, start ++ Path.segment 2⟩
    .ok (.comparison r reference literal)
  | rest => .error ⟨.arity rest.length, start⟩

mutual

/-- The condition that has `v` as its JSON form, where `start` is the path to `v`: any text, behind
which segments are written on the way down. -/
def classifyFrom (start : String) : Json → Except PlacedFlaw Condition
  | .array (.string symbol :: rest) =>
    match OperatorKind.ofSymbol? symbol with
    | some .logical =>
      match Connective.ofSymbol? symbol with
      | some k => (classifyOperandsFrom start 1 rest).map (.logical k)
      | none => .error ⟨.notConnective symbol, start⟩
    | some .comparison =>
      match Relation.ofSymbol? symbol with
      | some r => classifyComparisonFrom start r rest
      | none => .error ⟨.unrecognized symbol, start⟩
    | none => .error ⟨.unrecognized symbol, start⟩
  | .array (_ :: _) => .error ⟨.symbolNotString, start⟩
  | _ => .error ⟨.notAList, start⟩

def classifyOperandsFrom (start : String) (i : Nat) :
    List Json → Except PlacedFlaw (List Condition)
  | [] => .ok []
  | v :: vs => do
    let c ← classifyFrom (start ++ Path.segment i) v
    let cs ← classifyOperandsFrom start (i + 1) vs
    .ok (c :: cs)

end

theorem classifyComparisonFrom_suffix (start : String) (path : Path) (r : Relation)
    (vs : List Json) :
    classifyComparisonFrom (start ++ path.suffix) r vs =
      (classifyComparison path r vs).mapError (Defect.placed start) := by
  match vs with
  | [] | [_] | _ :: _ :: _ :: _ => rfl
  | [v, s] =>
    cases v with
    | null | string _ =>
      cases s <;> simp [classifyComparisonFrom, classifyComparison, String.append_assoc, bind,
        Except.bind]
    | _ =>
      simp [classifyComparisonFrom, classifyComparison, String.append_assoc, bind, Except.bind]

theorem classifyOperandsFrom_suffix {start : String} {vs : List Json}
    (h : ∀ v ∈ vs, ∀ path : Path, classifyFrom (start ++ path.suffix) v =
      (classifyAt path v).value.mapError (Defect.placed start)) (path : Path) (i : Nat) :
    classifyOperandsFrom (start ++ path.suffix) i vs =
      (classifyOperands path i vs).value.mapError (Defect.placed start) := by
  induction vs generalizing i with
  | nil => rfl
  | cons v vs ih =>
    have head := h v List.mem_cons_self (path.child i)
    have tail := ih (fun u hu => h u (List.mem_cons_of_mem v hu)) (i + 1)
    rw [Path.suffix_child, ← String.append_assoc] at head
    rw [classifyOperandsFrom, value_classifyOperands_cons, head, tail]
    cases (classifyAt (path.child i) v).value with
    | error d => rfl
    | ok c => cases (classifyOperands path (i + 1) vs).value <;> rfl

theorem classifyFrom_suffix (start : String) (path : Path) (v : Json) :
    classifyFrom (start ++ path.suffix) v =
      (classifyAt path v).value.mapError (Defect.placed start) := by
  induction v using node_induction generalizing path with
  | logical k vs ih =>
    -- The operands stand one segment further down, so the hypothesis is needed at any path.
    simp only [classifyFrom, OperatorKind.ofSymbol?_connective, Connective.ofSymbol?_symbol]
    rw [classifyAt_logical, Traced.value_map,
      classifyOperandsFrom_suffix fun v hv path => ih v hv path]
    cases (classifyOperands path 1 vs).value <;> rfl
  | comparison r vs =>
    rw [classifyAt_comparison, Traced.value_pure, ← classifyComparisonFrom_suffix]
    simp [classifyFrom]
  | unrecognized symbol vs hk hr =>
    rw [classifyAt_unrecognized _ _ hk hr]
    simp [classifyFrom, OperatorKind.ofSymbol?_eq_none_iff.2 ⟨hk, hr⟩]
  | untagged head vs h =>
    rw [classifyAt_untagged _ _ h, classifyFrom]
    · rfl
    · exact fun s e => h s e
  | notAList v h =>
    rw [classifyAt_notAList _ h, classifyFrom]
    · rfl
    · exact fun symbol vs e => h (.string symbol) vs e
    · exact fun head vs e => h head vs e

theorem classifyFrom_eq (start : String) (v : Json) :
    classifyFrom start v = (ofJson v).mapError (Defect.placed start) := by
  have fromRoot := classifyFrom_suffix start .root v
  rwa [Path.suffix_root, String.append_empty] at fromRoot

theorem classifyFrom_text (path : Path) (v : Json) :
    classifyFrom path.text v =
      (classifyAt path v).value.mapError fun d => ⟨d.flaw, d.path.text⟩ := by
  have placed : Defect.placed "$" = fun d => ⟨d.flaw, d.path.text⟩ :=
    funext fun d => by rw [Path.text_eq_suffix, Defect.placed]
  rw [Path.text_eq_suffix, classifyFrom_suffix, placed]

theorem classifyFrom_cases (v : Json) :
    (∃ c, ∀ start, classifyFrom start v = .ok c) ∨
    ∃ (flaw : Flaw) (is : List Nat), (∀ i ∈ is, 1 ≤ i) ∧ ∀ start,
      classifyFrom start v = .error ⟨flaw, start ++ String.join (is.map Path.segment)⟩ := by
  cases hv : ofJson v with
  | ok c =>
    refine .inl ⟨c, fun start => ?_⟩
    rw [classifyFrom_eq, hv, Except.mapError_ok]
  | error d =>
    refine .inr ⟨d.flaw, d.path.fromRoot, (ofJson_eq_error_iff.1 hv).1.positive, fun start => ?_⟩
    rw [classifyFrom_eq, hv, Except.mapError_error]
    rfl

theorem ofJson_of_operand (k : Connective) {left : List Json} {v : Json} {d : Defect}
    (hleft : ∀ u ∈ left, ∃ c, ofJson u = .ok c) (hv : ofJson v = .error d) (right : List Json) :
    ofJson (.array (.string k.symbol :: (left ++ v :: right))) =
      .error (d.under (Path.root.child (left.length + 1))) := by
  rw [ofJson_logical, Except.map_eq_error_iff, classifyOperands_eq_error_iff]
  refine ⟨left.length, v, d, by simp, ?_, hv, by rw [Nat.add_comm]⟩
  intro l hl
  obtain ⟨c, hc⟩ := hleft left[l] (List.getElem_mem hl)
  have found : (left ++ v :: right)[l]? = some left[l] := by
    rw [List.getElem?_append_left hl, List.getElem?_eq_getElem hl]
  exact ⟨left[l], c, found, hc⟩

theorem classifyFrom_operand (k : Connective) {left : List Json} {v : Json} {d : Defect}
    (hleft : ∀ u ∈ left, ∃ c, ofJson u = .ok c) (hv : ofJson v = .error d) (right : List Json)
    (start : String) :
    classifyFrom start (.array (.string k.symbol :: (left ++ v :: right))) =
      .error ⟨d.flaw, start ++ Path.segment (left.length + 1) ++ d.path.suffix⟩ := by
  rw [classifyFrom_eq, ofJson_of_operand k hleft hv right, Except.mapError_error, Defect.under,
    Defect.placed_mk, Path.suffix_append_child, String.append_assoc]

/-- At any two places a value is the same condition, or has the same flaw and the same segments that
lead to it. So an operand with conditions to its left hands its flaw to the node, with its own
segment in front of these. -/
theorem classifyFrom_uniform :
    (∀ (path : Path) (v : Json), classifyFrom path.text v =
      (classifyAt path v).value.mapError fun d => ⟨d.flaw, d.path.text⟩) ∧
    (∀ (v : Json) (p q : String),
      (∃ c, classifyFrom p v = .ok c ∧ classifyFrom q v = .ok c) ∨
      ∃ (flaw : Flaw) (is : List Nat), (∀ i ∈ is, 1 ≤ i) ∧
        classifyFrom p v = .error ⟨flaw, p ++ String.join (is.map Path.segment)⟩ ∧
        classifyFrom q v = .error ⟨flaw, q ++ String.join (is.map Path.segment)⟩) ∧
    ∀ (k : Connective) (left right : List Json) (v : Json) (p s : String) (flaw : Flaw),
      (∀ u ∈ left, ∃ c, ofJson u = .ok c) →
      classifyFrom "$" v = .error ⟨flaw, "$" ++ s⟩ →
      classifyFrom p (.array (.string k.symbol :: (left ++ v :: right))) =
        .error ⟨flaw, p ++ Path.segment (left.length + 1) ++ s⟩ := by
  refine ⟨classifyFrom_text, fun v p q => ?_, fun k left right v p s flaw hleft hv => ?_⟩
  · rcases classifyFrom_cases v with ⟨c, hc⟩ | ⟨flaw, is, positive, hflaw⟩
    · exact .inl ⟨c, hc p, hc q⟩
    · exact .inr ⟨flaw, is, positive, hflaw p, hflaw q⟩
  · rw [classifyFrom_eq, Except.mapError_eq_error_iff] at hv
    obtain ⟨d, hd, placed⟩ := hv
    rw [Defect.placed, PlacedFlaw.mk.injEq] at placed
    obtain ⟨rfl, hs⟩ := placed
    rw [classifyFrom_operand k hleft hd right p, (String.append_right_inj _).1 hs]

theorem classifyFrom_uniform_operand :
    let left : List Json := [.array [.string "==", .null, .string ""]]
    let v : Json := .array [.string "AND", .array [.string "==", .boolean true, .string ""]]
    let right : List Json := [.array [.string "NOT"]]
    (∀ u ∈ left, ∃ c, ofJson u = .ok c) ∧
    classifyFrom "$" v = .error ⟨.operandNotString, "$" ++ "[1][1]"⟩ ∧
    classifyFrom "$[3]" (.array (.string "OR" :: (left ++ v :: right))) =
      .error ⟨.operandNotString, "$[3][2][1][1]"⟩ := by
  intro left v right
  have hleft : ∀ u ∈ left, ∃ c, ofJson u = .ok c := by
    intro u hu
    rw [List.mem_singleton.1 hu]
    exact ⟨.comparison .equal none "", rfl⟩
  have hv : classifyFrom "$" v = .error ⟨.operandNotString, "$" ++ "[1][1]"⟩ := by rfl
  have place : "$[3]" ++ Path.segment (left.length + 1) ++ "[1][1]" = "$[3][2][1][1]" := by decide
  refine ⟨hleft, hv, ?_⟩
  rw [← place]
  exact classifyFrom_uniform.2.2 .or left right v "$[3]" "[1][1]" _ hleft hv

end Condition

end Conditions
