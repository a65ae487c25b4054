import Conditions.Proofs.Condition.Classification

set_option autoImplicit false

/-!
# Defective places

Places in a value are lists of indices, the outermost first, so that depth first and left to right
is their lexicographic order. A place is defective if it is reached through AND and OR nodes only
and cannot be a condition there. The laws here say what a place of a node is in terms of the places
of its operands, and what it is at a leaf.
-/
namespace Conditions

/-- What the indices lead to. -/
def Json.follow? (v : Json) : List Nat → Option Json
  | [] => some v
  | i :: is =>
    match v with
    | .array items => items[i]?.bind fun item => item.follow? is
    | _ => none

def Json.IsLogical (v : Json) : Prop :=
  ∃ tag operands, v = .array (.string tag :: operands) ∧ (tag = "AND" ∨ tag = "OR")

/-- The flaws that a value can have as a node. An operand of a comparison is no node. -/
def Flaw.OfNode (v : Json) : Flaw → Prop
  | .notAList => (∀ items, v ≠ .array items) ∨ v = .array []
  | .symbolNotString => ∃ head rest, v = .array (head :: rest) ∧ ∀ s, head ≠ .string s
  | .unrecognized tag =>
    ∃ rest, v = .array (.string tag :: rest) ∧ tag ≠ "AND" ∧ tag ≠ "OR" ∧ tag ≠ "=="
  | .notConnective _ => False
  | .arity found => ∃ rest, v = .array (.string "==" :: rest) ∧ rest.length = found ∧ found ≠ 2
  | .operandNotString => False

/-- The operand at index `i` of a comparison with two operands is the first that is faulty. -/
def FaultyOperand (reference literal : Json) (i : Nat) : Prop :=
  i = 1 ∧ reference ≠ .null ∧ (∀ s, reference ≠ .string s) ∨
    i = 2 ∧ (reference = .null ∨ ∃ s, reference = .string s) ∧ ∀ s, literal ≠ .string s

/-- Every value on the way is a logical node, and is left for one of its operands. -/
def ThroughLogical (v : Json) (is : List Nat) : Prop :=
  ∀ before i after, is = before ++ i :: after →
    1 ≤ i ∧ ∃ node, v.follow? before = some node ∧ node.IsLogical

inductive DefectivePlace (v : Json) : List Nat → Flaw → Prop
  | node {is : List Nat} {w : Json} {flaw : Flaw} (reached : v.follow? is = some w)
      (through : ThroughLogical v is) (faulty : flaw.OfNode w) : DefectivePlace v is flaw
  | operand {is : List Nat} {reference literal : Json} {i : Nat}
      (reached : v.follow? is = some (.array [.string "==", reference, literal]))
      (through : ThroughLogical v is) (faulty : FaultyOperand reference literal i) :
      DefectivePlace v (is ++ [i]) .operandNotString

theorem ThroughLogical.positive {v : Json} {is : List Nat} (h : ThroughLogical v is) :
    ∀ i ∈ is, 1 ≤ i := by
  intro i hi
  obtain ⟨before, after, heq⟩ := List.append_of_mem hi
  exact (h before i after heq).1

theorem DefectivePlace.positive {v : Json} {is : List Nat} {flaw : Flaw}
    (h : DefectivePlace v is flaw) : ∀ i ∈ is, 1 ≤ i := by
  cases h with
  | node reached through faulty => exact through.positive
  | operand reached through faulty =>
    intro j hj
    rcases List.mem_append.1 hj with hj | hj
    · exact through.positive j hj
    · rw [List.mem_singleton.1 hj]
      rcases faulty with ⟨rfl, -⟩ | ⟨rfl, -⟩
      · exact Nat.le_refl 1
      · exact Nat.le_succ 1

/-- In every logical node on the way the operands to the left are conditions. -/
def LeftOperandsClassify (v : Json) (is : List Nat) : Prop :=
  ∀ before i after node, is = before ++ i :: after → v.follow? before = some node →
    node.IsLogical → ∀ j, 1 ≤ j → j < i →
      ∃ w c, v.follow? (before ++ [j]) = some w ∧ Condition.ofJson w = .ok c

def Path.fromRoot (p : Path) : List Nat := p.indices.reverse

theorem Path.fromRoot_child (p : Path) (i : Nat) : (p.child i).fromRoot = p.fromRoot ++ [i] :=
  List.reverse_cons

@[simp] theorem Path.fromRoot_append_child (p : Path) (i : Nat) :
    ((root.child i).append p).fromRoot = i :: p.fromRoot := by
  rw [fromRoot, append, List.reverse_append]
  rfl

theorem Path.fromRoot_injective {p q : Path} (h : p.fromRoot = q.fromRoot) : p = q := by
  obtain ⟨is⟩ := p
  obtain ⟨js⟩ := q
  exact congrArg Path.mk (List.reverse_inj.1 h)

theorem Defect.ext_fromRoot {d e : Defect} (hflaw : d.flaw = e.flaw)
    (hpath : d.path.fromRoot = e.path.fromRoot) : d = e := by
  obtain ⟨flaw, p⟩ := d
  obtain ⟨flaw', q⟩ := e
  cases hflaw
  rw [Path.fromRoot_injective (p := p) hpath]

def Path.suffix (p : Path) : String := String.join (p.fromRoot.map segment)

@[simp] theorem Path.suffix_root : root.suffix = "" := rfl

@[simp] theorem Path.suffix_child (p : Path) (i : Nat) :
    (p.child i).suffix = p.suffix ++ segment i := by
  rw [suffix, fromRoot_child, List.map_append, String.join_append]
  rfl

@[simp] theorem Path.suffix_append_child (p : Path) (i : Nat) :
    ((root.child i).append p).suffix = segment i ++ p.suffix := by
  simp [suffix]

theorem Path.text_eq_suffix (p : Path) : p.text = "$" ++ p.suffix := by
  obtain ⟨is⟩ := p
  induction is with
  | nil => rfl
  | cons i is ih =>
    change (Path.child ⟨is⟩ i).text = "$" ++ (Path.child ⟨is⟩ i).suffix
    rw [text_child, suffix_child, ih, String.append_assoc]

theorem Path.text_eq_join (p : Path) :
    p.text = "$" ++ String.join (p.fromRoot.map fun i => "[" ++ Nat.repr i ++ "]") :=
  p.text_eq_suffix

namespace Json

theorem isLogical_iff {v : Json} :
    v.IsLogical ↔ ∃ (k : Connective) (operands : List Json),
      v = .array (.string k.symbol :: operands) := by
  constructor
  · rintro ⟨tag, operands, rfl, rfl | rfl⟩
    · exact ⟨.and, operands, rfl⟩
    · exact ⟨.or, operands, rfl⟩
  · rintro ⟨k, operands, rfl⟩
    refine ⟨k.symbol, operands, rfl, ?_⟩
    cases k with
    | and => exact .inl rfl
    | or => exact .inr rfl

theorem not_isLogical_comparison (r : Relation) (vs : List Json) :
    ¬ (Json.array (.string r.symbol :: vs)).IsLogical := by
  intro h
  obtain ⟨k, operands, heq⟩ := isLogical_iff.1 h
  cases r
  cases k <;> simp [Relation.symbol, Connective.symbol] at heq

theorem not_isLogical_unrecognized {symbol : String} (vs : List Json)
    (h : Connective.ofSymbol? symbol = none) :
    ¬ (Json.array (.string symbol :: vs)).IsLogical := by
  intro hlogical
  obtain ⟨k, operands, heq⟩ := isLogical_iff.1 hlogical
  cases heq
  rw [Connective.ofSymbol?_symbol] at h
  cases h

theorem not_isLogical_untagged {head : Json} (vs : List Json) (h : ∀ s, head ≠ .string s) :
    ¬ (Json.array (head :: vs)).IsLogical := by
  intro hlogical
  obtain ⟨k, operands, heq⟩ := isLogical_iff.1 hlogical
  cases heq
  exact h k.symbol rfl

theorem not_isLogical_notAList {v : Json} (h : ∀ head vs, v ≠ .array (head :: vs)) :
    ¬ v.IsLogical := by
  intro hlogical
  obtain ⟨k, operands, heq⟩ := isLogical_iff.1 hlogical
  exact h _ _ heq

@[simp] theorem follow?_nil (v : Json) : v.follow? [] = some v := by
  cases v <;> rfl

theorem follow?_operand {k : Connective} {vs : List Json} {i : Nat} {u : Json}
    (h : vs[i]? = some u) (is : List Nat) :
    follow? (.array (.string k.symbol :: vs)) ((i + 1) :: is) = u.follow? is := by
  rw [follow?, List.getElem?_cons_succ, h, Option.bind_some]

theorem operand_of_follow? {k : Connective} {vs : List Json} {i : Nat} {is : List Nat} {w : Json}
    (h : follow? (.array (.string k.symbol :: vs)) (i :: is) = some w) (hi : 1 ≤ i) :
    ∃ j u, i = j + 1 ∧ vs[j]? = some u ∧ u.follow? is = some w := by
  obtain ⟨j, rfl⟩ : ∃ j, i = j + 1 := ⟨i - 1, by omega⟩
  rw [follow?, List.getElem?_cons_succ] at h
  obtain ⟨u, hu, hw⟩ := Option.bind_eq_some_iff.1 h
  exact ⟨j, u, rfl, hu, hw⟩

end Json

theorem throughLogical_nil (v : Json) : ThroughLogical v [] := by
  intro before i after h
  cases before <;> cases h

theorem ThroughLogical.head {v : Json} {i : Nat} {is : List Nat}
    (h : ThroughLogical v (i :: is)) : 1 ≤ i ∧ v.IsLogical := by
  obtain ⟨hi, node, hnode, hlogical⟩ := h [] i is rfl
  rw [Json.follow?_nil] at hnode
  cases hnode
  exact ⟨hi, hlogical⟩

theorem throughLogical_operand_iff {k : Connective} {vs : List Json} {i : Nat} {u : Json}
    (h : vs[i]? = some u) {is : List Nat} :
    ThroughLogical (.array (.string k.symbol :: vs)) ((i + 1) :: is) ↔ ThroughLogical u is := by
  constructor
  · intro through before j after heq
    obtain ⟨hj, node, hnode, hlogical⟩ := through ((i + 1) :: before) j after (by rw [heq]; rfl)
    rw [Json.follow?_operand h] at hnode
    exact ⟨hj, node, hnode, hlogical⟩
  · intro through before j after heq
    cases before with
    | nil =>
      obtain ⟨rfl, -⟩ := List.cons.inj heq
      exact ⟨Nat.le_add_left 1 i, _, Json.follow?_nil _, Json.isLogical_iff.2 ⟨k, vs, rfl⟩⟩
    | cons m before =>
      obtain ⟨rfl, htail⟩ := List.cons.inj heq
      obtain ⟨hj, node, hnode, hlogical⟩ := through before j after htail
      exact ⟨hj, node, by rw [Json.follow?_operand h, hnode], hlogical⟩

theorem leftOperandsClassify_nil (v : Json) : LeftOperandsClassify v [] := by
  intro before i after node h
  cases before <;> cases h

theorem leftOperandsClassify_singleton {v : Json} (h : ¬ v.IsLogical) (i : Nat) :
    LeftOperandsClassify v [i] := by
  intro before j after node heq hnode hlogical
  cases before with
  | nil =>
    rw [Json.follow?_nil] at hnode
    cases hnode
    exact absurd hlogical h
  | cons m before =>
    have htail := (List.cons.inj heq).2
    cases before <;> cases htail

theorem leftOperandsClassify_operand_iff {k : Connective} {vs : List Json} {i : Nat} {u : Json}
    (h : vs[i]? = some u) {is : List Nat} :
    LeftOperandsClassify (.array (.string k.symbol :: vs)) ((i + 1) :: is) ↔
      (∀ l < i, ∃ w c, vs[l]? = some w ∧ Condition.ofJson w = .ok c) ∧
        LeftOperandsClassify u is := by
  constructor
  · intro left
    refine ⟨?_, ?_⟩
    · intro l hl
      obtain ⟨w, c, hw, hc⟩ := left [] (i + 1) is _ rfl (Json.follow?_nil _)
        (Json.isLogical_iff.2 ⟨k, vs, rfl⟩) (l + 1) (Nat.le_add_left 1 l) (by omega)
      obtain ⟨j, w', hj, hw', hend⟩ := Json.operand_of_follow? hw (Nat.le_add_left 1 l)
      rw [Json.follow?_nil, Option.some.injEq] at hend
      rw [Nat.succ.inj hj]
      exact ⟨w, c, hend ▸ hw', hc⟩
    · intro before j after node heq hnode hlogical m hm hmj
      obtain ⟨w, c, hw, hc⟩ := left ((i + 1) :: before) j after node (by rw [heq]; rfl)
        (by rw [Json.follow?_operand h, hnode]) hlogical m hm hmj
      rw [List.cons_append, Json.follow?_operand h] at hw
      exact ⟨w, c, hw, hc⟩
  · rintro ⟨siblings, left⟩ before j after node heq hnode hlogical m hm hmj
    cases before with
    | nil =>
      obtain ⟨rfl, -⟩ := List.cons.inj heq
      obtain ⟨l, rfl⟩ : ∃ l, m = l + 1 := ⟨m - 1, by omega⟩
      obtain ⟨w, c, hw, hc⟩ := siblings l (by omega)
      rw [Json.follow?_nil] at hnode
      cases hnode
      exact ⟨w, c, by rw [List.nil_append, Json.follow?_operand hw, Json.follow?_nil], hc⟩
    | cons n before =>
      obtain ⟨rfl, htail⟩ := List.cons.inj heq
      rw [Json.follow?_operand h] at hnode
      obtain ⟨w, c, hw, hc⟩ := left before j after node htail hnode hlogical m hm hmj
      exact ⟨w, c, by rw [List.cons_append, Json.follow?_operand h, hw], hc⟩

namespace Flaw

theorem not_ofNode_logical {k : Connective} {vs : List Json} {flaw : Flaw} :
    ¬ flaw.OfNode (.array (.string k.symbol :: vs)) := by
  cases flaw with
  | unrecognized tag =>
    rintro ⟨rest, h, hand, hor, -⟩
    cases h
    cases k with
    | and => exact hand rfl
    | or => exact hor rfl
  | _ => cases k <;> simp [OfNode, Connective.symbol]

theorem ofNode_comparison_iff {r : Relation} {vs : List Json} {flaw : Flaw} :
    flaw.OfNode (.array (.string r.symbol :: vs)) ↔ flaw = .arity vs.length ∧ vs.length ≠ 2 := by
  cases r
  cases flaw with
  | arity found =>
    simp only [OfNode, Relation.symbol, Json.array.injEq, List.cons.injEq, true_and, arity.injEq]
    constructor
    · rintro ⟨rest, rfl, rfl, h⟩
      exact ⟨rfl, h⟩
    · rintro ⟨rfl, h⟩
      exact ⟨vs, rfl, rfl, h⟩
  | unrecognized tag =>
    simp only [OfNode, reduceCtorEq, false_and, iff_false]
    rintro ⟨rest, h, -, -, heq⟩
    cases h
    exact heq rfl
  | _ => simp [OfNode, Relation.symbol]

theorem ofNode_unrecognized_iff {symbol : String} {vs : List Json} {flaw : Flaw}
    (hk : Connective.ofSymbol? symbol = none) (hr : Relation.ofSymbol? symbol = none) :
    flaw.OfNode (.array (.string symbol :: vs)) ↔ flaw = .unrecognized symbol := by
  obtain ⟨hand, hor⟩ := Connective.ofSymbol?_eq_none_iff.1 hk
  have heq := Relation.ofSymbol?_eq_none_iff.1 hr
  cases flaw with
  | unrecognized tag =>
    simp only [OfNode, Json.array.injEq, List.cons.injEq, Json.string.injEq, unrecognized.injEq]
    constructor
    · rintro ⟨rest, ⟨rfl, -⟩, -⟩
      rfl
    · rintro rfl
      exact ⟨vs, ⟨rfl, rfl⟩, hand, hor, heq⟩
  | _ => simp [OfNode, heq]

theorem ofNode_untagged_iff {head : Json} {vs : List Json} {flaw : Flaw}
    (h : ∀ s, head ≠ .string s) :
    flaw.OfNode (.array (head :: vs)) ↔ flaw = .symbolNotString := by
  cases flaw <;> simp [OfNode, h]

theorem ofNode_notAList_iff {v : Json} {flaw : Flaw} (h : ∀ head vs, v ≠ .array (head :: vs)) :
    flaw.OfNode v ↔ flaw = .notAList := by
  cases flaw with
  | notAList =>
    simp only [OfNode, iff_true]
    cases v with
    | array items =>
      cases items with
      | nil => exact .inr rfl
      | cons head vs => exact absurd rfl (h head vs)
    | _ => exact .inl fun items e => by cases e
  | _ => simp [OfNode, h]

end Flaw

theorem defectivePlace_logical_iff {k : Connective} {vs : List Json} {js : List Nat}
    {flaw : Flaw} :
    DefectivePlace (.array (.string k.symbol :: vs)) js flaw ↔
      ∃ i u is, js = (i + 1) :: is ∧ vs[i]? = some u ∧ DefectivePlace u is flaw := by
  constructor
  · rintro (⟨reached, through, faulty⟩ | ⟨reached, through, faulty⟩)
    · cases js with
      | nil =>
        rw [Json.follow?_nil, Option.some.injEq] at reached
        exact absurd (reached ▸ faulty) Flaw.not_ofNode_logical
      | cons i is =>
        obtain ⟨j, u, rfl, hu, hw⟩ := Json.operand_of_follow? reached through.head.1
        exact ⟨j, u, is, rfl, hu, .node hw ((throughLogical_operand_iff hu).1 through) faulty⟩
    · rename_i is reference literal i
      cases is with
      | nil =>
        rw [Json.follow?_nil, Option.some.injEq] at reached
        cases k <;> simp [Connective.symbol] at reached
      | cons m is =>
        obtain ⟨j, u, rfl, hu, hw⟩ := Json.operand_of_follow? reached through.head.1
        exact ⟨j, u, is ++ [i], rfl, hu,
          .operand hw ((throughLogical_operand_iff hu).1 through) faulty⟩
  · rintro ⟨i, u, is, rfl, hu, reached, through, faulty⟩
    · rw [← Json.follow?_operand hu] at reached
      exact .node reached ((throughLogical_operand_iff hu).2 through) faulty
    · rename_i is reference literal j reached through faulty
      rw [← Json.follow?_operand (k := k) hu] at reached
      exact .operand reached ((throughLogical_operand_iff hu).2 through) faulty

theorem defectivePlace_leaf_iff {v : Json} (h : ¬ v.IsLogical) {js : List Nat} {flaw : Flaw} :
    DefectivePlace v js flaw ↔ js = [] ∧ flaw.OfNode v ∨
      ∃ reference literal i, v = .array [.string "==", reference, literal] ∧
        FaultyOperand reference literal i ∧ js = [i] ∧ flaw = .operandNotString := by
  constructor
  · rintro (⟨reached, through, faulty⟩ | ⟨reached, through, faulty⟩)
    · cases js with
      | nil =>
        rw [Json.follow?_nil, Option.some.injEq] at reached
        exact .inl ⟨rfl, reached ▸ faulty⟩
      | cons i is => exact absurd through.head.2 h
    · rename_i is reference literal i
      cases is with
      | nil =>
        rw [Json.follow?_nil, Option.some.injEq] at reached
        exact .inr ⟨reference, literal, i, reached, faulty, rfl, rfl⟩
      | cons m is => exact absurd through.head.2 h
  · rintro (⟨rfl, faulty⟩ | ⟨reference, literal, i, rfl, faulty, rfl, rfl⟩)
    · exact .node (Json.follow?_nil v) (throughLogical_nil v) faulty
    · have place := DefectivePlace.operand (Json.follow?_nil _) (throughLogical_nil _) faulty
      rwa [List.nil_append] at place

end Conditions
