import Conditions.Proofs.Condition.DefectivePlace

set_option autoImplicit false

namespace Conditions

namespace Condition

theorem classifyComparison_of_length_ne {path : Path} {r : Relation} {vs : List Json}
    (h : vs.length ≠ 2) : classifyComparison path r vs = .error ⟨.arity vs.length, path⟩ := by
  unfold classifyComparison
  split
  · exact absurd rfl h
  · rfl

theorem classifyComparison_pair_eq_error_iff {r : Relation} {reference literal : Json}
    {d : Defect} :
    classifyComparison .root r [reference, literal] = .error d ↔
      ∃ i, FaultyOperand reference literal i ∧ d = ⟨.operandNotString, Path.child .root i⟩ := by
  unfold FaultyOperand
  cases reference with
  | null | string _ => cases literal <;> simp [classifyComparison, eq_comm (b := d)]
  | _ => simp [classifyComparison, eq_comm (b := d)]

theorem ofJson_eq_error_iff_of_leaf {v : Json} {found : Flaw} {d : Defect}
    (hv : ofJson v = .error ⟨found, .root⟩) (hlogical : ¬ v.IsLogical)
    (hnode : ∀ flaw : Flaw, flaw.OfNode v ↔ flaw = found)
    (hpair : ∀ reference literal, v ≠ .array [.string "==", reference, literal]) :
    ofJson v = .error d ↔
      DefectivePlace v d.path.fromRoot d.flaw ∧ LeftOperandsClassify v d.path.fromRoot := by
  rw [hv, Except.error.injEq, defectivePlace_leaf_iff hlogical, hnode]
  constructor
  · rintro rfl
    exact ⟨.inl ⟨rfl, rfl⟩, leftOperandsClassify_nil v⟩
  · rintro ⟨⟨hpath, hflaw⟩ | ⟨reference, literal, i, heq, -⟩, -⟩
    · exact Defect.ext_fromRoot hflaw.symm hpath.symm
    · exact absurd heq (hpair reference literal)

theorem ofJson_eq_error_iff {v : Json} {d : Defect} :
    ofJson v = .error d ↔
      DefectivePlace v d.path.fromRoot d.flaw ∧ LeftOperandsClassify v d.path.fromRoot := by
  induction v using node_induction generalizing d with
  | logical k vs ih =>
    -- The first operand that fails is the one where the path goes on, by the operands to its left.
    rw [ofJson_logical, Except.map_eq_error_iff, classifyOperands_eq_error_iff,
      defectivePlace_logical_iff]
    constructor
    · rintro ⟨j, u, e, hu, hok, he, rfl⟩
      obtain ⟨hplace, hleft⟩ := (ih u (List.mem_of_getElem? hu)).1 he
      rw [Nat.add_comm]
      refine ⟨⟨j, u, e.path.fromRoot, Path.fromRoot_append_child _ _, hu, hplace⟩, ?_⟩
      rw [Defect.under, Path.fromRoot_append_child, leftOperandsClassify_operand_iff hu]
      exact ⟨hok, hleft⟩
    · rintro ⟨⟨j, u, is, hjs, hu, hplace⟩, hleft⟩
      rw [hjs, leftOperandsClassify_operand_iff hu] at hleft
      have hpath : (Path.mk is.reverse).fromRoot = is := List.reverse_reverse is
      have he : ofJson u = .error ⟨d.flaw, ⟨is.reverse⟩⟩ := by
        rw [ih u (List.mem_of_getElem? hu), hpath]
        exact ⟨hplace, hleft.2⟩
      refine ⟨j, u, _, hu, hleft.1, he, Defect.ext_fromRoot rfl ?_⟩
      rw [hjs, Defect.under_mk, Path.fromRoot_append_child, hpath, Nat.add_comm]
  | comparison r vs =>
    have hlogical := Json.not_isLogical_comparison r vs
    by_cases hvs : vs.length = 2
    · obtain ⟨reference, literal, rfl⟩ : ∃ reference literal, vs = [reference, literal] := by
        match vs, hvs with
        | [reference, literal], _ => exact ⟨reference, literal, rfl⟩
      rw [ofJson_comparison, classifyComparison_pair_eq_error_iff, defectivePlace_leaf_iff hlogical]
      cases r
      constructor
      · rintro ⟨i, hi, rfl⟩
        exact ⟨.inr ⟨reference, literal, i, rfl, hi, rfl, rfl⟩,
          leftOperandsClassify_singleton hlogical i⟩
      · rintro ⟨⟨-, hnode⟩ | ⟨reference', literal', i, heq, hi, hpath, hflaw⟩, -⟩
        · exact absurd hvs (Flaw.ofNode_comparison_iff.1 hnode).2
        · cases heq
          exact ⟨i, hi, Defect.ext_fromRoot hflaw hpath⟩
    · apply ofJson_eq_error_iff_of_leaf _ hlogical
      · intro flaw
        rw [Flaw.ofNode_comparison_iff, and_iff_left hvs]
      · intro reference literal heq
        cases heq
        exact hvs rfl
      · rw [ofJson_comparison, classifyComparison_of_length_ne hvs]
  | unrecognized symbol vs hk hr =>
    apply ofJson_eq_error_iff_of_leaf (ofJson_unrecognized vs hk hr)
      (Json.not_isLogical_unrecognized vs hk) fun flaw => Flaw.ofNode_unrecognized_iff hk hr
    intro reference literal heq
    cases heq
    exact Relation.ofSymbol?_eq_none_iff.1 hr rfl
  | untagged head vs h =>
    apply ofJson_eq_error_iff_of_leaf (ofJson_untagged vs h)
      (Json.not_isLogical_untagged vs h) fun flaw => Flaw.ofNode_untagged_iff h
    intro reference literal heq
    cases heq
    exact h _ rfl
  | notAList v h =>
    apply ofJson_eq_error_iff_of_leaf (ofJson_notAList h)
      (Json.not_isLogical_notAList h) fun flaw => Flaw.ofNode_notAList_iff h
    intro reference literal heq
    exact h _ _ heq

/-- As the lists of symbols and the operators agree, a symbol that is in the list for AND and OR is
one of them. -/
theorem ofJson_ne_notConnective (v : Json) (symbol : String) (path : Path) :
    ofJson v ≠ .error ⟨.notConnective symbol, path⟩ := by
  intro h
  obtain ⟨hplace, -⟩ := ofJson_eq_error_iff.1 h
  generalize path.fromRoot = is at hplace
  cases hplace with
  | node reached through faulty => exact faulty

theorem ofJson_error_of_leaf {v : Json} {is : List Nat} {flaw : Flaw} (hlogical : ¬ v.IsLogical)
    (h : DefectivePlace v is flaw) : ∃ d, ofJson v = .error d ∧ ¬ is < d.path.fromRoot := by
  have hpath : (Path.mk is.reverse).fromRoot = is := List.reverse_reverse is
  refine ⟨⟨flaw, ⟨is.reverse⟩⟩, ofJson_eq_error_iff.2 ?_, ?_⟩
  · rw [hpath]
    refine ⟨h, ?_⟩
    rcases (defectivePlace_leaf_iff hlogical).1 h with ⟨rfl, -⟩ | ⟨_, _, i, -, -, rfl, -⟩
    · exact leftOperandsClassify_nil v
    · exact leftOperandsClassify_singleton hlogical i
  · rw [hpath]
    exact List.lt_irrefl is

theorem ofJson_error_of_defectivePlace {v : Json} {is : List Nat} {flaw : Flaw}
    (h : DefectivePlace v is flaw) : ∃ d, ofJson v = .error d ∧ ¬ is < d.path.fromRoot := by
  induction v using node_induction generalizing is flaw with
  | logical k vs ih =>
    obtain ⟨i, u, is, rfl, hu, hplace⟩ := defectivePlace_logical_iff.1 h
    obtain ⟨e, he, hle⟩ := ih u (List.mem_of_getElem? hu) hplace
    cases hd : ofJson (.array (.string k.symbol :: vs)) with
    | ok c =>
      rw [ofJson_logical, Except.map_eq_ok_iff] at hd
      obtain ⟨cs, hcs, -⟩ := hd
      have hi := congrArg (fun l => l[i]?) (classifyOperands_eq_ok_iff.1 hcs)
      rw [List.getElem?_map, List.getElem?_map, hu, Option.map_some, he] at hi
      cases hc : cs[i]? <;> rw [hc] at hi <;> cases hi
    | error d =>
      rw [ofJson_logical, Except.map_eq_error_iff, classifyOperands_eq_error_iff] at hd
      obtain ⟨j, w, e', hw, hok, he', rfl⟩ := hd
      refine ⟨_, rfl, ?_⟩
      -- Operand `i` holds a defect, so the first operand that fails is not behind it.
      have hj : j ≤ i := by
        apply Nat.le_of_not_lt
        intro hlt
        obtain ⟨u', c, hu', hc⟩ := hok i hlt
        rw [hu] at hu'
        cases hu'
        rw [he] at hc
        cases hc
      rw [Defect.under, Path.fromRoot_append_child, List.cons_lt_cons_iff]
      intro hlt
      rcases hlt with hlt | ⟨heq, hlt⟩
      · omega
      · have hij : i = j := by omega
        subst hij
        rw [hu] at hw
        cases hw
        rw [he] at he'
        cases he'
        exact hle hlt
  | comparison r vs => exact ofJson_error_of_leaf (Json.not_isLogical_comparison r vs) h
  | unrecognized symbol vs hk hr =>
    exact ofJson_error_of_leaf (Json.not_isLogical_unrecognized vs hk) h
  | untagged head vs hs => exact ofJson_error_of_leaf (Json.not_isLogical_untagged vs hs) h
  | notAList v hv => exact ofJson_error_of_leaf (Json.not_isLogical_notAList hv) h

/-- Classification fails if and only if there is a defective place, and tells the one that has only
conditions to its left. No defective place comes before it. -/
theorem ofJson_error_iff_first_defect (v : Json) :
    (∀ d : Defect, ofJson v = .error d ↔
      DefectivePlace v d.path.fromRoot d.flaw ∧ LeftOperandsClassify v d.path.fromRoot) ∧
    (∀ is flaw, DefectivePlace v is flaw → ∃ d, ofJson v = .error d ∧ ¬ is < d.path.fromRoot) ∧
    ∀ d : Defect, ofJson v = .error d → (∀ i ∈ d.path.fromRoot, 1 ≤ i) ∧
      d.path.text = "$" ++ String.join (d.path.fromRoot.map fun i => "[" ++ Nat.repr i ++ "]") := by
  refine ⟨fun d => ofJson_eq_error_iff, fun is flaw => ofJson_error_of_defectivePlace, ?_⟩
  intro d hd
  exact ⟨(ofJson_eq_error_iff.1 hd).1.positive, d.path.text_eq_join⟩

/-- The unknown symbol comes later, and the first operand of the inner OR is a condition. -/
theorem ofJson_error_iff_first_defect_nested :
    let v : Json := .array [.string "AND", .array [.string "OR",
      .array [.string "==", .null, .string ""], .array [.string "==", .boolean true, .null]],
      .array [.string "NOT"]]
    ofJson v = .error ⟨.operandNotString, ⟨[1, 2, 1]⟩⟩ ∧
      DefectivePlace v [1, 2, 1] .operandNotString ∧ LeftOperandsClassify v [1, 2, 1] := by
  intro v
  have hv : ofJson v = .error ⟨.operandNotString, ⟨[1, 2, 1]⟩⟩ := by rfl
  exact ⟨hv, ((ofJson_error_iff_first_defect v).1 _).1 hv⟩

end Condition

end Conditions
