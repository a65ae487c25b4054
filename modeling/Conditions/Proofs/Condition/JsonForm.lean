import Conditions.Proofs.Condition.Classification

set_option autoImplicit false

namespace Conditions.Condition

theorem toJson_logical (k : Connective) (cs : List Condition) :
    toJson (.logical k cs) = .array (.string k.symbol :: cs.map toJson) := by
  rw [toJson, toJsonList_eq_map]

theorem toJson_comparison (r : Relation) (reference : Option String) (literal : String) :
    toJson (.comparison r reference literal) =
      .array [.string r.symbol, reference.elim .null .string, .string literal] := by
  cases reference <;> rfl

theorem ofJson_logical_eq_ok_iff {k : Connective} {vs : List Json} {c : Condition} :
    ofJson (.array (.string k.symbol :: vs)) = .ok c ↔
      ∃ cs, vs.map ofJson = cs.map .ok ∧ c = .logical k cs := by
  rw [ofJson_logical]
  cases h : (classifyOperands .root 1 vs).value with
  | error d =>
    constructor
    · intro hc
      cases hc
    · rintro ⟨cs, hcs, -⟩
      rw [classifyOperands_eq_ok_iff.2 hcs] at h
      cases h
  | ok cs =>
    constructor
    · intro hc
      exact ⟨cs, classifyOperands_eq_ok_iff.1 h, (Except.ok.inj hc).symm⟩
    · rintro ⟨ds, hds, rfl⟩
      rw [classifyOperands_eq_ok_iff.2 hds] at h
      rw [Except.ok.inj h, Except.map]

theorem classifyComparison_eq_ok_iff {path : Path} {r : Relation} {vs : List Json}
    {c : Condition} :
    classifyComparison path r vs = .ok c ↔ c.toJson = .array (.string r.symbol :: vs) ∧
      ∃ reference literal, c = .comparison r reference literal := by
  constructor
  · intro h
    unfold classifyComparison at h
    split at h
    · split at h
      · split at h
        · cases h
          exact ⟨rfl, _, _, rfl⟩
        · cases h
      · split at h
        · cases h
          exact ⟨rfl, _, _, rfl⟩
        · cases h
      · cases h
    · cases h
  · rintro ⟨h, reference, literal, rfl⟩
    rw [toJson_comparison, Json.array.injEq] at h
    obtain ⟨-, rfl⟩ := List.cons.inj h
    cases reference <;> rfl

theorem ofJson_toJson (c : Condition) : ofJson c.toJson = .ok c := by
  induction c using operand_induction with
  | comparison r reference literal =>
    have form := toJson_comparison r reference literal
    rw [form, ofJson_comparison]
    exact classifyComparison_eq_ok_iff.2 ⟨form, reference, literal, rfl⟩
  | logical k cs ih =>
    rw [toJson_logical]
    refine ofJson_logical_eq_ok_iff.2 ⟨cs, ?_, rfl⟩
    rw [List.map_map]
    exact List.map_congr_left ih

theorem map_toJson_of_map_ofJson {vs : List Json} {cs : List Condition}
    (inverse : ∀ v ∈ vs, ∀ c, ofJson v = .ok c → c.toJson = v)
    (h : vs.map ofJson = cs.map .ok) : cs.map toJson = vs := by
  induction vs generalizing cs with
  | nil => rw [List.map_eq_nil_iff.1 h.symm, List.map_nil]
  | cons v vs ih =>
    cases cs with
    | nil => cases h
    | cons c cs =>
      obtain ⟨hc, hcs⟩ := List.cons.inj h
      rw [List.map_cons, inverse v List.mem_cons_self c hc,
        ih (fun u hu => inverse u (List.mem_cons_of_mem v hu)) hcs]

theorem toJson_of_ofJson {v : Json} {c : Condition} (h : ofJson v = .ok c) : c.toJson = v := by
  induction v using node_induction generalizing c with
  | logical k vs ih =>
    obtain ⟨cs, hcs, rfl⟩ := ofJson_logical_eq_ok_iff.1 h
    rw [toJson_logical, map_toJson_of_map_ofJson (fun v hv c => ih v hv) hcs]
  | comparison r vs =>
    rw [ofJson_comparison] at h
    exact (classifyComparison_eq_ok_iff.1 h).1
  | unrecognized symbol vs hk hr =>
    rw [ofJson_unrecognized vs hk hr] at h
    cases h
  | untagged head vs hs =>
    rw [ofJson_untagged vs hs] at h
    cases h
  | notAList v hv =>
    rw [ofJson_notAList hv] at h
    cases h

theorem ofJson_eq_ok_iff {v : Json} {c : Condition} : ofJson v = .ok c ↔ c.toJson = v :=
  ⟨toJson_of_ofJson, fun h => h ▸ ofJson_toJson c⟩

theorem toJson_injective {c d : Condition} (h : c.toJson = d.toJson) : c = d :=
  Except.ok.inj ((ofJson_toJson c).symm.trans (h ▸ ofJson_toJson d))

/-- Nothing is lost or coerced in either direction, so the accepted values are the forms of the
conditions, and different ones are forms of different conditions. -/
theorem ofJson_inverts_toJson :
    (∀ c : Condition, ofJson c.toJson = .ok c) ∧
    (∀ (v : Json) (c : Condition), ofJson v = .ok c → c.toJson = v) ∧
    (∀ v : Json, (∃ c, ofJson v = .ok c) ↔ ∃ c : Condition, c.toJson = v) ∧
    ∀ (v w : Json) (c d : Condition), ofJson v = .ok c → ofJson w = .ok d → v ≠ w → c ≠ d := by
  refine ⟨ofJson_toJson, fun v c => toJson_of_ofJson, ?_, ?_⟩
  · intro v
    exact exists_congr fun c => ofJson_eq_ok_iff
  · intro v w c d hv hw hne heq
    apply hne
    rw [← toJson_of_ofJson hv, ← toJson_of_ofJson hw, heq]

theorem ofJson_inverts_toJson_references :
    ofJson (.array [.string "OR", .array [.string "==", .null, .string ""]]) =
        .ok (.or [.comparison .equal none ""]) ∧
      ofJson (.array [.string "OR", .array [.string "==", .string "", .string ""]]) =
        .ok (.or [.equals "" ""]) ∧
      toJson (.or [.comparison .equal none ""]) =
        .array [.string "OR", .array [.string "==", .null, .string ""]] ∧
      or [.comparison .equal none ""] ≠ or [.equals "" ""] := by
  refine ⟨by rfl, by rfl, ofJson_inverts_toJson.2.1 _ _ (by rfl), ?_⟩
  apply ofJson_inverts_toJson.2.2.2 _ _ _ _ (ofJson_toJson _) (ofJson_toJson _)
  simp [or, equals, toJson_logical, toJson_comparison]

end Conditions.Condition
