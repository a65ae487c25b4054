import Conditions.Proofs.Bindings.Routes
import Conditions.Proofs.CaseTable.Rendering

set_option autoImplicit false

namespace Conditions

open Json (Document)

def Case.IsDocument (case : Case) (d : Document) : Prop :=
  ∃ x, case.bindings.IsDocument x ∧ d = .array [x, .boolean case.expected]

namespace CaseTable

def IsDocument (cases : List Case) (d : Document) : Prop :=
  ∃ ds, List.Forall₂ Case.IsDocument cases ds ∧ d = .array ds

theorem rendering_case_iff {case : Case} {w : List Char} :
    case.Rendering w ↔ ∃ d, case.IsDocument d ∧ d.Spelling w := by
  have bindings : case.bindings.Rendering =
      fun w => ∃ d, case.bindings.IsDocument d ∧ d.Spelling w := by
    funext w
    exact propext Bindings.rendering_iff_isDocument
  have expected : Json.BooleanSpelling case.expected =
      fun w => ∃ d, d = .boolean case.expected ∧ Document.Spelling d w := by
    funext w
    rw [exists_eq_left]
    rfl
  have parts : case.Rendering w ↔
      ∃ ds, List.Forall₂ (fun D d => D d) [case.bindings.IsDocument, (· = .boolean case.expected)] ds ∧
        Document.Spelling (.array ds) w := by
    rw [Case.Rendering, bindings, expected]
    exact Document.bracketed_iff_array [case.bindings.IsDocument, (· = .boolean case.expected)]
  rw [parts]
  constructor
  · rintro ⟨ds, hds, hw⟩
    cases hds with
    | cons hx later =>
      cases later with
      | cons hb later =>
        cases later
        cases hb
        exact ⟨_, ⟨_, hx, rfl⟩, hw⟩
  · rintro ⟨_, ⟨x, hx, rfl⟩, hw⟩
    exact ⟨_, .cons hx (.cons rfl .nil), hw⟩

theorem expectedOfJson_eq_ok_iff {v : Json} {b : Bool} : expectedOfJson v = .ok b ↔ v = .boolean b := by
  cases v <;> simp [expectedOfJson]

theorem caseOfJson_eq_ok_iff {v : Json} {case : Case} :
    caseOfJson v = .ok case ↔
      ∃ x, v = .array [x, .boolean case.expected] ∧ Bindings.ofJson x = .ok case.bindings := by
  constructor
  · intro h
    unfold caseOfJson at h
    split at h
    · cases h
    · obtain ⟨_, -, h⟩ := Except.bind_eq_ok_iff.1 h
      cases h
    · rename_i x expected more
      obtain ⟨bindings, hx, h⟩ := Except.bind_eq_ok_iff.1 h
      obtain ⟨b, hb, h⟩ := Except.bind_eq_ok_iff.1 h
      split at h
      · rename_i hmore
        cases h
        rw [expectedOfJson_eq_ok_iff] at hb
        rw [List.isEmpty_iff] at hmore
        exact ⟨x, by rw [hb, hmore], hx⟩
      · cases h
    · cases h
  · rintro ⟨x, rfl, hx⟩
    simp only [caseOfJson, hx, expectedOfJson]
    rfl

theorem isDocument_case_iff {case : Case} {d : Document} :
    case.IsDocument d ↔ caseOfJson d.value = .ok case ∧ ¬ d.OverwritesIllTyped := by
  have overwrites (x : Document) : Document.OverwritesIllTyped (.array [x, .boolean case.expected]) ↔
      x.OverwritesIllTyped := by
    simp [Document.overwritesIllTyped_array_iff, Document.not_overwritesIllTyped_boolean]
  rw [caseOfJson_eq_ok_iff]
  constructor
  · rintro ⟨x, hx, rfl⟩
    obtain ⟨hread, hover⟩ := Bindings.isDocument_iff.1 hx
    exact ⟨⟨x.value, Document.value_array _, hread⟩, (overwrites x).not.2 hover⟩
  · rintro ⟨⟨v, hv, hread⟩, hover⟩
    obtain ⟨ds, rfl, hds⟩ := Document.value_eq_array_iff.1 hv
    obtain ⟨x, later, rfl, rfl, hlater⟩ := List.map_eq_cons_iff.1 hds
    obtain ⟨e, more, rfl, he, hmore⟩ := List.map_eq_cons_iff.1 hlater
    rw [List.map_eq_nil_iff] at hmore
    rw [Document.value_eq_boolean_iff] at he
    rw [hmore, he] at hover ⊢
    exact ⟨x, Bindings.isDocument_iff.2 ⟨hread, (overwrites x).not.1 hover⟩, rfl⟩

theorem casesOfJson_eq_ok_iff {vs : List Json} {cases : List Case} :
    casesOfJson vs = .ok cases ↔ List.Forall₂ (fun v case => caseOfJson v = .ok case) vs cases := by
  induction vs generalizing cases with
  | nil =>
    rw [List.forall₂_nil_left_iff, casesOfJson, Except.ok.injEq, eq_comm]
  | cons v vs ih =>
    rw [casesOfJson, List.forall₂_cons_left_iff]
    simp only [Except.bind_eq_ok_iff, ih]
    constructor
    · rintro ⟨case, hcase, later, hlater, h⟩
      cases h
      exact ⟨case, later, hcase, hlater, rfl⟩
    · rintro ⟨case, later, hcase, hlater, rfl⟩
      exact ⟨case, hcase, later, hlater, rfl⟩

theorem rendering_iff_isDocument {cases : List Case} {w : List Char} :
    Rendering cases w ↔ ∃ d, IsDocument cases d ∧ d.Spelling w := by
  have parts : cases.map Case.Rendering =
      (cases.map Case.IsDocument).map fun D w => ∃ d, D d ∧ d.Spelling w := by
    rw [List.map_map]
    apply List.map_congr_left
    intro case _
    funext w
    exact propext rendering_case_iff
  rw [Rendering, parts, Document.bracketed_iff_array]
  simp only [List.forall₂_map_left_iff]
  constructor
  · rintro ⟨ds, hds, hw⟩
    exact ⟨_, ⟨ds, hds, rfl⟩, hw⟩
  · rintro ⟨_, ⟨ds, hds, rfl⟩, hw⟩
    exact ⟨ds, hds, hw⟩

theorem ofJson_eq_ok_iff {v : Json} {cases : List Case} :
    ofJson v = .ok cases ↔ ∃ vs, v = .array vs ∧
      List.Forall₂ (fun v case => caseOfJson v = .ok case) vs cases := by
  constructor
  · intro h
    cases v with
    | array vs => exact ⟨vs, rfl, casesOfJson_eq_ok_iff.1 h⟩
    | _ => cases h
  · rintro ⟨vs, rfl, h⟩
    exact casesOfJson_eq_ok_iff.2 h

theorem forall₂_isDocument_iff {cases : List Case} {ds : List Document} :
    List.Forall₂ Case.IsDocument cases ds ↔
      List.Forall₂ (fun v case => caseOfJson v = .ok case) (ds.map Document.value) cases ∧
        ¬ Document.OverwritesIllTyped (.array ds) := by
  calc List.Forall₂ Case.IsDocument cases ds
      ↔ List.Forall₂ (fun d case => Case.IsDocument case d) ds cases := ⟨.flip, .flip⟩
    _ ↔ List.Forall₂ (fun d case => ¬ d.OverwritesIllTyped ∧ caseOfJson d.value = .ok case)
          ds cases := by simp only [isDocument_case_iff, and_comm]
    _ ↔ (∀ d ∈ ds, ¬ d.OverwritesIllTyped) ∧
          List.Forall₂ (fun d case => caseOfJson d.value = .ok case) ds cases :=
        List.forall₂_and_left ..
    _ ↔ _ := by
        rw [List.forall₂_map_left_iff, Document.overwritesIllTyped_array_iff]
        simp [and_comm]

theorem isDocument_iff {cases : List Case} {d : Document} :
    IsDocument cases d ↔ ofJson d.value = .ok cases ∧ ¬ d.OverwritesIllTyped := by
  rw [ofJson_eq_ok_iff]
  constructor
  · rintro ⟨ds, hds, rfl⟩
    obtain ⟨hread, hover⟩ := forall₂_isDocument_iff.1 hds
    exact ⟨⟨_, Document.value_array ds, hread⟩, hover⟩
  · rintro ⟨⟨vs, hv, hread⟩, hover⟩
    obtain ⟨ds, rfl, rfl⟩ := Document.value_eq_array_iff.1 hv
    exact ⟨ds, forall₂_isDocument_iff.2 ⟨hread, hover⟩, rfl⟩

end CaseTable

/-- Bindings and case tables are read from a text and from its value alike, but where an overwritten
member is ill-typed. The value of a text is that of the one document in it. -/
theorem bindings_and_tables_routesAgree :
    Json.RoutesAgree Bindings.ofText Bindings.ofJson ∧
    Json.RoutesAgree CaseTable.ofText CaseTable.ofJson ∧
    (∀ t v, Json.ofText t = .ok v ↔ ∃ d : Document, d.value = v ∧ d.Fills t) ∧
    ∀ t (d d' : Document), d.Fills t → d'.Fills t → d = d' := by
  refine ⟨?_, ?_, fun _ _ => Json.ofText_eq_ok_iff_document, fun _ _ _ hd hd' => hd.unique hd'⟩
  · apply Json.RoutesAgree.of_documents _ fun _ _ => Bindings.isDocument_iff
    intro t x
    exact (Bindings.takes_read x).ofText_eq_ok_iff_fills fun _ => Bindings.rendering_iff_isDocument
  · apply Json.RoutesAgree.of_documents _ fun _ _ => CaseTable.isDocument_iff
    intro t cases
    exact (CaseTable.takes_read cases).ofText_eq_ok_iff_fills fun _ =>
      CaseTable.rendering_iff_isDocument

/-- The first member is no mention of a name, and the value does not have it. -/
theorem bindings_and_tables_routesAgree_overwritten :
    let t := "\x7b\"a\":true,\"a\":\"x\"\x7d"
    let d : Document := .object [("a", .boolean true), ("a", .string "x")]
    d.Fills t ∧ Bindings.ofJson d.value = .ok (Bindings.ofList [("a", "x")]) ∧
      d.OverwritesIllTyped ∧ ¬ ∃ x, Bindings.ofText t = .ok x := by
  intro t d
  have key : Json.Key "a" ['"', 'a', '"', ':'] :=
    ⟨_, [], Json.literal_render "a", List.forall_mem_nil _, by decide⟩
  have first : Json.Member "a" (Document.Spelling (.boolean true)) ("\"a\":true".toList) :=
    ⟨_, [], _, key, List.forall_mem_nil _, rfl, by decide⟩
  have second : Json.Member "a" (Document.Spelling (.string "x")) ("\"a\":\"x\"".toList) :=
    ⟨_, [], _, key, List.forall_mem_nil _, Json.literal_render "x", by decide⟩
  have fills : d.Fills t := by
    have ht : t.toList =
        '{' :: ("\"a\":true".toList ++ ((',' :: ("\"a\":\"x\"".toList ++ [])) ++ ['}'])) := by decide
    apply Json.Padded.of_exact
    rw [Document.spelling_object, ht]
    exact .parts (.of_exact first) (.cons (.of_exact second) .nil)
  have hx : Bindings.ofJson d.value = .ok (Bindings.ofList [("a", "x")]) := by decide +kernel
  have overwrites : d.OverwritesIllTyped :=
    ⟨_, .here _, [], ("a", .boolean true), [("a", .string "x")], rfl,
      ⟨Document.noConfusion, fun _ => Document.noConfusion⟩, by decide⟩
  obtain ⟨routes, -, documents, -⟩ := bindings_and_tables_routesAgree
  have hv := (documents t d.value).2 ⟨d, rfl, fills⟩
  exact ⟨fills, hx, overwrites, (routes.value_alone t _ _ d fills hv hx).2 overwrites⟩

end Conditions
