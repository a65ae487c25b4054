import Conditions.Condition.Classification
import Conditions.Proofs.Condition.JsonForm
import Conditions.Proofs.Json.Spelling
import Mathlib.Data.List.Forall2

set_option autoImplicit false

namespace Conditions

open Json (Bracketed Literal Padded SpelledBy)

namespace Condition

/-- A comparison that names no variable has null in its place. -/
def ReferenceSpelling : Option String → List Char → Prop
  | none => (· = ['n', 'u', 'l', 'l'])
  | some s => Literal s

mutual

/-- The texts of a condition from its opening to its closing bracket. -/
def Rendering : Condition → List Char → Prop
  | .logical k cs => Bracketed (Literal k.symbol :: operandRenderings cs)
  | .comparison r reference literal =>
    Bracketed [Literal r.symbol, ReferenceSpelling reference, Literal literal]

def operandRenderings : List Condition → List (List Char → Prop)
  | [] => []
  | c :: cs => Rendering c :: operandRenderings cs

end

theorem rendering_logical (k : Connective) (cs : List Condition) :
    Rendering (.logical k cs) = Bracketed (Literal k.symbol :: cs.map Rendering) := by
  have operands : operandRenderings cs = cs.map Rendering := by
    induction cs with
    | nil => rfl
    | cons c cs ih => rw [operandRenderings, ih, List.map_cons]
  rw [Rendering, operands]

theorem rendering_comparison (r : Relation) (reference : Option String) (literal : String) :
    Rendering (.comparison r reference literal) =
      Bracketed [Literal r.symbol, ReferenceSpelling reference, Literal literal] := by
  rw [Rendering]

theorem spelledBy_reference (reference : Option String) :
    SpelledBy (reference.elim .null .string) (ReferenceSpelling reference) := by
  cases reference with
  | none => exact Json.spelledBy_null
  | some s => exact Json.spelledBy_literal s

theorem spelledBy_rendering (c : Condition) : SpelledBy c.toJson c.Rendering := by
  induction c using operand_induction with
  | comparison r reference literal =>
    rw [toJson_comparison, rendering_comparison]
    apply Json.spelledBy_bracketed
    refine .cons (Json.spelledBy_literal r.symbol) (.cons (spelledBy_reference reference) ?_)
    exact .cons (Json.spelledBy_literal literal) .nil
  | logical k cs ih =>
    rw [toJson_logical, rendering_logical]
    refine Json.spelledBy_bracketed (.cons (Json.spelledBy_literal k.symbol) ?_)
    rw [List.forall₂_map_left_iff, List.forall₂_map_right_iff, List.forall₂_same]
    exact ih

theorem ofText_eq_ok_iff {t : String} {c : Condition} :
    (ofText t).value = .ok c ↔ Json.ofText t = .ok c.toJson := by
  rw [Json.ofText_eq_ok_iff, ofText]
  cases hv : Json.readValue t.toList with
  | error f => simp
  | ok p =>
    obtain ⟨v, rest⟩ := p
    simp only [Traced.value_map, Except.ok.injEq, Prod.mk.injEq]
    cases hc : (classify v).value with
    | error d =>
      -- What is refused is the JSON form of no condition.
      change ofJson v = _ at hc
      constructor
      · intro h
        cases h
      · intro h
        obtain ⟨_, ⟨rfl, rfl⟩, -⟩ := h
        rw [ofJson_toJson] at hc
        cases hc
    | ok d =>
      have hd := toJson_of_ofJson hc
      constructor
      · intro h
        cases hend : Json.readEnd rest with
        | error f =>
          simp only [hend] at h
          cases h
        | ok _ =>
          simp only [hend] at h
          cases h
          exact ⟨rest, ⟨hd.symm, rfl⟩, hend⟩
      · intro h
        obtain ⟨_, ⟨hv, rfl⟩, hend⟩ := h
        simp only [hend, toJson_injective (hd.trans hv)]

/-- A text is read as a condition just if it is one of its renderings among blanks. -/
theorem ofText_eq_ok_iff_rendering (t : String) (c : Condition) :
    (ofText t).value = .ok c ↔ Padded (Rendering c) t.toList := by
  rw [ofText_eq_ok_iff]
  exact (spelledBy_rendering c).ofText_eq_ok_iff

theorem rendering_render (c : Condition) : c.Rendering c.toJson.render := by
  induction c using operand_induction with
  | comparison r reference literal =>
    have href : ReferenceSpelling reference (reference.elim .null .string : Json).render := by
      cases reference with
      | none => rw [ReferenceSpelling, Option.elim_none, Json.render]
      | some s => exact Json.literal_render s
    rw [toJson_comparison, rendering_comparison]
    apply Json.bracketed_render
    exact .cons (Json.literal_render r.symbol) (.cons href (.cons (Json.literal_render literal) .nil))
  | logical k cs ih =>
    rw [toJson_logical, rendering_logical]
    refine Json.bracketed_render (.cons (Json.literal_render k.symbol) ?_)
    rw [List.forall₂_map_left_iff, List.forall₂_map_right_iff, List.forall₂_same]
    exact ih

theorem json_ofText_text (c : Condition) : Json.ofText c.text = .ok c.toJson := by
  rw [(spelledBy_rendering c).ofText_eq_ok_iff, text, Json.text, String.toList_ofList]
  exact .of_exact (rendering_render c)

theorem ofText_text (c : Condition) : (ofText c.text).value = .ok c :=
  ofText_eq_ok_iff.2 (json_ofText_text c)

theorem text_injective {c d : Condition} (h : c.text = d.text) : c = d := by
  have hc := ofText_text c
  rw [h, ofText_text d, Except.ok.injEq] at hc
  exact hc.symm

/-- Printing keeps everything: conditions that differ have texts that differ, be it that one names
no variable where the other refers to the empty string. -/
theorem text_reads_back :
    (∀ c : Condition, (ofText c.text).value = .ok c ∧ Json.ofText c.text = .ok c.toJson) ∧
    (∀ (t u : String) (c d : Condition), (ofText t).value = .ok c → (ofText u).value = .ok d →
      (c = d ↔ c.text.toList = d.text.toList)) ∧
    ∀ (r : Relation) (literal : String),
      text (.comparison r none literal) ≠ text (.comparison r (some "") literal) := by
  refine ⟨fun c => ⟨ofText_text c, json_ofText_text c⟩, ?_, ?_⟩
  · intro t u c d _ _
    constructor
    · intro h
      rw [h]
    · intro h
      exact text_injective (String.toList_inj.1 h)
  · intro r literal h
    have heq := text_injective h
    cases heq

theorem text_reads_back_escaped :
    text (.or [.equals "$\n" "\"", .comparison .equal none "\x1f"]) =
        "[\"OR\",[\"==\",\"$\\n\",\"\\\"\"],[\"==\",null,\"\\u001f\"]]" ∧
      (ofText "[\"OR\",[\"==\",\"$\\n\",\"\\\"\"],[\"==\",null,\"\\u001f\"]]").value =
        .ok (.or [.equals "$\n" "\"", .comparison .equal none "\x1f"]) := by
  have h : text (.or [.equals "$\n" "\"", .comparison .equal none "\x1f"]) =
      "[\"OR\",[\"==\",\"$\\n\",\"\\\"\"],[\"==\",null,\"\\u001f\"]]" := by decide
  refine ⟨h, ?_⟩
  rw [← h]
  exact (text_reads_back.1 _).1

end Condition

end Conditions
