import Conditions.Proofs.Entries
import Conditions.Proofs.Json.Document

set_option autoImplicit false

/-!
# Two routes from a text

A type may be read from a text, or from the value of the text. A member with the key of a later one is
in the text, but not in the value: if it is ill-typed, the reader of the text meets it and the reader of
the value does not. `RoutesAgree` says that the routes differ in nothing else.
-/
namespace Conditions.Json

namespace Document

inductive HasObject : Document → List (String × Document) → Prop
  | here (ms : List (String × Document)) : HasObject (.object ms) ms
  | item {ds : List Document} {d : Document} {ms : List (String × Document)} (mem : d ∈ ds)
      (inner : HasObject d ms) : HasObject (.array ds) ms
  | member {ms ms' : List (String × Document)} {m : String × Document} (mem : m ∈ ms)
      (inner : HasObject m.2 ms') : HasObject (.object ms) ms'

/-- In no object do two members have one key. -/
def KeysDiffer (d : Document) : Prop :=
  ∀ ms, d.HasObject ms → (ms.map Prod.fst).Nodup

def IllTyped (d : Document) : Prop :=
  d ≠ .null ∧ ∀ s, d ≠ .string s

/-- In some object a member with neither a string nor null is followed by one with its key. -/
def OverwritesIllTyped (d : Document) : Prop :=
  ∃ ms, d.HasObject ms ∧ ∃ before m after,
    ms = before ++ m :: after ∧ m.2.IllTyped ∧ m.1 ∈ after.map Prod.fst

theorem KeysDiffer.not_overwritesIllTyped {d : Document} (h : d.KeysDiffer) :
    ¬ d.OverwritesIllTyped := by
  rintro ⟨ms, hms, before, m, after, rfl, -, hkey⟩
  have hnodup := h _ hms
  rw [List.map_append, List.map_cons, List.nodup_append] at hnodup
  exact (List.nodup_cons.1 hnodup.2.1).1 hkey

theorem overwritesIllTyped_array_iff {ds : List Document} :
    OverwritesIllTyped (.array ds) ↔ ∃ d ∈ ds, d.OverwritesIllTyped := by
  constructor
  · rintro ⟨ms, hms, hover⟩
    cases hms with
    | item mem inner => exact ⟨_, mem, ms, inner, hover⟩
  · rintro ⟨d, mem, ms, inner, hover⟩
    exact ⟨ms, .item mem inner, hover⟩

theorem not_overwritesIllTyped_boolean (b : Bool) : ¬ OverwritesIllTyped (.boolean b) := by
  rintro ⟨ms, hms, -⟩
  cases hms

theorem not_hasObject_of_not_illTyped {d : Document} (h : ¬ d.IllTyped)
    (ms : List (String × Document)) : ¬ d.HasObject ms := by
  intro hms
  apply h
  cases hms with
  | here _ => exact ⟨Document.noConfusion, fun _ => Document.noConfusion⟩
  | item _ _ => exact ⟨Document.noConfusion, fun _ => Document.noConfusion⟩
  | member _ _ => exact ⟨Document.noConfusion, fun _ => Document.noConfusion⟩

theorem not_overwritesIllTyped_object {ms : List (String × Document)}
    (h : ∀ m ∈ ms, ¬ m.2.IllTyped) : ¬ OverwritesIllTyped (.object ms) := by
  rintro ⟨ms', hms', before, m, after, rfl, hm, -⟩
  cases hms' with
  | here _ => exact h m (by simp) hm
  | member mem inner => exact not_hasObject_of_not_illTyped (h _ mem) _ inner

theorem not_illTyped_of_last {ms : List (String × Document)}
    (hover : ¬ OverwritesIllTyped (.object ms))
    (hlast : ∀ key d, Entries.Last ms key d → ¬ d.IllTyped) : ∀ m ∈ ms, ¬ m.2.IllTyped := by
  intro m hm hill
  obtain ⟨before, after, rfl⟩ := List.append_of_mem hm
  by_cases hkey : m.1 ∈ after.map Prod.fst
  · exact hover ⟨_, .here _, before, m, after, rfl, hill, hkey⟩
  · refine hlast m.1 m.2 ⟨before, after, rfl, ?_⟩ hill
    intro e he heq
    exact hkey (List.mem_map.2 ⟨e, he, heq⟩)

end Document

/-- What is read from texts and what from values, for every text. -/
structure RoutesAgree {α : Type} (ofText : String → Except Error α) (ofJson : Json → Except Error α) :
    Prop where
  value_of_text : ∀ t a, ofText t = .ok a → ∃ v, Json.ofText t = .ok v ∧ ofJson v = .ok a
  text_of_value : ∀ t v a, Json.ofText t = .ok v → ofJson v = .ok a →
    (∀ d, Document.Fills d t → d.KeysDiffer) → ofText t = .ok a
  /-- The texts that are accepted by way of their value alone. -/
  value_alone : ∀ t v a d, Document.Fills d t → Json.ofText t = .ok v → ofJson v = .ok a →
    ((¬ ∃ a', ofText t = .ok a') ↔ d.OverwritesIllTyped)

variable {α : Type}

theorem RoutesAgree.of_documents {ofText : String → Except Error α} {ofJson : Json → Except Error α}
    {D : α → Document → Prop} (reads : ∀ t a, ofText t = .ok a ↔ ∃ d, D a d ∧ Document.Fills d t)
    (valued : ∀ a d, D a d ↔ ofJson d.value = .ok a ∧ ¬ d.OverwritesIllTyped) :
    RoutesAgree ofText ofJson := by
  have decides {t : String} {d : Document} (hd : d.Fills t) (a : α) :
      ofText t = .ok a ↔ ofJson d.value = .ok a ∧ ¬ d.OverwritesIllTyped := by
    rw [reads, ← valued]
    constructor
    · rintro ⟨d', hD, hd'⟩
      rwa [hd.unique hd']
    · exact fun hD => ⟨d, hD, hd⟩
  constructor
  · intro t a h
    obtain ⟨d, -, hd⟩ := (reads t a).1 h
    exact ⟨d.value, ofText_eq_ok_iff_document.2 ⟨d, rfl, hd⟩, ((decides hd a).1 h).1⟩
  · intro t v a hv ha hdiffer
    obtain ⟨d, rfl, hd⟩ := ofText_eq_ok_iff_document.1 hv
    exact (decides hd a).2 ⟨ha, (hdiffer d hd).not_overwritesIllTyped⟩
  · intro t v a d hd hv ha
    obtain ⟨d', rfl, hd'⟩ := ofText_eq_ok_iff_document.1 hv
    obtain rfl := hd.unique hd'
    constructor
    · intro hnone
      by_contra hover
      exact hnone ⟨a, (decides hd a).2 ⟨ha, hover⟩⟩
    · rintro hover ⟨a', ha'⟩
      exact ((decides hd a').1 ha').2 hover

theorem Reader.Takes.ofText_eq_ok_iff_fills {read : Reader α} {a : α} {P : List Char → Prop}
    {D : Document → Prop} (h : read.Takes a P) (spelled : ∀ w, P w ↔ ∃ d, D d ∧ d.Spelling w)
    {t : String} : read.ofText t = .ok a ↔ ∃ d, D d ∧ Document.Fills d t := by
  have texts : P = fun w => ∃ d, D d ∧ d.Spelling w := funext fun w => propext (spelled w)
  rw [h.ofText_eq_ok_iff, texts]
  exact padded_exists_iff

end Conditions.Json
