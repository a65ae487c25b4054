import Conditions.Proofs.Bindings.Rendering
import Conditions.Proofs.Json.Routes

set_option autoImplicit false

namespace Conditions.Bindings

open Json (Document)

def mentionDocument : Option String → Document
  | none => .null
  | some s => .string s

def IsDocument (x : Bindings) (d : Document) : Prop :=
  ∃ es : List (String × Option String),
    d = .object (es.map fun e => (e.1, mentionDocument e.2)) ∧ x = ofMentions es

theorem spelling_mentionDocument (s : Option String) :
    (mentionDocument s).Spelling = s.elim (· = ['n', 'u', 'l', 'l']) Json.Literal := by
  cases s <;> rfl

theorem rendering_iff_isDocument {x : Bindings} {w : List Char} :
    x.Rendering w ↔ ∃ d, x.IsDocument d ∧ d.Spelling w := by
  have spelling (es : List (String × Option String)) :
      Document.Spelling (.object (es.map fun e => (e.1, mentionDocument e.2))) w ↔
        Json.Braced (es.map MentionSpelling) w := by
    have parts : (es.map fun e => (e.1, mentionDocument e.2)).map
        (fun m => Json.Member m.1 m.2.Spelling) = es.map MentionSpelling := by
      rw [List.map_map]
      apply List.map_congr_left
      intro e _
      rw [Function.comp_apply, spelling_mentionDocument, MentionSpelling]
    rw [Document.spelling_object, parts]
  constructor
  · rintro ⟨es, hw, hx⟩
    exact ⟨_, ⟨es, rfl, hx.unique (collects_ofMentions es)⟩, (spelling es).2 hw⟩
  · rintro ⟨_, ⟨es, rfl, rfl⟩, hw⟩
    exact ⟨es, (spelling es).1 hw, collects_ofMentions es⟩

theorem value_mentionDocument (s : Option String) : (mentionDocument s).value = mentionJson s := by
  cases s <;> rfl

theorem ofJson_value_object (es : List (String × Option String)) :
    ofJson (Document.value (.object (es.map fun e => (e.1, mentionDocument e.2)))) =
      .ok (ofMentions es) := by
  have values : (es.map fun e => (e.1, mentionDocument e.2)).map (fun m => (m.1, m.2.value)) =
      es.map fun e => (e.1, mentionJson e.2) := by
    rw [List.map_map]
    apply List.map_congr_left
    intro e _
    rw [Function.comp_apply, value_mentionDocument]
  rw [Document.value_object, values]
  exact ofJson_ofMembers es

theorem not_illTyped_iff {d : Document} : ¬ d.IllTyped ↔ ∃ s, d = mentionDocument s := by
  constructor
  · intro h
    by_contra hnone
    refine h ⟨fun heq => hnone ⟨none, heq⟩, fun s heq => hnone ⟨some s, heq⟩⟩
  · rintro ⟨s, rfl⟩ h
    cases s with
    | none => exact h.1 rfl
    | some s => exact h.2 s rfl

theorem not_illTyped_of_value {d : Document} {s : Option String} (h : d.value = mentionJson s) :
    ¬ d.IllTyped := by
  rw [← value_mentionDocument] at h
  have scalar : mentionDocument s = d := Document.eq_of_value_eq h.symm
    (by cases s <;> simp [mentionDocument]) (by cases s <;> simp [mentionDocument])
  exact not_illTyped_iff.2 ⟨s, scalar.symm⟩

theorem eq_map_of_not_illTyped {ms : List (String × Document)} (h : ∀ m ∈ ms, ¬ m.2.IllTyped) :
    ∃ es : List (String × Option String), ms = es.map fun e => (e.1, mentionDocument e.2) :=
  Entries.exists_map fun m hm => not_illTyped_iff.1 (h m hm)

theorem isDocument_iff {x : Bindings} {d : Document} :
    x.IsDocument d ↔ ofJson d.value = .ok x ∧ ¬ d.OverwritesIllTyped := by
  constructor
  · rintro ⟨es, rfl, rfl⟩
    refine ⟨ofJson_value_object es, Document.not_overwritesIllTyped_object ?_⟩
    intro m hm
    obtain ⟨e, -, rfl⟩ := List.mem_map.1 hm
    exact not_illTyped_iff.2 ⟨e.2, rfl⟩
  · rintro ⟨hx, hover⟩
    cases d with
    | object ms =>
      -- What the value has of a key is its last member, so the last members are well typed.
      have last : ∀ key d, Entries.Last ms key d → ¬ d.IllTyped := by
        intro key d hlast
        obtain ⟨es, hes, -⟩ := ofJson_eq_ok_iff.1 hx
        rw [Document.value_object, Json.ofMembers, valueOf, Json.object.injEq] at hes
        have mem : (key, d.value) ∈ Entries.ofList (ms.map fun m => (m.1, m.2.value)) :=
          Entries.mem_ofList_iff.2 (hlast.map Document.value)
        rw [hes] at mem
        obtain ⟨e, -, heq⟩ := List.mem_map.1 mem
        exact not_illTyped_of_value (Prod.mk.inj heq).2.symm
      obtain ⟨es, rfl⟩ := eq_map_of_not_illTyped (Document.not_illTyped_of_last hover last)
      rw [ofJson_value_object] at hx
      cases hx
      exact ⟨es, rfl, rfl⟩
    | _ => cases hx

end Conditions.Bindings
