import Conditions.Json.Value
import Conditions.Proofs.Json.Items

set_option autoImplicit false

namespace Conditions.Json

abbrev SpelledBy : Json → (List Char → Prop) → Prop := Reader.Takes readValue

def BooleanSpelling (b : Bool) (w : List Char) : Prop :=
  w = if b then ['t', 'r', 'u', 'e'] else ['f', 'a', 'l', 's', 'e']

theorem spelledBy_literal (s : String) : SpelledBy (.string s) (Literal s) := by
  intro cs rest
  exact readValue_eq_string_iff

theorem spelledBy_null : SpelledBy .null (· = ['n', 'u', 'l', 'l']) := by
  intro cs rest
  rw [readValue_eq_null_iff]
  constructor
  · intro h
    obtain ⟨b, hb, rfl⟩ := h
    exact ⟨b, _, hb, rfl, rfl⟩
  · intro h
    obtain ⟨b, w, hb, rfl, rfl⟩ := h
    exact ⟨b, hb, rfl⟩

theorem spelledBy_bracketed {vs : List Json} {Ps : List (List Char → Prop)}
    (h : List.Forall₂ SpelledBy vs Ps) : SpelledBy (.array vs) (Bracketed Ps) := by
  have items {inner rest : List Char} : readItems true inner = .ok (vs, rest) ↔
      ∃ w, Bracketed Ps ('[' :: w) ∧ inner = w ++ rest :=
    readItems_iff_itemsRead.trans (itemsRead_iff_enclosed readValue_startsItems h)
  intro cs rest
  rw [readValue_eq_array_iff]
  constructor
  · intro h
    obtain ⟨b, inner, hb, rfl, hitems⟩ := h
    obtain ⟨w, hw, rfl⟩ := items.1 hitems
    exact ⟨b, _, hb, hw, rfl⟩
  · intro h
    obtain ⟨b, w, hb, hw, rfl⟩ := h
    obtain ⟨inner, rfl⟩ := hw.start
    exact ⟨b, inner ++ rest, hb, rfl, items.2 ⟨inner, hw, rfl⟩⟩

theorem Reader.ofText_eq_ok_iff {α : Type} {read : Reader α} {t : String} {a : α} :
    read.ofText t = .ok a ↔ ∃ rest, read t.toList = .ok (a, rest) ∧ readEnd rest = .ok () := by
  unfold Reader.ofText
  constructor
  · intro h
    split at h
    · cases h
    · rename_i rest ha
      split at h
      · cases h
      · rename_i hend
        cases h
        exact ⟨rest, ha, hend⟩
  · intro h
    obtain ⟨rest, ha, hend⟩ := h
    simp only [ha, hend]

theorem Reader.ofText_eq_error_iff {α : Type} {read : Reader α} {t : String} {e : Error} :
    read.ofText t = .error e ↔ (∃ f, read t.toList = .error f ∧ e = f.locate t.toList) ∨
      ∃ a rest f, read t.toList = .ok (a, rest) ∧ readEnd rest = .error f ∧
        e = f.locate t.toList := by
  unfold Reader.ofText
  cases ha : read t.toList with
  | error f => simp [eq_comm]
  | ok p =>
    obtain ⟨a, rest⟩ := p
    cases hend : readEnd rest with
    | error f => simp [hend, eq_comm]
    | ok _ => simp [hend]

theorem ofText_eq_ok_iff {t : String} {v : Json} :
    ofText t = .ok v ↔ ∃ rest, readValue t.toList = .ok (v, rest) ∧ readEnd rest = .ok () :=
  Reader.ofText_eq_ok_iff

theorem Reader.Takes.ofText_eq_ok_iff {α : Type} {read : Reader α} {a : α} {P : List Char → Prop}
    (h : read.Takes a P) {t : String} : read.ofText t = .ok a ↔ Padded P t.toList := by
  rw [Reader.ofText_eq_ok_iff]
  constructor
  · intro ha
    obtain ⟨b', ha, hend⟩ := ha
    obtain ⟨b, w, hb, hw, ht⟩ := (h _ _).1 ha
    exact ⟨b, w, b', hb, hw, readEnd_eq_ok_iff.1 hend, ht⟩
  · intro hw
    obtain ⟨b, w, b', hb, hw, hb', ht⟩ := hw
    exact ⟨b', (h _ _).2 ⟨b, w, hb, hw, ht⟩, readEnd_eq_ok_iff.2 hb'⟩

theorem SpelledBy.ofText_eq_ok_iff {v : Json} {P : List Char → Prop} (h : SpelledBy v P)
    {t : String} : ofText t = .ok v ↔ Padded P t.toList :=
  Reader.Takes.ofText_eq_ok_iff h

theorem charSpelling_escapeChar (c : Char) : CharSpelling c (escapeChar c) := by
  unfold escapeChar
  split
  case h_8 hquote hbackslash _ _ _ _ _ =>
    split
    · rename_i hsmall
      apply CharSpelling.escaped
      apply EscapeSpelling.unit
      have table : ∀ n < 16, IsHexDigit (Nat.digitChar n) n := by decide
      refine ⟨'0', '0', _, _, 0, 0, c.toNat / 16, c.toNat % 16, rfl, by decide, by decide,
        table _ ?_, table _ ?_, ?_⟩
      · omega
      · omega
      · omega
    · rename_i hlarge
      exact .raw (Nat.not_lt.1 hlarge) hquote hbackslash
  all_goals exact .escaped (.short (by decide))

theorem bodySpelling_flatMap_escapeChar (s : List Char) :
    BodySpelling s (s.flatMap escapeChar) := by
  induction s with
  | nil => exact .nil
  | cons c s ih => exact .cons (charSpelling_escapeChar c) ih

theorem literal_render (s : String) : Literal s (render (.string s)) := by
  rw [render]
  exact .quoted (bodySpelling_flatMap_escapeChar s.toList)

theorem separated_renderItems {vs : List Json} {Ps : List (List Char → Prop)}
    (h : List.Forall₂ (fun v P => P (render v)) vs Ps) :
    ∃ ws, Separated Ps ws ∧ renderItems vs = ws ++ [']'] := by
  induction h with
  | nil => exact ⟨[], .nil, by rw [renderItems, List.nil_append]⟩
  | cons head tail ih =>
    obtain ⟨ws, hws, heq⟩ := ih
    refine ⟨_, .cons (.of_exact head) hws, ?_⟩
    rw [renderItems, heq, List.cons_append, List.append_assoc]

theorem bracketed_render {vs : List Json} {Ps : List (List Char → Prop)}
    (h : List.Forall₂ (fun v P => P (render v)) vs Ps) : Bracketed Ps (render (.array vs)) := by
  cases h with
  | nil => exact .empty (List.forall_mem_nil _)
  | cons head tail =>
    obtain ⟨ws, hws, heq⟩ := separated_renderItems tail
    rw [render, heq]
    exact .parts (.of_exact head) hws

end Conditions.Json
