import Conditions.Json.Reader.Value
import Conditions.Proofs.Json.StringLiteral
import Mathlib.Data.List.DropRight

set_option autoImplicit false

namespace Conditions.Json

def Blank (cs : List Char) : Prop :=
  ∀ c ∈ cs, c = ' ' ∨ c = '\t' ∨ c = '\n' ∨ c = '\r'

theorem isBlank_iff {c : Char} :
    isBlank c = true ↔ c = ' ' ∨ c = '\t' ∨ c = '\n' ∨ c = '\r' := by
  simp only [isBlank, Bool.or_eq_true, decide_eq_true_eq, or_assoc]

theorem skipBlank_append {b : List Char} (h : Blank b) (cs : List Char) :
    skipBlank (b ++ cs) = skipBlank cs := by
  apply List.dropWhile_append_of_pos
  intro c hc
  exact isBlank_iff.2 (h c hc)

theorem skipBlank_cons {c : Char} (h : isBlank c = false) (cs : List Char) :
    skipBlank (c :: cs) = c :: cs := by
  apply List.dropWhile_cons_of_neg
  rw [h]
  exact Bool.false_ne_true

theorem skipBlank_skipBlank (cs : List Char) : skipBlank (skipBlank cs) = skipBlank cs :=
  List.dropWhile_idempotent isBlank cs

theorem exists_blank (cs : List Char) : ∃ b, Blank b ∧ cs = b ++ skipBlank cs := by
  refine ⟨cs.takeWhile isBlank, ?_, List.takeWhile_append_dropWhile.symm⟩
  intro c hc
  exact isBlank_iff.1 (List.mem_takeWhile_imp hc)

theorem skipBlank_eq_cons_iff {cs rest : List Char} {c : Char} (hc : isBlank c = false) :
    skipBlank cs = c :: rest ↔ ∃ b, Blank b ∧ cs = b ++ c :: rest := by
  constructor
  · intro h
    obtain ⟨b, hb, hcs⟩ := exists_blank cs
    exact ⟨b, hb, by rw [hcs, h]⟩
  · intro h
    obtain ⟨b, hb, rfl⟩ := h
    rw [skipBlank_append hb, skipBlank_cons hc]

theorem skipBlank_eq_nil_iff {cs : List Char} : skipBlank cs = [] ↔ Blank cs := by
  rw [skipBlank, List.dropWhile_eq_nil_iff]
  exact forall₂_congr fun c _ => isBlank_iff

theorem readEnd_eq_ok_iff {cs : List Char} : readEnd cs = .ok () ↔ Blank cs := by
  rw [← skipBlank_eq_nil_iff]
  unfold readEnd
  split
  · rename_i h
    simp [h]
  · rename_i h
    simp only [reduceCtorEq, false_iff]
    exact fun e => h e

theorem readEnd_eq_error_iff {cs : List Char} {f : Fault} :
    readEnd cs = .error f ↔
      ∃ c left, skipBlank cs = c :: left ∧ f = .next .trailingCharacters (c :: left) := by
  unfold readEnd
  cases hcs : skipBlank cs with
  | nil => simp
  | cons c left => simp [eq_comm]

theorem readValue_skipBlank (cs : List Char) : readValue (skipBlank cs) = readValue cs := by
  rw [readValue_eq, readValue_eq cs, skipBlank_skipBlank]

theorem readValue_append {b : List Char} (h : Blank b) (cs : List Char) :
    readValue (b ++ cs) = readValue cs := by
  rw [← readValue_skipBlank, skipBlank_append h, readValue_skipBlank]

theorem readValue_start {cs rest : List Char} {v : Json} (h : readValue cs = .ok (v, rest)) :
    ∃ c left, skipBlank cs = c :: left ∧ c ≠ ']' := by
  rw [readValue_eq] at h
  split at h
  · exact ⟨'[', _, by assumption, by decide⟩
  · exact ⟨'{', _, by assumption, by decide⟩
  · cases hcs : skipBlank cs with
    | nil =>
      rw [hcs] at h
      cases h
    | cons c left =>
      refine ⟨c, left, rfl, ?_⟩
      intro hc
      rw [hcs, hc] at h
      cases h

theorem readLetters_eq_ok_iff {ws cs rest : List Char} :
    readLetters ws cs = .ok rest ↔ cs = ws ++ rest := by
  fun_induction readLetters ws cs with
  | case1 cs => simp
  | case2 => simp
  | case3 ws c cs ih => simp [ih]
  | case4 w ws c cs h => simp [h]

theorem map_readLetters_eq_ok_iff {α : Type} {a b : α} {ws cs rest : List Char} :
    (readLetters ws cs).map (fun left => (a, left)) = .ok (b, rest) ↔ a = b ∧ cs = ws ++ rest := by
  rw [Except.map_eq_ok_iff]
  simp only [readLetters_eq_ok_iff, Prod.mk.injEq]
  constructor
  · rintro ⟨_, hcs, hab, rfl⟩
    exact ⟨hab, hcs⟩
  · rintro ⟨hab, hcs⟩
    exact ⟨rest, hcs, hab, rfl⟩

theorem readScalar_cases {cs rest : List Char} {v : Json} (h : readScalar cs = .ok (v, rest)) :
    (v = .null ∧ cs = 'n' :: 'u' :: 'l' :: 'l' :: rest) ∨ (∃ b, v = .boolean b) ∨
      (∃ left s, v = .string (String.ofList s) ∧ cs = '"' :: left ∧
        readString left = .ok (s, rest)) ∨ ∃ n, v = .number n := by
  unfold readScalar at h
  split at h
  · cases h
  · rw [Except.map_eq_ok_iff] at h
    obtain ⟨left, hl, heq⟩ := h
    cases heq
    rw [readLetters_eq_ok_iff] at hl
    exact .inl ⟨rfl, by rw [hl]; rfl⟩
  · rw [Except.map_eq_ok_iff] at h
    obtain ⟨left, -, heq⟩ := h
    cases heq
    exact .inr (.inl ⟨true, rfl⟩)
  · rw [Except.map_eq_ok_iff] at h
    obtain ⟨left, -, heq⟩ := h
    cases heq
    exact .inr (.inl ⟨false, rfl⟩)
  · rename_i left
    rw [Except.map_eq_ok_iff] at h
    obtain ⟨⟨s, left'⟩, hs, heq⟩ := h
    cases heq
    exact .inr (.inr (.inl ⟨left, s, rfl, rfl, hs⟩))
  · split at h
    · rw [Except.map_eq_ok_iff] at h
      obtain ⟨⟨n, left⟩, -, heq⟩ := h
      cases heq
      exact .inr (.inr (.inr ⟨n, rfl⟩))
    · cases h

theorem readValue_cases {cs rest : List Char} {v : Json} (h : readValue cs = .ok (v, rest)) :
    (∃ inner vs, v = .array vs ∧ skipBlank cs = '[' :: inner ∧
        readItems true inner = .ok (vs, rest)) ∨
      (∃ ms, v = .object ms) ∨ readScalar (skipBlank cs) = .ok (v, rest) := by
  rw [readValue_eq] at h
  split at h
  · rename_i inner heq
    rw [Except.map_eq_ok_iff] at h
    obtain ⟨⟨vs, left⟩, hvs, hv⟩ := h
    cases hv
    exact .inl ⟨inner, vs, rfl, heq, hvs⟩
  · rw [Except.map_eq_ok_iff] at h
    obtain ⟨⟨ms, left⟩, -, hv⟩ := h
    cases hv
    exact .inr (.inl ⟨_, rfl⟩)
  · exact .inr (.inr h)

theorem readValue_eq_null_iff {cs rest : List Char} :
    readValue cs = .ok (.null, rest) ↔
      ∃ b, Blank b ∧ cs = b ++ ('n' :: 'u' :: 'l' :: 'l' :: rest) := by
  rw [← skipBlank_eq_cons_iff (by decide)]
  constructor
  · intro h
    rcases readValue_cases h with ⟨_, _, hv, _⟩ | ⟨_, hv⟩ | h
    · cases hv
    · cases hv
    · rcases readScalar_cases h with ⟨_, hcs⟩ | ⟨_, hv⟩ | ⟨_, _, hv, _⟩ | ⟨_, hv⟩
      · exact hcs
      · cases hv
      · cases hv
      · cases hv
  · intro h
    rw [readValue_eq, h]
    rfl

theorem readValue_eq_string_iff {cs rest : List Char} {s : String} :
    readValue cs = .ok (.string s, rest) ↔
      ∃ b w, Blank b ∧ Literal s w ∧ cs = b ++ (w ++ rest) := by
  constructor
  · intro h
    rcases readValue_cases h with ⟨_, _, hv, _⟩ | ⟨_, hv⟩ | h
    · cases hv
    · cases hv
    · rcases readScalar_cases h with ⟨hv, _⟩ | ⟨_, hv⟩ | ⟨left, s', hv, hcs, hs⟩ | ⟨_, hv⟩
      · cases hv
      · cases hv
      · rw [Json.string.injEq] at hv
        obtain ⟨b, hb, rfl⟩ := (skipBlank_eq_cons_iff (by decide)).1 hcs
        obtain ⟨w, hw, hleft⟩ := literal_of_readString hs
        exact ⟨b, w, hb, hv ▸ hw, by rw [hleft]⟩
      · cases hv
  · intro h
    obtain ⟨b, w, hb, hw, rfl⟩ := h
    obtain ⟨left, hleft, hs⟩ := hw.read rest
    rw [readValue_append hb, hleft, readValue_eq, skipBlank_cons (by decide)]
    change (readString left).map _ = _
    rw [hs]
    change Except.ok (Json.string (String.ofList s.toList), rest) = _
    rw [String.ofList_toList]

theorem readValue_eq_array_iff {cs rest : List Char} {vs : List Json} :
    readValue cs = .ok (.array vs, rest) ↔
      ∃ b inner, Blank b ∧ cs = b ++ '[' :: inner ∧ readItems true inner = .ok (vs, rest) := by
  constructor
  · intro h
    rcases readValue_cases h with ⟨inner, _, hv, hcs, hvs⟩ | ⟨_, hv⟩ | h
    · cases hv
      obtain ⟨b, hb, rfl⟩ := (skipBlank_eq_cons_iff (by decide)).1 hcs
      exact ⟨b, inner, hb, rfl, hvs⟩
    · cases hv
    · rcases readScalar_cases h with ⟨hv, _⟩ | ⟨_, hv⟩ | ⟨_, _, hv, _⟩ | ⟨_, hv⟩
      · cases hv
      · cases hv
      · cases hv
      · cases hv
  · intro h
    obtain ⟨b, inner, hb, rfl, hvs⟩ := h
    rw [readValue_append hb, readValue_eq, skipBlank_cons (by decide)]
    simp only [hvs]
    rfl

theorem nextItem_eq_close_iff (first : Bool) {cs rest : List Char} :
    nextItem first cs = .ok (.close rest) ↔ ∃ b, Blank b ∧ cs = b ++ ']' :: rest := by
  rw [← skipBlank_eq_cons_iff (by decide)]
  constructor
  · intro h
    unfold nextItem at h
    split at h
    · cases h
    · rename_i heq
      cases h
      exact heq
    · split at h
      · cases h
      · split at h
        · split at h
          · cases h
          · cases h
          · cases h
        · cases h
  · intro h
    rw [nextItem, h]
    rfl

theorem nextItem_first_iff {cs rest : List Char} :
    nextItem true cs = .ok (.item () rest) ↔
      skipBlank cs = rest ∧ ∃ c left, rest = c :: left ∧ c ≠ ']' := by
  unfold nextItem
  constructor
  · intro h
    split at h
    · cases h
    · cases h
    · rename_i c left hne heq
      cases h
      exact ⟨heq, c, left, rfl, hne⟩
  · intro h
    obtain ⟨heq, c, left, rfl, hc⟩ := h
    rw [heq]
    split
    · contradiction
    · rename_i h
      exact absurd (List.cons.inj h).1 hc
    · rename_i h
      rw [if_pos rfl, h]

theorem nextItem_later_iff {cs rest : List Char} :
    nextItem false cs = .ok (.item () rest) ↔
      ∃ inner, skipBlank cs = ',' :: inner ∧ skipBlank inner = rest ∧
        ∃ c left, rest = c :: left ∧ c ≠ ']' := by
  unfold nextItem
  constructor
  · intro h
    split at h
    · cases h
    · cases h
    · rename_i d inner _ heq
      rw [if_neg Bool.false_ne_true] at h
      split at h
      · rename_i hd
        rw [hd] at heq
        refine ⟨inner, heq, ?_⟩
        split at h
        · cases h
        · cases h
        · rename_i hnil hclose
          cases h
          cases hin : skipBlank inner with
          | nil => exact absurd hin hnil
          | cons c left => exact ⟨rfl, c, left, rfl, fun hc => hclose left (by rw [hin, hc])⟩
      · cases h
  · intro h
    obtain ⟨inner, heq, hin, c, left, rfl, hc⟩ := h
    rw [heq]
    split
    · contradiction
    · rename_i h
      exact absurd (List.cons.inj h).1 (by decide)
    · rename_i h
      obtain ⟨rfl, rfl⟩ := List.cons.inj h
      rw [if_neg Bool.false_ne_true, if_pos rfl, hin]
      split
      · contradiction
      · rename_i h
        exact absurd (List.cons.inj h).1 hc
      · rfl

theorem readItems_nil_iff {first : Bool} {cs rest : List Char} :
    readItems first cs = .ok ([], rest) ↔ ∃ b, Blank b ∧ cs = b ++ ']' :: rest := by
  rw [← nextItem_eq_close_iff first, readItems_eq]
  constructor
  · intro h
    split at h
    · cases h
    · rename_i heq
      cases h
      exact heq
    · split at h
      · cases h
      · rw [Except.map_eq_ok_iff] at h
        obtain ⟨_, -, heq⟩ := h
        cases heq
  · intro h
    rw [h]

theorem readItems_cons_iff {first : Bool} {cs rest : List Char} {v : Json} {vs : List Json} :
    readItems first cs = .ok (v :: vs, rest) ↔
      ∃ inner mid, nextItem first cs = .ok (.item () inner) ∧ readValue inner = .ok (v, mid) ∧
        readItems false mid = .ok (vs, rest) := by
  rw [readItems_eq]
  constructor
  · intro h
    split at h
    · cases h
    · cases h
    · rename_i inner heq
      split at h
      · cases h
      · rename_i mid hv
        rw [Except.map_eq_ok_iff] at h
        obtain ⟨⟨us, left⟩, hus, hvs⟩ := h
        cases hvs
        exact ⟨inner, mid, heq, hv, hus⟩
  · intro h
    obtain ⟨inner, mid, heq, hv, hvs⟩ := h
    simp only [heq, hv, hvs]
    rfl

end Conditions.Json
