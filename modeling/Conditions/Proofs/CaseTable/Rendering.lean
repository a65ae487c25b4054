import Conditions.CaseTable
import Conditions.Proofs.Bindings.Rendering

set_option autoImplicit false

namespace Conditions

open Json (Blank Bracketed BooleanSpelling Enclosed ItemsRead Separated)

namespace Json

theorem takes_readBoolean (b : Bool) : Reader.Takes readBoolean b (BooleanSpelling b) := by
  intro cs rest
  constructor
  · intro h
    unfold readBoolean at h
    split at h
    · rename_i left heq
      obtain ⟨rfl, rfl⟩ := map_readLetters_eq_ok_iff.1 h
      obtain ⟨b, hb, rfl⟩ := (skipBlank_eq_cons_iff (by decide)).1 heq
      exact ⟨b, _, hb, rfl, rfl⟩
    · rename_i left heq
      obtain ⟨rfl, rfl⟩ := map_readLetters_eq_ok_iff.1 h
      obtain ⟨b, hb, rfl⟩ := (skipBlank_eq_cons_iff (by decide)).1 heq
      exact ⟨b, _, hb, rfl, rfl⟩
    · cases h
  · rintro ⟨bl, w, hbl, hw, rfl⟩
    rw [show w = _ from hw]
    cases b with
    | true =>
      have hskip : skipBlank (bl ++ (['t', 'r', 'u', 'e'] ++ rest)) = 't' :: 'r' :: 'u' :: 'e' :: rest :=
        (skipBlank_append hbl _).trans (skipBlank_cons (by decide) _)
      simp only [readBoolean, if_true, hskip]
      rfl
    | false =>
      have hskip : skipBlank (bl ++ (['f', 'a', 'l', 's', 'e'] ++ rest)) =
          'f' :: 'a' :: 'l' :: 's' :: 'e' :: rest :=
        (skipBlank_append hbl _).trans (skipBlank_cons (by decide) _)
      simp only [readBoolean, Bool.false_eq_true, if_false, hskip]
      rfl

theorem readBoolean_startsItems : Reader.StartsItems readBoolean where
  skip cs := by
    simp only [readBoolean, skipBlank_skipBlank]
  start h := by
    unfold readBoolean at h
    split at h
    · exact ⟨'t', _, by assumption, by decide⟩
    · exact ⟨'f', _, by assumption, by decide⟩
    · cases h

end Json

theorem Bindings.read_startsItems : Json.Reader.StartsItems read where
  skip cs := by
    simp only [read, Json.skipBlank_skipBlank]
  start h := by
    unfold read at h
    split at h
    · exact ⟨'{', _, by assumption, by decide⟩
    · cases h

def Case.Rendering (case : Case) : List Char → Prop :=
  Bracketed [case.bindings.Rendering, BooleanSpelling case.expected]

namespace CaseTable

def Rendering (cases : List Case) : List Char → Prop :=
  Bracketed (cases.map Case.Rendering)

theorem readCaseEnd_eq_ok_iff {cs rest : List Char} :
    readCaseEnd cs = .ok rest ↔ ∃ b, Blank b ∧ cs = b ++ ']' :: rest := by
  rw [← Json.skipBlank_eq_cons_iff (by decide)]
  unfold readCaseEnd
  constructor
  · intro h
    split at h
    · cases h
    · rename_i heq
      cases h
      exact heq
    · split at h <;> cases h
    · cases h
  · intro h
    rw [h]
    rfl

theorem readCase_iff_steps {cs rest : List Char} {case : Case} :
    readCase cs = .ok (case, rest) ↔
      ∃ inner first mid second mid', Json.skipBlank cs = '[' :: inner ∧
        Json.nextItem true inner = .ok (.item () first) ∧
        Bindings.read first = .ok (case.bindings, mid) ∧
        Json.nextItem false mid = .ok (.item () second) ∧
        Json.readBoolean second = .ok (case.expected, mid') ∧ readCaseEnd mid' = .ok rest := by
  constructor
  · intro h
    unfold readCase at h
    split at h
    · rename_i inner heq
      split at h
      · cases h
      · cases h
      · rename_i first hfirst
        split at h
        · cases h
        · rename_i x mid hx
          split at h
          · cases h
          · cases h
          · rename_i second hsecond
            split at h
            · cases h
            · rename_i expected mid' hexpected
              obtain ⟨rest', hend, hcase⟩ := Except.map_eq_ok_iff.1 h
              cases hcase
              exact ⟨inner, first, mid, second, mid', heq, hfirst, hx, hsecond, hexpected, hend⟩
    · cases h
  · rintro ⟨inner, first, mid, second, mid', heq, hfirst, hx, hsecond, hexpected, hend⟩
    simp only [readCase, heq, hfirst, hx, hsecond, hexpected, hend]
    rfl

theorem readCase_eq_ok_iff {cs rest : List Char} {case : Case} :
    readCase cs = .ok (case, rest) ↔
      ∃ inner mid b next mid', Json.skipBlank cs = '[' :: inner ∧
        Bindings.read inner = .ok (case.bindings, mid) ∧ Blank b ∧ mid = b ++ ',' :: next ∧
        Json.readBoolean next = .ok (case.expected, mid') ∧ readCaseEnd mid' = .ok rest := by
  rw [readCase_iff_steps]
  constructor
  · rintro ⟨inner, first, mid, second, mid', heq, hfirst, hx, hsecond, hexpected, hend⟩
    obtain ⟨b, next, hb, hmid, hnext⟩ := Json.nextItem_false_iff.1 hsecond
    have hread := Bindings.read_startsItems.first_iff.1 ⟨_, hfirst, hx⟩
    have hread' := Json.readBoolean_startsItems.first_iff.1 ⟨_, hnext, hexpected⟩
    exact ⟨inner, mid, b, next, mid', heq, hread, hb, hmid, hread', hend⟩
  · rintro ⟨inner, mid, b, next, mid', heq, hx, hb, hmid, hexpected, hend⟩
    obtain ⟨first, hfirst, hx⟩ := Bindings.read_startsItems.first_iff.2 hx
    obtain ⟨second, hnext, hexpected⟩ := Json.readBoolean_startsItems.first_iff.2 hexpected
    have hsecond := Json.nextItem_false_iff.2 ⟨b, next, hb, hmid, hnext⟩
    exact ⟨inner, first, mid, second, mid', heq, hfirst, hx, hsecond, hexpected, hend⟩

theorem takes_readCase (case : Case) : Json.Reader.Takes readCase case case.Rendering := by
  have hx := Bindings.takes_read case.bindings
  have hexpected := Json.takes_readBoolean case.expected
  intro cs rest
  rw [readCase_eq_ok_iff]
  constructor
  · rintro ⟨inner, mid, b, next, mid', heq, hread, hb, rfl, hread', hend⟩
    obtain ⟨b₀, hb₀, rfl⟩ := (Json.skipBlank_eq_cons_iff (by decide)).1 heq
    obtain ⟨b₁, w, hb₁, hw, rfl⟩ := (hx _ _).1 hread
    obtain ⟨b₂, w', hb₂, hw', rfl⟩ := (hexpected _ _).1 hread'
    obtain ⟨b₃, hb₃, rfl⟩ := readCaseEnd_eq_ok_iff.1 hend
    have second : Separated [BooleanSpelling case.expected] (',' :: ((b₂ ++ (w' ++ b₃)) ++ [])) :=
      .cons ⟨b₂, w', b₃, hb₂, hw', hb₃, rfl⟩ .nil
    exact ⟨b₀, _, hb₀, .parts ⟨b₁, w, b, hb₁, hw, hb, rfl⟩ second, by simp⟩
  · rintro ⟨b₀, _, hb₀, ⟨⟩ | ⟨⟨b₁, w, b, hb₁, hw, hb, rfl⟩, second⟩, rfl⟩
    cases second with
    | cons head tail =>
      cases tail
      obtain ⟨b₂, w', b₃, hb₂, hw', hb₃, rfl⟩ := head
      refine ⟨_, _, b, _, _, (Json.skipBlank_eq_cons_iff (by decide)).2 ⟨b₀, hb₀, rfl⟩,
        (hx _ _).2 ⟨b₁, w, hb₁, hw, ?_⟩, hb, rfl, (hexpected _ _).2 ⟨b₂, w', hb₂, hw', rfl⟩,
        readCaseEnd_eq_ok_iff.2 ⟨b₃, hb₃, rfl⟩⟩
      simp

theorem readCase_startsItems : Json.Reader.StartsItems readCase where
  skip cs := by
    simp only [readCase, Json.skipBlank_skipBlank]
  start h := by
    obtain ⟨_, _, _, _, _, heq, _⟩ := readCase_eq_ok_iff.1 h
    exact ⟨'[', _, heq, by decide⟩

theorem readCases_eq (first : Bool) (cs : List Char) :
    readCases first cs =
      match Json.nextItem first cs with
      | .error f => .error f
      | .ok (.close rest) => .ok ([], rest)
      | .ok (.item () rest) =>
        match readCase rest with
        | .error f => .error f
        | .ok (case, rest) => (readCases false rest).map fun p => (case :: p.1, p.2) := by
  rw [readCases]
  split <;> rename_i heq <;> simp only [heq]
  split <;> rename_i hcase <;> simp only [hcase]

theorem readCases_loops : Json.Loops Json.nextItem readCase (fun _ case => case) readCases := by
  intro first cs
  rw [readCases_eq]
  cases Json.nextItem first cs with
  | error f => rfl
  | ok n =>
    cases n with
    | close rest => rfl
    | item _ inner =>
      simp only
      cases readCase inner <;> rfl

theorem readCases_iff_itemsRead {first : Bool} {cs rest : List Char} {cases : List Case} :
    readCases first cs = .ok (cases, rest) ↔ ItemsRead readCase first cs cases rest := by
  constructor
  · intro h
    fun_induction readCases first cs generalizing cases rest with
    | case1 => cases h
    | case2 first cs left next =>
      cases h
      exact .close next
    | case3 => cases h
    | case4 first cs inner next case mid hcase _ ih =>
      obtain ⟨⟨later, left⟩, hlater, heq⟩ := Except.map_eq_ok_iff.1 h
      cases heq
      exact .item next hcase (ih hlater)
  · intro h
    induction h with
    | close next => rw [readCases_eq, next]
    | item next value later ih =>
      rw [readCases_eq]
      simp only [next, value, ih]
      rfl

theorem read_eq_ok_iff {cs rest : List Char} {cases : List Case} :
    read cs = .ok (cases, rest) ↔
      ∃ inner, Json.skipBlank cs = '[' :: inner ∧ readCases true inner = .ok (cases, rest) := by
  constructor
  · intro h
    unfold read at h
    split at h
    · exact ⟨_, by assumption, h⟩
    · cases h
  · rintro ⟨inner, hskip, h⟩
    simp only [read, hskip, h]

theorem takes_read (cases : List Case) : Json.Reader.Takes read cases (Rendering cases) := by
  have takes : List.Forall₂ (Json.Reader.Takes readCase) cases (cases.map Case.Rendering) := by
    rw [List.forall₂_map_right_iff, List.forall₂_same]
    exact fun case _ => takes_readCase case
  apply Json.Reader.Takes.behind_opening (by decide) (fun _ => Enclosed.start) (fun _ _ => read_eq_ok_iff)
  intro inner rest
  exact readCases_iff_itemsRead.trans (Json.itemsRead_iff_enclosed readCase_startsItems takes)

end CaseTable

end Conditions
