import Conditions.Json.Reader.Typed
import Conditions.Proofs.Json.Spelling

set_option autoImplicit false

namespace Conditions.Json

def Key (key : String) (w : List Char) : Prop :=
  ∃ k b, Literal key k ∧ Blank b ∧ w = k ++ (b ++ [':'])

def Member (key : String) (P : List Char → Prop) (w : List Char) : Prop :=
  ∃ k b v, Key key k ∧ Blank b ∧ P v ∧ w = k ++ (b ++ v)

theorem readColon_eq_ok_iff {cs rest : List Char} :
    readColon cs = .ok rest ↔ ∃ b, Blank b ∧ cs = b ++ ':' :: rest := by
  rw [← skipBlank_eq_cons_iff (by decide)]
  unfold readColon
  constructor
  · intro h
    split at h
    · cases h
    · rename_i heq
      cases h
      exact heq
    · cases h
  · intro h
    rw [h]
    rfl

theorem Key.read {key : String} {w : List Char} (h : Key key w) (rest : List Char) :
    ∃ left, w ++ rest = '"' :: left ∧ skipBlank ('"' :: left) = '"' :: left ∧
      readKey ('"' :: left) = .ok (.item key rest) := by
  obtain ⟨k, b, hk, hb, rfl⟩ := h
  obtain ⟨left, hleft, hs⟩ := hk.read (b ++ ':' :: rest)
  have hcolon : readColon (b ++ ':' :: rest) = .ok rest := readColon_eq_ok_iff.2 ⟨b, hb, rfl⟩
  refine ⟨left, ?_, skipBlank_cons (by decide) left, ?_⟩
  · rw [← hleft]
    simp
  · simp only [readKey, hs, hcolon, String.ofList_toList]

theorem readKey_eq_item_iff {cs rest : List Char} {key : String} :
    readKey cs = .ok (.item key rest) ↔ ∃ w, Key key w ∧ cs = w ++ rest := by
  constructor
  · intro h
    unfold readKey at h
    split at h
    · split at h
      · cases h
      · rename_i s left hs
        split at h
        · cases h
        · rename_i hcolon
          cases h
          obtain ⟨k, hk, hcs⟩ := literal_of_readString hs
          obtain ⟨b, hb, rfl⟩ := readColon_eq_ok_iff.1 hcolon
          exact ⟨_, ⟨k, b, hk, hb, rfl⟩, by simp [hcs]⟩
    · cases h
  · rintro ⟨w, hw, rfl⟩
    obtain ⟨left, hleft, -, hkey⟩ := hw.read rest
    rw [hleft, hkey]

theorem readKey_ne_close (cs rest : List Char) : readKey cs ≠ .ok (.close rest) := by
  intro h
  unfold readKey at h
  split at h
  · split at h
    · cases h
    · split at h <;> cases h
  · cases h

theorem nextMember_eq_close_iff (first : Bool) {cs rest : List Char} :
    nextMember first cs = .ok (.close rest) ↔ ∃ b, Blank b ∧ cs = b ++ '}' :: rest := by
  rw [← skipBlank_eq_cons_iff (by decide)]
  constructor
  · intro h
    unfold nextMember at h
    split at h
    · cases h
    · rename_i heq
      cases h
      exact heq
    · split at h
      · exact absurd h (readKey_ne_close _ _)
      · split at h
        · split at h
          · cases h
          · cases h
          · exact absurd h (readKey_ne_close _ _)
        · cases h
  · intro h
    rw [nextMember, h]
    rfl

theorem nextMember_first_iff {cs rest : List Char} {key : String} :
    nextMember true cs = .ok (.item key rest) ↔
      ∃ b w, Blank b ∧ Key key w ∧ cs = b ++ (w ++ rest) := by
  constructor
  · intro h
    unfold nextMember at h
    split at h
    · cases h
    · cases h
    · rename_i c left _ heq
      obtain ⟨b, hb, hcs⟩ := exists_blank cs
      obtain ⟨w, hw, hleft⟩ := readKey_eq_item_iff.1 h
      exact ⟨b, w, hb, hw, by rw [hcs, heq, hleft]⟩
  · rintro ⟨b, w, hb, hw, rfl⟩
    obtain ⟨left, hleft, hskip, hkey⟩ := hw.read rest
    rw [nextMember, skipBlank_append hb, hleft, hskip]
    exact hkey

theorem nextMember_later_iff {cs rest : List Char} {key : String} :
    nextMember false cs = .ok (.item key rest) ↔
      ∃ b inner, Blank b ∧ cs = b ++ ',' :: inner ∧
        nextMember true inner = .ok (.item key rest) := by
  constructor
  · intro h
    unfold nextMember at h
    split at h
    · cases h
    · cases h
    · rename_i d inner _ heq
      rw [if_neg Bool.false_ne_true] at h
      split at h
      · rename_i hd
        rw [hd] at heq
        obtain ⟨b, hb, rfl⟩ := (skipBlank_eq_cons_iff (by decide)).1 heq
        refine ⟨b, inner, hb, rfl, ?_⟩
        split at h
        · cases h
        · cases h
        · obtain ⟨b', hb', hinner⟩ := exists_blank inner
          obtain ⟨w, hw, hleft⟩ := readKey_eq_item_iff.1 h
          exact nextMember_first_iff.2 ⟨b', w, hb', hw, by rw [hinner, hleft]⟩
      · cases h
  · rintro ⟨b, inner, hb, rfl, hfirst⟩
    obtain ⟨b', w, hb', hw, rfl⟩ := nextMember_first_iff.1 hfirst
    obtain ⟨left, hleft, hskip, hkey⟩ := hw.read rest
    have hinner : skipBlank (b' ++ (w ++ rest)) = '"' :: left := by
      rw [skipBlank_append hb', hleft, hskip]
    have hcomma : skipBlank (b ++ ',' :: (b' ++ (w ++ rest))) = ',' :: (b' ++ (w ++ rest)) := by
      rw [skipBlank_append hb, skipBlank_cons (by decide)]
    simp [nextMember, hcomma, hinner, hkey]

theorem nextMember_front {first : Bool} {cs inner : List Char} {key : String}
    (h : nextMember first cs = .ok (.item key inner)) :
    ∃ front, cs = front ++ inner ∧ ∀ rest, nextMember first (front ++ rest) = .ok (.item key rest) := by
  have starts {cs : List Char} (h : nextMember true cs = .ok (.item key inner)) :
      ∃ front, cs = front ++ inner ∧
        ∀ rest, nextMember true (front ++ rest) = .ok (.item key rest) := by
    obtain ⟨b, w, hb, hw, rfl⟩ := nextMember_first_iff.1 h
    refine ⟨b ++ w, by simp, fun rest => nextMember_first_iff.2 ⟨b, w, hb, hw, by simp⟩⟩
  cases first with
  | true => exact starts h
  | false =>
    obtain ⟨b, text, hb, rfl, hfirst⟩ := nextMember_later_iff.1 h
    obtain ⟨front, rfl, hfront⟩ := starts hfirst
    refine ⟨b ++ ',' :: front, by simp, fun rest => ?_⟩
    exact nextMember_later_iff.2 ⟨b, front ++ rest, hb, by simp, hfront rest⟩

inductive MembersRead {α : Type} (read : Reader α) :
    Bool → List Char → List (String × α) → List Char → Prop
  | close {first : Bool} {cs rest : List Char} (next : nextMember first cs = .ok (.close rest)) :
      MembersRead read first cs [] rest
  | member {first : Bool} {cs inner mid rest : List Char} {key : String} {a : α}
      {es : List (String × α)} (next : nextMember first cs = .ok (.item key inner))
      (value : read inner = .ok (a, mid)) (later : MembersRead read false mid es rest) :
      MembersRead read first cs ((key, a) :: es) rest

/-- A member, with a value as it is read by itself. -/
def Reading.member {α : Type} (part : Reading α) : Reading (String × α) := fun cs e rest =>
  ∃ inner, nextMember true cs = .ok (.item e.1 inner) ∧ part inner e.2 rest

section

variable {α : Type} {part : Reading α} {read : Reader α} {es : List (String × α)}
  {cs rest : List Char}

theorem Reading.Finds.member {n : Nat} {a : α} {P : List Char → Prop} (h : part.Finds n a P)
    (key : String) : part.member.Finds n (key, a) (Member key P) := by
  rintro cs mid hn ⟨inner, next, value⟩
  have hlt : inner.length < cs.length := length_nextMember next
  obtain ⟨b, k, hb, hk, rfl⟩ := nextMember_first_iff.1 next
  obtain ⟨b', v, hb', hv, rfl⟩ := h inner mid (by omega) value
  exact ⟨b, k ++ (b' ++ v), hb, ⟨k, b', v, hk, hb', hv, rfl⟩, by simp⟩

theorem Reading.Reads.member {a : α} {P : List Char → Prop} (h : part.Reads a P) (key : String) :
    part.member.Reads (key, a) (Member key P) := by
  rintro b _ rest hb ⟨k, b', v, hk, hb', hv, rfl⟩ hrest
  exact ⟨b' ++ (v ++ rest), nextMember_first_iff.2 ⟨b, k, hb, hk, by simp⟩, h b' v rest hb' hv hrest⟩

theorem Reading.Unique.member {a : α} (h : part.Unique a) (key : String) :
    part.member.Unique (key, a) := by
  rintro cs rest ⟨key', a'⟩ rest' ⟨inner, next, value⟩ ⟨inner', next', value'⟩
  obtain ⟨rfl, rfl⟩ : key = key' ∧ inner = inner' := by simpa [next] using next'
  obtain ⟨rfl, rfl⟩ := h _ _ _ _ value value'
  exact ⟨rfl, rfl⟩

theorem Reading.member_ne_close {e : String × α} (h : part.member cs e rest) (inner : List Char) :
    skipBlank cs ≠ '}' :: inner := by
  intro hskip
  obtain ⟨_, next, -⟩ := h
  have closed := (nextMember_eq_close_iff true).2 ((skipBlank_eq_cons_iff (by decide)).1 hskip)
  cases closed.symm.trans next

theorem PartsRead.of_next {first : Bool} {e : String × α} {inner mid : List Char}
    (next : nextMember first cs = .ok (.item e.1 inner)) (value : part inner e.2 mid)
    (later : PartsRead '}' part.member false mid es rest) :
    PartsRead '}' part.member first cs (e :: es) rest := by
  cases first with
  | true => exact .first ⟨inner, next, value⟩ later
  | false =>
    obtain ⟨b, text, hb, rfl, hfirst⟩ := nextMember_later_iff.1 next
    exact .later hb ⟨inner, hfirst, value⟩ later

theorem PartsRead.next {first : Bool} {e : String × α}
    (h : PartsRead '}' part.member first cs (e :: es) rest) :
    ∃ inner mid, nextMember first cs = .ok (.item e.1 inner) ∧ part inner e.2 mid ∧
      PartsRead '}' part.member false mid es rest := by
  cases h with
  | first head tail =>
    obtain ⟨inner, next, value⟩ := head
    exact ⟨inner, _, next, value, tail⟩
  | later blank head tail =>
    obtain ⟨inner, next, value⟩ := head
    exact ⟨inner, _, nextMember_later_iff.2 ⟨_, _, blank, rfl, next⟩, value, tail⟩

theorem membersRead_iff_partsRead {first : Bool} :
    MembersRead read first cs es rest ↔ PartsRead '}' read.reading.member first cs es rest := by
  constructor
  · intro h
    induction h with
    | @close first _ _ next =>
      obtain ⟨b, hb, rfl⟩ := (nextMember_eq_close_iff first).1 next
      exact .close hb _
    | member next value _ ih => exact .of_next next value ih
  · intro h
    induction es generalizing first cs with
    | nil =>
      cases h with
      | close blank _ => exact .close ((nextMember_eq_close_iff first).2 ⟨_, blank, rfl⟩)
    | cons e es ih =>
      obtain ⟨inner, mid, next, value, later⟩ := h.next
      exact .member next value (ih later)

theorem membersRead_iff_braced {P : α → List Char → Prop} (h : ∀ a, read.Takes a (P a)) :
    MembersRead read true cs es rest ↔
      ∃ w, Braced (es.map fun e => Member e.1 (P e.2)) ('{' :: w) ∧ cs = w ++ rest := by
  have finds (n : Nat) : List.Forall₂ (read.reading.member.Finds n) es
      (es.map fun e => Member e.1 (P e.2)) := by
    rw [List.forall₂_map_right_iff, List.forall₂_same]
    exact fun e _ => ((h e.2).finds n).member e.1
  have reads : List.Forall₂ read.reading.member.Reads es
      (es.map fun e => Member e.1 (P e.2)) := by
    rw [List.forall₂_map_right_iff, List.forall₂_same]
    exact fun e _ => (h e.2).reads.member e.1
  exact membersRead_iff_partsRead.trans (partsRead_iff_enclosed finds reads (by decide) '{')

end

theorem member_render (key : String) {P : List Char → Prop} {w : List Char} (h : P w) :
    Member key P (renderString key ++ ':' :: w) := by
  have name : Key key (renderString key ++ ([] ++ [':'])) :=
    ⟨_, [], literal_render key, List.forall_mem_nil _, rfl⟩
  exact ⟨_, [], w, name, List.forall_mem_nil _, h, by simp⟩

section

variable {α : Type} (value : α → Json) (P : α → List Char → Prop) {es : List (String × α)}

theorem separated_renderMembers (h : ∀ e ∈ es, P e.2 (render (value e.2))) :
    ∃ ws, Separated (es.map fun e => Member e.1 (P e.2)) ws ∧
      renderMembers (es.map fun e => (e.1, value e.2)) = ws ++ ['}'] := by
  induction es with
  | nil => exact ⟨[], .nil, by rw [List.map_nil, renderMembers, List.nil_append]⟩
  | cons e es ih =>
    obtain ⟨he, hes⟩ := List.forall_mem_cons.1 h
    obtain ⟨ws, hws, heq⟩ := ih hes
    refine ⟨_, .cons (.of_exact (member_render e.1 he)) hws, ?_⟩
    rw [List.map_cons, renderMembers, heq]
    simp

theorem braced_render (h : ∀ e ∈ es, P e.2 (render (value e.2))) :
    Braced (es.map fun e => Member e.1 (P e.2))
      (render (.object (es.map fun e => (e.1, value e.2)))) := by
  cases es with
  | nil =>
    rw [List.map_nil, List.map_nil, render]
    exact .empty (List.forall_mem_nil _)
  | cons e es =>
    obtain ⟨he, hes⟩ := List.forall_mem_cons.1 h
    obtain ⟨ws, hws, heq⟩ := separated_renderMembers value P hes
    have text : Braced _ _ := .parts (.of_exact (member_render e.1 he)) hws
    rw [List.map_cons, List.map_cons, render, heq]
    simpa using text

end

end Conditions.Json
