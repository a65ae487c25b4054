import Conditions.Proofs.Json.Parts

set_option autoImplicit false

namespace Conditions.Json

/-- Among the texts that a reader takes one value from are those of `P`, behind blanks, and no others. -/
def Reader.Takes {α : Type} (read : Reader α) (a : α) (P : List Char → Prop) : Prop :=
  ∀ cs rest, read cs = .ok (a, rest) ↔ ∃ b w, Blank b ∧ P w ∧ cs = b ++ (w ++ rest)

theorem Reader.Takes.behind_opening {α : Type} {read inside : Reader α} {a : α}
    {P : List Char → Prop} {opening : Char} (hopening : isBlank opening = false)
    (start : ∀ w, P w → ∃ inner, w = opening :: inner)
    (opened : ∀ cs rest, read cs = .ok (a, rest) ↔
      ∃ inner, skipBlank cs = opening :: inner ∧ inside inner = .ok (a, rest))
    (taken : ∀ inner rest, inside inner = .ok (a, rest) ↔
      ∃ w, P (opening :: w) ∧ inner = w ++ rest) : read.Takes a P := by
  intro cs rest
  rw [opened]
  constructor
  · rintro ⟨inner, hskip, hread⟩
    obtain ⟨w, hw, rfl⟩ := (taken inner rest).1 hread
    obtain ⟨b, hb, rfl⟩ := (skipBlank_eq_cons_iff hopening).1 hskip
    exact ⟨b, opening :: w, hb, hw, rfl⟩
  · rintro ⟨b, w, hb, hw, rfl⟩
    obtain ⟨inner, rfl⟩ := start w hw
    refine ⟨inner ++ rest, ?_, (taken _ rest).2 ⟨inner, hw, rfl⟩⟩
    rw [skipBlank_append hb, List.cons_append, skipBlank_cons hopening]

structure Reader.StartsItems {α : Type} (read : Reader α) : Prop where
  skip : ∀ cs, read (skipBlank cs) = read cs
  start : ∀ {cs rest a}, read cs = .ok (a, rest) → ∃ c left, skipBlank cs = c :: left ∧ c ≠ ']'

inductive ItemsRead {α : Type} (read : Reader α) :
    Bool → List Char → List α → List Char → Prop
  | close {first : Bool} {cs rest : List Char} (next : nextItem first cs = .ok (.close rest)) :
      ItemsRead read first cs [] rest
  | item {first : Bool} {cs inner mid rest : List Char} {a : α} {as : List α}
      (next : nextItem first cs = .ok (.item () inner)) (value : read inner = .ok (a, mid))
      (later : ItemsRead read false mid as rest) : ItemsRead read first cs (a :: as) rest

section

variable {α : Type} {read : Reader α} {a : α} {as : List α} {P : List Char → Prop}
  {Ps : List (List Char → Prop)}

theorem Reader.Takes.finds (h : read.Takes a P) (n : Nat) : read.reading.Finds n a P := by
  intro cs rest _ hread
  exact (h cs rest).1 hread

theorem Reader.Takes.reads (h : read.Takes a P) : read.reading.Reads a P := by
  intro b w rest hb hw _
  exact (h _ rest).2 ⟨b, w, hb, hw, rfl⟩

theorem Reader.StartsItems.first_iff (start : read.StartsItems) {cs mid : List Char} :
    (∃ inner, nextItem true cs = .ok (.item () inner) ∧ read inner = .ok (a, mid)) ↔
      read cs = .ok (a, mid) := by
  constructor
  · rintro ⟨inner, next, value⟩
    rw [← start.skip, (nextItem_first_iff.1 next).1]
    exact value
  · intro value
    obtain ⟨c, left, hcs, hc⟩ := start.start value
    refine ⟨c :: left, nextItem_first_iff.2 ⟨hcs, c, left, rfl, hc⟩, ?_⟩
    rwa [← hcs, start.skip]

theorem nextItem_false_iff {cs rest : List Char} :
    nextItem false cs = .ok (.item () rest) ↔
      ∃ b inner, Blank b ∧ cs = b ++ ',' :: inner ∧ nextItem true inner = .ok (.item () rest) := by
  rw [nextItem_later_iff]
  constructor
  · rintro ⟨inner, hcs, hfirst⟩
    obtain ⟨b, hb, rfl⟩ := (skipBlank_eq_cons_iff (by decide)).1 hcs
    exact ⟨b, inner, hb, rfl, nextItem_first_iff.2 hfirst⟩
  · rintro ⟨b, inner, hb, rfl, hfirst⟩
    refine ⟨inner, ?_, nextItem_first_iff.1 hfirst⟩
    rw [skipBlank_append hb, skipBlank_cons (by decide)]

theorem itemsRead_iff_partsRead (start : read.StartsItems) {first : Bool} {cs rest : List Char} :
    ItemsRead read first cs as rest ↔ PartsRead ']' read.reading first cs as rest := by
  constructor
  · intro h
    induction h with
    | @close first _ _ next =>
      obtain ⟨b, hb, rfl⟩ := (nextItem_eq_close_iff first).1 next
      exact .close hb _
    | @item first _ _ _ _ _ _ next value later ih =>
      cases first with
      | true => exact .first (start.first_iff.1 ⟨_, next, value⟩) ih
      | false =>
        obtain ⟨b, inner, hb, rfl, hfirst⟩ := nextItem_false_iff.1 next
        exact .later hb (start.first_iff.1 ⟨_, hfirst, value⟩) ih
  · intro h
    induction h with
    | @close first b blank rest => exact .close ((nextItem_eq_close_iff first).2 ⟨b, blank, rfl⟩)
    | first head tail ih =>
      obtain ⟨inner, next, value⟩ := start.first_iff.2 head
      exact .item next value ih
    | later blank head tail ih =>
      obtain ⟨inner, next, value⟩ := start.first_iff.2 head
      exact .item (nextItem_false_iff.2 ⟨_, _, blank, rfl, next⟩) value ih

theorem itemsRead_iff_enclosed (start : read.StartsItems) (h : List.Forall₂ read.Takes as Ps)
    {cs rest : List Char} :
    ItemsRead read true cs as rest ↔ ∃ w, Bracketed Ps ('[' :: w) ∧ cs = w ++ rest := by
  have finds (n : Nat) : List.Forall₂ (read.reading.Finds n) as Ps := h.imp fun _ _ h => h.finds n
  have reads : List.Forall₂ read.reading.Reads as Ps := h.imp fun _ _ h => h.reads
  exact (itemsRead_iff_partsRead start).trans
    (partsRead_iff_enclosed finds reads (by decide) '[')

end

theorem readItems_iff_itemsRead {first : Bool} {cs rest : List Char} {vs : List Json} :
    readItems first cs = .ok (vs, rest) ↔ ItemsRead readValue first cs vs rest := by
  induction vs generalizing first cs with
  | nil =>
    rw [readItems_nil_iff, ← nextItem_eq_close_iff first]
    constructor
    · exact .close
    · rintro (next | _)
      exact next
  | cons v vs ih =>
    rw [readItems_cons_iff]
    constructor
    · rintro ⟨inner, mid, next, value, later⟩
      exact .item next value (ih.1 later)
    · intro hread
      cases hread with
      | item next value later => exact ⟨_, _, next, value, ih.2 later⟩

theorem readValue_startsItems : Reader.StartsItems readValue :=
  ⟨readValue_skipBlank, readValue_start⟩

end Conditions.Json
