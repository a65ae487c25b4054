import Conditions.Proofs.Json.Arrays
import Conditions.Proofs.Json.Numerals
import Mathlib.Data.List.Forall2

set_option autoImplicit false

/-!
# Parts between brackets

Arrays and objects are put together in one way: blanks may stand around each part, a comma before
each but the first, and brackets around all. `PartsRead` is reading of this kind, whatever the parts
are, and the texts it accepts follow from those of the parts (`partsRead_iff_enclosed`).
-/
namespace Conditions.Json

def Padded (P : List Char → Prop) (w : List Char) : Prop :=
  ∃ b v b', Blank b ∧ P v ∧ Blank b' ∧ w = b ++ (v ++ b')

inductive Separated : List (List Char → Prop) → List Char → Prop
  | nil : Separated [] []
  | cons {P : List Char → Prop} {Ps : List (List Char → Prop)} {w ws : List Char}
      (head : Padded P w) (tail : Separated Ps ws) : Separated (P :: Ps) (',' :: (w ++ ws))

inductive Enclosed (opening closing : Char) : List (List Char → Prop) → List Char → Prop
  | empty {b : List Char} (blank : Blank b) :
      Enclosed opening closing [] (opening :: (b ++ [closing]))
  | parts {P : List Char → Prop} {Ps : List (List Char → Prop)} {w ws : List Char}
      (head : Padded P w) (tail : Separated Ps ws) :
      Enclosed opening closing (P :: Ps) (opening :: (w ++ (ws ++ [closing])))

abbrev Bracketed := Enclosed '[' ']'

abbrev Braced := Enclosed '{' '}'

theorem Enclosed.start {opening closing : Char} {Ps : List (List Char → Prop)} {w : List Char}
    (h : Enclosed opening closing Ps w) : ∃ inner, w = opening :: inner := by
  cases h with
  | empty _ => exact ⟨_, rfl⟩
  | parts _ _ => exact ⟨_, rfl⟩

theorem Padded.of_exact {P : List Char → Prop} {w : List Char} (h : P w) : Padded P w := by
  refine ⟨[], w, [], ?_, h, ?_, by simp⟩
  · exact List.forall_mem_nil _
  · exact List.forall_mem_nil _

theorem Padded.imp {P Q : List Char → Prop} (h : ∀ w, P w → Padded Q w) {w : List Char}
    (hw : Padded P w) : Padded Q w := by
  obtain ⟨b, v, b', hb, hv, hb', rfl⟩ := hw
  obtain ⟨c, u, c', hc, hu, hc', rfl⟩ := h v hv
  exact ⟨b ++ c, u, c' ++ b', List.forall_mem_append.2 ⟨hb, hc⟩, hu,
    List.forall_mem_append.2 ⟨hc', hb'⟩, by simp⟩

theorem padded_exists_iff {ι : Type} {R : ι → Prop} {S : ι → List Char → Prop} {w : List Char} :
    Padded (fun v => ∃ i, R i ∧ S i v) w ↔ ∃ i, R i ∧ Padded (S i) w := by
  constructor
  · rintro ⟨b, v, b', hb, ⟨i, hi, hv⟩, hb', rfl⟩
    exact ⟨i, hi, b, v, b', hb, hv, hb', rfl⟩
  · rintro ⟨i, hi, b, v, b', hb, hv, hb', rfl⟩
    exact ⟨b, v, b', hb, ⟨i, hi, hv⟩, hb', rfl⟩

theorem Separated.imp {Ps Qs : List (List Char → Prop)}
    (h : List.Forall₂ (fun P Q => ∀ w, P w → Padded Q w) Ps Qs) {ws : List Char}
    (hws : Separated Ps ws) : Separated Qs ws := by
  induction h generalizing ws with
  | nil =>
    cases hws
    exact .nil
  | cons hPQ _ ih =>
    cases hws with
    | cons head tail => exact .cons (head.imp hPQ) (ih tail)

theorem Enclosed.imp {opening closing : Char} {Ps Qs : List (List Char → Prop)}
    (h : List.Forall₂ (fun P Q => ∀ w, P w → Padded Q w) Ps Qs) {w : List Char}
    (hw : Enclosed opening closing Ps w) : Enclosed opening closing Qs w := by
  cases h with
  | nil =>
    cases hw with
    | empty blank => exact .empty blank
  | cons hPQ later =>
    cases hw with
    | parts head tail => exact .parts (head.imp hPQ) (tail.imp later)

section

variable {α β : Type} {R : α → β → Prop} {S : β → List Char → Prop} {as : List α}

theorem Separated.choose {ws : List Char}
    (h : Separated (as.map fun a w => ∃ b, R a b ∧ S b w) ws) :
    ∃ bs, List.Forall₂ R as bs ∧ Separated (bs.map S) ws := by
  induction as generalizing ws with
  | nil =>
    cases h
    exact ⟨[], .nil, .nil⟩
  | cons a as ih =>
    cases h with
    | cons head tail =>
      obtain ⟨bl, v, br, hbl, ⟨b, hb, hv⟩, hbr, rfl⟩ := head
      obtain ⟨bs, hbs, hws⟩ := ih tail
      exact ⟨b :: bs, .cons hb hbs, .cons ⟨bl, v, br, hbl, hv, hbr, rfl⟩ hws⟩

theorem Enclosed.choose {opening closing : Char} {w : List Char}
    (h : Enclosed opening closing (as.map fun a w => ∃ b, R a b ∧ S b w) w) :
    ∃ bs, List.Forall₂ R as bs ∧ Enclosed opening closing (bs.map S) w := by
  cases as with
  | nil =>
    cases h with
    | empty blank => exact ⟨[], .nil, .empty blank⟩
  | cons a as =>
    cases h with
    | parts head tail =>
      obtain ⟨bl, v, br, hbl, ⟨b, hb, hv⟩, hbr, rfl⟩ := head
      obtain ⟨bs, hbs, hws⟩ := tail.choose
      exact ⟨b :: bs, .cons hb hbs, .parts ⟨bl, v, br, hbl, hv, hbr, rfl⟩ hws⟩

theorem Enclosed.choose_iff {opening closing : Char} {w : List Char} :
    Enclosed opening closing (as.map fun a w => ∃ b, R a b ∧ S b w) w ↔
      ∃ bs, List.Forall₂ R as bs ∧ Enclosed opening closing (bs.map S) w := by
  constructor
  · exact Enclosed.choose
  · rintro ⟨bs, hbs, hw⟩
    refine hw.imp ?_
    rw [List.forall₂_map_left_iff, List.forall₂_map_right_iff]
    exact hbs.flip.imp fun b a hR w hw => .of_exact ⟨b, hR, hw⟩

end

theorem tokenEnds_nil : TokenEnds [] := by
  intro c hc
  cases hc

theorem tokenEnds_cons {c : Char} (h : extendsNumeral c = false) (cs : List Char) :
    TokenEnds (c :: cs) := by
  intro d hd
  rw [List.head?_cons, Option.mem_some_iff] at hd
  rwa [← hd]

theorem TokenEnds.of_blank {b : List Char} (hb : Blank b) {cs : List Char} (h : TokenEnds cs) :
    TokenEnds (b ++ cs) := by
  cases b with
  | nil => exact h
  | cons c b =>
    apply tokenEnds_cons
    rcases hb c List.mem_cons_self with rfl | rfl | rfl | rfl <;> decide

theorem Separated.tokenEnds {Ps : List (List Char → Prop)} {ws rest : List Char}
    (h : Separated Ps ws) (hrest : TokenEnds rest) : TokenEnds (ws ++ rest) := by
  cases h with
  | nil => exact hrest
  | cons head tail => exact tokenEnds_cons (by decide) _

/-- What may be read at the front of a text, and what is left then. -/
abbrev Reading (α : Type) := List Char → α → List Char → Prop

def Reader.reading {α : Type} (read : Reader α) : Reading α :=
  fun cs a rest => read cs = .ok (a, rest)

section

variable {α : Type}

/-- The texts shorter than `n` in which `a` is read are among those of `P`, behind blanks. -/
def Reading.Finds (part : Reading α) (n : Nat) (a : α) (P : List Char → Prop) : Prop :=
  ∀ cs rest, cs.length < n → part cs a rest → ∃ b w, Blank b ∧ P w ∧ cs = b ++ (w ++ rest)

/-- In the texts of `P` the value `a` is read, if the token ends with them. -/
def Reading.Reads (part : Reading α) (a : α) (P : List Char → Prop) : Prop :=
  ∀ b w rest, Blank b → P w → TokenEnds rest → part (b ++ (w ++ rest)) a rest

def Reading.Unique (part : Reading α) (a : α) : Prop :=
  ∀ cs rest a' rest', part cs a rest → part cs a' rest' → a = a' ∧ rest = rest'

def Reading.ofSpelling (S : α → List Char → Prop) : Reading α := fun cs a rest =>
  ∃ b w, Blank b ∧ S a w ∧ TokenEnds rest ∧ cs = b ++ (w ++ rest)

theorem Reading.reads_ofSpelling (S : α → List Char → Prop) (a : α) :
    (Reading.ofSpelling S).Reads a (S a) := by
  intro b w rest hb hw hrest
  exact ⟨b, w, hb, hw, hrest, rfl⟩

theorem Reading.finds_ofSpelling (S : α → List Char → Prop) (n : Nat) (a : α) :
    (Reading.ofSpelling S).Finds n a (S a) := by
  rintro cs rest - ⟨b, w, hb, hw, -, rfl⟩
  exact ⟨b, w, hb, hw, rfl⟩

inductive PartsRead (closing : Char) (part : Reading α) : Bool → List Char → List α → List Char → Prop
  | close {first : Bool} {b : List Char} (blank : Blank b) (rest : List Char) :
      PartsRead closing part first (b ++ closing :: rest) [] rest
  | first {cs mid rest : List Char} {a : α} {as : List α} (head : part cs a mid)
      (tail : PartsRead closing part false mid as rest) :
      PartsRead closing part true cs (a :: as) rest
  | later {b cs mid rest : List Char} {a : α} {as : List α} (blank : Blank b)
      (head : part cs a mid) (tail : PartsRead closing part false mid as rest) :
      PartsRead closing part false (b ++ ',' :: cs) (a :: as) rest

variable {closing : Char} {part : Reading α} {as : List α} {Ps : List (List Char → Prop)}

theorem separated_of_partsRead {n : Nat} (h : List.Forall₂ (part.Finds n) as Ps)
    {cs rest : List Char} (hn : cs.length < n) (hread : PartsRead closing part false cs as rest) :
    ∃ b ws, Blank b ∧ Separated Ps ws ∧ cs = b ++ (ws ++ closing :: rest) := by
  -- The blanks behind a part stand before the next comma or the closing bracket.
  induction h generalizing cs with
  | nil =>
    cases hread with
    | close blank => exact ⟨_, [], blank, .nil, rfl⟩
  | cons finds _ ih =>
    cases hread with
    | later blank head tail =>
      rw [List.length_append, List.length_cons] at hn
      obtain ⟨b₁, w, hb₁, hw, rfl⟩ := finds _ _ (by omega) head
      rw [List.length_append, List.length_append] at hn
      obtain ⟨b₂, ws, hb₂, hws, rfl⟩ := ih (by omega) tail
      exact ⟨_, _, blank, .cons ⟨b₁, w, b₂, hb₁, hw, hb₂, rfl⟩ hws, by simp⟩

theorem partsRead_of_separated (h : List.Forall₂ part.Reads as Ps)
    (hclosing : extendsNumeral closing = false) {b ws : List Char} (hb : Blank b)
    (hws : Separated Ps ws) (rest : List Char) :
    PartsRead closing part false (b ++ (ws ++ closing :: rest)) as rest := by
  induction h generalizing b ws with
  | nil =>
    cases hws
    exact .close hb rest
  | cons reads _ ih =>
    cases hws with
    | @cons _ _ _ ws head tail =>
      obtain ⟨b₁, w, b₂, hb₁, hw, hb₂, rfl⟩ := head
      have ends : TokenEnds (b₂ ++ (ws ++ closing :: rest)) :=
        .of_blank hb₂ (tail.tokenEnds (tokenEnds_cons hclosing rest))
      have read := PartsRead.later hb (reads b₁ w _ hb₁ hw ends) (ih hb₂ tail)
      simpa using read

theorem enclosed_of_partsRead {n : Nat} (h : List.Forall₂ (part.Finds n) as Ps)
    {cs rest : List Char} (hn : cs.length < n) (hread : PartsRead closing part true cs as rest)
    (opening : Char) : ∃ w, Enclosed opening closing Ps (opening :: w) ∧ cs = w ++ rest := by
  cases h with
  | nil =>
    cases hread with
    | close blank => exact ⟨_, .empty blank, by simp⟩
  | cons finds later =>
    cases hread with
    | first head tail =>
      obtain ⟨b₁, w, hb₁, hw, rfl⟩ := finds _ _ hn head
      rw [List.length_append, List.length_append] at hn
      obtain ⟨b₂, ws, hb₂, hws, rfl⟩ := separated_of_partsRead later (by omega) tail
      exact ⟨_, .parts ⟨b₁, w, b₂, hb₁, hw, hb₂, rfl⟩ hws, by simp⟩

theorem partsRead_of_enclosed (h : List.Forall₂ part.Reads as Ps)
    (hclosing : extendsNumeral closing = false) {opening : Char} {w : List Char}
    (hw : Enclosed opening closing Ps (opening :: w)) (rest : List Char) :
    PartsRead closing part true (w ++ rest) as rest := by
  cases h with
  | nil =>
    cases hw with
    | empty blank => simpa using PartsRead.close blank rest
  | cons reads later =>
    cases hw with
    | @parts _ _ _ ws head tail =>
      obtain ⟨b₁, w, b₂, hb₁, hw, hb₂, rfl⟩ := head
      have ends : TokenEnds (b₂ ++ (ws ++ closing :: rest)) :=
        .of_blank hb₂ (tail.tokenEnds (tokenEnds_cons hclosing rest))
      have read := PartsRead.first (reads b₁ w _ hb₁ hw ends)
        (partsRead_of_separated later hclosing hb₂ tail rest)
      simpa using read

theorem PartsRead.unique (closes : isBlank closing = false) (hcomma : closing ≠ ',')
    (starts : ∀ cs a rest inner, part cs a rest → skipBlank cs ≠ closing :: inner)
    (parts : ∀ a ∈ as, part.Unique a) {first : Bool} {cs rest rest' : List Char} {as' : List α}
    (h : PartsRead closing part first cs as rest) (h' : PartsRead closing part first cs as' rest') :
    as = as' ∧ rest = rest' := by
  induction h generalizing as' with
  | @close first b blank rest =>
    generalize hcs : b ++ closing :: rest = cs at h'
    have hskip : skipBlank cs = closing :: rest := by
      rw [← hcs, skipBlank_append blank, skipBlank_cons closes]
    cases h' with
    | close blank' _ =>
      rw [skipBlank_append blank', skipBlank_cons closes] at hskip
      exact ⟨rfl, (List.cons.inj hskip).2.symm⟩
    | first head _ => exact absurd hskip (starts _ _ _ _ head)
    | later blank' _ _ =>
      rw [skipBlank_append blank', skipBlank_cons (by decide)] at hskip
      exact absurd (List.cons.inj hskip).1.symm hcomma
  | @first cs mid rest a as head tail ih =>
    obtain ⟨here, later⟩ := List.forall_mem_cons.1 parts
    generalize hfirst : true = first at h'
    cases h' with
    | close blank' rest' =>
      have hskip := (skipBlank_append blank' _).trans (skipBlank_cons closes rest')
      exact absurd hskip (starts _ _ _ _ head)
    | first head' tail' =>
      obtain ⟨rfl, rfl⟩ := here _ _ _ _ head head'
      obtain ⟨rfl, rfl⟩ := ih later tail'
      exact ⟨rfl, rfl⟩
    | later _ _ _ => cases hfirst
  | @later b cs mid rest a as blank head tail ih =>
    obtain ⟨here, later⟩ := List.forall_mem_cons.1 parts
    generalize hcs : b ++ ',' :: cs = text at h'
    have hskip : skipBlank text = ',' :: cs := by
      rw [← hcs, skipBlank_append blank, skipBlank_cons (by decide)]
    generalize hfirst : false = first at h'
    cases h' with
    | close blank' _ =>
      rw [skipBlank_append blank', skipBlank_cons closes] at hskip
      exact absurd (List.cons.inj hskip).1 hcomma
    | first _ _ => cases hfirst
    | later blank' head' tail' =>
      rw [skipBlank_append blank', skipBlank_cons (by decide)] at hskip
      cases hskip
      obtain ⟨rfl, rfl⟩ := here _ _ _ _ head head'
      obtain ⟨rfl, rfl⟩ := ih later tail'
      exact ⟨rfl, rfl⟩

theorem PartsRead.tokenEnds (hclosing : extendsNumeral closing = false) {cs rest : List Char}
    (h : PartsRead closing part false cs as rest) : TokenEnds cs := by
  generalize hfirst : false = first at h
  cases h with
  | close blank rest => exact .of_blank blank (tokenEnds_cons hclosing rest)
  | first _ _ => cases hfirst
  | later blank _ _ => exact .of_blank blank (tokenEnds_cons (by decide) _)

theorem partsRead_behind_opening (h : List.Forall₂ part.Reads as Ps)
    (hclosing : extendsNumeral closing = false) {opening : Char} (hopening : isBlank opening = false)
    {b w : List Char} (hb : Blank b) (hw : Enclosed opening closing Ps w) (rest : List Char) :
    ∃ inner, skipBlank (b ++ (w ++ rest)) = opening :: inner ∧
      PartsRead closing part true inner as rest := by
  obtain ⟨inner, rfl⟩ := hw.start
  refine ⟨inner ++ rest, ?_, partsRead_of_enclosed h hclosing hw rest⟩
  rw [skipBlank_append hb, List.cons_append, skipBlank_cons hopening]

theorem partsRead_iff_enclosed (finds : ∀ n, List.Forall₂ (part.Finds n) as Ps)
    (reads : List.Forall₂ part.Reads as Ps) (hclosing : extendsNumeral closing = false)
    (opening : Char) {cs rest : List Char} :
    PartsRead closing part true cs as rest ↔
      ∃ w, Enclosed opening closing Ps (opening :: w) ∧ cs = w ++ rest := by
  constructor
  · intro hread
    exact enclosed_of_partsRead (finds _) (Nat.lt_succ_self cs.length) hread opening
  · rintro ⟨w, hw, rfl⟩
    exact partsRead_of_enclosed reads hclosing hw rest

end

end Conditions.Json
