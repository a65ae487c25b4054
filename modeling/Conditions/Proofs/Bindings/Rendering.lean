import Conditions.Bindings
import Conditions.Proofs.Entries
import Conditions.Proofs.Json.Loops
import Conditions.Proofs.Json.Objects
import Mathlib.Data.Set.Card

set_option autoImplicit false

namespace Conditions

open Json (Braced Literal Member MembersRead Padded)

theorem Json.takes_readOptionalString (s : Option String) :
    Json.Reader.Takes Json.readOptionalString s (s.elim (· = ['n', 'u', 'l', 'l']) Literal) := by
  intro cs rest
  constructor
  · intro h
    unfold readOptionalString at h
    split at h
    · rename_i left heq
      obtain ⟨rfl, rfl⟩ := map_readLetters_eq_ok_iff.1 h
      obtain ⟨b, hb, rfl⟩ := (skipBlank_eq_cons_iff (by decide)).1 heq
      exact ⟨b, _, hb, rfl, rfl⟩
    · rename_i left heq
      rw [Except.map_eq_ok_iff] at h
      obtain ⟨⟨s', left'⟩, hread, hs⟩ := h
      cases hs
      obtain ⟨b, hb, rfl⟩ := (skipBlank_eq_cons_iff (by decide)).1 heq
      obtain ⟨w, hw, hleft⟩ := literal_of_readString hread
      exact ⟨b, w, hb, hw, by rw [hleft]⟩
    · cases h
  · rintro ⟨b, w, hb, hw, rfl⟩
    cases s with
    | none =>
      have hskip : skipBlank (b ++ (w ++ rest)) = 'n' :: 'u' :: 'l' :: 'l' :: rest := by
        rw [skipBlank_append hb, show w = ['n', 'u', 'l', 'l'] from hw]
        exact skipBlank_cons (by decide) _
      simp only [readOptionalString, hskip]
      rfl
    | some s =>
      obtain ⟨left, hleft, hs⟩ := Literal.read hw rest
      have hskip : skipBlank (b ++ (w ++ rest)) = '"' :: left := by
        rw [skipBlank_append hb, hleft, skipBlank_cons (by decide)]
      simp only [readOptionalString, hskip, hs]
      simp [Except.map]

namespace Bindings

def MentionSpelling (e : String × Option String) : List Char → Prop :=
  Member e.1 (e.2.elim (· = ['n', 'u', 'l', 'l']) Literal)

structure Collects (x : Bindings) (es : List (String × Option String)) : Prop where
  bound : ∀ name value, x.get? name = some value ↔ Entries.Last es name (some value)
  unbound : ∀ name, x.get? name = none ↔
    (∀ e ∈ es, e.1 ≠ name) ∨ Entries.Last es name none

def Rendering (x : Bindings) (w : List Char) : Prop :=
  ∃ es, Braced (es.map MentionSpelling) w ∧ x.Collects es

theorem collects_ofMentions (es : List (String × Option String)) : (ofMentions es).Collects es := by
  constructor
  · intro name value
    rw [get?_ofMentions, Option.join_eq_some_iff, Entries.find?_reverse_eq_some_iff]
  · intro name
    rw [get?_ofMentions, Option.join_eq_none_iff, Entries.find?_reverse_eq_some_iff,
      Entries.find?_reverse_eq_none_iff]

theorem Collects.unique {x y : Bindings} {es : List (String × Option String)} (hx : x.Collects es)
    (hy : y.Collects es) : x = y := by
  ext name value
  rw [hx.bound, hy.bound]

theorem readMentions_eq (first : Bool) (cs : List Char) :
    readMentions first cs =
      match Json.nextMember first cs with
      | .error f => .error f
      | .ok (.close rest) => .ok ([], rest)
      | .ok (.item name rest) =>
        match Json.readOptionalString rest with
        | .error f => .error f
        | .ok (v, rest) => (readMentions false rest).map fun p => ((name, v) :: p.1, p.2) := by
  rw [readMentions]
  split <;> rename_i heq <;> simp only [heq]
  split <;> rename_i hvalue <;> simp only [hvalue]

theorem readMentions_loops :
    Json.Loops Json.nextMember Json.readOptionalString Prod.mk readMentions := by
  intro first cs
  rw [readMentions_eq]
  cases Json.nextMember first cs with
  | error f => rfl
  | ok n =>
    cases n with
    | close rest => rfl
    | item name inner =>
      simp only
      cases Json.readOptionalString inner <;> rfl

theorem readMentions_iff_membersRead {first : Bool} {cs rest : List Char}
    {es : List (String × Option String)} :
    readMentions first cs = .ok (es, rest) ↔
      MembersRead Json.readOptionalString first cs es rest := by
  constructor
  · intro h
    fun_induction readMentions first cs generalizing es rest with
    | case1 => cases h
    | case2 first cs left next =>
      cases h
      exact .close next
    | case3 => cases h
    | case4 first cs name inner next value mid hvalue _ ih =>
      obtain ⟨⟨later, left⟩, hlater, heq⟩ := Except.map_eq_ok_iff.1 h
      cases heq
      exact .member next hvalue (ih hlater)
  · intro h
    induction h with
    | close next => rw [readMentions_eq, next]
    | member next value later ih =>
      rw [readMentions_eq]
      simp only [next, value, ih]
      rfl

theorem read_eq_ok_iff {cs rest : List Char} {x : Bindings} :
    read cs = .ok (x, rest) ↔ ∃ inner, Json.skipBlank cs = '{' :: inner ∧
      ((readMentions true inner).map fun p => (ofMentions p.1, p.2)) = .ok (x, rest) := by
  constructor
  · intro h
    unfold read at h
    split at h
    · exact ⟨_, by assumption, h⟩
    · cases h
  · rintro ⟨inner, hskip, h⟩
    simp only [read, hskip, h]

theorem takes_read (x : Bindings) : read.Takes x x.Rendering := by
  have braced {inner rest : List Char} {es : List (String × Option String)} :
      readMentions true inner = .ok (es, rest) ↔
        ∃ w, Braced (es.map MentionSpelling) ('{' :: w) ∧ inner = w ++ rest :=
    readMentions_iff_membersRead.trans (Json.membersRead_iff_braced Json.takes_readOptionalString)
  have start : ∀ w, x.Rendering w → ∃ inner, w = '{' :: inner := fun _ ⟨_, hw, _⟩ => hw.start
  apply Json.Reader.Takes.behind_opening (by decide) start fun _ _ => read_eq_ok_iff
  intro inner rest
  constructor
  · intro h
    obtain ⟨⟨es, left⟩, hes, hx⟩ := Except.map_eq_ok_iff.1 h
    cases hx
    obtain ⟨w, hw, rfl⟩ := braced.1 hes
    exact ⟨w, ⟨es, hw, collects_ofMentions es⟩, rfl⟩
  · rintro ⟨w, ⟨es, hw, hx⟩, rfl⟩
    rw [braced.2 ⟨w, hw, rfl⟩, hx.unique (collects_ofMentions es)]
    rfl

/-- The text is an object, among blanks, with these mentions of names. -/
def TextOf (es : List (String × Option String)) (t : String) : Prop :=
  Padded (Braced (es.map MentionSpelling)) t.toList

theorem ofText_eq_ok_iff_textOf {t : String} {x : Bindings} :
    ofText t = .ok x ↔ ∃ es, TextOf es t ∧ x.Collects es := by
  have texts : x.Rendering = fun w => ∃ es, x.Collects es ∧ Braced (es.map MentionSpelling) w := by
    funext w
    simp only [Rendering, and_comm]
  apply (takes_read x).ofText_eq_ok_iff.trans
  rw [texts, Json.padded_exists_iff]
  simp only [TextOf, and_comm]

/-! ## From values -/

def mentionJson : Option String → Json
  | none => .null
  | some s => .string s

theorem mention_eq_ok_iff {v : Json} {s : Option String} : mention v = .ok s ↔ v = mentionJson s := by
  cases s <;> cases v <;> simp [mention, mentionJson]

theorem mentions_eq_ok_iff {ms : List (String × Json)} {es : List (String × Option String)} :
    mentions ms = .ok es ↔ ms = es.map fun e => (e.1, mentionJson e.2) := by
  induction ms generalizing es with
  | nil =>
    rw [mentions, Except.ok.injEq, eq_comm, eq_comm (a := []), List.map_eq_nil_iff]
  | cons m ms ih =>
    rw [mentions]
    constructor
    · intro h
      split at h
      · cases h
      · rename_i s hs
        obtain ⟨later, hlater, rfl⟩ := Except.map_eq_ok_iff.1 h
        rw [List.map_cons, ← ih.1 hlater, ← mention_eq_ok_iff.1 hs]
    · intro h
      obtain ⟨⟨name, s⟩, later, rfl, hm, rfl⟩ := List.map_eq_cons_iff.1 h.symm
      cases hm
      rw [mention_eq_ok_iff.2 rfl, ih.2 rfl]
      rfl

def valueOf (es : List (String × Option String)) : Json :=
  .object (es.map fun e => (e.1, mentionJson e.2))

theorem ofJson_eq_ok_iff {v : Json} {x : Bindings} :
    ofJson v = .ok x ↔ ∃ es, v = valueOf es ∧ x.Collects es := by
  constructor
  · intro h
    cases v with
    | object ms =>
      obtain ⟨es, hes, rfl⟩ := Except.map_eq_ok_iff.1 h
      exact ⟨es, congrArg Json.object (mentions_eq_ok_iff.1 hes), collects_ofMentions es⟩
    | _ => cases h
  · rintro ⟨es, rfl, hx⟩
    rw [valueOf, ofJson, mentions_eq_ok_iff.2 rfl, hx.unique (collects_ofMentions es)]
    rfl

theorem ofMentions_ofList (es : List (String × Option String)) :
    ofMentions (Entries.ofList es) = ofMentions es := by
  have twice : Entries.ofList (Entries.ofList es) = Entries.ofList es :=
    Entries.ofList_of_ascending (Entries.ascending_ofList es)
  simp only [ofMentions, twice]

theorem ofJson_ofMembers (es : List (String × Option String)) :
    ofJson (Json.ofMembers (es.map fun e => (e.1, mentionJson e.2))) = .ok (ofMentions es) := by
  rw [Json.ofMembers, Entries.ofList_map mentionJson, ← ofMentions_ofList es]
  exact ofJson_eq_ok_iff.2 ⟨_, rfl, collects_ofMentions _⟩

/-! ## As finite maps -/

theorem get?_insert_eq_update (x : Bindings) (name value : String) :
    (x.insert name value).get? = Function.update x.get? name (some value) := by
  funext k
  rw [get?_insert, Function.update_apply]

theorem isEmpty_iff (x : Bindings) : x.isEmpty = true ↔ ∀ name, x.get? name = none := by
  rw [isEmpty, List.isEmpty_iff]
  constructor
  · intro h name
    rw [get?, h]
    rfl
  · intro h
    rw [List.eq_nil_iff_forall_not_mem]
    intro e he
    exact Entries.find?_eq_none_iff.1 (h e.1) e he rfl

theorem bound_eq_toFinset (x : Bindings) :
    {name | ∃ value, x.get? name = some value} = ((x.entries.map Prod.fst).toFinset : Set String) := by
  ext name
  have hnone : x.get? name = none ↔ ∀ e ∈ x.entries, e.1 ≠ name := Entries.find?_eq_none_iff
  rw [Set.mem_ofPred_eq, ← Option.ne_none_iff_exists', ne_eq, hnone]
  simp

theorem finite_bound (x : Bindings) : {name | ∃ value, x.get? name = some value}.Finite := by
  rw [bound_eq_toFinset]
  exact Finset.finite_toSet _

theorem size_eq_ncard (x : Bindings) :
    x.size = {name | ∃ value, x.get? name = some value}.ncard := by
  rw [bound_eq_toFinset, Set.ncard_coe_finset, List.toFinset_card_of_nodup x.ascending.nodup_keys,
    List.length_map, size]

/-! ## The bindings of a text -/

/-- A text is read as bindings just if it is an object, among blanks, that mentions names and in which
the last mentions of names come to these bindings. -/
theorem ofText_eq_ok_iff_mentions (t : String) (x : Bindings) :
    (ofText t = .ok x ↔ Padded x.Rendering t.toList) ∧
    ∀ es, x.Collects es → x.size = {name | ∃ value, Entries.Last es name (some value)}.ncard := by
  refine ⟨(takes_read x).ofText_eq_ok_iff, ?_⟩
  intro es hx
  rw [size_eq_ncard]
  simp only [hx.bound]

/-- The second mention has the name of the first in another spelling, and leaves it unbound. -/
theorem ofText_eq_ok_iff_mentions_respelled :
    let t := " \x7b \"a\" : \"x\" , \"\\u0061\":null,\"b\":\"\"\x7d"
    let x := ofList [("b", "")]
    let es := [("a", some "x"), ("a", none), ("b", some "")]
    ofText t = .ok x ∧ Padded x.Rendering t.toList ∧ x.Collects es ∧
      x.size = {name | ∃ value, Entries.Last es name (some value)}.ncard := by
  intro t x es
  have hread : ofText t = .ok x := by decide +kernel
  have hx : x = ofMentions es := by decide
  have collects : x.Collects es := hx ▸ collects_ofMentions es
  obtain ⟨texts, sizes⟩ := ofText_eq_ok_iff_mentions t x
  exact ⟨hread, texts.1 hread, collects, sizes es collects⟩

end Bindings

end Conditions
