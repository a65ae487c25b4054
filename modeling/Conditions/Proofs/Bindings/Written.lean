import Conditions.Proofs.Bindings.Rendering

set_option autoImplicit false

namespace Conditions.Bindings

variable {x : Bindings} {es fs : List (String × Option String)}

/-- The mentions that are written: each bound name once with its string, in any order. -/
def Writes (x : Bindings) (es : List (String × Option String)) : Prop :=
  es.Perm (x.entries.map fun e => (e.1, some e.2))

/-- The second list is the first with null put in anywhere, under names that are not bound. -/
inductive NullsAdded (x : Bindings) :
    List (String × Option String) → List (String × Option String) → Prop
  | nil : NullsAdded x [] []
  | keep {es fs : List (String × Option String)} (e : String × Option String)
      (tail : NullsAdded x es fs) : NullsAdded x (e :: es) (e :: fs)
  | null {es fs : List (String × Option String)} {name : String} (unbound : x.get? name = none)
      (tail : NullsAdded x es fs) : NullsAdded x es ((name, none) :: fs)

theorem NullsAdded.refl (x : Bindings) (es : List (String × Option String)) :
    x.NullsAdded es es := by
  induction es with
  | nil => exact .nil
  | cons e es ih => exact .keep e ih

theorem NullsAdded.subset (h : x.NullsAdded es fs) {e : String × Option String} (he : e ∈ es) :
    e ∈ fs := by
  induction h with
  | nil => exact he
  | keep d _ ih =>
    rcases List.mem_cons.1 he with rfl | he
    · exact List.mem_cons_self
    · exact List.mem_cons_of_mem _ (ih he)
  | null _ _ ih => exact List.mem_cons_of_mem _ (ih he)

theorem NullsAdded.mem_or (h : x.NullsAdded es fs) {e : String × Option String} (he : e ∈ fs) :
    e ∈ es ∨ e.2 = none ∧ x.get? e.1 = none := by
  induction h with
  | nil => exact .inl he
  | keep d _ ih =>
    rcases List.mem_cons.1 he with rfl | he
    · exact .inl List.mem_cons_self
    · exact (ih he).imp_left (List.mem_cons_of_mem _)
  | null unbound _ ih =>
    rcases List.mem_cons.1 he with rfl | he
    · exact .inr ⟨rfl, unbound⟩
    · exact ih he

theorem get?_eq_some_iff_mem {name value : String} :
    x.get? name = some value ↔ (name, value) ∈ x.entries :=
  ⟨Entries.mem_of_find?, Entries.find?_of_mem x.ascending⟩

theorem Writes.mem_iff (h : x.Writes es) {name : String} {s : Option String} :
    (name, s) ∈ es ↔ ∃ value, x.get? name = some value ∧ s = some value := by
  simp only [get?_eq_some_iff_mem]
  rw [List.Perm.mem_iff h, List.mem_map]
  constructor
  · rintro ⟨⟨_, value⟩, mem, heq⟩
    cases heq
    exact ⟨value, mem, rfl⟩
  · rintro ⟨value, mem, rfl⟩
    exact ⟨(name, value), mem, rfl⟩

theorem collects_of_mem_iff (strings : ∀ name value, (name, some value) ∈ es ↔ x.get? name = some value)
    (nulls : ∀ name, (name, none) ∈ es → x.get? name = none) : x.Collects es := by
  have mentioned {name : String} {s : Option String} (h : (name, s) ∈ es) : s = x.get? name := by
    cases s with
    | none => exact (nulls name h).symm
    | some value => exact ((strings name value).1 h).symm
  constructor
  · intro name value
    constructor
    · intro h
      obtain ⟨s, hlast⟩ := Entries.exists_last ((strings name value).2 h)
      rwa [mentioned hlast.mem, h] at hlast
    · intro hlast
      exact (strings name value).1 hlast.mem
  · intro name
    constructor
    · intro h
      by_cases hnone : ∀ e ∈ es, e.1 ≠ name
      · exact .inl hnone
      · push Not at hnone
        obtain ⟨e, he, rfl⟩ := hnone
        obtain ⟨s, hlast⟩ := Entries.exists_last he
        rw [mentioned hlast.mem, h] at hlast
        exact .inr hlast
    · rintro (hnone | hlast)
      · by_contra hbound
        obtain ⟨value, hvalue⟩ := Option.ne_none_iff_exists'.1 hbound
        exact hnone _ ((strings name value).2 hvalue) rfl
      · exact nulls name hlast.mem

theorem Writes.collects (written : x.Writes es) (nulls : x.NullsAdded es fs) : x.Collects fs := by
  apply collects_of_mem_iff
  · intro name value
    constructor
    · intro h
      rcases nulls.mem_or h with mem | ⟨heq, -⟩
      · obtain ⟨value', hvalue, heq⟩ := written.mem_iff.1 mem
        rw [hvalue, heq]
      · cases heq
    · intro h
      exact nulls.subset (written.mem_iff.2 ⟨value, h, rfl⟩)
  · intro name h
    rcases nulls.mem_or h with mem | ⟨-, unbound⟩
    · obtain ⟨_, -, heq⟩ := written.mem_iff.1 mem
      cases heq
    · exact unbound

theorem Collects.ofJson_ofMembers (h : x.Collects es) :
    ofJson (Json.ofMembers (es.map fun e => (e.1, mentionJson e.2))) = .ok x := by
  rw [h.unique (collects_ofMentions es)]
  exact Bindings.ofJson_ofMembers es

theorem textOf_text (es : List (String × Option String)) : TextOf es (valueOf es).text := by
  have spelled : ∀ s : Option String,
      s.elim (· = ['n', 'u', 'l', 'l']) Json.Literal (Json.render (mentionJson s)) := by
    intro s
    cases s with
    | none =>
      rw [mentionJson, Json.render]
      rfl
    | some value => exact Json.literal_render value
  have object : Json.Braced (es.map MentionSpelling) (Json.render (valueOf es)) :=
    Json.braced_render mentionJson (fun s => s.elim (· = ['n', 'u', 'l', 'l']) Json.Literal)
      fun e _ => spelled e.2
  rw [TextOf, Json.text, String.toList_ofList]
  exact .of_exact object

theorem Collects.ofText_text (h : x.Collects es) : ofText (valueOf es).text = .ok x :=
  ofText_eq_ok_iff_textOf.2 ⟨es, textOf_text es, h⟩

theorem Writes.toJson_eq (h : x.Writes es) :
    x.toJson = Json.ofMembers (es.map fun e => (e.1, mentionJson e.2)) := by
  have entries : Entries.ofList es = x.entries.map fun e => (e.1, some e.2) :=
    Entries.ofList_of_perm h (x.ascending.map some)
  rw [Json.ofMembers, Entries.ofList_map mentionJson, entries, List.map_map]
  rfl

/-- Bindings are read back from the object that is written for them, and also if null is put in under
names that are not bound. -/
theorem written_reads_back (x : Bindings) {es fs : List (String × Option String)}
    (written : x.Writes es) (nulls : x.NullsAdded es fs) :
    x.toJson = Json.ofMembers (es.map fun e => (e.1, mentionJson e.2)) ∧
    ofJson x.toJson = .ok x ∧ ofText (valueOf es).text = .ok x ∧
    ofJson (Json.ofMembers (fs.map fun e => (e.1, mentionJson e.2))) = .ok x ∧
    ofText (valueOf fs).text = .ok x := by
  have plain : x.Collects es := written.collects (.refl x es)
  have padded : x.Collects fs := written.collects nulls
  refine ⟨written.toJson_eq, ?_, plain.ofText_text, padded.ofJson_ofMembers, padded.ofText_text⟩
  rw [written.toJson_eq]
  exact plain.ofJson_ofMembers

/-- A name and a value are empty, others hold control characters, and null stands in front, between and
behind, twice under one name. -/
theorem written_reads_back_nulls :
    let x := ofList [("", "\x00\"\\"), ("\n", ""), ("😀", "\x7f")]
    let es := [("😀", some "\x7f"), ("", some "\x00\"\\"), ("\n", some "")]
    let fs := [("a", none), ("😀", some "\x7f"), ("a", none), ("", some "\x00\"\\"),
      ("\n", some ""), ("\x00", none)]
    x.Writes es ∧ x.NullsAdded es fs ∧ x.toJson = Json.ofMembers (es.map fun e => (e.1, mentionJson e.2)) ∧
      ofJson x.toJson = .ok x ∧ ofText (valueOf es).text = .ok x ∧
      ofJson (Json.ofMembers (fs.map fun e => (e.1, mentionJson e.2))) = .ok x ∧
      ofText (valueOf fs).text = .ok x := by
  intro x es fs
  have written : x.Writes es := by
    rw [Writes]
    decide
  have nulls : x.NullsAdded es fs :=
    .null (by decide) (.keep _ (.null (by decide) (.keep _ (.keep _ (.null (by decide) .nil)))))
  exact ⟨written, nulls, written_reads_back x written nulls⟩

end Conditions.Bindings
