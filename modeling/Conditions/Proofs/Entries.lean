import Conditions.Entries

set_option autoImplicit false

namespace Conditions.Entries

variable {β : Type}

def Last (es : List (String × β)) (key : String) (b : β) : Prop :=
  ∃ before after, es = before ++ (key, b) :: after ∧ ∀ e ∈ after, e.1 ≠ key

theorem find?_eq_none_iff {key : String} {es : List (String × β)} :
    find? key es = none ↔ ∀ e ∈ es, e.1 ≠ key := by
  induction es with
  | nil => simp [find?]
  | cons e es ih =>
    by_cases h : key = e.1
    · simp [find?, h]
    · have hne : e.1 ≠ key := fun heq => h heq.symm
      simp [find?, h, hne, ih]

theorem find?_eq_some_iff {key : String} {b : β} {es : List (String × β)} :
    find? key es = some b ↔
      ∃ before after, es = before ++ (key, b) :: after ∧ ∀ e ∈ before, e.1 ≠ key := by
  constructor
  · intro h
    induction es with
    | nil => cases h
    | cons e es ih =>
      by_cases hk : key = e.1
      · have hb : e = (key, b) := by simpa [find?, hk, Prod.ext_iff] using h
        exact ⟨[], es, by rw [hb]; rfl, List.forall_mem_nil _⟩
      · have htail : find? key es = some b := by simpa [find?, hk] using h
        obtain ⟨before, after, rfl, hbefore⟩ := ih htail
        refine ⟨e :: before, after, rfl, List.forall_mem_cons.2 ⟨?_, hbefore⟩⟩
        exact fun heq => hk heq.symm
  · rintro ⟨before, after, rfl, hbefore⟩
    have hnone : find? key before = none := find?_eq_none_iff.2 hbefore
    rw [find?_append, hnone]
    simp [find?]

theorem find?_reverse_eq_some_iff {key : String} {b : β} {es : List (String × β)} :
    find? key es.reverse = some b ↔ Last es key b := by
  rw [find?_eq_some_iff]
  constructor
  · rintro ⟨before, after, hes, hbefore⟩
    refine ⟨after.reverse, before.reverse, ?_, fun e he => hbefore e (List.mem_reverse.1 he)⟩
    rw [List.reverse_eq_iff.1 hes]
    simp
  · rintro ⟨before, after, rfl, hafter⟩
    refine ⟨after.reverse, before.reverse, by simp, fun e he => hafter e (List.mem_reverse.1 he)⟩

theorem find?_reverse_eq_none_iff {key : String} {es : List (String × β)} :
    find? key es.reverse = none ↔ ∀ e ∈ es, e.1 ≠ key := by
  rw [find?_eq_none_iff]
  exact ⟨fun h e he => h e (List.mem_reverse.2 he), fun h e he => h e (List.mem_reverse.1 he)⟩

theorem Ascending.nodup_keys {es : List (String × β)} (h : Ascending es) :
    (es.map Prod.fst).Nodup := by
  apply List.pairwise_map.2
  apply List.Pairwise.imp _ h
  intro e f hlt heq
  exact String.lt_irrefl _ (heq ▸ hlt)

theorem mem_of_find? {key : String} {b : β} {es : List (String × β)}
    (h : find? key es = some b) : (key, b) ∈ es := by
  obtain ⟨before, after, rfl, -⟩ := find?_eq_some_iff.1 h
  simp

theorem find?_of_mem {key : String} {b : β} {es : List (String × β)} (h : Ascending es)
    (mem : (key, b) ∈ es) : find? key es = some b := by
  obtain ⟨before, after, rfl⟩ := List.append_of_mem mem
  refine find?_eq_some_iff.2 ⟨before, after, rfl, ?_⟩
  intro e he heq
  have hlt : e.1 < key := (List.pairwise_append.1 h).2.2 e he _ List.mem_cons_self
  exact String.lt_irrefl _ (heq ▸ hlt)

theorem insert_of_greatest {key : String} {done : List (String × β)}
    (h : ∀ e ∈ done, e.1 < key) (b : β) : insert key b done = done ++ [(key, b)] := by
  induction done with
  | nil => rfl
  | cons e done ih =>
    obtain ⟨hlt, hdone⟩ := List.forall_mem_cons.1 h
    have hne : ¬ key = e.1 := fun heq => String.lt_irrefl _ (heq ▸ hlt)
    rw [insert, if_neg (String.lt_asymm hlt), if_neg hne, ih hdone, List.cons_append]

theorem ofList_of_ascending {es : List (String × β)} (h : Ascending es) : ofList es = es := by
  suffices ∀ done : List (String × β), Ascending (done ++ es) →
      es.foldl (fun done e => insert e.1 e.2 done) done = done ++ es from this [] h
  clear h
  induction es with
  | nil =>
    intro done _
    simp
  | cons e es ih =>
    intro done h
    have hlt : ∀ f ∈ done, f.1 < e.1 := fun f hf =>
      (List.pairwise_append.1 h).2.2 f hf e List.mem_cons_self
    rw [List.foldl_cons, insert_of_greatest hlt, ih _ (by simpa using h)]
    simp

theorem Ascending.map {γ : Type} (f : β → γ) {es : List (String × β)} (h : Ascending es) :
    Ascending (es.map fun e => (e.1, f e.2)) :=
  List.pairwise_map.2 h

theorem exists_map {γ : Type} {f : γ → β} {es : List (String × β)}
    (h : ∀ e ∈ es, ∃ c, e.2 = f c) :
    ∃ fs : List (String × γ), es = fs.map fun e => (e.1, f e.2) := by
  induction es with
  | nil => exact ⟨[], rfl⟩
  | cons e es ih =>
    obtain ⟨he, hes⟩ := List.forall_mem_cons.1 h
    obtain ⟨c, hc⟩ := he
    obtain ⟨fs, rfl⟩ := ih hes
    exact ⟨(e.1, c) :: fs, by rw [List.map_cons, ← hc]⟩

theorem insert_map {γ : Type} (f : β → γ) (key : String) (b : β) (es : List (String × β)) :
    insert key (f b) (es.map fun e => (e.1, f e.2)) =
      (insert key b es).map fun e => (e.1, f e.2) := by
  induction es with
  | nil => rfl
  | cons e es ih =>
    simp only [List.map_cons, insert, ih]
    split
    · rfl
    · split <;> rfl

theorem Last.mem {es : List (String × β)} {key : String} {b : β} (h : Last es key b) :
    (key, b) ∈ es := by
  obtain ⟨before, after, rfl, -⟩ := h
  simp

theorem exists_last {es : List (String × β)} {e : String × β} (h : e ∈ es) :
    ∃ b, Last es e.1 b := by
  cases hfind : find? e.1 es.reverse with
  | none => exact absurd rfl (find?_reverse_eq_none_iff.1 hfind e h)
  | some b => exact ⟨b, find?_reverse_eq_some_iff.1 hfind⟩

theorem ofList_of_perm {es fs : List (String × β)} (h : es.Perm fs) (hfs : Ascending fs) :
    ofList es = fs := by
  apply ext_find? (ascending_ofList es) hfs
  intro key
  ext b
  rw [find?_ofList, find?_reverse_eq_some_iff]
  constructor
  · intro hlast
    exact find?_of_mem hfs (h.mem_iff.1 hlast.mem)
  · intro hfind
    obtain ⟨c, hlast⟩ := exists_last (h.mem_iff.2 (mem_of_find? hfind))
    have same := find?_of_mem hfs (h.mem_iff.1 hlast.mem)
    rw [hfind, Option.some.injEq] at same
    rwa [same]

theorem Last.map {γ : Type} (f : β → γ) {es : List (String × β)} {key : String} {b : β}
    (h : Last es key b) : Last (es.map fun e => (e.1, f e.2)) key (f b) := by
  obtain ⟨before, after, rfl, hafter⟩ := h
  refine ⟨_, _, by rw [List.map_append, List.map_cons], ?_⟩
  intro e he
  obtain ⟨e', he', rfl⟩ := List.mem_map.1 he
  exact hafter e' he'

theorem last_map_iff {γ : Type} (f : β → γ) {es : List (String × β)} {key : String} {c : γ} :
    Last (es.map fun e => (e.1, f e.2)) key c ↔ ∃ b, Last es key b ∧ f b = c := by
  constructor
  · rintro ⟨before, after, hes, hafter⟩
    obtain ⟨before, rest, rfl, rfl, hrest⟩ := List.map_eq_append_iff.1 hes
    obtain ⟨⟨_, b⟩, after, rfl, heq, rfl⟩ := List.map_eq_cons_iff.1 hrest
    cases heq
    exact ⟨b, ⟨before, after, rfl, fun e he => hafter _ (List.mem_map_of_mem he)⟩, rfl⟩
  · rintro ⟨b, hlast, rfl⟩
    exact hlast.map f

theorem mem_ofList_iff {es : List (String × β)} {key : String} {b : β} :
    (key, b) ∈ ofList es ↔ Last es key b := by
  rw [← find?_reverse_eq_some_iff, ← find?_ofList]
  exact ⟨find?_of_mem (ascending_ofList es), mem_of_find?⟩

theorem ofList_map {γ : Type} (f : β → γ) (es : List (String × β)) :
    ofList (es.map fun e => (e.1, f e.2)) = (ofList es).map fun e => (e.1, f e.2) := by
  suffices ∀ done : List (String × β),
      (es.map fun e => (e.1, f e.2)).foldl (fun done e => insert e.1 e.2 done)
          (done.map fun e => (e.1, f e.2)) =
        (es.foldl (fun done e => insert e.1 e.2 done) done).map fun e => (e.1, f e.2) from this []
  induction es with
  | nil => exact fun done => rfl
  | cons e es ih =>
    intro done
    have hinsert := insert_map f e.1 e.2 done
    rw [List.map_cons, List.foldl_cons, List.foldl_cons, hinsert, ih]

end Conditions.Entries
