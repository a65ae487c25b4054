set_option autoImplicit false

/-!
# Entries by ascending key

A finite map from strings is a list of entries whose keys ascend, in the order of code points.
`insert` keeps the order and replaces the entry of an equal key, so that of several entries with one
key the last counts (`find?_ofList`). Two ascending lists in which the same is found are equal
(`ext_find?`).
-/
namespace Conditions.Entries

variable {β : Type}

def find? (key : String) : List (String × β) → Option β
  | [] => none
  | (k, b) :: es => if key = k then some b else find? key es

def Ascending (es : List (String × β)) : Prop :=
  es.Pairwise fun e f => e.1 < f.1

def insert (key : String) (b : β) : List (String × β) → List (String × β)
  | [] => [(key, b)]
  | (k, b') :: es =>
    if key < k then (key, b) :: (k, b') :: es
    else if key = k then (key, b) :: es
    else (k, b') :: insert key b es

def ofList (es : List (String × β)) : List (String × β) :=
  es.foldl (fun done e => insert e.1 e.2 done) []

theorem find?_append (key : String) (es fs : List (String × β)) :
    find? key (es ++ fs) = (find? key es).or (find? key fs) := by
  induction es with
  | nil => rfl
  | cons e es ih => by_cases h : key = e.1 <;> simp [find?, h, ih]

theorem find?_insert (k key : String) (b : β) (es : List (String × β)) :
    find? k (insert key b es) = if k = key then some b else find? k es := by
  induction es with
  | nil => rfl
  | cons e es ih =>
    simp only [insert]
    split
    · rfl
    · split
      · rename_i h
        by_cases hk : k = key <;> simp [find?, hk, ← h]
      · rename_i h
        by_cases hk : k = e.1
        · have : ¬ e.1 = key := fun e => h e.symm
          simp [find?, hk, this]
        · simp [find?, hk, ih]

theorem find?_ofList (k : String) (es : List (String × β)) :
    find? k (ofList es) = find? k es.reverse := by
  suffices ∀ done : List (String × β),
      find? k (es.foldl (fun done e => insert e.1 e.2 done) done) =
        (find? k es.reverse).or (find? k done) by
    simpa [ofList, find?] using this []
  induction es with
  | nil => intro done; rfl
  | cons e es ih =>
    intro done
    rw [List.foldl_cons, ih, find?_insert, List.reverse_cons, find?_append, Option.or_assoc]
    by_cases h : k = e.1 <;> simp [find?, h]

theorem mem_of_mem_insert {key : String} {b : β} {es : List (String × β)} {e : String × β}
    (h : e ∈ insert key b es) : e = (key, b) ∨ e ∈ es := by
  induction es with
  | nil => exact .inl (List.mem_singleton.1 h)
  | cons f es ih =>
    simp only [insert] at h
    split at h
    · exact List.mem_cons.1 h
    · split at h
      · exact (List.mem_cons.1 h).imp_right (List.mem_cons_of_mem _)
      · rcases List.mem_cons.1 h with h | h
        · exact .inr (h ▸ List.mem_cons_self)
        · exact (ih h).imp_right (List.mem_cons_of_mem _)

theorem Ascending.insert {es : List (String × β)} (h : Ascending es) (key : String) (b : β) :
    Ascending (insert key b es) := by
  induction es with
  | nil => exact List.pairwise_singleton ..
  | cons e es ih =>
    obtain ⟨hk, hes⟩ := List.pairwise_cons.1 h
    simp only [Entries.insert]
    split
    · rename_i hlt
      refine List.pairwise_cons.2 ⟨fun f hf => ?_, h⟩
      rcases List.mem_cons.1 hf with rfl | hf
      · exact hlt
      · exact String.lt_trans hlt (hk f hf)
    · split
      · rename_i heq
        exact List.pairwise_cons.2 ⟨fun f hf => heq ▸ hk f hf, hes⟩
      · rename_i hlt hne
        refine List.pairwise_cons.2 ⟨fun f hf => ?_, ih hes⟩
        rcases mem_of_mem_insert hf with rfl | hf
        · exact Classical.byContradiction fun hn =>
            hne (String.le_antisymm (String.not_lt.1 hn) (String.not_lt.1 hlt))
        · exact hk f hf

theorem ascending_ofList (es : List (String × β)) : Ascending (ofList es) := by
  suffices ∀ done : List (String × β), Ascending done →
      Ascending (es.foldl (fun done e => Entries.insert e.1 e.2 done) done) from
    this [] List.Pairwise.nil
  induction es with
  | nil => exact fun _ h => h
  | cons e es ih => exact fun done h => ih _ (h.insert e.1 e.2)

theorem find?_eq_none_of_lt {k : String} {es : List (String × β)} (h : ∀ e ∈ es, k < e.1) :
    find? k es = none := by
  induction es with
  | nil => rfl
  | cons e es ih =>
    have hne : ¬ k = e.1 := fun heq => String.lt_irrefl _ (heq ▸ h e List.mem_cons_self)
    simp [find?, hne, ih fun f hf => h f (List.mem_cons_of_mem _ hf)]

theorem ext_find? {es fs : List (String × β)} (hes : Ascending es) (hfs : Ascending fs)
    (h : ∀ k, find? k es = find? k fs) : es = fs := by
  induction es generalizing fs with
  | nil =>
    cases fs with
    | nil => rfl
    | cons f fs => have := h f.1; simp [find?] at this
  | cons e es ih =>
    obtain ⟨k, b⟩ := e
    cases fs with
    | nil => have := h k; simp [find?] at this
    | cons f fs =>
      obtain ⟨k', b'⟩ := f
      obtain ⟨hk, hes'⟩ := List.pairwise_cons.1 hes
      obtain ⟨hk', hfs'⟩ := List.pairwise_cons.1 hfs
      have below {l : List (String × β)} {m n : String} (hm : ∀ e ∈ l, m < e.1) (hn : n < m) :
          find? n l = none := find?_eq_none_of_lt fun e he => String.lt_trans hn (hm e he)
      have hkk : k = k' := by
        refine String.le_antisymm ?_ ?_ <;> refine String.not_lt.1 fun hlt => ?_
        · have hne : ¬ k' = k := fun e => String.lt_irrefl _ (e ▸ hlt)
          simpa [find?, hne, below hk hlt] using h k'
        · have hne : ¬ k = k' := fun e => String.lt_irrefl _ (e ▸ hlt)
          simpa [find?, hne, below hk' hlt] using h k
      subst hkk
      have hbb : b = b' := by simpa [find?] using h k
      have hrest : es = fs := ih hes' hfs' fun n => by
        by_cases hn : n = k
        · exact hn ▸ (find?_eq_none_of_lt hk).trans (find?_eq_none_of_lt hk').symm
        · simpa [find?, hn] using h n
      rw [hbb, hrest]

end Conditions.Entries
