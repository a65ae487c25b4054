import Conditions.Proofs.Json.Objects

set_option autoImplicit false

/-!
# Documents

A document is a value as it stands in a text: its objects have their members in the order of the text,
and may have several with one key. The texts of documents are the JSON grammar, and they are what the
reader accepts, each with the value of its document (`ofText_eq_ok_iff_document`). A text holds one
document at most (`Document.Fills.unique`).
-/
namespace Conditions.Json

inductive Document where
  | null
  | boolean (value : Bool)
  | number (value : Number)
  | string (value : String)
  | array (items : List Document)
  | object (members : List (String × Document))

namespace Document

mutual

/-- The value of a document has the last of the members with one key. -/
def value : Document → Json
  | .null => .null
  | .boolean b => .boolean b
  | .number n => .number n
  | .string s => .string s
  | .array ds => .array (values ds)
  | .object ms => .ofMembers (memberValues ms)

def values : List Document → List Json
  | [] => []
  | d :: ds => d.value :: values ds

def memberValues : List (String × Document) → List (String × Json)
  | [] => []
  | (key, d) :: ms => (key, d.value) :: memberValues ms

end

mutual

/-- The texts of a document, without blanks around them. -/
def Spelling : Document → List Char → Prop
  | .null => (· = ['n', 'u', 'l', 'l'])
  | .boolean b => BooleanSpelling b
  | .number n => NumberSpelling n
  | .string s => Literal s
  | .array ds => Bracketed (spellings ds)
  | .object ms => Braced (memberSpellings ms)

def spellings : List Document → List (List Char → Prop)
  | [] => []
  | d :: ds => d.Spelling :: spellings ds

def memberSpellings : List (String × Document) → List (List Char → Prop)
  | [] => []
  | (key, d) :: ms => Member key d.Spelling :: memberSpellings ms

end

theorem value_array (ds : List Document) : value (.array ds) = .array (ds.map value) := by
  have items : values ds = ds.map value := by
    induction ds with
    | nil => rfl
    | cons d ds ih => rw [values, ih, List.map_cons]
  rw [value, items]

theorem value_object (ms : List (String × Document)) :
    value (.object ms) = .ofMembers (ms.map fun m => (m.1, m.2.value)) := by
  have members : memberValues ms = ms.map fun m => (m.1, m.2.value) := by
    induction ms with
    | nil => rfl
    | cons m ms ih => rw [memberValues, ih, List.map_cons]
  rw [value, members]

theorem eq_of_value_eq {d d' : Document} (h : d.value = d'.value) (harray : ∀ ds, d ≠ .array ds)
    (hobject : ∀ ms, d ≠ .object ms) : d = d' := by
  cases d with
  | array ds => exact absurd rfl (harray ds)
  | object ms => exact absurd rfl (hobject ms)
  | _ => cases d' <;> simp_all [value, ofMembers]

theorem value_eq_array_iff {d : Document} {vs : List Json} :
    d.value = .array vs ↔ ∃ ds : List Document, d = .array ds ∧ ds.map value = vs := by
  constructor
  · intro h
    cases d with
    | array ds =>
      rw [value_array] at h
      cases h
      exact ⟨ds, rfl, rfl⟩
    | _ => cases h
  · rintro ⟨ds, rfl, rfl⟩
    exact value_array ds

theorem value_eq_boolean_iff {d : Document} {b : Bool} : d.value = .boolean b ↔ d = .boolean b := by
  constructor
  · intro h
    exact (eq_of_value_eq (d := .boolean b) h.symm (by simp) (by simp)).symm
  · rintro rfl
    rfl

theorem spelling_array (ds : List Document) :
    Spelling (.array ds) = Bracketed (ds.map Spelling) := by
  have items : spellings ds = ds.map Spelling := by
    induction ds with
    | nil => rfl
    | cons d ds ih => rw [spellings, ih, List.map_cons]
  rw [Spelling, items]

theorem spelling_object (ms : List (String × Document)) :
    Spelling (.object ms) = Braced (ms.map fun m => Member m.1 m.2.Spelling) := by
  have members : memberSpellings ms = ms.map fun m => Member m.1 m.2.Spelling := by
    induction ms with
    | nil => rfl
    | cons m ms ih => rw [memberSpellings, ih, List.map_cons]
  rw [Spelling, members]

theorem bracketed_iff_array (Ds : List (Document → Prop)) {w : List Char} :
    Bracketed (Ds.map fun D w => ∃ d, D d ∧ d.Spelling w) w ↔
      ∃ ds, List.Forall₂ (fun D d => D d) Ds ds ∧ Spelling (.array ds) w := by
  simp only [spelling_array]
  exact Enclosed.choose_iff

theorem part_induction {motive : Document → Prop} (null : motive .null)
    (boolean : ∀ b, motive (.boolean b)) (number : ∀ n, motive (.number n))
    (string : ∀ s, motive (.string s))
    (array : ∀ ds, (∀ d ∈ ds, motive d) → motive (.array ds))
    (object : ∀ ms, (∀ m ∈ ms, motive m.2) → motive (.object ms)) : ∀ d, motive d
  | .null => null
  | .boolean b => boolean b
  | .number n => number n
  | .string s => string s
  | .array ds => array ds fun d _ => part_induction null boolean number string array object d
  | .object ms => object ms fun m hm =>
    have : sizeOf m.2 < sizeOf ms := by
      have hlt := List.sizeOf_lt_of_mem hm
      obtain ⟨key, d⟩ := m
      simp only [Prod.mk.sizeOf_spec] at hlt ⊢
      omega
    part_induction null boolean number string array object m.2

end Document

theorem readMembers_iff_membersRead {first : Bool} {cs rest : List Char}
    {es : List (String × Json)} :
    readMembers first cs = .ok (es, rest) ↔ MembersRead readValue first cs es rest := by
  constructor
  · intro h
    induction es generalizing first cs with
    | nil =>
      rw [readMembers_eq] at h
      split at h
      · cases h
      · rename_i next
        cases h
        exact .close next
      · split at h
        · cases h
        · obtain ⟨_, -, heq⟩ := Except.map_eq_ok_iff.1 h
          cases heq
    | cons e es ih =>
      rw [readMembers_eq] at h
      split at h
      · cases h
      · cases h
      · rename_i next
        split at h
        · cases h
        · rename_i value
          obtain ⟨⟨later, left⟩, hlater, heq⟩ := Except.map_eq_ok_iff.1 h
          cases heq
          exact .member next value (ih hlater)
  · intro h
    induction h with
    | close next => rw [readMembers_eq, next]
    | member next value later ih =>
      rw [readMembers_eq]
      simp only [next, value, ih]
      rfl

theorem readValue_numeral {c : Char} (hc : c = '-' ∨ c.isDigit = true) (cs : List Char) :
    readValue (c :: cs) = (readNumber (c :: cs)).map fun p => (.number p.1, p.2) := by
  have other {d : Char} (hd : ¬(d = '-' ∨ d.isDigit = true)) : c ≠ d := fun heq => hd (heq ▸ hc)
  have hblank : isBlank c = false := by
    rw [Bool.eq_false_iff, ne_eq, isBlank_iff]
    rintro (rfl | rfl | rfl | rfl)
    all_goals exact absurd hc (by decide)
  have hscalar : readScalar (c :: cs) = (readNumber (c :: cs)).map fun p => (.number p.1, p.2) := by
    rw [readScalar, if_pos hc]
    all_goals exact other (by decide)
  rw [readValue_eq, skipBlank_cons hblank, ← hscalar]
  split
  · rename_i heq
    exact absurd (List.cons.inj heq).1 (other (by decide))
  · rename_i heq
    exact absurd (List.cons.inj heq).1 (other (by decide))
  · rfl

theorem readValue_boolean (b : Bool) {w : List Char} (hw : BooleanSpelling b w) (rest : List Char) :
    readValue (w ++ rest) = .ok (.boolean b, rest) := by
  rw [show w = _ from hw]
  cases b with
  | true =>
    rw [readValue_eq]
    rfl
  | false =>
    rw [readValue_eq]
    rfl

theorem Document.reads_spelling (d : Document) :
    (Reader.reading readValue).Reads d.value d.Spelling := by
  induction d using part_induction with
  | null => exact spelledBy_null.reads
  | boolean b =>
    intro bl w rest hbl hw _
    change readValue (bl ++ (w ++ rest)) = _
    rw [readValue_append hbl, readValue_boolean b hw]
    rfl
  | number n =>
    intro b w rest hb hw hrest
    obtain ⟨c, left, hleft, hc⟩ := NumberSpelling.start hw
    have hread : readNumber (w ++ rest) = .ok (n, rest) := readNumber_of_spelling hw hrest
    change readValue (b ++ (w ++ rest)) = _
    rw [readValue_append hb]
    rw [hleft, List.cons_append] at hread ⊢
    rw [readValue_numeral hc, hread]
    rfl
  | string s => exact (spelledBy_literal s).reads
  | array ds ih =>
    have items : List.Forall₂ (Reader.reading readValue).Reads (ds.map value) (ds.map Spelling) := by
      rw [List.forall₂_map_left_iff, List.forall₂_map_right_iff, List.forall₂_same]
      exact ih
    intro b w rest hb hw _
    rw [spelling_array] at hw
    obtain ⟨inner, hskip, hread⟩ := partsRead_behind_opening items (by decide) (by decide) hb hw rest
    rw [← itemsRead_iff_partsRead readValue_startsItems, ← readItems_iff_itemsRead] at hread
    change readValue _ = _
    rw [readValue_eq, hskip, value_array]
    simp only [hread]
    rfl
  | object ms ih =>
    have members : List.Forall₂ (Reader.reading readValue).member.Reads
        (ms.map fun m => (m.1, m.2.value)) (ms.map fun m => Member m.1 m.2.Spelling) := by
      rw [List.forall₂_map_left_iff, List.forall₂_map_right_iff, List.forall₂_same]
      exact fun m hm => (ih m hm).member m.1
    intro b w rest hb hw _
    rw [spelling_object] at hw
    obtain ⟨inner, hskip, hread⟩ := partsRead_behind_opening members (by decide) (by decide) hb hw rest
    rw [← membersRead_iff_partsRead, ← readMembers_iff_membersRead] at hread
    change readValue _ = _
    rw [readValue_eq, hskip, value_object]
    simp only [hread]
    rfl

theorem Document.of_readScalar {cs rest : List Char} {v : Json}
    (h : readScalar cs = .ok (v, rest)) :
    ∃ d : Document, d.value = v ∧ ∃ w, d.Spelling w ∧ cs = w ++ rest := by
  unfold readScalar at h
  split at h
  · cases h
  · obtain ⟨rfl, rfl⟩ := map_readLetters_eq_ok_iff.1 h
    exact ⟨.null, rfl, _, rfl, rfl⟩
  · obtain ⟨rfl, rfl⟩ := map_readLetters_eq_ok_iff.1 h
    exact ⟨.boolean true, rfl, _, rfl, rfl⟩
  · obtain ⟨rfl, rfl⟩ := map_readLetters_eq_ok_iff.1 h
    exact ⟨.boolean false, rfl, _, rfl, rfl⟩
  · obtain ⟨⟨s, left⟩, hs, heq⟩ := Except.map_eq_ok_iff.1 h
    cases heq
    obtain ⟨w, hw, hcs⟩ := literal_of_readString hs
    exact ⟨.string (String.ofList s), rfl, w, hw, hcs⟩
  · split at h
    · obtain ⟨⟨n, left⟩, hn, heq⟩ := Except.map_eq_ok_iff.1 h
      cases heq
      obtain ⟨w, hw, hcs⟩ := spelling_of_readNumber hn
      exact ⟨.number n, rfl, w, hw, hcs⟩
    · cases h

def Spelled (v : Json) (w : List Char) : Prop :=
  ∃ d : Document, d.value = v ∧ d.Spelling w

theorem member_spelled (e : String × Json) :
    Member e.1 (Spelled e.2) = fun w =>
      ∃ m : String × Document, e = (m.1, m.2.value) ∧ Member m.1 m.2.Spelling w := by
  obtain ⟨key, v⟩ := e
  funext w
  apply propext
  constructor
  · rintro ⟨k, b, t, hk, hb, ⟨d, rfl, ht⟩, rfl⟩
    exact ⟨(key, d), rfl, k, b, t, hk, hb, ht, rfl⟩
  · rintro ⟨⟨_, d⟩, heq, k, b, t, hk, hb, ht, rfl⟩
    cases heq
    exact ⟨k, b, t, hk, hb, ⟨d, rfl, ht⟩, rfl⟩

theorem finds_spelled (n : Nat) (v : Json) :
    (Reader.reading readValue).Finds n v (Spelled v) := by
  -- On the length of the text: items and members are read from texts that are shorter.
  induction n generalizing v with
  | zero =>
    intro cs rest hn
    omega
  | succ n ih =>
    intro cs rest hn h
    obtain ⟨b, hb, hcs⟩ := exists_blank cs
    have hle : (skipBlank cs).length ≤ cs.length := length_skipBlank cs
    change readValue cs = _ at h
    rw [readValue_eq] at h
    split at h
    · rename_i inner heq
      obtain ⟨⟨vs, left⟩, hvs, hv⟩ := Except.map_eq_ok_iff.1 h
      cases hv
      have items : List.Forall₂ ((Reader.reading readValue).Finds n) vs (vs.map Spelled) := by
        rw [List.forall₂_map_right_iff, List.forall₂_same]
        exact fun v _ => ih v
      rw [readItems_iff_itemsRead, itemsRead_iff_partsRead readValue_startsItems] at hvs
      rw [heq, List.length_cons] at hle
      have hinner : inner.length < n := by omega
      obtain ⟨w, hw, rfl⟩ := enclosed_of_partsRead items hinner hvs '['
      obtain ⟨ds, hds, hw⟩ := Enclosed.choose hw
      have values : vs = ds.map Document.value := by
        rw [← List.forall₂_eq_eq_eq, List.forall₂_map_right_iff]
        exact hds.imp fun _ _ hd => hd.symm
      refine ⟨b, '[' :: w, hb, ⟨.array ds, ?_, ?_⟩, by rw [hcs, heq]; rfl⟩
      · rw [Document.value_array, values]
      · rwa [Document.spelling_array]
    · rename_i inner heq
      obtain ⟨⟨es, left⟩, hes, hv⟩ := Except.map_eq_ok_iff.1 h
      cases hv
      have members : List.Forall₂ ((Reader.reading readValue).member.Finds n) es
          (es.map fun e => Member e.1 (Spelled e.2)) := by
        rw [List.forall₂_map_right_iff, List.forall₂_same]
        exact fun e _ => (ih e.2).member e.1
      rw [readMembers_iff_membersRead, membersRead_iff_partsRead] at hes
      rw [heq, List.length_cons] at hle
      have hinner : inner.length < n := by omega
      obtain ⟨w, hw, rfl⟩ := enclosed_of_partsRead members hinner hes '{'
      simp only [member_spelled] at hw
      obtain ⟨ms, hms, hw⟩ := Enclosed.choose hw
      have values : es = ms.map fun m => (m.1, m.2.value) := by
        rw [← List.forall₂_eq_eq_eq, List.forall₂_map_right_iff]
        exact hms
      refine ⟨b, '{' :: w, hb, ⟨.object ms, ?_, ?_⟩, by rw [hcs, heq]; rfl⟩
      · rw [Document.value_object, values]
      · rwa [Document.spelling_object]
    · obtain ⟨d, hd, w, hw, hleft⟩ := Document.of_readScalar h
      exact ⟨b, w, hb, ⟨d, hd, hw⟩, by rw [hcs, hleft]⟩

namespace Document

def reading : Reading Document := .ofSpelling Spelling

theorem readValue_of_reading {cs rest : List Char} {d : Document} (h : reading cs d rest) :
    readValue cs = .ok (d.value, rest) := by
  obtain ⟨b, w, hb, hw, hrest, rfl⟩ := h
  exact d.reads_spelling b w rest hb hw hrest

theorem partsRead_of_array {ds : List Document} {cs rest : List Char}
    (h : reading cs (.array ds) rest) :
    ∃ inner, skipBlank cs = '[' :: inner ∧ PartsRead ']' reading true inner ds rest := by
  obtain ⟨b, w, hb, hw, -, rfl⟩ := h
  have parts : List.Forall₂ reading.Reads ds (ds.map Spelling) := by
    rw [List.forall₂_map_right_iff, List.forall₂_same]
    exact fun d _ => Reading.reads_ofSpelling Spelling d
  rw [spelling_array] at hw
  exact partsRead_behind_opening parts (by decide) (by decide) hb hw rest

theorem partsRead_of_object {ms : List (String × Document)} {cs rest : List Char}
    (h : reading cs (.object ms) rest) :
    ∃ inner, skipBlank cs = '{' :: inner ∧ PartsRead '}' reading.member true inner ms rest := by
  obtain ⟨b, w, hb, hw, -, rfl⟩ := h
  have parts : List.Forall₂ reading.member.Reads ms (ms.map fun m => Member m.1 m.2.Spelling) := by
    rw [List.forall₂_map_right_iff, List.forall₂_same]
    exact fun m _ => (Reading.reads_ofSpelling Spelling m.2).member m.1
  rw [spelling_object] at hw
  exact partsRead_behind_opening parts (by decide) (by decide) hb hw rest

theorem reading_object {ms : List (String × Document)} {cs inner rest : List Char}
    (hskip : skipBlank cs = '{' :: inner) (h : PartsRead '}' reading.member true inner ms rest)
    (ends : TokenEnds rest) : reading cs (.object ms) rest := by
  have parts (n : Nat) : List.Forall₂ (reading.member.Finds n) ms
      (ms.map fun m => Member m.1 m.2.Spelling) := by
    rw [List.forall₂_map_right_iff, List.forall₂_same]
    exact fun m _ => (Reading.finds_ofSpelling Spelling n m.2).member m.1
  obtain ⟨b, hb, rfl⟩ := (skipBlank_eq_cons_iff (by decide)).1 hskip
  obtain ⟨w, hw, rfl⟩ := enclosed_of_partsRead (parts _) (Nat.lt_succ_self inner.length) h '{'
  refine ⟨b, '{' :: w, hb, ?_, ends, rfl⟩
  rwa [spelling_object]

theorem reading_ne_close {cs rest : List Char} {d : Document} (h : reading cs d rest)
    (inner : List Char) : skipBlank cs ≠ ']' :: inner := by
  intro hskip
  obtain ⟨c, left, heq, hc⟩ := readValue_startsItems.start (readValue_of_reading h)
  rw [heq] at hskip
  cases hskip
  exact absurd hc (by decide)

theorem value_eq_of_reading {cs rest rest' : List Char} {d d' : Document} (h : reading cs d rest)
    (h' : reading cs d' rest') : d.value = d'.value ∧ rest = rest' := by
  simpa using (readValue_of_reading h).symm.trans (readValue_of_reading h')

/-- The value determines all but the parts of arrays and objects, and these are read from one text. -/
theorem unique (d : Document) : reading.Unique d := by
  induction d using part_induction with
  | array ds ih =>
    intro cs rest d' rest' h h'
    have heq := (value_eq_of_reading h h').1
    obtain ⟨inner, hskip, parts⟩ := partsRead_of_array h
    cases d' with
    | array ds' =>
      obtain ⟨inner', hskip', parts'⟩ := partsRead_of_array h'
      obtain rfl : inner = inner' := by simpa [hskip] using hskip'
      obtain ⟨rfl, rfl⟩ := parts.unique (by decide) (by decide)
        (fun _ _ _ inner h => reading_ne_close h inner) ih parts'
      exact ⟨rfl, rfl⟩
    | _ => simp [value, ofMembers] at heq
  | object ms ih =>
    intro cs rest d' rest' h h'
    have heq := (value_eq_of_reading h h').1
    obtain ⟨inner, hskip, parts⟩ := partsRead_of_object h
    cases d' with
    | object ms' =>
      obtain ⟨inner', hskip', parts'⟩ := partsRead_of_object h'
      obtain rfl : inner = inner' := by simpa [hskip] using hskip'
      obtain ⟨rfl, rfl⟩ := parts.unique (by decide) (by decide)
        (fun _ _ _ inner h => Reading.member_ne_close h inner) (fun m hm => (ih m hm).member m.1) parts'
      exact ⟨rfl, rfl⟩
    | _ => simp [value, ofMembers] at heq
  | _ =>
    intro cs rest d' rest' h h'
    obtain ⟨heq, hrest⟩ := value_eq_of_reading h h'
    exact ⟨eq_of_value_eq heq (by simp) (by simp), hrest⟩

end Document

/-- The text holds the document, and nothing but blanks around it. -/
def Document.Fills (d : Document) (t : String) : Prop :=
  Padded d.Spelling t.toList

theorem Document.Fills.reading {d : Document} {t : String} (h : d.Fills t) :
    ∃ b, Blank b ∧ Document.reading t.toList d b := by
  obtain ⟨b, w, b', hb, hw, hb', ht⟩ := h
  have ends : TokenEnds b' := by
    rw [← List.append_nil b']
    exact .of_blank hb' tokenEnds_nil
  exact ⟨b', hb', b, w, hb, hw, ends, ht⟩

theorem Document.Fills.of_reading {d : Document} {t : String} {b : List Char} (hb : Blank b)
    (h : Document.reading t.toList d b) : d.Fills t := by
  obtain ⟨b', w, hb', hw, -, ht⟩ := h
  exact ⟨b', w, b, hb', hw, hb, ht⟩

theorem Document.Fills.unique {d d' : Document} {t : String} (h : d.Fills t) (h' : d'.Fills t) :
    d = d' := by
  obtain ⟨_, -, hread⟩ := h.reading
  obtain ⟨_, -, hread'⟩ := h'.reading
  exact (d.unique _ _ _ _ hread hread').1

theorem ofText_eq_ok_iff_document {t : String} {v : Json} :
    ofText t = .ok v ↔ ∃ d : Document, d.value = v ∧ d.Fills t := by
  rw [ofText_eq_ok_iff]
  constructor
  · rintro ⟨b', hread, hend⟩
    obtain ⟨b, w, hb, ⟨d, hd, hw⟩, ht⟩ := finds_spelled _ v _ _ (Nat.lt_succ_self _) hread
    exact ⟨d, hd, b, w, b', hb, hw, readEnd_eq_ok_iff.1 hend, ht⟩
  · rintro ⟨d, rfl, hfills⟩
    obtain ⟨b', hb', hread⟩ := hfills.reading
    exact ⟨b', Document.readValue_of_reading hread, readEnd_eq_ok_iff.2 hb'⟩

end Conditions.Json
