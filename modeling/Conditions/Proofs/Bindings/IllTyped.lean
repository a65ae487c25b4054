import Conditions.Proofs.Bindings.Routes
import Conditions.Proofs.Json.ByteOrder

set_option autoImplicit false

/-!
# Ill-typed members

An object with a member that is neither a string nor null is not read as bindings. The reader of a text
stops at the first such member, also if one with its key follows. The reader of a value sees of the
members with one key the last, in the order of the keys, and stops at the one with the least key.
-/
namespace Conditions

open Json (Blank Document Fault PartsRead Position TokenEnds)

namespace Json

def IllTyped (v : Json) : Prop :=
  v ≠ .null ∧ ∀ s, v ≠ .string s

/-- What is read of the text of a value before it is refused: a bracket is refused where it stands. -/
def Document.refusedBehind : Document → List Char → List Char
  | .array _, _ => []
  | .object _, _ => []
  | _, w => w

/-- The value of the member behind these others is `w`, between `front` and `back`. With null in its
place, and the brace that closes the object, `front` is the text of an object that ends with this member. -/
structure Document.StandsIn (t : String) (before : List (String × Document)) (m : String × Document)
    (front w back : List Char) : Prop where
  text : t.toList = front ++ (w ++ back)
  spelled : m.2.Spelling w
  opened : Fills (.object (before ++ [(m.1, .null)])) (String.ofList (front ++ "null\x7d".toList))

theorem mismatch_of_readScalar {cs rest : List Char} {v : Json}
    (h : readScalar cs = .ok (v, rest)) (expected : Expected) :
    mismatch expected cs = .before (.wrongType v.shape expected) rest := by
  unfold mismatch
  split
  · cases h
  · cases h
  · rw [h]

theorem readOptionalString_of_scalar {cs rest : List Char} {v : Json} (hv : v.IllTyped)
    (h : readScalar (skipBlank cs) = .ok (v, rest)) :
    readOptionalString cs = .error (.before (.wrongType v.shape .string) rest) := by
  unfold readOptionalString
  split
  · rename_i heq
    rw [heq] at h
    obtain ⟨left, -, hleft⟩ := Except.map_eq_ok_iff.1 h
    exact absurd (Prod.mk.inj hleft).1.symm hv.1
  · rename_i heq
    rw [heq] at h
    obtain ⟨read, -, hread⟩ := Except.map_eq_ok_iff.1 h
    exact absurd (Prod.mk.inj hread).1.symm (hv.2 _)
  · rw [mismatch_of_readScalar h]

theorem readOptionalString_of_illTyped {d : Document} (hd : d.IllTyped) {b w rest : List Char}
    (hb : Blank b) (hw : d.Spelling w) (hrest : TokenEnds rest) :
    ∃ left, w ++ rest = d.refusedBehind w ++ left ∧
      readOptionalString (b ++ (w ++ rest)) =
        .error (.before (.wrongType d.value.shape .string) left) := by
  have behindBlanks {c : Char} (inner : List Char) (hc : isBlank c = false) :
      skipBlank (b ++ ((c :: inner) ++ rest)) = c :: (inner ++ rest) := by
    rw [skipBlank_append hb, List.cons_append, skipBlank_cons hc]
  have read := d.reads_spelling b w rest hb hw hrest
  -- Brackets are told by one character. What is left then is a scalar, which is read before it is refused.
  cases d with
  | null => exact absurd rfl hd.1
  | string s => exact absurd rfl (hd.2 s)
  | array ds =>
    rw [Document.spelling_array] at hw
    obtain ⟨inner, rfl⟩ := hw.start
    refine ⟨_, rfl, ?_⟩
    simp only [readOptionalString, behindBlanks inner (c := '[') (by decide)]
    rfl
  | object ms =>
    rw [Document.spelling_object] at hw
    obtain ⟨inner, rfl⟩ := hw.start
    refine ⟨_, rfl, ?_⟩
    simp only [readOptionalString, behindBlanks inner (c := '{') (by decide)]
    rfl
  | _ =>
    rcases readValue_cases read with ⟨_, _, hv, -⟩ | ⟨_, hv⟩ | hscalar
    · cases hv
    · cases hv
    · refine ⟨rest, rfl, readOptionalString_of_scalar ⟨?_, ?_⟩ hscalar⟩
      · simp [Document.value]
      · simp [Document.value]

end Json

namespace Bindings

def notString (v : Json) (position : Option Position) : Json.Error :=
  ⟨.wrongType v.shape .string, position⟩

theorem text_notString (v : Json) (position : Option Position) :
    (notString v position).cause.text =
      "invalid type: " ++ v.shape.text ++ ", expected a string" := by
  have unfolded : (notString v position).cause.text =
      "invalid type: " ++ v.shape.text ++ ", expected " ++ "a string" := rfl
  rw [unfolded, String.append_assoc]
  rfl

/-! ## Members of a text -/

/-- What stands in front of a value does not depend on it, and is read first. -/
theorem readMentions_front {before after : List (String × Document)} {m : String × Document}
    {first : Bool} {cs rest : List Char}
    (h : PartsRead '}' Document.reading.member first cs (before ++ m :: after) rest)
    (hbefore : ∀ e ∈ before, ¬ e.2.IllTyped) :
    ∃ front inner mid, cs = front ++ inner ∧ Document.reading inner m.2 mid ∧
      (∀ text f, Json.readOptionalString text = .error f →
        readMentions first (front ++ text) = .error f) ∧
      ∀ text d mid rest, Document.reading text d mid →
        PartsRead '}' Document.reading.member false mid [] rest →
        PartsRead '}' Document.reading.member first (front ++ text) (before ++ [(m.1, d)]) rest := by
  -- On the members in front. Each of them ends where the next starts, whatever follows at last.
  induction before generalizing first cs with
  | nil =>
    obtain ⟨inner, mid, next, value, -⟩ := h.next
    obtain ⟨front, rfl, hfront⟩ := Json.nextMember_front next
    refine ⟨front, inner, mid, rfl, value, ?_, ?_⟩
    · intro text f hf
      exact readMentions_loops.of_item_fault (hfront text) hf
    · intro text d mid rest hd closed
      exact .of_next (hfront text) hd closed
  | cons e before ih =>
    obtain ⟨he, hlater⟩ := List.forall_mem_cons.1 hbefore
    obtain ⟨inner, mid, next, value, later⟩ := h.next
    obtain ⟨front, rfl, hfront⟩ := Json.nextMember_front next
    obtain ⟨b, w, hb, hw, -, rfl⟩ := value
    obtain ⟨front', inner, mid', rfl, hm, faults, parts⟩ := ih later hlater
    have assoc (text : List Char) :
        front ++ (b ++ (w ++ front')) ++ text = front ++ (b ++ (w ++ (front' ++ text))) := by simp
    refine ⟨_, inner, mid', (assoc inner).symm, hm, ?_, ?_⟩
    · intro text f hf
      obtain ⟨s, hs⟩ := not_illTyped_iff.1 he
      rw [hs, spelling_mentionDocument] at hw
      have mention : Json.readOptionalString (b ++ (w ++ (front' ++ text))) =
          .ok (s, front' ++ text) :=
        (Json.takes_readOptionalString s _ _).2 ⟨b, w, hb, hw, rfl⟩
      rw [assoc, readMentions_loops.of_item (hfront _) mention, faults text f hf]
      rfl
    · intro text d mid rest hd closed
      have tail := parts text d mid rest hd closed
      rw [assoc]
      exact .of_next (hfront _) ⟨b, w, hb, hw, tail.tokenEnds (by decide), rfl⟩ tail

theorem ofText_of_illTyped {t : String} {before after : List (String × Document)}
    {m : String × Document} (h : Document.Fills (.object (before ++ m :: after)) t)
    (hbefore : ∀ e ∈ before, ¬ e.2.IllTyped) (hm : m.2.IllTyped) :
    ∃ front w back, Document.StandsIn t before m front w back ∧
      ofText t = .error (notString m.2.value
        (some (.behind (Text.bytes (String.ofList (front ++ m.2.refusedBehind w)))))) := by
  obtain ⟨end', -, hread⟩ := h.reading
  obtain ⟨inner, hskip, parts⟩ := Document.partsRead_of_object hread
  obtain ⟨b, hb, ht⟩ := (Json.skipBlank_eq_cons_iff (by decide)).1 hskip
  obtain ⟨front, value, back, rfl, hvalue, faults, closes⟩ := readMentions_front parts hbefore
  obtain ⟨b', w, hb', hw, hback, rfl⟩ := hvalue
  obtain ⟨left, hleft, hfault⟩ := Json.readOptionalString_of_illTyped hm hb' hw hback
  refine ⟨b ++ '{' :: (front ++ b'), w, back, ⟨by simp [ht], hw, ?_⟩, ?_⟩
  · have null : Document.reading (b' ++ ("null".toList ++ ['}'])) .null ['}'] :=
      ⟨b', _, hb', rfl, Json.tokenEnds_cons (by decide) [], rfl⟩
    have closed := closes _ .null ['}'] [] null (.close (List.forall_mem_nil _) [])
    refine .of_reading (List.forall_mem_nil _) (Document.reading_object ?_ closed Json.tokenEnds_nil)
    rw [Json.skipBlank_eq_cons_iff (by decide)]
    exact ⟨b, hb, by simp⟩
  · have located : t.toList = (b ++ '{' :: (front ++ b')) ++ m.2.refusedBehind w ++ left := by
      simp [ht, hleft]
    have hread : read t.toList = .error (.before (.wrongType m.2.value.shape .string) left) := by
      simp only [read, hskip, faults _ _ hfault]
      rfl
    rw [ofText, Json.Reader.ofText, hread]
    simp only [Fault.locate_before located]
    rfl

theorem ofText_object_eq_ok {t : String} {ms : List (String × Document)}
    (h : Document.Fills (.object ms) t) (hms : ∀ m ∈ ms, ¬ m.2.IllTyped) :
    ∃ x, ofText t = .ok x := by
  obtain ⟨es, rfl⟩ := eq_map_of_not_illTyped hms
  refine ⟨ofMentions es, ?_⟩
  rw [ofText, (takes_read _).ofText_eq_ok_iff_fills fun _ => rendering_iff_isDocument]
  exact ⟨_, ⟨es, rfl, rfl⟩, h⟩

/-! ## Entries of a value -/

theorem mention_of_illTyped {v : Json} (h : v.IllTyped) : mention v = .error (notString v none) := by
  cases v with
  | null => exact absurd rfl h.1
  | string s => exact absurd rfl (h.2 s)
  | _ => rfl

theorem exists_mentionJson {v : Json} (h : ¬ v.IllTyped) : ∃ s, v = mentionJson s := by
  by_contra hnone
  exact h ⟨fun heq => hnone ⟨none, heq⟩, fun s heq => hnone ⟨some s, heq⟩⟩

theorem mentions_of_illTyped {before after : List (String × Json)} {m : String × Json}
    (hbefore : ∀ e ∈ before, ¬ e.2.IllTyped) (hm : m.2.IllTyped) :
    mentions (before ++ m :: after) = .error (notString m.2 none) := by
  induction before with
  | nil =>
    rw [List.nil_append, mentions, mention_of_illTyped hm]
  | cons e before ih =>
    obtain ⟨he, hlater⟩ := List.forall_mem_cons.1 hbefore
    obtain ⟨s, hs⟩ := exists_mentionJson he
    rw [List.cons_append, mentions, mention_eq_ok_iff.2 hs, ih hlater]
    rfl

theorem ofJson_object_eq_ok {ms : List (String × Json)} (h : ∀ m ∈ ms, ¬ m.2.IllTyped) :
    ∃ x, ofJson (.object ms) = .ok x := by
  obtain ⟨es, rfl⟩ := Entries.exists_map fun m hm => exists_mentionJson (h m hm)
  exact ⟨ofMentions es, ofJson_eq_ok_iff.2 ⟨es, rfl, collects_ofMentions es⟩⟩

theorem mem_value_iff_last {members : List (String × Json)} {ms : List (String × Document)}
    (h : Document.value (.object ms) = .object members) (key : String) (v : Json) :
    (key, v) ∈ members ↔ ∃ d, Entries.Last ms key d ∧ d.value = v := by
  rw [Document.value_object, Json.ofMembers, Json.object.injEq] at h
  rw [← h, Entries.mem_ofList_iff, Entries.last_map_iff]

/-! ## The first that is refused -/

section

variable {α β ε : Type} {Bad : α → Prop} {xs : List α} {x : Except ε β}
  {Told : List α → α → ε → Prop}

/-- There is an error just if something is bad, and it tells of the first that is, behind what is not. -/
structure FailsAtFirst (Bad : α → Prop) (xs : List α) (x : Except ε β)
    (Told : List α → α → ε → Prop) : Prop where
  fails : (∃ e, x = .error e) ↔ ∃ a ∈ xs, Bad a
  tells : ∀ e, x = .error e → ∃ before a after,
    xs = before ++ a :: after ∧ (∀ b ∈ before, ¬ Bad b) ∧ Bad a ∧ Told before a e

theorem exists_first (h : ∃ a ∈ xs, Bad a) :
    ∃ before a after, xs = before ++ a :: after ∧ (∀ b ∈ before, ¬ Bad b) ∧ Bad a := by
  classical
  have found : (xs.find? fun a => decide (Bad a)).isSome := List.find?_isSome.2 (by simpa using h)
  obtain ⟨a, ha⟩ := Option.isSome_iff_exists.1 found
  obtain ⟨hbad, before, after, rfl, hbefore⟩ := List.find?_eq_some_iff_append.1 ha
  exact ⟨before, a, after, rfl, by simpa using hbefore, by simpa using hbad⟩

theorem FailsAtFirst.of_stops (fine : (∀ a ∈ xs, ¬ Bad a) → ∃ b, x = .ok b)
    (stops : ∀ before a after, xs = before ++ a :: after → (∀ b ∈ before, ¬ Bad b) → Bad a →
      ∃ e, x = .error e ∧ Told before a e) : FailsAtFirst Bad xs x Told := by
  have bad (e : ε) (he : x = .error e) : ∃ a ∈ xs, Bad a := by
    by_contra hnone
    obtain ⟨b, hb⟩ := fine fun a ha hbad => hnone ⟨a, ha, hbad⟩
    cases he.symm.trans hb
  have first (h : ∃ a ∈ xs, Bad a) : ∃ before a after e, xs = before ++ a :: after ∧
      (∀ b ∈ before, ¬ Bad b) ∧ Bad a ∧ x = .error e ∧ Told before a e := by
    obtain ⟨before, a, after, hxs, hbefore, ha⟩ := exists_first h
    obtain ⟨e, he, told⟩ := stops before a after hxs hbefore ha
    exact ⟨before, a, after, e, hxs, hbefore, ha, he, told⟩
  constructor
  · constructor
    · rintro ⟨e, he⟩
      exact bad e he
    · intro h
      obtain ⟨_, _, _, e, -, -, -, he, -⟩ := first h
      exact ⟨e, he⟩
  · intro e he
    obtain ⟨before, a, after, e', hxs, hbefore, ha, he', told⟩ := first (bad e he)
    cases he.symm.trans he'
    exact ⟨before, a, after, hxs, hbefore, ha, told⟩

end

theorem ofText_failsAtFirst {t : String} {ms : List (String × Document)}
    (h : Document.Fills (.object ms) t) :
    FailsAtFirst (fun m => m.2.IllTyped) ms (ofText t) fun before m e =>
      ∃ front w back, Document.StandsIn t before m front w back ∧
        e = notString m.2.value
          (some (.behind (Text.bytes (String.ofList (front ++ m.2.refusedBehind w))))) := by
  refine .of_stops (ofText_object_eq_ok h) ?_
  rintro before m after rfl hbefore hm
  obtain ⟨front, w, back, stands, he⟩ := ofText_of_illTyped h hbefore hm
  exact ⟨_, he, front, w, back, stands, rfl⟩

theorem ofJson_failsAtFirst (members : List (String × Json)) :
    FailsAtFirst (fun m => m.2.IllTyped) members (ofJson (.object members)) fun _ m e =>
      e = notString m.2 none := by
  refine .of_stops ofJson_object_eq_ok ?_
  rintro before m after rfl hbefore hm
  refine ⟨_, ?_, rfl⟩
  rw [ofJson, mentions_of_illTyped hbefore hm]
  rfl

theorem least_of_ascending {before after : List (String × Json)} {m : String × Json}
    (h : Entries.Ascending (before ++ m :: after)) (hbefore : ∀ e ∈ before, ¬ e.2.IllTyped) :
    ∀ e ∈ before ++ m :: after, e.2.IllTyped → m.1 ≤ e.1 := by
  intro e he hill
  rcases List.mem_append.1 he with he | he
  · exact absurd hill (hbefore e he)
  · apply String.not_lt.1
    rcases List.mem_cons.1 he with rfl | he
    · exact String.lt_irrefl _
    · have hlt : m.1 < e.1 := (List.pairwise_cons.1 (List.pairwise_append.1 h).2.1).1 e he
      exact String.lt_asymm hlt

/-- A text is refused for the first ill-typed member in it, its value for the ill-typed entry with the
least key, in the order of characters or, which is the same, of bytes. -/
theorem illTyped_reported {t : String} {members : List (String × Json)}
    (h : Json.ofText t = .ok (.object members)) :
    ∃ ms : List (String × Document), Document.Fills (.object ms) t ∧
      (∀ key v, (key, v) ∈ members ↔ ∃ d, Entries.Last ms key d ∧ d.value = v) ∧
      FailsAtFirst (fun m => m.2.IllTyped) ms (ofText t) (fun before m e =>
        ∃ front w back, Document.StandsIn t before m front w back ∧
          e = notString m.2.value
            (some (.behind (Text.bytes (String.ofList (front ++ m.2.refusedBehind w)))))) ∧
      ((∃ e, ofJson (.object members) = .error e) ↔ ∃ m ∈ members, m.2.IllTyped) ∧
      (∀ e, ofJson (.object members) = .error e → ∃ m ∈ members, m.2.IllTyped ∧
        (∀ m' ∈ members, m'.2.IllTyped → m.1 ≤ m'.1) ∧ e = notString m.2 none) ∧
      (∀ v position, (notString v position).cause.category = .data ∧
        (notString v position).cause.text =
          "invalid type: " ++ v.shape.text ++ ", expected a string") ∧
      ∀ a b : String, a < b ↔ List.Lex (· < ·) (Text.bytes a) (Text.bytes b) := by
  obtain ⟨d, hvalue, hd⟩ := Json.ofText_eq_ok_iff_document.1 h
  obtain ⟨ms, rfl⟩ : ∃ ms, d = .object ms := by
    cases d with
    | object ms => exact ⟨ms, rfl⟩
    | _ => cases hvalue
  obtain ⟨valueFails, valueTells⟩ := ofJson_failsAtFirst members
  refine ⟨ms, hd, mem_value_iff_last hvalue, ofText_failsAtFirst hd, valueFails, ?_, ?_,
    Text.lt_iff_lex_bytes⟩
  · intro e he
    obtain ⟨before, m, after, rfl, hbefore, hm, rfl⟩ := valueTells e he
    have ascending : Entries.Ascending (before ++ m :: after) := by
      rw [Document.value_object, Json.ofMembers, Json.object.injEq] at hvalue
      exact hvalue ▸ Entries.ascending_ofList _
    exact ⟨m, by simp, hm, least_of_ascending ascending hbefore, rfl⟩
  · intro v position
    exact ⟨rfl, text_notString v position⟩

/-- The text is refused for its first member, whose key is not the least and comes again. -/
theorem illTyped_reported_two_members :
    let t := "\x7b\"b\":[],\"a\":true,\"b\":\"x\",\"a\":false\x7d"
    let members : List (String × Json) := [("a", .boolean false), ("b", .string "x")]
    Json.ofText t = .ok (.object members) ∧
      ofText t = .error (notString (.array []) (some ⟨1, 5⟩)) ∧
      ofJson (.object members) = .error (notString (.boolean false) none) ∧
      (∃ ms, Document.Fills (.object ms) t ∧ ∃ m ∈ ms, m.2.IllTyped) ∧
      ∃ m ∈ members, m.2.IllTyped ∧ ∀ m' ∈ members, m'.2.IllTyped → m.1 ≤ m'.1 := by
  intro t members
  let ms : List (String × Document) :=
    [("b", .array []), ("a", .boolean true), ("b", .string "x"), ("a", .boolean false)]
  have spelled : ∀ m ∈ ms, m.2.Spelling (Json.render m.2.value) := by
    simp only [ms, List.forall_mem_cons]
    exact ⟨.empty (List.forall_mem_nil _), rfl, Json.literal_render "x", rfl, List.forall_mem_nil _⟩
  have fills : Document.Fills (.object ms) t := by
    have ht : t.toList = Json.render (.object (ms.map fun m => (m.1, m.2.value))) := by decide
    apply Json.Padded.of_exact
    rw [ht, Document.spelling_object]
    exact Json.braced_render Document.value Document.Spelling spelled
  have hv : Json.ofText t = .ok (.object members) :=
    Json.ofText_eq_ok_iff_document.2 ⟨.object ms, rfl, fills⟩
  have textRefused : ofText t = .error (notString (.array []) (some ⟨1, 5⟩)) := by decide +kernel
  have valueRefused : ofJson (.object members) = .error (notString (.boolean false) none) := rfl
  obtain ⟨ms, hms, -, inText, -, inValue, -, -⟩ := illTyped_reported hv
  obtain ⟨m, hm, hill, least, -⟩ := inValue _ valueRefused
  exact ⟨hv, textRefused, valueRefused, ⟨ms, hms, inText.fails.1 ⟨_, textRefused⟩⟩, m, hm, hill, least⟩

end Bindings

end Conditions
