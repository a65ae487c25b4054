import Conditions.Json.Reader.String
import Conditions.Json.Reader.Basic

set_option autoImplicit false

namespace Conditions.Json

def IsHexDigit (d : Char) (n : Nat) : Prop :=
  "0123456789abcdef".toList[n]? = some d ∨ "0123456789ABCDEF".toList[n]? = some d

def IsHexQuad (n : Nat) (ds : List Char) : Prop :=
  ∃ a b c d x y z w, ds = [a, b, c, d] ∧ IsHexDigit a x ∧ IsHexDigit b y ∧ IsHexDigit c z ∧
    IsHexDigit d w ∧ n = ((x * 16 + y) * 16 + z) * 16 + w

/-- What stands behind the backslash, and what is meant. -/
def shortEscapes : List (Char × Char) := [
  ('"', '"'), ('\\', '\\'), ('/', '/'), ('b', '\x08'), ('f', '\x0c'), ('n', '\n'), ('r', '\r'),
  ('t', '\t')]

def highSurrogate (c : Char) : Nat := 0xD800 + (c.toNat - 0x10000) / 0x400

def lowSurrogate (c : Char) : Nat := 0xDC00 + (c.toNat - 0x10000) % 0x400

inductive EscapeSpelling (c : Char) : List Char → Prop
  | short {e : Char} (h : (e, c) ∈ shortEscapes) : EscapeSpelling c [e]
  | unit {ds : List Char} (h : IsHexQuad c.toNat ds) : EscapeSpelling c ('u' :: ds)
  | pair {hs ls : List Char} (hc : 0xFFFF < c.toNat) (high : IsHexQuad (highSurrogate c) hs)
      (low : IsHexQuad (lowSurrogate c) ls) :
      EscapeSpelling c ('u' :: (hs ++ '\\' :: 'u' :: ls))

inductive CharSpelling (c : Char) : List Char → Prop
  | raw (h : 0x20 ≤ c.toNat) (hquote : c ≠ '"') (hbackslash : c ≠ '\\') : CharSpelling c [c]
  | escaped {w : List Char} (h : EscapeSpelling c w) : CharSpelling c ('\\' :: w)

inductive BodySpelling : List Char → List Char → Prop
  | nil : BodySpelling [] []
  | cons {c : Char} {s w body : List Char} (head : CharSpelling c w) (tail : BodySpelling s body) :
      BodySpelling (c :: s) (w ++ body)

/-- The literals that denote a string. -/
inductive Literal (s : String) : List Char → Prop
  | quoted {body : List Char} (h : BodySpelling s.toList body) :
      Literal s ('"' :: (body ++ ['"']))

theorem IsHexDigit.lt {d : Char} {n : Nat} (h : IsHexDigit d n) : n < 16 := by
  rcases h with h | h
  · exact (List.getElem?_eq_some_iff.1 h).1
  · exact (List.getElem?_eq_some_iff.1 h).1

instance (d : Char) (n : Nat) : Decidable (IsHexDigit d n) :=
  inferInstanceAs (Decidable (_ ∨ _))

theorem isHexDigit_of_hexValue? {d : Char} {n : Nat} (h : hexValue? d = some n) :
    IsHexDigit d n := by
  have hsmall : d.toNat < 103 := by
    unfold hexValue? at h
    simp only [Char.le_def, UInt32.le_iff_toNat_le, Char.toNat_val] at h
    have h9 : '9'.toNat = 57 := rfl
    have hf : 'f'.toNat = 102 := rfl
    have hF : 'F'.toNat = 70 := rfl
    split at h
    · omega
    · split at h
      · omega
      · split at h
        · omega
        · cases h
  -- No digit lies above the letter f, so a table decides.
  have table : ∀ k < 103, ∀ m ∈ hexValue? (Char.ofNat k), IsHexDigit (Char.ofNat k) m := by decide
  have hd := table d.toNat hsmall n
  rw [Char.ofNat_toNat] at hd
  exact hd h

theorem hexValue?_eq_some_iff {d : Char} {n : Nat} : hexValue? d = some n ↔ IsHexDigit d n := by
  constructor
  · exact isHexDigit_of_hexValue?
  · intro h
    have hn := h.lt
    have lower : ∀ m < 16, "0123456789abcdef".toList[m]?.bind hexValue? = some m := by decide
    have upper : ∀ m < 16, "0123456789ABCDEF".toList[m]?.bind hexValue? = some m := by decide
    rcases h with h | h
    · have hvalue := lower n hn
      rwa [h] at hvalue
    · have hvalue := upper n hn
      rwa [h] at hvalue

theorem hexQuad?_eq_some_iff {a b c d : Char} {n : Nat} :
    hexQuad? a b c d = some n ↔ IsHexQuad n [a, b, c, d] := by
  constructor
  · intro h
    simp only [hexQuad?, Option.bind_eq_bind, Option.bind_eq_some_iff, Option.pure_def,
      Option.some.injEq] at h
    obtain ⟨x, hx, y, hy, z, hz, w, hw, rfl⟩ := h
    refine ⟨a, b, c, d, x, y, z, w, rfl, isHexDigit_of_hexValue? hx, isHexDigit_of_hexValue? hy,
      isHexDigit_of_hexValue? hz, isHexDigit_of_hexValue? hw, ?_⟩
    omega
  · intro h
    obtain ⟨a', b', c', d', x, y, z, w, heq, hx, hy, hz, hw, rfl⟩ := h
    cases heq
    simp only [hexQuad?, hexValue?_eq_some_iff.2 hx, hexValue?_eq_some_iff.2 hy,
      hexValue?_eq_some_iff.2 hz, hexValue?_eq_some_iff.2 hw, Option.bind_eq_bind,
      Option.bind_some, Option.pure_def]

theorem IsHexQuad.lt {n : Nat} {ds : List Char} (h : IsHexQuad n ds) : n < 0x10000 := by
  obtain ⟨_, _, _, _, x, y, z, w, -, hx, hy, hz, hw, rfl⟩ := h
  have := hx.lt
  have := hy.lt
  have := hz.lt
  have := hw.lt
  omega

theorem readQuad_eq_ok_iff {cs rest : List Char} {n : Nat} :
    readQuad cs = .ok (n, rest) ↔ ∃ ds, IsHexQuad n ds ∧ cs = ds ++ rest := by
  constructor
  · intro h
    unfold readQuad at h
    split at h
    · cases h
    · split at h
      · rename_i a b c d left _
        split at h
        · rename_i m hm
          cases h
          exact ⟨[a, b, c, d], hexQuad?_eq_some_iff.1 hm, rfl⟩
        · cases h
      · cases h
  · intro h
    obtain ⟨ds, hds, rfl⟩ := h
    have hquad := hds
    obtain ⟨a, b, c, d, -, -, -, -, rfl, -⟩ := hds
    have hcount : ¬ Text.byteCount ((a :: b :: c :: d :: rest).take 4) < 4 := by
      have ha := a.utf8Size_pos
      have hb := b.utf8Size_pos
      have hc := c.utf8Size_pos
      have hd := d.utf8Size_pos
      simp only [List.take_succ_cons, List.take_zero, Text.byteCount_cons, Text.byteCount_nil]
      omega
    change readQuad (a :: b :: c :: d :: rest) = _
    rw [readQuad, if_neg hcount]
    simp only [hexQuad?_eq_some_iff.2 hquad]

theorem isHighSurrogate_iff {n : Nat} : isHighSurrogate n = true ↔ 0xD800 ≤ n ∧ n ≤ 0xDBFF := by
  rw [isHighSurrogate, Bool.and_eq_true, decide_eq_true_eq, decide_eq_true_eq]

theorem isLowSurrogate_iff {n : Nat} : isLowSurrogate n = true ↔ 0xDC00 ≤ n ∧ n ≤ 0xDFFF := by
  rw [isLowSurrogate, Bool.and_eq_true, decide_eq_true_eq, decide_eq_true_eq]

theorem not_isSurrogate (c : Char) :
    isHighSurrogate c.toNat = false ∧ isLowSurrogate c.toNat = false := by
  have hvalid : c.toNat.isValidChar := c.valid
  rw [← Bool.not_eq_true, ← Bool.not_eq_true, isHighSurrogate_iff, isLowSurrogate_iff]
  unfold Nat.isValidChar at hvalid
  omega

theorem toNat_ofNat_of_isValidChar {n : Nat} (h : n.isValidChar) : (Char.ofNat n).toNat = n := by
  rw [Char.ofNat, dif_pos h]
  rfl

theorem toNat_ofNat_of_not_surrogate {n : Nat} (h : n < 0x10000)
    (hhigh : isHighSurrogate n = false) (hlow : isLowSurrogate n = false) :
    (Char.ofNat n).toNat = n := by
  rw [← Bool.not_eq_true, isHighSurrogate_iff] at hhigh
  rw [← Bool.not_eq_true, isLowSurrogate_iff] at hlow
  apply toNat_ofNat_of_isValidChar
  unfold Nat.isValidChar
  omega

theorem joinSurrogates_eq_iff {high low : Nat} {c : Char} (hhigh : isHighSurrogate high = true)
    (hlow : isLowSurrogate low = true) :
    joinSurrogates high low = c ↔
      0xFFFF < c.toNat ∧ high = highSurrogate c ∧ low = lowSurrogate c := by
  rw [isHighSurrogate_iff] at hhigh
  rw [isLowSurrogate_iff] at hlow
  unfold joinSurrogates highSurrogate lowSurrogate
  constructor
  · intro h
    have hc : c.toNat = 0x10000 + (high - 0xD800) * 0x400 + (low - 0xDC00) := by
      rw [← h]
      apply toNat_ofNat_of_isValidChar
      unfold Nat.isValidChar
      omega
    omega
  · intro h
    have hc : 0x10000 + (high - 0xD800) * 0x400 + (low - 0xDC00) = c.toNat := by omega
    rw [hc, Char.ofNat_toNat]

theorem isSurrogate_of_lt {c : Char} (h : 0xFFFF < c.toNat) :
    isHighSurrogate (highSurrogate c) = true ∧ isLowSurrogate (lowSurrogate c) = true := by
  have hvalid : c.toNat.isValidChar := c.valid
  rw [isHighSurrogate_iff, isLowSurrogate_iff]
  unfold Nat.isValidChar at hvalid
  unfold highSurrogate lowSurrogate
  omega

theorem readLowSurrogate_eq_ok_iff {high : Nat} {cs rest : List Char} {c : Char} :
    readLowSurrogate high cs = .ok (c, rest) ↔
      ∃ low ls, IsHexQuad low ls ∧ isLowSurrogate low = true ∧ joinSurrogates high low = c ∧
        cs = '\\' :: 'u' :: (ls ++ rest) := by
  constructor
  · intro h
    unfold readLowSurrogate at h
    split at h
    · cases h
    · cases h
    · rename_i ds
      cases hq : readQuad ds with
      | error f =>
        rw [hq] at h
        cases h
      | ok p =>
        obtain ⟨low, left⟩ := p
        obtain ⟨ls, hls, rfl⟩ := readQuad_eq_ok_iff.1 hq
        simp only [hq] at h
        split at h
        · rename_i hlow
          rw [Except.ok.injEq, Prod.mk.injEq] at h
          exact ⟨low, ls, hls, hlow, h.1, by rw [h.2]⟩
        · cases h
    · cases h
    · cases h
  · intro h
    obtain ⟨low, ls, hls, hlow, rfl, rfl⟩ := h
    simp only [readLowSurrogate, readQuad_eq_ok_iff.2 ⟨ls, hls, rfl⟩, hlow, if_true]

theorem readEscape_unit {cs rest : List Char} {c : Char} :
    readEscape ('u' :: cs) = .ok (c, rest) ↔
      ∃ n ds left, IsHexQuad n ds ∧ cs = ds ++ left ∧ isLowSurrogate n = false ∧
        (isHighSurrogate n = true ∧ readLowSurrogate n left = .ok (c, rest) ∨
          isHighSurrogate n = false ∧ Char.ofNat n = c ∧ left = rest) := by
  rw [readEscape]
  constructor
  · intro h
    cases hq : readQuad cs with
    | error f =>
      rw [hq] at h
      cases h
    | ok p =>
      obtain ⟨n, left⟩ := p
      obtain ⟨ds, hds, hcs⟩ := readQuad_eq_ok_iff.1 hq
      simp only [hq] at h
      refine ⟨n, ds, left, hds, hcs, ?_⟩
      cases hlow : isLowSurrogate n with
      | true =>
        rw [hlow, if_pos rfl] at h
        cases h
      | false =>
        refine ⟨rfl, ?_⟩
        rw [hlow, if_neg Bool.false_ne_true] at h
        cases hhigh : isHighSurrogate n with
        | true =>
          rw [hhigh, if_pos rfl] at h
          exact .inl ⟨rfl, h⟩
        | false =>
          rw [hhigh, if_neg Bool.false_ne_true] at h
          cases h
          exact .inr ⟨rfl, rfl, rfl⟩
  · intro h
    obtain ⟨n, ds, left, hds, hcs, hlow, h⟩ := h
    simp only [readQuad_eq_ok_iff.2 ⟨ds, hds, hcs⟩, hlow]
    rcases h with ⟨hhigh, h⟩ | ⟨hhigh, rfl, rfl⟩
    · rw [hhigh]
      exact h
    · rw [hhigh]
      rfl

theorem readEscape_short {e c : Char} (h : (e, c) ∈ shortEscapes) (rest : List Char) :
    readEscape (e :: rest) = .ok (c, rest) := by
  simp only [shortEscapes, List.mem_cons, Prod.mk.injEq, List.not_mem_nil, or_false] at h
  rcases h with h | h | h | h | h | h | h | h <;> rw [h.1, h.2] <;> rfl

theorem mem_shortEscapes_of_readEscape {e c : Char} {cs rest : List Char} (he : e ≠ 'u')
    (h : readEscape (e :: cs) = .ok (c, rest)) : (e, c) ∈ shortEscapes ∧ cs = rest := by
  unfold readEscape at h
  split at h
  case h_1 heq => cases heq
  case h_10 heq => exact absurd (List.cons.inj heq).1 he
  case h_11 => cases h
  all_goals
    rename_i heq
    obtain ⟨rfl, rfl⟩ := List.cons.inj heq
    cases h
    exact ⟨by decide, rfl⟩

theorem readEscape_eq_ok_iff {cs rest : List Char} {c : Char} :
    readEscape cs = .ok (c, rest) ↔ ∃ w, EscapeSpelling c w ∧ cs = w ++ rest := by
  constructor
  · intro h
    cases cs with
    | nil => cases h
    | cons e cs =>
      by_cases he : e = 'u'
      · subst he
        obtain ⟨n, ds, left, hds, rfl, hlow, h⟩ := readEscape_unit.1 h
        rcases h with ⟨hhigh, h⟩ | ⟨hhigh, rfl, rfl⟩
        · obtain ⟨low, ls, hls, hlow, hjoin, rfl⟩ := readLowSurrogate_eq_ok_iff.1 h
          obtain ⟨hc, hn, hl⟩ := (joinSurrogates_eq_iff hhigh hlow).1 hjoin
          rw [hn] at hds
          rw [hl] at hls
          exact ⟨_, .pair hc hds hls, by simp⟩
        · -- A number of four digits that is no surrogate is a character by itself.
          have hn := toNat_ofNat_of_not_surrogate hds.lt hhigh hlow
          exact ⟨_, .unit (by rwa [hn]), rfl⟩
      · obtain ⟨hmem, rfl⟩ := mem_shortEscapes_of_readEscape he h
        exact ⟨[e], .short hmem, rfl⟩
  · intro h
    obtain ⟨w, hw, rfl⟩ := h
    cases hw with
    | short h => exact readEscape_short h rest
    | unit h =>
      obtain ⟨hhigh, hlow⟩ := not_isSurrogate c
      exact readEscape_unit.2
        ⟨c.toNat, _, rest, h, rfl, hlow, .inr ⟨hhigh, Char.ofNat_toNat c, rfl⟩⟩
    | pair hc high low =>
      obtain ⟨hhigh, hlow⟩ := isSurrogate_of_lt hc
      have hnot : isLowSurrogate (highSurrogate c) = false := by
        rw [isHighSurrogate_iff] at hhigh
        rw [← Bool.not_eq_true, isLowSurrogate_iff]
        omega
      refine readEscape_unit.2 ⟨highSurrogate c, _, _, high, ?_, hnot, .inl ⟨hhigh,
        readLowSurrogate_eq_ok_iff.2 ⟨lowSurrogate c, _, low, hlow, ?_, rfl⟩⟩⟩
      · simp
      · exact (joinSurrogates_eq_iff hhigh hlow).2 ⟨hc, rfl, rfl⟩

theorem readString_quote (rest : List Char) : readString ('"' :: rest) = .ok ([], rest) := by
  rw [readString]

theorem readString_escape {cs rest : List Char} {c : Char} (h : readEscape cs = .ok (c, rest)) :
    readString ('\\' :: cs) = (readString rest).map fun p => (c :: p.1, p.2) := by
  rw [readString]
  split
  · rename_i f hf
    rw [h] at hf
    cases hf
  · rename_i c' rest' hc
    rw [h, Except.ok.injEq, Prod.mk.injEq] at hc
    obtain ⟨rfl, rfl⟩ := hc
    cases readString rest <;> rfl

theorem readString_raw {c : Char} (h : 0x20 ≤ c.toNat) (hquote : c ≠ '"') (hbackslash : c ≠ '\\')
    (cs : List Char) :
    readString (c :: cs) = (readString cs).map fun p => (c :: p.1, p.2) := by
  rw [readString]
  · rw [if_neg (Nat.not_lt.2 h)]
    cases readString cs <;> rfl
  · exact hquote
  · exact hbackslash

theorem readString_spelling {c : Char} {w : List Char} (h : CharSpelling c w) (cs : List Char) :
    readString (w ++ cs) = (readString cs).map fun p => (c :: p.1, p.2) := by
  cases h with
  | raw h hquote hbackslash => exact readString_raw h hquote hbackslash cs
  | escaped h => exact readString_escape (readEscape_eq_ok_iff.2 ⟨_, h, rfl⟩)

theorem bodySpelling_of_readString {cs rest s : List Char} (h : readString cs = .ok (s, rest)) :
    ∃ body, BodySpelling s body ∧ cs = body ++ '"' :: rest := by
  fun_induction readString cs generalizing s rest with
  | case1 => cases h
  | case2 left =>
    cases h
    exact ⟨[], .nil, rfl⟩
  | case3 => cases h
  | case4 => cases h
  | case5 left c left' hc _ s' e he ih =>
    cases h
    obtain ⟨w, hw, rfl⟩ := readEscape_eq_ok_iff.1 hc
    obtain ⟨body, hbody, rfl⟩ := ih he
    exact ⟨('\\' :: w) ++ body, .cons (.escaped hw) hbody, by simp⟩
  | case6 => cases h
  | case7 => cases h
  | case8 c left hquote hbackslash hc s' e he ih =>
    cases h
    obtain ⟨body, hbody, rfl⟩ := ih he
    exact ⟨[c] ++ body, .cons (.raw (Nat.not_lt.1 hc) hquote hbackslash) hbody, rfl⟩

theorem readString_of_bodySpelling {s body : List Char} (h : BodySpelling s body)
    (rest : List Char) : readString (body ++ '"' :: rest) = .ok (s, rest) := by
  induction h with
  | nil => exact readString_quote rest
  | cons head tail ih =>
    rw [List.append_assoc, readString_spelling head, ih]
    rfl

theorem readString_eq_ok_iff {cs rest s : List Char} :
    readString cs = .ok (s, rest) ↔ ∃ body, BodySpelling s body ∧ cs = body ++ '"' :: rest := by
  constructor
  · exact bodySpelling_of_readString
  · intro h
    obtain ⟨body, hbody, rfl⟩ := h
    exact readString_of_bodySpelling hbody rest

theorem literal_of_readString {cs rest s : List Char} (h : readString cs = .ok (s, rest)) :
    ∃ w, Literal (String.ofList s) w ∧ '"' :: cs = w ++ rest := by
  obtain ⟨body, hbody, rfl⟩ := readString_eq_ok_iff.1 h
  refine ⟨'"' :: (body ++ ['"']), .quoted ?_, by simp⟩
  rwa [String.toList_ofList]

theorem Literal.read {s : String} {w : List Char} (h : Literal s w) (rest : List Char) :
    ∃ cs, w ++ rest = '"' :: cs ∧ readString cs = .ok (s.toList, rest) := by
  obtain ⟨hbody⟩ := h
  exact ⟨_, by simp, readString_of_bodySpelling hbody rest⟩

end Conditions.Json
