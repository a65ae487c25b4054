import Conditions.Json.Reader.Number
import Conditions.Json.Reader.Basic
import Mathlib.Data.List.TakeWhile

set_option autoImplicit false

namespace Conditions.Json

def Digits (ds : List Char) : Prop :=
  ds ≠ [] ∧ ∀ d ∈ ds, d.isDigit = true

/-- Only a zero that stands alone is the first digit. -/
def WholeSpelling (ds : List Char) : Prop :=
  Digits ds ∧ (ds.head? = some '0' → ds = ['0'])

inductive PlacesSpelling : Option (List Char) → List Char → Prop
  | absent : PlacesSpelling none []
  | point {ds : List Char} (digits : Digits ds) : PlacesSpelling (some ds) ('.' :: ds)

inductive SignSpelling : Bool → List Char → Prop
  | minus : SignSpelling true ['-']
  | plus : SignSpelling false ['+']
  | absent : SignSpelling false []

inductive ExponentSpelling : Option Exponent → List Char → Prop
  | absent : ExponentSpelling none []
  | power {mark : Char} {sign : List Char} {e : Exponent} (letter : mark = 'e' ∨ mark = 'E')
      (signed : SignSpelling e.negative sign) (digits : Digits e.digits) :
      ExponentSpelling (some e) (mark :: (sign ++ e.digits))

structure Numeral.Unsigned (m : Numeral) (w : List Char) : Prop where
  whole : WholeSpelling m.whole
  parts : ∃ places exponent, PlacesSpelling m.places places ∧
    ExponentSpelling m.exponent exponent ∧ w = m.whole ++ (places ++ exponent)

def Numeral.Spelling (m : Numeral) (w : List Char) : Prop :=
  ∃ v, m.Unsigned v ∧ w = if m.negative then '-' :: v else v

/-- The value of a numeral does not depend on what stands behind it. -/
def NumberSpelling (n : Number) (w : List Char) : Prop :=
  ∃ m : Numeral, m.Spelling w ∧ m.value [] = .ok n

def extendsNumeral (c : Char) : Bool :=
  c.isDigit || c = '.' || c = 'e' || c = 'E'

/-- Nothing that could belong to a numeral comes next. -/
def TokenEnds (cs : List Char) : Prop :=
  ∀ c ∈ cs.head?, extendsNumeral c = false

def NoDigitNext (cs : List Char) : Prop :=
  ∀ c ∈ cs.head?, c.isDigit = false

theorem TokenEnds.noDigitNext {cs : List Char} (h : TokenEnds cs) : NoDigitNext cs := by
  intro c hc
  have hends := h c hc
  simp only [extendsNumeral, Bool.or_eq_false_iff] at hends
  exact hends.1.1.1

theorem TokenEnds.noPointNext {cs : List Char} (h : TokenEnds cs) : cs.head? ≠ some '.' := by
  intro hpoint
  exact absurd (h '.' hpoint) (by decide)

theorem takeWhile_digits {ds rest : List Char} (hds : ∀ d ∈ ds, d.isDigit = true)
    (hrest : NoDigitNext rest) :
    (ds ++ rest).takeWhile Char.isDigit = ds ∧ (ds ++ rest).dropWhile Char.isDigit = rest := by
  rw [List.takeWhile_append_of_pos hds, List.dropWhile_append_of_pos hds]
  cases rest with
  | nil => simp
  | cons c rest =>
    have hc : c.isDigit = false := hrest c rfl
    simp [hc]

theorem digits_takeWhile {d : Char} (cs : List Char) (hd : d.isDigit = true) :
    Digits (d :: cs.takeWhile Char.isDigit) := by
  refine ⟨List.cons_ne_nil _ _, List.forall_mem_cons.2 ⟨hd, ?_⟩⟩
  intro e he
  exact List.mem_takeWhile_imp he

theorem whole_of_readWhole {cs ds rest : List Char} (h : readWhole cs = .ok (ds, rest)) :
    WholeSpelling ds ∧ cs = ds ++ rest := by
  have zero : WholeSpelling ['0'] := ⟨⟨by simp, by simp⟩, fun _ => rfl⟩
  unfold readWhole at h
  split at h
  · cases h
  · split at h
    · split at h
      · cases h
      · cases h
        exact ⟨zero, rfl⟩
    · cases h
      exact ⟨zero, rfl⟩
  · rename_i d left hzero
    split at h
    · rename_i hd
      cases h
      refine ⟨⟨digits_takeWhile left hd, ?_⟩, by simp⟩
      intro hhead
      exact absurd (Option.some.inj hhead) hzero
    · cases h

theorem readWhole_of_whole {ds rest : List Char} (h : WholeSpelling ds) (hrest : NoDigitNext rest) :
    readWhole (ds ++ rest) = .ok (ds, rest) := by
  obtain ⟨⟨hne, hds⟩, hzero⟩ := h
  cases ds with
  | nil => contradiction
  | cons d ds =>
    by_cases hd : d = '0'
    · have hnil : ds = [] := by simpa [hd] using hzero
      rw [hd, hnil]
      cases rest with
      | nil => rfl
      | cons c rest =>
        have hc : c.isDigit = false := hrest c rfl
        simp [readWhole, hc]
    · obtain ⟨hdigit, hds⟩ := List.forall_mem_cons.1 hds
      obtain ⟨htake, hdrop⟩ := takeWhile_digits hds hrest
      rw [List.cons_append, readWhole]
      · rw [if_pos hdigit, htake, hdrop]
      · exact hd

theorem digits_of_takeWhile {d : Char} {cs : List Char} (hd : d.isDigit = true) :
    Digits ((d :: cs).takeWhile Char.isDigit) := by
  rw [List.takeWhile_cons_of_pos hd]
  exact digits_takeWhile cs hd

theorem places_of_readPlaces {cs rest : List Char} {places : Option (List Char)}
    (h : readPlaces cs = .ok (places, rest)) : ∃ w, PlacesSpelling places w ∧ cs = w ++ rest := by
  unfold readPlaces at h
  split at h
  · split at h
    · cases h
    · split at h
      · rename_i hd
        cases h
        exact ⟨_, .point (digits_of_takeWhile hd), by simp⟩
      · cases h
  · cases h
    exact ⟨[], .absent, rfl⟩

theorem Digits.cons {ds : List Char} (h : Digits ds) :
    ∃ d left, ds = d :: left ∧ d.isDigit = true := by
  obtain ⟨d, left, rfl⟩ := List.exists_cons_of_ne_nil h.1
  exact ⟨d, left, rfl, h.2 d List.mem_cons_self⟩

theorem readPlaces_of_places {places : Option (List Char)} {w rest : List Char}
    (h : PlacesSpelling places w) (hrest : NoDigitNext rest) (hpoint : rest.head? ≠ some '.') :
    readPlaces (w ++ rest) = .ok (places, rest) := by
  cases h with
  | absent =>
    rw [List.nil_append, readPlaces]
    intro left hleft
    exact hpoint (by rw [hleft, List.head?_cons])
  | point digits =>
    obtain ⟨htake, hdrop⟩ := takeWhile_digits digits.2 hrest
    obtain ⟨d, left, rfl, hd⟩ := digits.cons
    simp only [List.cons_append, readPlaces, hd, if_true]
    rw [← List.cons_append, htake, hdrop]

theorem sign_of_readSign (cs : List Char) :
    ∃ sign, SignSpelling (readSign cs).1 sign ∧ cs = sign ++ (readSign cs).2 := by
  unfold readSign
  split
  · exact ⟨_, .minus, rfl⟩
  · exact ⟨_, .plus, rfl⟩
  · exact ⟨_, .absent, rfl⟩

theorem readSign_of_sign {negative : Bool} {sign ds rest : List Char}
    (h : SignSpelling negative sign) (hds : Digits ds) :
    readSign (sign ++ (ds ++ rest)) = (negative, ds ++ rest) := by
  cases h with
  | minus => rfl
  | plus => rfl
  | absent =>
    obtain ⟨d, left, rfl, hd⟩ := hds.cons
    have hminus : d ≠ '-' := fun heq => absurd (heq ▸ hd) (by decide)
    have hplus : d ≠ '+' := fun heq => absurd (heq ▸ hd) (by decide)
    simp [readSign, hminus, hplus]

theorem exponent_of_readExponent {cs rest : List Char} {exponent : Option Exponent}
    (h : readExponent cs = .ok (exponent, rest)) :
    ∃ w, ExponentSpelling exponent w ∧ cs = w ++ rest := by
  unfold readExponent at h
  split at h
  · rename_i mark left
    split at h
    · rename_i letter
      obtain ⟨sign, signed, hleft⟩ := sign_of_readSign left
      generalize readSign left = read at h signed hleft
      obtain ⟨negative, digits⟩ := read
      simp only at h signed hleft
      split at h
      · cases h
      · split at h
        · rename_i hd
          cases h
          exact ⟨_, .power letter signed (digits_of_takeWhile hd), by simp [hleft]⟩
        · cases h
    · cases h
      exact ⟨[], .absent, rfl⟩
  · cases h
    exact ⟨[], .absent, rfl⟩

theorem readExponent_of_exponent {exponent : Option Exponent} {w rest : List Char}
    (h : ExponentSpelling exponent w) (hrest : TokenEnds rest) :
    readExponent (w ++ rest) = .ok (exponent, rest) := by
  cases h with
  | absent =>
    cases rest with
    | nil => rfl
    | cons c rest =>
      have hc : extendsNumeral c = false := hrest c rfl
      have hletter : ¬(c = 'e' ∨ c = 'E') := by
        rintro (rfl | rfl)
        · exact absurd hc (by decide)
        · exact absurd hc (by decide)
      simp [readExponent, hletter]
  | @power mark sign e letter signed digits =>
    obtain ⟨negative, ds⟩ := e
    have hsign : readSign (sign ++ (ds ++ rest)) = (negative, ds ++ rest) :=
      readSign_of_sign signed digits
    obtain ⟨htake, hdrop⟩ := takeWhile_digits digits.2 hrest.noDigitNext
    obtain ⟨d, left, rfl, hd⟩ := digits.cons
    simp only [List.cons_append, List.append_assoc] at hsign htake hdrop ⊢
    simp only [readExponent, if_pos letter, hsign, if_pos hd, htake, hdrop]

theorem readUnsigned_eq_ok_iff {negative : Bool} {cs rest : List Char} {m : Numeral} :
    readUnsigned negative cs = .ok (m, rest) ↔
      ∃ cs₁ cs₂, m.negative = negative ∧ readWhole cs = .ok (m.whole, cs₁) ∧
        readPlaces cs₁ = .ok (m.places, cs₂) ∧ readExponent cs₂ = .ok (m.exponent, rest) := by
  unfold readUnsigned
  constructor
  · intro h
    obtain ⟨⟨whole, cs₁⟩, hwhole, h⟩ := Except.bind_eq_ok_iff.1 h
    obtain ⟨⟨places, cs₂⟩, hplaces, h⟩ := Except.bind_eq_ok_iff.1 h
    obtain ⟨⟨exponent, cs₃⟩, hexponent, h⟩ := Except.bind_eq_ok_iff.1 h
    cases h
    exact ⟨cs₁, cs₂, rfl, hwhole, hplaces, hexponent⟩
  · rintro ⟨cs₁, cs₂, rfl, hwhole, hplaces, hexponent⟩
    simp only [hwhole, hplaces, hexponent, bind, Except.bind, pure, Except.pure]

theorem unsigned_of_readUnsigned {negative : Bool} {cs rest : List Char} {m : Numeral}
    (h : readUnsigned negative cs = .ok (m, rest)) :
    m.negative = negative ∧ ∃ w, m.Unsigned w ∧ cs = w ++ rest := by
  obtain ⟨cs₁, cs₂, hsign, hwhole, hplaces, hexponent⟩ := readUnsigned_eq_ok_iff.1 h
  obtain ⟨whole, rfl⟩ := whole_of_readWhole hwhole
  obtain ⟨places, hp, rfl⟩ := places_of_readPlaces hplaces
  obtain ⟨exponent, he, rfl⟩ := exponent_of_readExponent hexponent
  exact ⟨hsign, _, ⟨whole, places, exponent, hp, he, rfl⟩, by simp⟩

theorem ExponentSpelling.next {exponent : Option Exponent} {w rest : List Char}
    (h : ExponentSpelling exponent w) (hrest : TokenEnds rest) :
    NoDigitNext (w ++ rest) ∧ (w ++ rest).head? ≠ some '.' := by
  cases h with
  | absent => exact ⟨hrest.noDigitNext, hrest.noPointNext⟩
  | power letter signed digits =>
    rcases letter with rfl | rfl
    · exact ⟨by simp [NoDigitNext], by simp⟩
    · exact ⟨by simp [NoDigitNext], by simp⟩

theorem PlacesSpelling.next {places : Option (List Char)} {w rest : List Char}
    (h : PlacesSpelling places w) (hrest : NoDigitNext rest) : NoDigitNext (w ++ rest) := by
  cases h with
  | absent => exact hrest
  | point digits => simp [NoDigitNext]

theorem readUnsigned_of_unsigned {m : Numeral} {w rest : List Char} (h : m.Unsigned w)
    (hrest : TokenEnds rest) : readUnsigned m.negative (w ++ rest) = .ok (m, rest) := by
  obtain ⟨whole, places, exponent, hp, he, rfl⟩ := h
  obtain ⟨hdigit, hpoint⟩ := he.next hrest
  have hwhole := readWhole_of_whole whole (hp.next hdigit)
  have hplaces := readPlaces_of_places hp hdigit hpoint
  have hexponent := readExponent_of_exponent he hrest
  refine readUnsigned_eq_ok_iff.2 ⟨_, _, rfl, ?_, hplaces, hexponent⟩
  simpa using hwhole

theorem Numeral.Unsigned.start {m : Numeral} {w : List Char} (h : m.Unsigned w) :
    ∃ d left, w = d :: left ∧ d.isDigit = true := by
  obtain ⟨whole, _, _, -, -, rfl⟩ := h
  obtain ⟨d, left, hds, hd⟩ := whole.1.cons
  exact ⟨d, _, by rw [hds, List.cons_append], hd⟩

theorem spelling_of_readNumeral {cs rest : List Char} {m : Numeral}
    (h : readNumeral cs = .ok (m, rest)) : ∃ w, m.Spelling w ∧ cs = w ++ rest := by
  unfold readNumeral at h
  split at h
  · obtain ⟨hsign, w, hw, rfl⟩ := unsigned_of_readUnsigned h
    exact ⟨_, ⟨w, hw, rfl⟩, by simp [hsign]⟩
  · obtain ⟨hsign, w, hw, rfl⟩ := unsigned_of_readUnsigned h
    exact ⟨_, ⟨w, hw, rfl⟩, by simp [hsign]⟩

theorem readNumeral_of_spelling {m : Numeral} {w rest : List Char} (h : m.Spelling w)
    (hrest : TokenEnds rest) : readNumeral (w ++ rest) = .ok (m, rest) := by
  obtain ⟨v, hv, rfl⟩ := h
  have hread := readUnsigned_of_unsigned hv hrest
  cases hsign : m.negative with
  | true =>
    rw [hsign] at hread
    exact hread
  | false =>
    rw [hsign] at hread
    obtain ⟨d, left, rfl, hd⟩ := hv.start
    rw [if_neg Bool.false_ne_true, List.cons_append, readNumeral]
    · exact hread
    · intro left' heq
      rw [(List.cons.inj heq).1] at hd
      exact absurd hd (by decide)

theorem Numeral.value_eq_ok {m : Numeral} {n : Number} {rest : List Char} (rest' : List Char)
    (h : m.value rest = .ok n) : m.value rest' = .ok n := by
  have scaled {power : Int} (h : m.scaled power rest = .ok n) : m.scaled power rest' = .ok n := by
    unfold Numeral.scaled at *
    split at h
    · exact h
    · cases h
  unfold value at *
  split at h
  · split at h
    · rwa [if_pos ‹_›]
    · rw [if_neg ‹_›]
      exact scaled h
  · split at h
    · exact scaled h
    · split at h
      · rwa [if_pos ‹_›]
      · cases h

theorem NumberSpelling.start {n : Number} {w : List Char} (h : NumberSpelling n w) :
    ∃ c left, w = c :: left ∧ (c = '-' ∨ c.isDigit = true) := by
  obtain ⟨m, ⟨v, hv, rfl⟩, -⟩ := h
  cases m.negative with
  | true => exact ⟨'-', v, rfl, .inl rfl⟩
  | false =>
    obtain ⟨d, left, rfl, hd⟩ := hv.start
    exact ⟨d, left, rfl, .inr hd⟩

theorem spelling_of_readNumber {cs rest : List Char} {n : Number}
    (h : readNumber cs = .ok (n, rest)) : ∃ w, NumberSpelling n w ∧ cs = w ++ rest := by
  obtain ⟨⟨m, left⟩, hm, h⟩ := Except.bind_eq_ok_iff.1 h
  obtain ⟨n', hn, h⟩ := Except.bind_eq_ok_iff.1 h
  cases h
  obtain ⟨w, hw, rfl⟩ := spelling_of_readNumeral hm
  exact ⟨w, ⟨m, hw, Numeral.value_eq_ok [] hn⟩, rfl⟩

theorem readNumber_of_spelling {n : Number} {w rest : List Char} (h : NumberSpelling n w)
    (hrest : TokenEnds rest) : readNumber (w ++ rest) = .ok (n, rest) := by
  obtain ⟨m, hm, hn⟩ := h
  have hread := readNumeral_of_spelling hm hrest
  have hvalue := Numeral.value_eq_ok rest hn
  simp only [readNumber, hread, hvalue, bind, Except.bind, pure, Except.pure]

end Conditions.Json
