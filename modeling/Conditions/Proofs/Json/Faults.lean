import Conditions.Json.Reader.Typed
import Conditions.Proofs.Json.Arrays
import Conditions.Proofs.Json.Loops
import Conditions.Proofs.Json.Numerals

set_option autoImplicit false

/-!
# Where faults lie

A step of a reader leaves an end of what it was given, and a fault of it lies inside that, at the very
end if the input was too short. `Stays` says so of one step, and so it holds of steps in a row. A fault
of a reader is therefore at a place of the text, however deep in a value it was found.
-/
namespace Conditions.Json

open Text (byteCount)

variable {α β : Type} {cs ds rest : List Char}

theorem byteCount_le_of_suffix (h : cs <:+ ds) : byteCount cs ≤ byteCount ds := by
  obtain ⟨front, rfl⟩ := h
  rw [Text.byteCount_append]
  omega

/-- The faulty place is one of `cs`, and only its end if the input was too short. -/
structure Fault.Within (f : Fault) (cs : List Char) : Prop where
  rest : f.rest <:+ cs
  past : f.past ≤ byteCount f.rest
  eof : f.cause.category = .eof → f.rest = []

namespace Fault.Within

theorem of_suffix {f : Fault} (h : f.Within cs) (hcs : cs <:+ ds) : f.Within ds :=
  ⟨h.rest.trans hcs, h.past, h.eof⟩

theorem atEnd (cause : Cause) (cs : List Char) : (Fault.before cause []).Within cs :=
  ⟨List.nil_suffix, Nat.le_refl 0, fun _ => rfl⟩

theorem before {cause : Cause} (h : rest <:+ cs) (hcause : decide (cause.category = .eof) = false) :
    (Fault.before cause rest).Within cs :=
  ⟨h, Nat.zero_le _, fun heof => absurd heof (of_decide_eq_false hcause)⟩

theorem next {cause : Cause} (h : rest <:+ cs) (hcause : decide (cause.category = .eof) = false) :
    (Fault.next cause rest).Within cs :=
  ⟨h, Nat.min_le_right _ _, fun heof => absurd heof (of_decide_eq_false hcause)⟩

theorem index_le {f : Fault} (h : f.Within cs) : f.index cs ≤ byteCount cs := by
  have hrest := byteCount_le_of_suffix h.rest
  have hpast := h.past
  rw [Fault.index]
  omega

theorem index_eq_of_eof {f : Fault} (h : f.Within cs) (heof : f.cause.category = .eof) :
    f.index cs = byteCount cs := by
  have hpast := h.past
  rw [h.eof heof, Text.byteCount_nil] at hpast
  rw [Fault.index, h.eof heof, Text.byteCount_nil]
  omega

end Fault.Within

/-- What a step on `cs` gives: it leaves an end of `cs`, or its fault lies there. -/
inductive Stays (left : α → List Char) (cs : List Char) : Except Fault α → Prop
  | ok {a : α} (h : left a <:+ cs) : Stays left cs (.ok a)
  | error {f : Fault} (h : f.Within cs) : Stays left cs (.error f)

namespace Stays

variable {left : α → List Char} {left' : β → List Char} {x : Except Fault α}

theorem suffix {a : α} (h : Stays left cs x) (hx : x = .ok a) : left a <:+ cs := by
  cases h with
  | ok h =>
    cases hx
    exact h
  | error h => cases hx

theorem within {f : Fault} (h : Stays left cs x) (hx : x = .error f) : f.Within cs := by
  cases h with
  | ok h => cases hx
  | error h =>
    cases hx
    exact h

theorem of_suffix (h : Stays left cs x) (hcs : cs <:+ ds) : Stays left ds x := by
  cases h with
  | ok h => exact .ok (h.trans hcs)
  | error h => exact .error (h.of_suffix hcs)

theorem map {g : α → β} (h : Stays left cs x) (hg : ∀ a, left' (g a) = left a) :
    Stays left' cs (x.map g) := by
  cases h with
  | ok h => exact .ok ((hg _).symm ▸ h)
  | error h => exact .error h

theorem bind {k : α → Except Fault β} (h : Stays left cs x) (hk : ∀ a, Stays left' (left a) (k a)) :
    Stays left' cs (x >>= k) := by
  cases h with
  | ok h => exact (hk _).of_suffix h
  | error h => exact .error h

end Stays

theorem skipBlank_suffix (cs : List Char) : skipBlank cs <:+ cs :=
  List.dropWhile_suffix isBlank

theorem suffix_of_skipBlank {c : Char} {inner : List Char} (h : skipBlank cs = c :: inner) :
    inner <:+ cs :=
  (List.suffix_cons c inner).trans (h ▸ skipBlank_suffix cs)

theorem readLetters_stays (ws cs : List Char) : Stays id cs (readLetters ws cs) := by
  fun_induction readLetters ws cs with
  | case1 cs => exact .ok (List.suffix_refl cs)
  | case2 => exact .error (.atEnd _ _)
  | case3 ws c cs ih => exact ih.of_suffix (List.suffix_cons c cs)
  | case4 => exact .error (.next (List.suffix_refl _) rfl)

/-! ## Strings -/

theorem readQuad_stays (cs : List Char) : Stays Prod.snd cs (readQuad cs) := by
  have four (h : ¬ byteCount (cs.take 4) < 4) : Fault.Within ⟨.invalidEscape, cs, 4⟩ cs := by
    have htake := Text.byteCount_append (cs.take 4) (cs.drop 4)
    rw [List.take_append_drop] at htake
    refine ⟨List.suffix_refl cs, ?_, fun heof => absurd heof (of_decide_eq_false rfl)⟩
    simp only
    omega
  unfold readQuad
  split
  · exact .error (.atEnd _ _)
  · rename_i henough
    split
    · split
      · exact .ok ⟨[_, _, _, _], rfl⟩
      · exact .error (four henough)
    · exact .error (four henough)

theorem readLowSurrogate_stays (high : Nat) (cs : List Char) :
    Stays Prod.snd cs (readLowSurrogate high cs) := by
  unfold readLowSurrogate
  split
  · exact .error (.atEnd _ _)
  · exact .error (.atEnd _ _)
  · rename_i ds
    have hquad := (readQuad_stays ds).of_suffix (List.suffix_append ['\\', 'u'] ds)
    split
    · rename_i hq
      exact .error (hquad.within hq)
    · rename_i hq
      split
      · exact .ok (hquad.suffix hq)
      · exact .error (.before (hquad.suffix hq) rfl)
  · exact .error (.next (List.suffix_cons _ _) rfl)
  · exact .error (.next (List.suffix_refl _) rfl)

theorem readEscape_stays (cs : List Char) : Stays Prod.snd cs (readEscape cs) := by
  unfold readEscape
  split
  case h_1 => exact .error (.atEnd _ _)
  case h_10 ds =>
    have hquad := (readQuad_stays ds).of_suffix (List.suffix_cons 'u' ds)
    split
    · rename_i hq
      exact .error (hquad.within hq)
    · rename_i hq
      split
      · exact .error (.before (hquad.suffix hq) rfl)
      · split
        · exact (readLowSurrogate_stays _ _).of_suffix (hquad.suffix hq)
        · exact .ok (hquad.suffix hq)
  case h_11 => exact .error (.next (List.suffix_refl _) rfl)
  all_goals exact .ok (List.suffix_cons _ _)

theorem readString_stays (cs : List Char) : Stays Prod.snd cs (readString cs) := by
  fun_induction readString cs with
  | case1 => exact .error (.atEnd _ _)
  | case2 ds => exact .ok (List.suffix_cons _ ds)
  | case3 ds f hf =>
    exact .error (((readEscape_stays ds).within hf).of_suffix (List.suffix_cons _ ds))
  | case4 ds c mid hc _ f hf ih =>
    have hmid := ((readEscape_stays ds).suffix hc).trans (List.suffix_cons '\\' ds)
    exact .error ((ih.within hf).of_suffix hmid)
  | case5 ds c mid hc _ s left hs ih =>
    have hmid := ((readEscape_stays ds).suffix hc).trans (List.suffix_cons '\\' ds)
    exact .ok ((ih.suffix hs).trans hmid)
  | case6 => exact .error (.next (List.suffix_refl _) rfl)
  | case7 c ds _ _ _ f hf ih => exact .error ((ih.within hf).of_suffix (List.suffix_cons c ds))
  | case8 c ds _ _ _ s left hs ih => exact .ok ((ih.suffix hs).trans (List.suffix_cons c ds))

/-! ## Numbers -/

theorem readWhole_stays (cs : List Char) : Stays Prod.snd cs (readWhole cs) := by
  unfold readWhole
  split
  · exact .error (.atEnd _ _)
  · split
    · split
      · exact .error (.next (List.suffix_cons _ _) rfl)
      · exact .ok (List.suffix_cons _ _)
    · exact .ok (List.suffix_cons _ _)
  · rename_i d ds _
    split
    · exact .ok ((List.dropWhile_suffix _).trans (List.suffix_cons d ds))
    · exact .error (.next (List.suffix_refl _) rfl)

theorem readPlaces_stays (cs : List Char) : Stays Prod.snd cs (readPlaces cs) := by
  unfold readPlaces
  split
  · split
    · exact .error (.atEnd _ _)
    · split
      · exact .ok ((List.dropWhile_suffix _).trans (List.suffix_cons _ _))
      · exact .error (.next (List.suffix_cons _ _) rfl)
  · exact .ok (List.suffix_refl _)

theorem readSign_suffix (cs : List Char) : (readSign cs).2 <:+ cs := by
  obtain ⟨sign, -, hcs⟩ := sign_of_readSign cs
  exact ⟨sign, hcs.symm⟩

theorem readExponent_stays (cs : List Char) : Stays Prod.snd cs (readExponent cs) := by
  unfold readExponent
  split
  · rename_i c ds
    split
    · have hsign := (readSign_suffix ds).trans (List.suffix_cons c ds)
      generalize readSign ds = signed at hsign
      obtain ⟨negative, digits⟩ := signed
      simp only at hsign ⊢
      split
      · exact .error (.atEnd _ _)
      · split
        · exact .ok ((List.dropWhile_suffix _).trans hsign)
        · exact .error (.next hsign rfl)
    · exact .ok (List.suffix_refl _)
  · exact .ok (List.suffix_refl _)

theorem readUnsigned_stays (negative : Bool) (cs : List Char) :
    Stays Prod.snd cs (readUnsigned negative cs) := by
  refine (readWhole_stays cs).bind fun p => ?_
  refine (readPlaces_stays p.2).bind fun q => ?_
  exact (readExponent_stays q.2).bind fun _ => .ok (List.suffix_refl _)

theorem readNumeral_stays (cs : List Char) : Stays Prod.snd cs (readNumeral cs) := by
  unfold readNumeral
  split
  · exact (readUnsigned_stays true _).of_suffix (List.suffix_cons _ _)
  · exact readUnsigned_stays false cs

theorem gather_suffix (bound n : Nat) (ds : List Char) : (gather bound n ds).2 <:+ ds := by
  fun_induction gather bound n ds with
  | case1 => exact List.suffix_refl _
  | case2 n d ds _ ih => exact ih.trans (List.suffix_cons d ds)
  | case3 => exact List.suffix_refl _

theorem Numeral.Spelling.exponent_suffix {m : Numeral} {w : List Char} (h : m.Spelling w)
    {e : Exponent} (he : m.exponent = some e) : e.digits <:+ w := by
  obtain ⟨v, ⟨-, places, exponent, -, hexponent, rfl⟩, rfl⟩ := h
  rw [he] at hexponent
  cases hexponent with
  | @power mark sign _ _ _ _ =>
    have hlast : e.digits <:+ m.whole ++ (places ++ mark :: (sign ++ e.digits)) :=
      ⟨m.whole ++ (places ++ mark :: sign), by simp⟩
    split
    · exact hlast.trans (List.suffix_cons _ _)
    · exact hlast

theorem Numeral.Spelling.within_of_value {m : Numeral} {w : List Char} (h : m.Spelling w) {f : Fault}
    (hf : m.value rest = .error f) : f.Within (w ++ rest) := by
  have behind : (Fault.before .numberOutOfRange rest).Within (w ++ rest) :=
    .before (List.suffix_append w rest) rfl
  have scaled {power : Int} (hf : m.scaled power rest = .error f) : f.Within (w ++ rest) := by
    unfold Numeral.scaled at hf
    split at hf
    · cases hf
    · cases hf
      exact behind
  unfold Numeral.value at hf
  split at hf
  · split at hf
    · cases hf
    · exact scaled hf
  · rename_i e he
    split at hf
    · exact scaled hf
    · rename_i d after hgather
      split at hf
      · cases hf
      · cases hf
        have hafter : after <:+ w := by
          have hdigits := gather_suffix exponentBound 0 e.digits
          rw [hgather] at hdigits
          exact (List.suffix_cons d after).trans (hdigits.trans (h.exponent_suffix he))
        obtain ⟨front, rfl⟩ := hafter
        exact .before ⟨front, by rw [List.append_assoc]⟩ rfl

theorem readNumber_stays (cs : List Char) : Stays Prod.snd cs (readNumber cs) := by
  have hnumeral := readNumeral_stays cs
  unfold readNumber
  cases hm : readNumeral cs with
  | error f => exact .error (hnumeral.within hm)
  | ok p =>
    obtain ⟨m, rest⟩ := p
    obtain ⟨w, hw, hcs⟩ := spelling_of_readNumeral hm
    change Stays Prod.snd cs (m.value rest >>= _)
    cases hvalue : m.value rest with
    | error f => exact .error (hcs ▸ hw.within_of_value hvalue)
    | ok n => exact .ok (hnumeral.suffix hm)

/-! ## Values -/

theorem readScalar_stays (cs : List Char) : Stays Prod.snd cs (readScalar cs) := by
  have letters {c : Char} {ws ds : List Char} {v : Json} :
      Stays Prod.snd (c :: ds) ((readLetters ws ds).map fun rest => (v, rest)) :=
    .of_suffix (.map (readLetters_stays ws ds) fun _ => rfl) (List.suffix_cons c ds)
  unfold readScalar
  split
  · exact .error (.atEnd _ _)
  · exact letters
  · exact letters
  · exact letters
  · exact .of_suffix (.map (readString_stays _) fun _ => rfl) (List.suffix_cons _ _)
  · split
    · exact (readNumber_stays _).map fun _ => rfl
    · exact .error (.next (List.suffix_refl _) rfl)

theorem nextItem_stays (first : Bool) (cs : List Char) :
    Stays Next.rest cs (nextItem first cs) := by
  have hcs := skipBlank_suffix cs
  unfold nextItem
  split
  · exact .error (.atEnd _ _)
  · rename_i heq
    exact .ok (suffix_of_skipBlank heq)
  · rename_i c inner _ heq
    have hinner := (skipBlank_suffix inner).trans (suffix_of_skipBlank heq)
    rw [heq] at hcs
    split
    · exact .ok hcs
    · split
      · split
        · exact .error (.atEnd _ _)
        · rename_i heq'
          exact .error (.next (heq' ▸ hinner) rfl)
        · exact .ok hinner
      · exact .error (.next hcs rfl)

theorem readColon_stays (cs : List Char) : Stays id cs (readColon cs) := by
  unfold readColon
  split
  · exact .error (.atEnd _ _)
  · rename_i heq
    exact .ok (suffix_of_skipBlank heq)
  · exact .error (.next (skipBlank_suffix cs) rfl)

theorem readKey_stays (cs : List Char) : Stays Next.rest cs (readKey cs) := by
  unfold readKey
  split
  · rename_i ds
    have hstring := (readString_stays ds).of_suffix (List.suffix_cons '"' ds)
    split
    · rename_i hs
      exact .error (hstring.within hs)
    · rename_i mid hs
      have hcolon := (readColon_stays mid).of_suffix (hstring.suffix hs)
      split
      · rename_i hc
        exact .error (hcolon.within hc)
      · rename_i hc
        exact .ok (hcolon.suffix hc)
  · exact .error (.next (List.suffix_refl _) rfl)

theorem nextMember_stays (first : Bool) (cs : List Char) :
    Stays Next.rest cs (nextMember first cs) := by
  have hcs := skipBlank_suffix cs
  unfold nextMember
  split
  · exact .error (.atEnd _ _)
  · rename_i heq
    exact .ok (suffix_of_skipBlank heq)
  · rename_i c inner _ heq
    have hinner := (skipBlank_suffix inner).trans (suffix_of_skipBlank heq)
    rw [heq] at hcs
    split
    · exact (readKey_stays _).of_suffix hcs
    · split
      · split
        · exact .error (.atEnd _ _)
        · rename_i heq'
          exact .error (.next (heq' ▸ hinner) rfl)
        · exact (readKey_stays _).of_suffix hinner
      · exact .error (.next hcs rfl)

theorem Loops.stays {κ : Type} {next : Bool → List Char → Except Fault (Next κ)} {read : Reader α}
    {pair : κ → α → β} {loop : Bool → Reader (List β)} (h : Loops next read pair loop)
    (hnext : ∀ first cs, Stays Next.rest cs (next first cs))
    (shorter : ∀ {cs rest a}, read cs = .ok (a, rest) → rest.length < cs.length) {n : Nat}
    (hread : ∀ cs, cs.length < n → Stays Prod.snd cs (read cs)) (first : Bool) (cs : List Char)
    (hcs : cs.length < n) : Stays Prod.snd cs (loop first cs) := by
  -- On a bound of the length, since a part is shorter than what it stands in.
  induction n generalizing first cs with
  | zero => omega
  | succ n ih =>
    cases hn : next first cs with
    | error f =>
      rw [h.of_fault hn]
      exact .error ((hnext first cs).within hn)
    | ok p =>
      have hleft := (hnext first cs).suffix hn
      cases p with
      | close rest =>
        rw [h.of_close hn]
        exact .ok hleft
      | item k inner =>
        have hinner : inner.length < n + 1 := Nat.lt_of_le_of_lt hleft.length_le hcs
        have hpart := (hread inner hinner).of_suffix hleft
        cases hr : read inner with
        | error f =>
          rw [h.of_item_fault hn hr]
          exact .error (hpart.within hr)
        | ok q =>
          obtain ⟨a, mid⟩ := q
          have hmid : mid.length < n := Nat.lt_of_lt_of_le (shorter hr) (Nat.lt_succ_iff.1 hinner)
          have later := ih (fun ds hds => hread ds (Nat.lt_succ_of_lt hds)) false mid hmid
          rw [h.of_item hn hr]
          exact .of_suffix (.map later fun _ => rfl) (hpart.suffix hr)

theorem readValue_stays (cs : List Char) : Stays Prod.snd cs (readValue cs) := by
  induction hn : cs.length using Nat.strong_induction_on generalizing cs with
  | _ n ih =>
    have hread (ds : List Char) (hds : ds.length < n) : Stays Prod.snd ds (readValue ds) :=
      ih _ hds ds rfl
    have inside {c : Char} {inner : List Char} (heq : skipBlank cs = c :: inner) :
        inner.length < n := by
      have hlength := length_skipBlank cs
      rw [heq, List.length_cons] at hlength
      omega
    rw [readValue_eq]
    split
    · rename_i inner heq
      have items := readItems_loops.stays nextItem_stays length_readValue hread true inner
        (inside heq)
      exact .of_suffix (.map items fun _ => rfl) (suffix_of_skipBlank heq)
    · rename_i inner heq
      have members := readMembers_loops.stays nextMember_stays length_readValue hread true inner
        (inside heq)
      exact .of_suffix (.map members fun _ => rfl) (suffix_of_skipBlank heq)
    · exact (readScalar_stays _).of_suffix (skipBlank_suffix cs)

/-! ## Readers of one type -/

theorem mismatch_within (expected : Expected) (cs : List Char) : (mismatch expected cs).Within cs := by
  have hscalar := readScalar_stays cs
  unfold mismatch
  split
  · exact .before (List.suffix_refl _) rfl
  · exact .before (List.suffix_refl _) rfl
  · split
    · rename_i hs
      exact hscalar.within hs
    · rename_i hs
      exact .before (hscalar.suffix hs) rfl

theorem readBoolean_stays (cs : List Char) : Stays Prod.snd cs (readBoolean cs) := by
  unfold readBoolean
  split
  · rename_i heq
    exact .of_suffix (.map (readLetters_stays _ _) fun _ => rfl) (suffix_of_skipBlank heq)
  · rename_i heq
    exact .of_suffix (.map (readLetters_stays _ _) fun _ => rfl) (suffix_of_skipBlank heq)
  · exact .error ((mismatch_within .boolean _).of_suffix (skipBlank_suffix cs))

theorem readOptionalString_stays (cs : List Char) : Stays Prod.snd cs (readOptionalString cs) := by
  unfold readOptionalString
  split
  · rename_i heq
    exact .of_suffix (.map (readLetters_stays _ _) fun _ => rfl) (suffix_of_skipBlank heq)
  · rename_i heq
    exact .of_suffix (.map (readString_stays _) fun _ => rfl) (suffix_of_skipBlank heq)
  · exact .error ((mismatch_within .string _).of_suffix (skipBlank_suffix cs))

theorem within_of_readEnd {f : Fault} (h : readEnd cs = .error f) : f.Within cs := by
  obtain ⟨c, left, heq, rfl⟩ := readEnd_eq_error_iff.1 h
  exact .next (heq ▸ skipBlank_suffix cs) rfl

end Conditions.Json
