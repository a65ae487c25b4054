import Conditions.Proofs.Json.Loops
import Conditions.Proofs.Json.Objects

set_option autoImplicit false

/-!
# Texts that are cut off

On the front of a text that a step succeeds on, it does the same if the front holds all it reads, and
else it misses the rest (`Truncated`). Of the tokens only a numeral may be read from a part of it, so
values are looked at one by one.
-/
namespace Conditions.Json

variable {α β : Type}

def EndsEarly (x : Except Fault α) : Prop :=
  ∃ f, x = .error f ∧ f.cause.category = .eof

/-- What a step gives on the front of a text if it gives `a` on the whole, where `regain` puts what was
cut off behind what is left. -/
def Truncated (regain : α → α) (a : α) (x : Except Fault α) : Prop :=
  EndsEarly x ∨ ∃ a', x = .ok a' ∧ regain a' = a

def leaving (r : List Char) (p : α × List Char) : α × List Char :=
  (p.1, p.2 ++ r)

def Next.leaving (r : List Char) : Next α → Next α
  | .item head rest => .item head (rest ++ r)
  | .close rest => .close (rest ++ r)

def Reader.Truncates (read : Reader α) (a : α) : Prop :=
  ∀ p r rest, read (p ++ r) = .ok (a, rest) → Truncated (leaving r) (a, rest) (read p)

theorem endsEarly_error {f : Fault} (h : f.cause.category = .eof) :
    EndsEarly (.error f : Except Fault α) :=
  ⟨f, rfl, h⟩

theorem EndsEarly.map {x : Except Fault α} (h : EndsEarly x) (g : α → β) : EndsEarly (x.map g) := by
  obtain ⟨f, rfl, heof⟩ := h
  exact endsEarly_error heof

theorem Truncated.map {regain : α → α} {regain' : β → β} {a : α} {x : Except Fault α}
    (h : Truncated regain a x) {g : α → β} (hg : ∀ a, regain' (g a) = g (regain a)) :
    Truncated regain' (g a) (x.map g) := by
  rcases h with early | ⟨a', rfl, rfl⟩
  · exact .inl (early.map g)
  · exact .inr ⟨g a', rfl, hg a'⟩

variable {p r rest : List Char}

theorem skipBlank_truncated {c : Char} (h : skipBlank (p ++ r) = c :: rest) :
    skipBlank p = [] ∨ ∃ left, skipBlank p = c :: left ∧ left ++ r = rest := by
  rw [skipBlank, List.dropWhile_append] at h
  split at h
  · rename_i hempty
    exact .inl (List.isEmpty_iff.1 hempty)
  · rename_i hne
    rw [List.isEmpty_iff] at hne
    obtain ⟨d, left, hp⟩ := List.exists_cons_of_ne_nil hne
    rw [hp] at h
    obtain ⟨rfl, rfl⟩ := List.cons.inj h
    exact .inr ⟨left, hp, rfl⟩

theorem readLetters_truncated {ws : List Char} (h : readLetters ws (p ++ r) = .ok rest) :
    Truncated (· ++ r) rest (readLetters ws p) := by
  fun_induction readLetters ws p with
  | case1 p =>
    cases h
    exact .inr ⟨p, rfl, rfl⟩
  | case2 => exact .inl (endsEarly_error rfl)
  | case3 ws c cs ih =>
    rw [List.cons_append, readLetters, if_pos rfl] at h
    exact ih h
  | case4 w ws c cs hne =>
    rw [List.cons_append, readLetters, if_neg hne] at h
    cases h

theorem map_readLetters_truncated {ws : List Char} {a b : α}
    (h : (readLetters ws (p ++ r)).map (fun left => (a, left)) = .ok (b, rest)) :
    Truncated (leaving r) (b, rest) ((readLetters ws p).map fun left => (a, left)) := by
  obtain ⟨left, hleft, heq⟩ := Except.map_eq_ok_iff.1 h
  cases heq
  exact (readLetters_truncated hleft).map fun _ => rfl

/-! ## Strings -/

theorem IsHexDigit.utf8Size {d : Char} {n : Nat} (h : IsHexDigit d n) : d.utf8Size = 1 := by
  -- The digits are gone through one by one, not the characters.
  have lower : "0123456789abcdef".toList.all (·.utf8Size = 1) = true := by decide
  have upper : "0123456789ABCDEF".toList.all (·.utf8Size = 1) = true := by decide
  rw [List.all_eq_true] at lower upper
  rcases h with h | h
  · exact of_decide_eq_true (lower d (List.mem_of_getElem? h))
  · exact of_decide_eq_true (upper d (List.mem_of_getElem? h))

theorem endsEarly_readQuad {n : Nat} {missing : List Char} (h : IsHexQuad n (p ++ missing))
    (hmissing : missing ≠ []) : EndsEarly (readQuad p) := by
  obtain ⟨a, b, c, d, x, y, z, w, heq, ha, hb, hc, -, -⟩ := h
  have few : Text.byteCount (p.take 4) < 4 := by
    rcases p with _ | ⟨a', _ | ⟨b', _ | ⟨c', _ | ⟨d', p⟩⟩⟩⟩
    · simp
    · simp_all [ha.utf8Size]
    · simp_all [ha.utf8Size, hb.utf8Size]
    · simp_all [ha.utf8Size, hb.utf8Size, hc.utf8Size]
    · simp_all
  unfold readQuad
  rw [if_pos few]
  exact endsEarly_error rfl

theorem readQuad_truncated {n : Nat} (h : readQuad (p ++ r) = .ok (n, rest)) :
    Truncated (leaving r) (n, rest) (readQuad p) := by
  obtain ⟨ds, hds, happend⟩ := readQuad_eq_ok_iff.1 h
  rcases List.append_eq_append_iff.1 happend with ⟨missing, rfl, rfl⟩ | ⟨left, rfl, rfl⟩
  · by_cases hmissing : missing = []
    · subst hmissing
      exact .inr ⟨(n, []), readQuad_eq_ok_iff.2 ⟨_, hds, by simp⟩, rfl⟩
    · exact .inl (endsEarly_readQuad hds hmissing)
  · exact .inr ⟨(n, left), readQuad_eq_ok_iff.2 ⟨ds, hds, rfl⟩, rfl⟩

theorem readLowSurrogate_truncated {high : Nat} {c : Char}
    (h : readLowSurrogate high (p ++ r) = .ok (c, rest)) :
    Truncated (leaving r) (c, rest) (readLowSurrogate high p) := by
  obtain ⟨low, ls, hls, hlow, hjoin, happend⟩ := readLowSurrogate_eq_ok_iff.1 h
  rcases p with _ | ⟨b, _ | ⟨u, ds⟩⟩
  · exact .inl (endsEarly_error rfl)
  · obtain ⟨rfl, -⟩ := List.cons.inj happend
    exact .inl (endsEarly_error rfl)
  · simp only [List.cons_append, List.cons.injEq] at happend
    obtain ⟨rfl, rfl, happend⟩ := happend
    rcases readQuad_truncated (readQuad_eq_ok_iff.2 ⟨ls, hls, happend⟩) with
      ⟨f, hf, heof⟩ | ⟨⟨_, left⟩, hquad, heq⟩
    · rw [readLowSurrogate, hf]
      exact .inl (endsEarly_error heof)
    · cases heq
      refine .inr ⟨(c, left), ?_, rfl⟩
      simp only [readLowSurrogate, hquad, hlow, if_true, hjoin]

theorem readEscape_truncated {c : Char} (h : readEscape (p ++ r) = .ok (c, rest)) :
    Truncated (leaving r) (c, rest) (readEscape p) := by
  cases p with
  | nil => exact .inl (endsEarly_error rfl)
  | cons e p =>
    by_cases he : e = 'u'
    · subst he
      obtain ⟨n, ds, mid, hds, happend, hlow, hchar⟩ := readEscape_unit.1 h
      rcases readQuad_truncated (readQuad_eq_ok_iff.2 ⟨ds, hds, happend⟩) with
        ⟨f, hf, heof⟩ | ⟨⟨n, left⟩, hquad, heq⟩
      · rw [readEscape, hf]
        exact .inl (endsEarly_error heof)
      · cases heq
        rcases hchar with ⟨hhigh, hsecond⟩ | ⟨hhigh, rfl, rfl⟩
        · simp only [readEscape, hquad, hlow, hhigh, if_true, Bool.false_eq_true, if_false]
          exact readLowSurrogate_truncated hsecond
        · refine .inr ⟨(Char.ofNat n, left), ?_, rfl⟩
          simp only [readEscape, hquad, hlow, hhigh, Bool.false_eq_true, if_false]
    · obtain ⟨hmem, rfl⟩ := mem_shortEscapes_of_readEscape he h
      exact .inr ⟨(c, p), readEscape_short hmem p, rfl⟩

theorem endsEarly_readString_of_escape (h : EndsEarly (readEscape p)) :
    EndsEarly (readString ('\\' :: p)) := by
  obtain ⟨f, hf, heof⟩ := h
  rw [readString]
  split
  · rename_i hf'
    cases hf.symm.trans hf'
    exact endsEarly_error heof
  · rename_i hc
    cases hf.symm.trans hc

theorem endsEarly_readString {c : Char} {missing : List Char} (h : CharSpelling c (p ++ missing))
    (hmissing : missing ≠ []) : EndsEarly (readString p) := by
  cases p with
  | nil =>
    rw [readString]
    exact endsEarly_error rfl
  | cons d p =>
    rw [List.cons_append] at h
    generalize hw : p ++ missing = w at h
    cases h with
    | raw => exact absurd (List.append_eq_nil_iff.1 hw).2 hmissing
    | escaped h =>
      apply endsEarly_readString_of_escape
      have whole : readEscape (p ++ missing) = .ok (c, []) :=
        readEscape_eq_ok_iff.2 ⟨w, h, by rw [hw, List.append_nil]⟩
      rcases readEscape_truncated whole with early | ⟨⟨_, left⟩, -, heq⟩
      · exact early
      · have hnil : left ++ missing = [] := congrArg Prod.snd heq
        exact absurd (List.append_eq_nil_iff.1 hnil).2 hmissing

theorem truncated_of_bodySpelling {s body : List Char} (h : BodySpelling s body)
    (happend : p ++ r = body ++ '"' :: rest) : Truncated (leaving r) (s, rest) (readString p) := by
  induction h generalizing p with
  | nil =>
    cases p with
    | nil =>
      rw [readString]
      exact .inl (endsEarly_error rfl)
    | cons c p =>
      obtain ⟨rfl, rfl⟩ := List.cons.inj happend
      exact .inr ⟨([], p), readString_quote p, rfl⟩
  | @cons c s w body head tail ih =>
    rw [List.append_assoc] at happend
    -- The text is cut off inside the first character, or behind it.
    rcases List.append_eq_append_iff.1 happend with ⟨missing, rfl, hr⟩ | ⟨left, rfl, hleft⟩
    · by_cases hmissing : missing = []
      · subst hmissing
        rw [List.append_nil] at head
        have later := ih (p := []) hr
        rw [← List.append_nil p, readString_spelling head]
        exact later.map fun _ => rfl
      · exact .inl (endsEarly_readString head hmissing)
    · rw [readString_spelling head]
      exact (ih hleft.symm).map fun _ => rfl

theorem readString_truncated {s : List Char} (h : readString (p ++ r) = .ok (s, rest)) :
    Truncated (leaving r) (s, rest) (readString p) := by
  obtain ⟨body, hbody, happend⟩ := bodySpelling_of_readString h
  exact truncated_of_bodySpelling hbody happend

/-! ## Items and members -/

theorem nextItem_truncated {first : Bool} {n : Next Unit} (h : nextItem first (p ++ r) = .ok n) :
    Truncated (Next.leaving r) n (nextItem first p) := by
  have early (hp : skipBlank p = []) : EndsEarly (nextItem first p) := by
    rw [nextItem, hp]
    exact endsEarly_error rfl
  cases n with
  | close rest =>
    rw [nextItem_eq_close_iff, ← skipBlank_eq_cons_iff (by decide)] at h
    rcases skipBlank_truncated h with hp | ⟨left, hp, rfl⟩
    · exact .inl (early hp)
    · refine .inr ⟨.close left, ?_, rfl⟩
      rw [nextItem_eq_close_iff, ← skipBlank_eq_cons_iff (by decide)]
      exact hp
  | item _ rest =>
    cases first with
    | true =>
      obtain ⟨hskip, c, inner, rfl, hc⟩ := nextItem_first_iff.1 h
      rcases skipBlank_truncated hskip with hp | ⟨left, hp, rfl⟩
      · exact .inl (early hp)
      · exact .inr ⟨.item () (c :: left), nextItem_first_iff.2 ⟨hp, c, left, rfl, hc⟩, rfl⟩
    | false =>
      obtain ⟨inner, hcomma, hskip, c, mid, rfl, hc⟩ := nextItem_later_iff.1 h
      rcases skipBlank_truncated hcomma with hp | ⟨inner', hp, rfl⟩
      · exact .inl (early hp)
      · rcases skipBlank_truncated hskip with hinner | ⟨left, hinner, rfl⟩
        · have hnext : nextItem false p = .error (.before .eofInValue []) := by
            simp [nextItem, hp, hinner]
          rw [hnext]
          exact .inl (endsEarly_error rfl)
        · refine .inr ⟨.item () (c :: left), ?_, rfl⟩
          exact nextItem_later_iff.2 ⟨inner', hp, hinner, c, left, rfl, hc⟩

theorem nextItem_item_truncated {first : Bool}
    (h : nextItem first (p ++ r) = .ok (.item () rest)) :
    EndsEarly (nextItem first p) ∨
      ∃ left, nextItem first p = .ok (.item () left) ∧ left ++ r = rest := by
  rcases nextItem_truncated h with early | ⟨⟨⟨⟩, left⟩ | _, hp, heq⟩
  · exact .inl early
  · cases heq
    exact .inr ⟨left, hp, rfl⟩
  · cases heq

theorem readColon_truncated (h : readColon (p ++ r) = .ok rest) :
    Truncated (· ++ r) rest (readColon p) := by
  rw [readColon_eq_ok_iff, ← skipBlank_eq_cons_iff (by decide)] at h
  rcases skipBlank_truncated h with hp | ⟨left, hp, rfl⟩
  · rw [readColon, hp]
    exact .inl (endsEarly_error rfl)
  · refine .inr ⟨left, ?_, rfl⟩
    rw [readColon_eq_ok_iff, ← skipBlank_eq_cons_iff (by decide)]
    exact hp

theorem readKey_truncated {n : Next String} (h : readKey ('"' :: (p ++ r)) = .ok n) :
    Truncated (Next.leaving r) n (readKey ('"' :: p)) := by
  simp only [readKey] at h ⊢
  split at h
  · cases h
  · rename_i key mid hs
    rcases readString_truncated hs with ⟨f, hf, heof⟩ | ⟨⟨_, mid'⟩, hs', heq⟩
    · rw [hf]
      exact .inl (endsEarly_error heof)
    · cases heq
      simp only [hs']
      split at h
      · cases h
      · rename_i rest hcolon
        cases h
        rcases readColon_truncated hcolon with ⟨f, hf, heof⟩ | ⟨left, hcolon', rfl⟩
        · rw [hf]
          exact .inl (endsEarly_error heof)
        · rw [hcolon']
          exact .inr ⟨_, rfl, rfl⟩

theorem readKey_of_nextMember_first {key : String} {cs : List Char}
    (h : nextMember true cs = .ok (.item key rest)) :
    ∃ inner, skipBlank cs = '"' :: inner ∧ readKey ('"' :: inner) = .ok (.item key rest) := by
  obtain ⟨b, w, hb, hw, rfl⟩ := nextMember_first_iff.1 h
  obtain ⟨inner, hinner, hskip, hkey⟩ := hw.read rest
  exact ⟨inner, by rw [skipBlank_append hb, hinner, hskip], hkey⟩

theorem nextMember_truncated {first : Bool} {n : Next String}
    (h : nextMember first (p ++ r) = .ok n) :
    Truncated (Next.leaving r) n (nextMember first p) := by
  have early (hp : skipBlank p = []) : EndsEarly (nextMember first p) := by
    rw [nextMember, hp]
    exact endsEarly_error rfl
  cases n with
  | close rest =>
    rw [nextMember_eq_close_iff, ← skipBlank_eq_cons_iff (by decide)] at h
    rcases skipBlank_truncated h with hp | ⟨left, hp, rfl⟩
    · exact .inl (early hp)
    · refine .inr ⟨.close left, ?_, rfl⟩
      rw [nextMember_eq_close_iff, ← skipBlank_eq_cons_iff (by decide)]
      exact hp
  | item key rest =>
    cases first with
    | true =>
      obtain ⟨inner, hskip, hkey⟩ := readKey_of_nextMember_first h
      rcases skipBlank_truncated hskip with hp | ⟨left, hp, rfl⟩
      · exact .inl (early hp)
      · have hnext : nextMember true p = readKey ('"' :: left) := by
          simp [nextMember, hp]
        rw [hnext]
        exact readKey_truncated hkey
    | false =>
      obtain ⟨b, inner, hb, hcomma, hfirst⟩ := nextMember_later_iff.1 h
      obtain ⟨mid, hskip, hkey⟩ := readKey_of_nextMember_first hfirst
      have hcs := (skipBlank_eq_cons_iff (by decide)).2 ⟨b, hb, hcomma⟩
      rcases skipBlank_truncated hcs with hp | ⟨inner', hp, rfl⟩
      · exact .inl (early hp)
      · rcases skipBlank_truncated hskip with hinner | ⟨left, hinner, rfl⟩
        · have hnext : nextMember false p = .error (.before .eofInValue []) := by
            simp [nextMember, hp, hinner]
          rw [hnext]
          exact .inl (endsEarly_error rfl)
        · have hnext : nextMember false p = readKey ('"' :: left) := by
            simp [nextMember, hp, hinner]
          rw [hnext]
          exact readKey_truncated hkey

theorem Loops.truncates {κ : Type} {next : Bool → List Char → Except Fault (Next κ)}
    {read : Reader α} {pair : κ → α → β} {loop : Bool → Reader (List β)}
    (h : Loops next read pair loop)
    (hnext : ∀ {first p r n}, next first (p ++ r) = .ok n →
      Truncated (Next.leaving r) n (next first p))
    {bs : List β} (hread : ∀ k a, pair k a ∈ bs → read.Truncates a) (first : Bool) :
    (loop first).Truncates bs := by
  induction bs generalizing first with
  | nil =>
    intro p r rest hloop
    rw [h] at hloop
    split at hloop
    · cases hloop
    · rename_i hclose
      cases hloop
      rcases hnext hclose with ⟨f, hf, heof⟩ | ⟨_ | left, hclose', heq⟩
      · rw [h.of_fault hf]
        exact .inl (endsEarly_error heof)
      · cases heq
      · cases heq
        exact .inr ⟨([], left), h.of_close hclose', rfl⟩
    · split at hloop
      · cases hloop
      · obtain ⟨_, -, heq⟩ := Except.map_eq_ok_iff.1 hloop
        cases heq
  | cons b bs ih =>
    intro p r rest hloop
    rw [h] at hloop
    split at hloop
    · cases hloop
    · cases hloop
    · rename_i k inner hitem
      split at hloop
      · cases hloop
      · rename_i a mid hvalue
        obtain ⟨⟨later, left⟩, hlater, heq⟩ := Except.map_eq_ok_iff.1 hloop
        cases heq
        rcases hnext hitem with ⟨f, hf, heof⟩ | ⟨⟨_, inner'⟩ | _, hitem', heq⟩
        · rw [h.of_fault hf]
          exact .inl (endsEarly_error heof)
        · cases heq
          rcases hread k a List.mem_cons_self _ _ _ hvalue with
            ⟨f, hf, heof⟩ | ⟨⟨_, mid'⟩, hvalue', heq⟩
          · rw [h.of_item_fault hitem' hf]
            exact .inl (endsEarly_error heof)
          · cases heq
            rw [h.of_item hitem' hvalue']
            have rest := ih (fun k a hmem => hread k a (List.mem_cons_of_mem _ hmem)) false
            exact (rest _ _ _ hlater).map fun _ => rfl
        · cases heq

/-! ## Values -/

theorem readValue_truncates_null : Reader.Truncates readValue .null := by
  intro p r rest h
  rw [readValue_eq_null_iff, ← skipBlank_eq_cons_iff (by decide)] at h
  rw [readValue_eq]
  rcases skipBlank_truncated h with hp | ⟨left, hp, happend⟩
  · rw [hp]
    exact .inl (endsEarly_error rfl)
  · have letters : readLetters ['u', 'l', 'l'] (left ++ r) = .ok rest :=
      readLetters_eq_ok_iff.2 happend
    rw [hp]
    exact (readLetters_truncated letters).map fun _ => rfl

theorem readValue_truncates_string (s : String) : Reader.Truncates readValue (.string s) := by
  intro p r rest h
  obtain ⟨b, w, hb, hw, happend⟩ := readValue_eq_string_iff.1 h
  obtain ⟨inner, hinner, hs⟩ := hw.read rest
  have hskip := (skipBlank_eq_cons_iff (by decide)).2 ⟨b, hb, hinner ▸ happend⟩
  rw [readValue_eq]
  rcases skipBlank_truncated hskip with hp | ⟨left, hp, rfl⟩
  · rw [hp]
    exact .inl (endsEarly_error rfl)
  · have literal : Truncated (leaving r) (Json.string (.ofList s.toList), rest)
        ((readString left).map fun q => (Json.string (.ofList q.1), q.2)) :=
      (readString_truncated hs).map fun _ => rfl
    rw [hp]
    rwa [String.ofList_toList] at literal

theorem readValue_truncates_array {vs : List Json} (h : ∀ v ∈ vs, Reader.Truncates readValue v) :
    Reader.Truncates readValue (.array vs) := by
  intro p r rest hread
  obtain ⟨b, inner, hb, happend, hitems⟩ := readValue_eq_array_iff.1 hread
  have hskip := (skipBlank_eq_cons_iff (by decide)).2 ⟨b, hb, happend⟩
  rw [readValue_eq]
  rcases skipBlank_truncated hskip with hp | ⟨left, hp, rfl⟩
  · rw [hp]
    exact .inl (endsEarly_error rfl)
  · have items := readItems_loops.truncates nextItem_truncated (fun _ v => h v) true
    rw [hp]
    exact (items _ _ _ hitems).map fun _ => rfl

/-! ## Readers of one type -/

theorem readBoolean_truncates (b : Bool) : readBoolean.Truncates b := by
  intro p r rest h
  have early (hp : skipBlank p = []) : EndsEarly (readBoolean p) := by
    rw [readBoolean, hp]
    exact endsEarly_error rfl
  unfold readBoolean at h
  split at h
  · rename_i hskip
    rcases skipBlank_truncated hskip with hp | ⟨left, hp, rfl⟩
    · exact .inl (early hp)
    · simp only [readBoolean, hp]
      exact map_readLetters_truncated h
  · rename_i hskip
    rcases skipBlank_truncated hskip with hp | ⟨left, hp, rfl⟩
    · exact .inl (early hp)
    · simp only [readBoolean, hp]
      exact map_readLetters_truncated h
  · cases h

theorem readOptionalString_truncates (s : Option String) : readOptionalString.Truncates s := by
  intro p r rest h
  have early (hp : skipBlank p = []) : EndsEarly (readOptionalString p) := by
    rw [readOptionalString, hp]
    exact endsEarly_error rfl
  unfold readOptionalString at h
  split at h
  · rename_i hskip
    rcases skipBlank_truncated hskip with hp | ⟨left, hp, rfl⟩
    · exact .inl (early hp)
    · simp only [readOptionalString, hp]
      exact map_readLetters_truncated h
  · rename_i hskip
    obtain ⟨⟨_, _⟩, hs, heq⟩ := Except.map_eq_ok_iff.1 h
    cases heq
    rcases skipBlank_truncated hskip with hp | ⟨left, hp, rfl⟩
    · exact .inl (early hp)
    · simp only [readOptionalString, hp]
      exact (readString_truncated hs).map fun _ => rfl
  · cases h

end Conditions.Json
