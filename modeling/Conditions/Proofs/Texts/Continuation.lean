import Conditions.Proofs.CaseTable.Rendering
import Conditions.Proofs.Condition.Reading
import Conditions.Proofs.Json.Lines

set_option autoImplicit false

namespace Conditions

namespace Json

variable {α : Type} {read : Reader α} {a : α} {P : List Char → Prop} {t s : String}

/-- How a text is read to which `s` was added, if it was read as `a` before. What is no blank is told
one byte behind its start. -/
structure Continued (t s : String) (a : α) (x : Except Error α) : Prop where
  blank : Blank s.toList → x = .ok a
  surplus : ¬ Blank s.toList → ∃ e b c rest, x = .error e ∧ e.cause.category = .grammar ∧
    e.cause.text = "trailing characters" ∧ s.toList = b ++ c :: rest ∧ Blank b ∧ ¬ Blank [c] ∧
    e.position = some (.behind ((Text.bytes (t ++ s)).take
      (t.utf8ByteSize + Text.byteCount b + 1)))
  alone : ∀ a', x = .ok a' → Blank s.toList ∧ a' = a

theorem Reader.Takes.read_append (h : read.Takes a P) {cs rest : List Char}
    (hread : read cs = .ok (a, rest)) (more : List Char) :
    read (cs ++ more) = .ok (a, rest ++ more) := by
  obtain ⟨b, w, hb, hw, rfl⟩ := (h cs rest).1 hread
  exact (h _ _).2 ⟨b, w, hb, hw, by simp⟩

theorem isBlank_of_skipBlank {cs rest : List Char} {c : Char} (h : skipBlank cs = c :: rest) :
    isBlank c = false := by
  have hhead := List.head?_dropWhile_not isBlank cs
  rw [skipBlank] at h
  simpa [h] using hhead

theorem not_blank_singleton {c : Char} : ¬ Blank [c] ↔ isBlank c = false := by
  rw [← Bool.not_eq_true, isBlank_iff, Blank, List.forall_mem_singleton]

theorem locate_trailing {b rest : List Char} {c : Char} (hs : s.toList = b ++ c :: rest) :
    (Fault.next .trailingCharacters (c :: rest)).locate (t ++ s).toList =
      ⟨.trailingCharacters, some (.behind ((Text.bytes (t ++ s)).take
        (t.utf8ByteSize + Text.byteCount b + 1)))⟩ := by
  have hc := c.utf8Size_pos
  have index : (Fault.next .trailingCharacters (c :: rest)).index (t ++ s).toList =
      t.utf8ByteSize + Text.byteCount b + 1 := by
    rw [Fault.index, String.toList_append, hs, ← Text.byteCount_toList]
    simp only [Fault.next, Text.byteCount_append, Text.byteCount_cons]
    omega
  rw [Fault.locate, index, Position.ofIndex_eq]
  rfl

theorem Continued.of_readEnd {left : List Char} {x : Except Error α} (hleft : Blank left)
    (ended : readEnd (left ++ s.toList) = .ok () → x = .ok a)
    (unended : ∀ f, readEnd (left ++ s.toList) = .error f → x = .error (f.locate (t ++ s).toList)) :
    Continued t s a x := by
  have blank (hs : Blank s.toList) : x = .ok a :=
    ended (readEnd_eq_ok_iff.2 (List.forall_mem_append.2 ⟨hleft, hs⟩))
  have surplus (hs : ¬ Blank s.toList) : ∃ b c rest, s.toList = b ++ c :: rest ∧ Blank b ∧
      isBlank c = false ∧
      x = .error ((Fault.next .trailingCharacters (c :: rest)).locate (t ++ s).toList) := by
    obtain ⟨b, hb, hskip⟩ := exists_blank s.toList
    cases hrest : skipBlank s.toList with
    | nil => exact absurd (skipBlank_eq_nil_iff.1 hrest) hs
    | cons c rest =>
      have hend : skipBlank (left ++ s.toList) = c :: rest := by rw [skipBlank_append hleft, hrest]
      exact ⟨b, c, rest, hrest ▸ hskip, hb, isBlank_of_skipBlank hrest,
        unended _ (readEnd_eq_error_iff.2 ⟨c, rest, hend, rfl⟩)⟩
  refine ⟨blank, ?_, ?_⟩
  · intro hs
    obtain ⟨b, c, rest, happend, hb, hc, hx⟩ := surplus hs
    rw [locate_trailing happend] at hx
    exact ⟨_, b, c, rest, hx, rfl, rfl, happend, hb, not_blank_singleton.2 hc, rfl⟩
  · intro a' hx
    by_cases hs : Blank s.toList
    · exact ⟨hs, Except.ok.inj (hx.symm.trans (blank hs))⟩
    · obtain ⟨_, _, _, _, _, _, herror⟩ := surplus hs
      cases hx.symm.trans herror

theorem Reader.Takes.continued (h : read.Takes a P) (ht : read.ofText t = .ok a) (s : String) :
    Continued t s a (read.ofText (t ++ s)) := by
  obtain ⟨left, hread, hend⟩ := Reader.ofText_eq_ok_iff.1 ht
  have later : read (t ++ s).toList = .ok (a, left ++ s.toList) := by
    rw [String.toList_append]
    exact h.read_append hread s.toList
  apply Continued.of_readEnd (readEnd_eq_ok_iff.1 hend)
  · exact fun ended => Reader.ofText_eq_ok_iff.2 ⟨_, later, ended⟩
  · exact fun f unended => Reader.ofText_eq_error_iff.2 (.inr ⟨a, _, f, later, unended, rfl⟩)

end Json

theorem Condition.continued {t : String} {c : Condition} (ht : (ofText t).value = .ok c)
    (s : String) : Json.Continued t s c (ofText (t ++ s)).value := by
  obtain ⟨left, hread, hend⟩ := Json.ofText_eq_ok_iff.1 (ofText_eq_ok_iff.1 ht)
  have later : Json.readValue (t ++ s).toList = .ok (c.toJson, left ++ s.toList) := by
    rw [String.toList_append]
    exact (spelledBy_rendering c).read_append hread s.toList
  apply Json.Continued.of_readEnd (Json.readEnd_eq_ok_iff.1 hend)
  · exact fun ended => ofText_eq_ok_iff.2 (Json.ofText_eq_ok_iff.2 ⟨_, later, ended⟩)
  · exact fun f unended => value_ofText_of_surplus later (ofJson_toJson c) unended

/-- Behind an accepted text blanks change nothing, and everything else is refused where it starts. -/
theorem accepted_text_continued (t s : String) :
    (∀ c, (Condition.ofText t).value = .ok c →
      Json.Continued t s c (Condition.ofText (t ++ s)).value) ∧
    (∀ x, Bindings.ofText t = .ok x → Json.Continued t s x (Bindings.ofText (t ++ s))) ∧
    ∀ cases, CaseTable.ofText t = .ok cases →
      Json.Continued t s cases (CaseTable.ofText (t ++ s)) := by
  refine ⟨?_, ?_, ?_⟩
  · exact fun _ h => Condition.continued h s
  · exact fun x h => (Bindings.takes_read x).continued h s
  · exact fun cases h => (CaseTable.takes_read cases).continued h s

theorem accepted_text_continued_examples :
    (let t := "[\"==\",\nnull,\"é\"]"
      let s := "\n []"
      let c : Condition := .comparison .equal none "é"
      (Condition.ofText t).value = .ok c ∧
        Json.Continued t s c (Condition.ofText (t ++ s)).value) ∧
    (let t := "\x7b\"a\": null, \"b\": \"\"\x7d"
      let s := "\x7d"
      let x := Bindings.ofList [("b", "")]
      Bindings.ofText t = .ok x ∧ Json.Continued t s x (Bindings.ofText (t ++ s))) ∧
    let t := "[[\x7b\x7d,true]]"
    let s := " \t"
    ∃ cases, CaseTable.ofText t = .ok cases ∧
      Json.Continued t s cases (CaseTable.ofText (t ++ s)) := by
  refine ⟨?_, ?_, ?_⟩
  · intro t s c
    have accepted : (Condition.ofText t).value = .ok c := by decide +kernel
    exact ⟨accepted, (accepted_text_continued t s).1 c accepted⟩
  · intro t s x
    have accepted : Bindings.ofText t = .ok x := by decide +kernel
    exact ⟨accepted, (accepted_text_continued t s).2.1 x accepted⟩
  · intro t s
    have accepted : (CaseTable.ofText t).map (fun _ => ()) = .ok () := by decide +kernel
    obtain ⟨cases, hcases, -⟩ := Except.map_eq_ok_iff.1 accepted
    exact ⟨cases, hcases, (accepted_text_continued t s).2.2 cases hcases⟩

end Conditions
