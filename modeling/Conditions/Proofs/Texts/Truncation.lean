import Conditions.Proofs.CaseTable.Rendering
import Conditions.Proofs.Condition.Reading
import Conditions.Proofs.Json.Truncation

set_option autoImplicit false

namespace Conditions

open Json (EndsEarly Truncated)

theorem Condition.readValue_truncates (c : Condition) :
    Json.Reader.Truncates Json.readValue c.toJson := by
  induction c using operand_induction with
  | comparison r reference literal =>
    have hreference : Json.Reader.Truncates Json.readValue (reference.elim .null .string) := by
      cases reference with
      | none => exact Json.readValue_truncates_null
      | some s => exact Json.readValue_truncates_string s
    rw [toJson_comparison]
    apply Json.readValue_truncates_array
    simp only [List.forall_mem_cons]
    exact ⟨Json.readValue_truncates_string _, hreference, Json.readValue_truncates_string _,
      List.forall_mem_nil _⟩
  | logical k cs ih =>
    rw [toJson_logical]
    apply Json.readValue_truncates_array
    rw [List.forall_mem_cons, List.forall_mem_map]
    exact ⟨Json.readValue_truncates_string _, ih⟩

theorem Bindings.read_truncates (x : Bindings) : read.Truncates x := by
  intro p r rest h
  obtain ⟨inner, hskip, hread⟩ := read_eq_ok_iff.1 h
  obtain ⟨⟨es, _⟩, hmentions, heq⟩ := Except.map_eq_ok_iff.1 hread
  cases heq
  rcases Json.skipBlank_truncated hskip with hp | ⟨left, hp, rfl⟩
  · rw [read, hp]
    exact .inl (Json.endsEarly_error rfl)
  · have mentions := readMentions_loops.truncates Json.nextMember_truncated
      (fun _ s _ => Json.readOptionalString_truncates s) true _ _ _ hmentions
    rw [read, hp]
    exact mentions.map fun _ => rfl

namespace CaseTable

theorem readCaseEnd_truncated {p r rest : List Char} (h : readCaseEnd (p ++ r) = .ok rest) :
    Truncated (· ++ r) rest (readCaseEnd p) := by
  rw [readCaseEnd_eq_ok_iff, ← Json.skipBlank_eq_cons_iff (by decide)] at h
  rcases Json.skipBlank_truncated h with hp | ⟨left, hp, rfl⟩
  · rw [readCaseEnd, hp]
    exact .inl (Json.endsEarly_error rfl)
  · refine .inr ⟨left, ?_, rfl⟩
    rw [readCaseEnd_eq_ok_iff, ← Json.skipBlank_eq_cons_iff (by decide)]
    exact hp

theorem readCase_truncates (case : Case) : readCase.Truncates case := by
  intro p r rest h
  obtain ⟨_, _, _, _, _, heq, hfirst, hx, hsecond, hexpected, hend⟩ := readCase_iff_steps.1 h
  rcases Json.skipBlank_truncated heq with hp | ⟨inner, hp, rfl⟩
  · rw [readCase, hp]
    exact .inl (Json.endsEarly_error rfl)
  rcases Json.nextItem_item_truncated hfirst with ⟨f, hf, heof⟩ | ⟨first, first', rfl⟩
  · simp only [readCase, hp, hf]
    exact .inl (Json.endsEarly_error heof)
  rcases Bindings.read_truncates _ _ _ _ hx with ⟨f, hf, heof⟩ | ⟨⟨_, mid⟩, bindings', hmid⟩
  · simp only [readCase, hp, first', hf]
    exact .inl (Json.endsEarly_error heof)
  cases hmid
  rcases Json.nextItem_item_truncated hsecond with ⟨f, hf, heof⟩ | ⟨second, second', rfl⟩
  · simp only [readCase, hp, first', bindings', hf]
    exact .inl (Json.endsEarly_error heof)
  rcases Json.readBoolean_truncates _ _ _ _ hexpected with
    ⟨f, hf, heof⟩ | ⟨⟨_, mid'⟩, expected', hmid'⟩
  · simp only [readCase, hp, first', bindings', second', hf]
    exact .inl (Json.endsEarly_error heof)
  cases hmid'
  simp only [readCase, hp, first', bindings', second', expected']
  exact (readCaseEnd_truncated hend).map fun _ => rfl

theorem read_truncates (cases : List Case) : read.Truncates cases := by
  intro p r rest h
  obtain ⟨inner, hskip, hread⟩ := read_eq_ok_iff.1 h
  rcases Json.skipBlank_truncated hskip with hp | ⟨left, hp, rfl⟩
  · rw [read, hp]
    exact .inl (Json.endsEarly_error rfl)
  · rw [read, hp]
    exact readCases_loops.truncates Json.nextItem_truncated
      (fun _ case _ => readCase_truncates case) true _ _ _ hread

end CaseTable

namespace Json

/-- How a text is read that lost its end `r`, where it was read as `a` before. -/
def CutOff {α : Type} (r : String) (a : α) (x : Except Error α) : Prop :=
  (Blank r.toList ∧ x = .ok a) ∨ ∃ e, x = .error e ∧ e.cause.category = .eof

variable {α : Type} {read : Reader α} {a : α} {p r : String}

theorem Reader.Truncates.ofText_append (h : read.Truncates a) (ht : read.ofText (p ++ r) = .ok a) :
    (Blank r.toList ∧ read.ofText p = .ok a) ∨ EndsEarly (read p.toList) := by
  obtain ⟨rest, hread, hend⟩ := Reader.ofText_eq_ok_iff.1 ht
  rw [String.toList_append] at hread
  rcases h _ _ _ hread with early | ⟨⟨_, left⟩, hleft, heq⟩
  · exact .inr early
  · cases heq
    obtain ⟨hblank, hr⟩ := List.forall_mem_append.1 (readEnd_eq_ok_iff.1 hend)
    exact .inl ⟨hr, Reader.ofText_eq_ok_iff.2 ⟨left, hleft, readEnd_eq_ok_iff.2 hblank⟩⟩

theorem Reader.Truncates.cutOff (h : read.Truncates a) (ht : read.ofText (p ++ r) = .ok a) :
    CutOff r a (read.ofText p) := by
  rcases h.ofText_append ht with whole | ⟨f, hf, heof⟩
  · exact .inl whole
  · exact .inr ⟨_, Reader.ofText_eq_error_iff.2 (.inl ⟨f, hf, rfl⟩), heof⟩

end Json

/-- Wherever an accepted text is cut in two, its front is read as the same, and then only blanks were
cut off, or it ends early. -/
theorem accepted_text_cutOff (p r : String) :
    (∀ c, (Condition.ofText (p ++ r)).value = .ok c → Json.CutOff r c (Condition.ofText p).value) ∧
    (∀ x, Bindings.ofText (p ++ r) = .ok x → Json.CutOff r x (Bindings.ofText p)) ∧
    ∀ cases, CaseTable.ofText (p ++ r) = .ok cases → Json.CutOff r cases (CaseTable.ofText p) := by
  refine ⟨?_, ?_, ?_⟩
  · intro c h
    rcases c.readValue_truncates.ofText_append (Condition.ofText_eq_ok_iff.1 h) with
      ⟨hr, hp⟩ | ⟨f, hf, heof⟩
    · exact .inl ⟨hr, Condition.ofText_eq_ok_iff.2 hp⟩
    · exact .inr ⟨_, Condition.value_ofText_of_unread hf, heof⟩
  · exact fun x h => (Bindings.read_truncates x).cutOff h
  · exact fun cases h => (CaseTable.read_truncates cases).cutOff h

theorem accepted_text_cutOff_examples :
    (let p := "[\"==\",null,\"\\ud83d\\u"
      let r := "de00\"]"
      let c : Condition := .comparison .equal none "😀"
      (Condition.ofText (p ++ r)).value = .ok c ∧ Json.CutOff r c (Condition.ofText p).value) ∧
    (let p := "\x7b\"a\": null, \"b\": \"\""
      let r := " \x7d"
      let x := Bindings.ofList [("b", "")]
      Bindings.ofText (p ++ r) = .ok x ∧ Json.CutOff r x (Bindings.ofText p)) ∧
    let p := "[[\x7b\x7d,true]] "
    let r := "\n"
    ∃ cases, CaseTable.ofText (p ++ r) = .ok cases ∧ Json.CutOff r cases (CaseTable.ofText p) := by
  refine ⟨?_, ?_, ?_⟩
  · intro p r c
    have whole : (Condition.ofText (p ++ r)).value = .ok c := by decide +kernel
    exact ⟨whole, (accepted_text_cutOff p r).1 c whole⟩
  · intro p r x
    have whole : Bindings.ofText (p ++ r) = .ok x := by decide +kernel
    exact ⟨whole, (accepted_text_cutOff p r).2.1 x whole⟩
  · intro p r
    have accepted : (CaseTable.ofText (p ++ r)).map (fun _ => ()) = .ok () := by decide +kernel
    obtain ⟨cases, whole, -⟩ := Except.map_eq_ok_iff.1 accepted
    exact ⟨cases, whole, (accepted_text_cutOff p r).2.2 cases whole⟩

end Conditions
