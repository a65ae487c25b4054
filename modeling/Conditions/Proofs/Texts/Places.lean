import Conditions.Proofs.CaseTable.Rendering
import Conditions.Proofs.Condition.Reading
import Conditions.Proofs.Json.Faults
import Conditions.Proofs.Json.Lines

set_option autoImplicit false

namespace Conditions

open Json (Stays)

theorem Bindings.read_stays (cs : List Char) : Stays Prod.snd cs (read cs) := by
  unfold read
  split
  · rename_i inner heq
    have members := readMentions_loops.stays Json.nextMember_stays Json.length_readOptionalString
      (fun ds _ => Json.readOptionalString_stays ds) true inner (Nat.lt_succ_self _)
    exact .of_suffix (.map members fun _ => rfl) (Json.suffix_of_skipBlank heq)
  · exact .error ((Json.mismatch_within .map _).of_suffix (Json.skipBlank_suffix cs))

namespace CaseTable

theorem readCaseEnd_stays (cs : List Char) : Stays id cs (readCaseEnd cs) := by
  unfold readCaseEnd
  split
  · exact .error (.atEnd _ _)
  · rename_i heq
    exact .ok (Json.suffix_of_skipBlank heq)
  · rename_i inner heq
    have hinner := (Json.skipBlank_suffix inner).trans (Json.suffix_of_skipBlank heq)
    split
    · rename_i heq'
      exact .error (.next (heq' ▸ hinner) rfl)
    · exact .error (.next hinner rfl)
  · exact .error (.next (Json.skipBlank_suffix cs) rfl)

theorem readCase_stays (cs : List Char) : Stays Prod.snd cs (readCase cs) := by
  unfold readCase
  split
  · rename_i inner heq
    have first := (Json.nextItem_stays true inner).of_suffix (Json.suffix_of_skipBlank heq)
    split
    · rename_i hfirst
      exact .error (first.within hfirst)
    · rename_i hfirst
      exact .error (.before (first.suffix hfirst) rfl)
    · rename_i hfirst
      have bindings := (Bindings.read_stays _).of_suffix (first.suffix hfirst)
      split
      · rename_i hx
        exact .error (bindings.within hx)
      · rename_i hx
        have second := (Json.nextItem_stays false _).of_suffix (bindings.suffix hx)
        split
        · rename_i hsecond
          exact .error (second.within hsecond)
        · rename_i hsecond
          exact .error (.before (second.suffix hsecond) rfl)
        · rename_i hsecond
          have expected := (Json.readBoolean_stays _).of_suffix (second.suffix hsecond)
          split
          · rename_i hexpected
            exact .error (expected.within hexpected)
          · rename_i hexpected
            exact .of_suffix (.map (readCaseEnd_stays _) fun _ => rfl) (expected.suffix hexpected)
  · exact .error ((Json.mismatch_within .case _).of_suffix (Json.skipBlank_suffix cs))

theorem read_stays (cs : List Char) : Stays Prod.snd cs (read cs) := by
  unfold read
  split
  · rename_i inner heq
    have items := readCases_loops.stays Json.nextItem_stays length_readCase
      (fun ds _ => readCase_stays ds) true inner (Nat.lt_succ_self _)
    exact items.of_suffix (Json.suffix_of_skipBlank heq)
  · exact .error ((Json.mismatch_within .sequence _).of_suffix (Json.skipBlank_suffix cs))

end CaseTable

namespace Json

/-- The position is that behind some bytes of the text, which are all of them if it was too short. -/
def Error.PointsInto (e : Error) (t : String) : Prop :=
  ∃ index ≤ t.utf8ByteSize, e.position = some (.behind ((Text.bytes t).take index)) ∧
    (e.cause.category = .eof → index = t.utf8ByteSize)

theorem Fault.Within.locate_pointsInto {f : Fault} {t : String} (h : f.Within t.toList) :
    (f.locate t.toList).PointsInto t := by
  rw [Error.PointsInto, ← Text.byteCount_toList]
  refine ⟨f.index t.toList, h.index_le, ?_, h.index_eq_of_eof⟩
  rw [Fault.locate, Position.ofIndex_eq]

theorem Reader.pointsInto_of_ofText {α : Type} {read : Reader α}
    (stays : ∀ cs, Stays Prod.snd cs (read cs)) {t : String} {e : Error}
    (h : read.ofText t = .error e) : e.PointsInto t := by
  have htext := stays t.toList
  rcases Reader.ofText_eq_error_iff.1 h with ⟨f, hread, rfl⟩ | ⟨a, rest, f, hread, hend, rfl⟩
  · exact (htext.within hread).locate_pointsInto
  · exact ((within_of_readEnd hend).of_suffix (htext.suffix hread)).locate_pointsInto

end Json

/-- What was read is refused by classification. -/
def Condition.RefusedAs (t : String) (e : Json.Error) : Prop :=
  ∃ v rest d, Json.readValue t.toList = .ok (v, rest) ∧ ofJson v = .error d ∧ e.Tells d

theorem Condition.pointsInto_of_ofText {t : String} {e : Json.Error}
    (h : (ofText t).value = .error e) : RefusedAs t e ∨ e.PointsInto t := by
  have htext := Json.readValue_stays t.toList
  cases hread : Json.readValue t.toList with
  | error f =>
    rw [value_ofText_of_unread hread] at h
    cases h
    exact .inr (htext.within hread).locate_pointsInto
  | ok p =>
    obtain ⟨v, rest⟩ := p
    cases hc : ofJson v with
    | error d =>
      rw [value_ofText_of_malformed hread hc] at h
      cases h
      exact .inl ⟨v, rest, d, hread, hc, d.toError_tells⟩
    | ok c =>
      cases hend : Json.readEnd rest with
      | error f =>
        rw [value_ofText_of_surplus hread hc hend] at h
        cases h
        exact .inr ((Json.within_of_readEnd hend).of_suffix (htext.suffix hread)).locate_pointsInto
      | ok _ =>
        have hok := ofText_eq_ok_iff.2 (Json.ofText_eq_ok_iff.2
          ⟨rest, toJson_of_ofJson hc ▸ hread, hend⟩)
        cases hok.symm.trans h

/-- An error of a text points into the text, and to its end if the text was too short, unless a value
was read that is no condition: this error is about data and has no position. -/
theorem errors_point_into_text (t : String) :
    (∀ e, Json.ofText t = .error e → e.PointsInto t) ∧
    (∀ e, (Condition.ofText t).value = .error e → Condition.RefusedAs t e ∨ e.PointsInto t) ∧
    (∀ e, Bindings.ofText t = .error e → e.PointsInto t) ∧
    ∀ e, CaseTable.ofText t = .error e → e.PointsInto t := by
  refine ⟨?_, ?_, ?_, ?_⟩
  · exact fun _ h => Json.Reader.pointsInto_of_ofText Json.readValue_stays h
  · exact fun _ h => Condition.pointsInto_of_ofText h
  · exact fun _ h => Json.Reader.pointsInto_of_ofText Bindings.read_stays h
  · exact fun _ h => Json.Reader.pointsInto_of_ofText CaseTable.read_stays h

theorem errors_point_into_text_unfinished :
    let t := "[\"AND\",\n\x7b\"é\": null"
    let early : Json.Error := ⟨.eofInObject, some ⟨2, 11⟩⟩
    let noMap : Json.Error := ⟨.wrongType .sequence .map, some ⟨1, 0⟩⟩
    let noCase : Json.Error := ⟨.wrongType (.string "AND") .case, some ⟨1, 6⟩⟩
    (Json.ofText t = .error early ∧ early.PointsInto t) ∧
      ((Condition.ofText t).value = .error early ∧
        (Condition.RefusedAs t early ∨ early.PointsInto t)) ∧
      (Bindings.ofText t = .error noMap ∧ noMap.PointsInto t) ∧
      CaseTable.ofText t = .error noCase ∧ noCase.PointsInto t := by
  intro t early noMap noCase
  have value : Json.ofText t = .error early := by
    rw [← Except.map_eq_error_iff (f := fun _ => ())]
    decide +kernel
  have condition : (Condition.ofText t).value = .error early := by
    decide +kernel
  have bindings : Bindings.ofText t = .error noMap := by
    decide +kernel
  have cases : CaseTable.ofText t = .error noCase := by
    rw [← Except.map_eq_error_iff (f := fun _ => ())]
    decide +kernel
  obtain ⟨ofValue, ofCondition, ofBindings, ofCases⟩ := errors_point_into_text t
  exact ⟨⟨value, ofValue _ value⟩, ⟨condition, ofCondition _ condition⟩,
    ⟨bindings, ofBindings _ bindings⟩, cases, ofCases _ cases⟩

end Conditions
