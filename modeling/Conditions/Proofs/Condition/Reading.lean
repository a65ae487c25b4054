import Conditions.Evaluation
import Conditions.Proofs.Condition.Rendering

set_option autoImplicit false

namespace Conditions

namespace Json

/-- A value was read, and what is wrong is only that something follows it. -/
def Surplus (text : String) (v : Json) : Prop :=
  ∃ rest f, readValue text.toList = .ok (v, rest) ∧ readEnd rest = .error f

theorem takeCount?_eq_none {word : String} {digits rest : List Char} {c : Char}
    (hdigits : ∀ d ∈ digits, d.isDigit = true) (hc : c.isDigit = false)
    (hword : word.toList.reverse.isPrefixOf? (c :: rest) = none) :
    takeCount? word (digits ++ c :: rest) = none := by
  have hdrop : (digits ++ c :: rest).dropWhile Char.isDigit = c :: rest := by
    rw [List.dropWhile_append_of_pos hdigits, List.dropWhile_cons_of_neg]
    rw [hc]
    exact Bool.false_ne_true
  unfold takeCount?
  rw [hdrop, hword]
  split <;> rfl

theorem ofReason_of_no_column {reason : String} {digits rest : List Char} {c : Char}
    (h : reason.toList.reverse = digits ++ c :: rest) (hdigits : ∀ d ∈ digits, d.isDigit = true)
    (hc : c.isDigit = false)
    (hword : " column ".toList.reverse.isPrefixOf? (c :: rest) = none) :
    Error.ofReason reason = ⟨.refused reason, none⟩ := by
  have hsplit : splitPosition? reason.toList = none := by
    rw [splitPosition?, h, takeCount?_eq_none hdigits hc hword]
  rw [Error.ofReason, hsplit]

theorem ofReason_append (front : String) {word : String} {c : Char} {rest : List Char}
    (h : word.toList.reverse = c :: rest) (hc : c.isDigit = false) (hblank : c ≠ ' ') :
    Error.ofReason (front ++ word) = ⟨.refused (front ++ word), none⟩ := by
  have hreverse : (front ++ word).toList.reverse = [] ++ c :: (rest ++ front.toList.reverse) := by
    rw [String.toList_append, List.reverse_append, h]
    rfl
  have hcolumn : " column ".toList.reverse = ' ' :: " column".toList.reverse := rfl
  apply ofReason_of_no_column hreverse (List.forall_mem_nil _) hc
  rw [hcolumn, List.isPrefixOf?, if_neg]
  simpa using hblank.symm

end Json

/-- No symbol and no path can make the message of a defect end in a position. -/
theorem Defect.toError_eq (d : Defect) : d.toError = ⟨.refused d.message, none⟩ := by
  obtain ⟨flaw, path⟩ := d
  unfold toError message
  cases flaw with
  | notAList => exact Json.ofReason_append _ (c := 'y') rfl (by decide) (by decide)
  | symbolNotString => exact Json.ofReason_append _ (c := 'g') rfl (by decide) (by decide)
  | unrecognized symbol => exact Json.ofReason_append _ (c := 'r') rfl (by decide) (by decide)
  | notConnective symbol => exact Json.ofReason_append _ (c := 'R') rfl (by decide) (by decide)
  | operandNotString => exact Json.ofReason_append _ (c := 'g') rfl (by decide) (by decide)
  | arity found =>
    -- This message alone ends in digits, but behind another word than those of a column.
    have hdigits : ∀ d ∈ (Nat.toDigits 10 found).reverse, d.isDigit = true := by
      intro d hd
      exact Nat.isDigit_of_mem_toDigits (by decide) (by decide) (List.mem_reverse.1 hd)
    have hreverse (front : String) :
        (front ++ " expects 2 operands, found " ++ Nat.repr found).toList.reverse =
          (Nat.toDigits 10 found).reverse ++
            ' ' :: (" expects 2 operands, found".toList.reverse ++ front.toList.reverse) := by
      rw [String.toList_append, List.reverse_append, Nat.toList_repr, String.toList_append,
        List.reverse_append]
      rfl
    exact Json.ofReason_of_no_column (hreverse _) hdigits (by decide) rfl

/-- A defect in its own words, without a position. -/
def Json.Error.Tells (e : Json.Error) (d : Defect) : Prop :=
  e.cause.category = .data ∧ e.position = none ∧
    unreadableMessage e = "json error: " ++ d.message

theorem Defect.toError_tells (d : Defect) : d.toError.Tells d := by
  rw [toError_eq]
  exact ⟨rfl, rfl, rfl⟩

namespace Condition

theorem value_ofText_of_unread {text : String} {f : Json.Fault}
    (h : Json.readValue text.toList = .error f) :
    (ofText text).value = .error (f.locate text.toList) := by
  simp only [ofText, h, Traced.value_pure]

theorem value_ofText_of_malformed {text : String} {v : Json} {rest : List Char} {d : Defect}
    (h : Json.readValue text.toList = .ok (v, rest)) (hd : ofJson v = .error d) :
    (ofText text).value = .error d.toError := by
  have hclassify : (classify v).value = .error d := hd
  simp only [ofText, h, Traced.value_map, hclassify]

theorem value_ofText_of_surplus {text : String} {v : Json} {rest : List Char} {c : Condition}
    {f : Json.Fault} (h : Json.readValue text.toList = .ok (v, rest)) (hc : ofJson v = .ok c)
    (hend : Json.readEnd rest = .error f) :
    (ofText text).value = .error (f.locate text.toList) := by
  have hclassify : (classify v).value = .ok c := hc
  simp only [ofText, h, Traced.value_map, hclassify, hend]

/-- A text that is no value is no condition either, for the same reason, but a defect of a value that
was read comes before what follows the value. -/
theorem ofText_of_json (text : String) :
    (∀ v, Json.ofText text = .ok v →
      (∀ c, ofJson v = .ok c → (ofText text).value = .ok c) ∧
      ∀ d, ofJson v = .error d → ∃ e, (ofText text).value = .error e ∧ e.Tells d) ∧
    ∀ j, Json.ofText text = .error j →
      (∀ v d, Json.Surplus text v → ofJson v = .error d →
        j.cause = .trailingCharacters ∧ ∃ e, (ofText text).value = .error e ∧ e.Tells d) ∧
      ((∀ v d, Json.Surplus text v → ofJson v ≠ .error d) → (ofText text).value = .error j) := by
  have told {v : Json} {rest : List Char} {d : Defect}
      (hv : Json.readValue text.toList = .ok (v, rest)) (hd : ofJson v = .error d) :
      ∃ e, (ofText text).value = .error e ∧ e.Tells d :=
    ⟨d.toError, value_ofText_of_malformed hv hd, d.toError_tells⟩
  constructor
  · intro v hv
    refine ⟨?_, ?_⟩
    · intro c hc
      rw [ofText_eq_ok_iff, toJson_of_ofJson hc]
      exact hv
    · intro d hd
      obtain ⟨rest, hread, -⟩ := Json.ofText_eq_ok_iff.1 hv
      exact told hread hd
  · intro j hj
    rcases Json.Reader.ofText_eq_error_iff.1 hj with ⟨f, hread, rfl⟩ | ⟨v, rest, f, hread, hend, rfl⟩
    · refine ⟨?_, fun _ => value_ofText_of_unread hread⟩
      rintro v d ⟨rest, _, hv, -⟩
      rw [hread] at hv
      cases hv
    · constructor
      · rintro w d ⟨_, _, hw, -⟩ hd
        obtain ⟨c, left, -, rfl⟩ := Json.readEnd_eq_error_iff.1 hend
        exact ⟨rfl, told hw hd⟩
      · intro hnone
        cases hv : ofJson v with
        | error d => exact absurd hv (hnone v d ⟨rest, f, hread, hend⟩)
        | ok c => exact value_ofText_of_surplus hread hv hend

theorem ofText_of_json_surplus :
    let text := "[\"x at line 3 column 4\"] 1"
    let v : Json := .array [.string "x at line 3 column 4"]
    let d : Defect := ⟨.unrecognized "x at line 3 column 4", .root⟩
    (∃ j, Json.ofText text = .error j ∧ j.cause = .trailingCharacters) ∧ Json.Surplus text v ∧
      ofJson v = .error d ∧ ∃ e, (ofText text).value = .error e ∧ e.Tells d := by
  intro text v d
  have spelled := Json.spelledBy_bracketed
    (.cons (Json.spelledBy_literal "x at line 3 column 4") .nil)
  have hread : Json.readValue text.toList = .ok (v, [' ', '1']) := by
    apply (spelled _ _).2
    have text := Json.bracketed_render (.cons (Json.literal_render "x at line 3 column 4") .nil)
    exact ⟨[], _, List.forall_mem_nil _, text, by decide⟩
  have hend : Json.readEnd [' ', '1'] = .error (.next .trailingCharacters ['1']) := by rfl
  have surplus : Json.Surplus text v := ⟨_, _, hread, hend⟩
  have hj := Json.Reader.ofText_eq_error_iff.2 (.inr ⟨v, _, _, hread, hend, rfl⟩)
  have hd : ofJson v = .error d := by rfl
  obtain ⟨hcause, htold⟩ := ((ofText_of_json text).2 _ hj).1 v d surplus hd
  exact ⟨⟨_, hj, hcause⟩, surplus, hd, htold⟩

end Condition

end Conditions
