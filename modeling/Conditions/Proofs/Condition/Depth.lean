import Conditions.Proofs.Evaluation.Eager
import Conditions.Proofs.Json.Nesting

set_option autoImplicit false

namespace Conditions.Condition

theorem greatestItemDepth_toJsonList {cs : List Condition}
    (h : ∀ c ∈ cs, c.toJson.arrayDepth = c.depth) :
    Json.greatestItemDepth (toJsonList cs) = greatestDepth cs := by
  induction cs with
  | nil => rfl
  | cons c cs ih =>
    obtain ⟨hc, hcs⟩ := List.forall_mem_cons.1 h
    rw [toJsonList, Json.greatestItemDepth, greatestDepth, hc, ih hcs]

theorem arrayDepth_toJson (c : Condition) : c.toJson.arrayDepth = c.depth := by
  induction c using operand_induction with
  | comparison r reference literal => cases reference <;> rfl
  | logical k cs ih =>
    rw [toJson, Json.arrayDepth, Json.greatestItemDepth, greatestItemDepth_toJsonList ih, depth,
      Json.arrayDepth, Nat.zero_max]

theorem showsDepth_toJson (c : Condition) : c.toJson.ShowsDepth := by
  induction c using operand_induction with
  | comparison r reference literal =>
    apply Json.showsDepth_array
    simp only [List.forall_mem_cons]
    refine ⟨Json.showsDepth_string _, ?_, Json.showsDepth_string _, List.forall_mem_nil _⟩
    cases reference with
    | none => exact Json.showsDepth_null
    | some v => exact Json.showsDepth_string v
  | logical k cs ih =>
    rw [toJson]
    apply Json.showsDepth_array
    rw [List.forall_mem_cons, toJsonList_eq_map, List.forall_mem_map]
    exact ⟨Json.showsDepth_string _, ih⟩

theorem depth_le_greatestDepth {c : Condition} {cs : List Condition} (h : c ∈ cs) :
    c.depth ≤ greatestDepth cs := by
  induction cs with
  | nil => cases h
  | cons d cs ih =>
    rw [greatestDepth]
    rcases List.mem_cons.1 h with rfl | h
    · omega
    · have hle := ih h
      omega

/-- A node at some depth reports nothing from as far below as it has levels. -/
theorem depth_of_mem_trace {x : Bindings} {c : Condition} {start depth : Nat} {event : Event}
    (h : event ∈ c.trace x start) (hdepth : ("depth", .count depth) ∈ event.fields) :
    depth < start + c.depth := by
  induction c using operand_induction generalizing start with
  | comparison r reference literal =>
    rw [trace, List.mem_singleton] at h
    subst h
    have here : depth = start := by simpa [Event.fields] using hdepth
    rw [here, Condition.depth]
    omega
  | logical k cs ih =>
    rw [trace, List.mem_append, List.mem_singleton] at h
    rw [Condition.depth]
    rcases h with h | rfl
    · obtain ⟨events, hevents, hevent⟩ := List.mem_flatten.1 h
      have mem := List.mem_of_mem_take hevents
      rw [traces_eq_map, List.mem_map] at mem
      obtain ⟨c, hc, rfl⟩ := mem
      have hlt := ih c hc hevent
      have hle := depth_le_greatestDepth hc
      omega
    · have here : depth = start := by simpa [Event.fields] using hdepth
      omega

theorem depth_of_mem_evaluate {c : Condition} {x : Bindings} {depth : Nat} {event : Event}
    (h : event ∈ (c.evaluate x).events) (hdepth : ("depth", .count depth) ∈ event.fields) :
    depth < c.depth := by
  rw [evaluate_eq, List.mem_append, List.mem_singleton] at h
  rcases h with h | rfl
  · have hlt := depth_of_mem_trace h hdepth
    omega
  · simp [Event.fields] at hdepth

/-- The depth of a condition is that of its JSON form, and the greatest number of brackets that a front
of its text opens and does not close; events lie less deep. -/
theorem depth_measures_nesting (c : Condition) :
    c.toJson.arrayDepth = c.depth ∧
    IsGreatest {n | ∃ w, w <+: c.text.toList ∧ Json.Scan.outside.balance w = n} (c.depth : Int) ∧
    ∀ (x : Bindings), ∀ event ∈ (c.evaluate x).events, ∀ depth,
      ("depth", .count depth) ∈ event.fields → depth < c.depth := by
  refine ⟨c.arrayDepth_toJson, ?_, fun x event h depth hdepth => depth_of_mem_evaluate h hdepth⟩
  have peak : Json.Scan.outside.peak c.text.toList = c.depth := by
    rw [text, Json.text, String.toList_ofList, c.showsDepth_toJson.peak, arrayDepth_toJson]
  rw [← peak]
  exact Json.Scan.isGreatest_peak .outside c.text.toList

theorem depth_measures_nesting_literal :
    let c : Condition := .and [.or [.equals "$[" "[[\"]\"\\"], .comparison .equal none "]"]
    let event : Event := .comparison 2 (some "$[") "[[\"]\"\\" false
    c.toJson.arrayDepth = 3 ∧
    IsGreatest {n | ∃ w, w <+: c.text.toList ∧ Json.Scan.outside.balance w = n} (3 : Int) ∧
    event ∈ (c.evaluate .empty).events ∧ ("depth", .count 2) ∈ event.fields ∧ 2 < c.depth := by
  intro c event
  obtain ⟨array, brackets, events⟩ := depth_measures_nesting c
  have mem : event ∈ (c.evaluate .empty).events := by decide
  have field : ("depth", .count 2) ∈ event.fields := by decide
  exact ⟨array, brackets, mem, field, events .empty event mem 2 field⟩

end Conditions.Condition
