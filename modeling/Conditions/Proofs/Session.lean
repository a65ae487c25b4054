import Conditions.Session
import Conditions.Proofs.Bindings.Rendering
import Conditions.Proofs.Condition.Rendering
import Conditions.Proofs.Evaluation.Texts

set_option autoImplicit false

namespace Conditions

open Json (Padded)

structure View where
  bound : String → Option String
  saved : String → Option (String → Option String)

namespace View

/-- The last mention of a name counts; null leaves the name unbound. -/
def LastMentions (es : List (String × Option String)) (bound : String → Option String) : Prop :=
  ∀ name value, bound name = some value ↔ Entries.Last es name (some value)

def LastPairs (pairs : List (String × String)) (bound : String → Option String) : Prop :=
  ∀ name value, bound name = some value ↔ Entries.Last pairs name value

/-- What a step answers, unless it fails, and what can be seen after it. -/
inductive Leads (v : View) : Step → Option Answer → View → Prop
  | new : Leads v .new (some .nothing) { v with bound := fun _ => none }
  | insert (name value : String) :
      Leads v (.insert name value) (some (.ofOption (v.bound name)))
        { v with bound := Function.update v.bound name (some value) }
  | get (name : String) : Leads v (.get name) (some (.ofOption (v.bound name))) v
  | isEmpty {b : Bool} (h : b = true ↔ ∀ name, v.bound name = none) :
      Leads v .isEmpty (some (.boolean b)) v
  | loadText {t : String} {es : List (String × Option String)} {bound : String → Option String}
      (text : Bindings.TextOf es t) (last : LastMentions es bound) :
      Leads v (.loadText t) (some .nothing) { v with bound := bound }
  | loadTextFails {t : String} (h : ∀ es, ¬ Bindings.TextOf es t) : Leads v (.loadText t) none v
  | loadJson {es : List (String × Option String)} {bound : String → Option String}
      (last : LastMentions es bound) :
      Leads v (.loadJson (Bindings.valueOf es)) (some .nothing) { v with bound := bound }
  | loadJsonFails {w : Json} (h : ∀ es, w ≠ Bindings.valueOf es) : Leads v (.loadJson w) none v
  | ofPairs {pairs : List (String × String)} {bound : String → Option String}
      (last : LastPairs pairs bound) :
      Leads v (.ofPairs pairs) (some .nothing) { v with bound := bound }
  | save (slot : String) :
      Leads v (.save slot) (some .nothing)
        { v with saved := Function.update v.saved slot (some v.bound) }
  | restore {slot : String} {bound : String → Option String} (h : v.saved slot = some bound) :
      Leads v (.restore slot) (some .nothing) { v with bound := bound }
  | restoreUnknown {slot : String} (h : v.saved slot = none) :
      Leads v (.restore slot) (some .nothing) v
  | equals {slot : String} {b : Bool} (h : b = true ↔ v.saved slot = some v.bound) :
      Leads v (.equals slot) (some (.boolean b)) v
  | evaluate {x : Bindings} (hx : x.get? = v.bound) (c : Condition) :
      Leads v (.evaluate c) (some (.boolean (c.evaluate x).value)) v
  | evaluateJson {x : Bindings} (hx : x.get? = v.bound) (c : Condition) :
      Leads v (.evaluateJson c.toJson) (some (.boolean (c.evaluate x).value)) v
  | evaluateJsonFails {w : Json} (h : ∀ c : Condition, w ≠ c.toJson) :
      Leads v (.evaluateJson w) none v
  | evaluateText {x : Bindings} {t : String} {c : Condition} (hx : x.get? = v.bound)
      (text : Padded c.Rendering t.toList) :
      Leads v (.evaluateText t) (some (.boolean (c.evaluate x).value)) v
  | evaluateTextFails {t : String} (h : ∀ c : Condition, ¬ Padded c.Rendering t.toList) :
      Leads v (.evaluateText t) none v

inductive Follows : View → List Step → List (Option Answer × View) → Prop
  | nil (v : View) : Follows v [] []
  | cons {v v' : View} {step : Step} {steps : List Step} {answer : Option Answer}
      {results : List (Option Answer × View)} (head : v.Leads step answer v')
      (tail : Follows v' steps results) : Follows v (step :: steps) ((answer, v') :: results)

end View

theorem View.Leads.saved_eq {v v' : View} {step : Step} {answer : Option Answer}
    (h : v.Leads step answer v') {slot : String} (hstep : step ≠ .save slot) :
    v'.saved slot = v.saved slot := by
  cases h with
  | save slot' =>
    have hne : slot ≠ slot' := fun heq => hstep (heq ▸ rfl)
    exact Function.update_of_ne hne _ _
  | _ => rfl

theorem View.Leads.saved_self {v v' : View} {slot : String} {answer : Option Answer}
    (h : v.Leads (.save slot) answer v') : v'.saved slot = some v.bound := by
  cases h with
  | save => exact Function.update_self ..

def View.start : View where
  bound _ := none
  saved _ := none

namespace Session

def view (s : Session) : View where
  bound := s.bindings.get?
  saved slot := (Entries.find? slot s.saved).map Bindings.get?

theorem lastPairs_ofList (pairs : List (String × String)) :
    View.LastPairs pairs (Bindings.ofList pairs).get? := by
  intro name value
  rw [Bindings.get?_ofList, Entries.find?_reverse_eq_some_iff]

variable (s : Session)

def Obeys (step : Step) : Prop :=
  s.view.Leads step ((s.attempt step).toOption.map Prod.fst) (s.after step).view

theorem obeys_loadText (t : String) : s.Obeys (.loadText t) := by
  cases hx : Bindings.ofText t with
  | error e =>
    have unread : ∀ es, ¬ Bindings.TextOf es t := by
      intro es ht
      have read := Bindings.ofText_eq_ok_iff_textOf.2 ⟨es, ht, Bindings.collects_ofMentions es⟩
      cases hx.symm.trans read
    simp only [Obeys, after, attempt, hx]
    exact .loadTextFails unread
  | ok x =>
    obtain ⟨es, ht, collects⟩ := Bindings.ofText_eq_ok_iff_textOf.1 hx
    simp only [Obeys, after, attempt, hx]
    exact .loadText ht collects.bound

theorem obeys_loadJson (w : Json) : s.Obeys (.loadJson w) := by
  cases hx : Bindings.ofJson w with
  | error e =>
    have unread : ∀ es, w ≠ Bindings.valueOf es := by
      intro es hw
      have read := Bindings.ofJson_eq_ok_iff.2 ⟨es, hw, Bindings.collects_ofMentions es⟩
      cases hx.symm.trans read
    simp only [Obeys, after, attempt, hx]
    exact .loadJsonFails unread
  | ok x =>
    obtain ⟨es, rfl, collects⟩ := Bindings.ofJson_eq_ok_iff.1 hx
    simp only [Obeys, after, attempt, hx]
    exact .loadJson collects.bound

theorem obeys_save (slot : String) : s.Obeys (.save slot) := by
  have saved : (s.after (.save slot)).view =
      { s.view with saved := Function.update s.view.saved slot (some s.view.bound) } := by
    rw [View.mk.injEq]
    refine ⟨rfl, ?_⟩
    funext k
    change (Entries.find? k (Entries.insert slot s.bindings s.saved)).map Bindings.get? = _
    rw [Entries.find?_insert, Function.update_apply]
    split
    · rfl
    · rfl
  rw [Obeys, saved]
  exact .save slot

theorem obeys_restore (slot : String) : s.Obeys (.restore slot) := by
  cases hx : Entries.find? slot s.saved with
  | none =>
    simp only [Obeys, after, attempt, hx]
    exact .restoreUnknown (congrArg (Option.map Bindings.get?) hx)
  | some x =>
    simp only [Obeys, after, attempt, hx]
    exact .restore (congrArg (Option.map Bindings.get?) hx)

theorem obeys_equals (slot : String) : s.Obeys (.equals slot) := by
  have saved : s.view.saved slot = (Entries.find? slot s.saved).map Bindings.get? := rfl
  cases hx : Entries.find? slot s.saved with
  | none =>
    simp only [Obeys, after, attempt, hx]
    apply View.Leads.equals
    rw [saved, hx]
    simp
  | some x =>
    simp only [Obeys, after, attempt, hx]
    apply View.Leads.equals
    rw [saved, hx, decide_eq_true_iff, Option.map_some, Option.some.injEq]
    constructor
    · exact congrArg Bindings.get?
    · exact fun h => Bindings.ext (congrFun h)

theorem obeys_evaluateJson (w : Json) : s.Obeys (.evaluateJson w) := by
  cases hc : Condition.ofJson w with
  | error d =>
    have malformed : ∀ c : Condition, w ≠ c.toJson := by
      rintro c rfl
      cases hc.symm.trans (Condition.ofJson_toJson c)
    simp only [Obeys, after, attempt, evaluateJson_of_malformed hc]
    exact .evaluateJsonFails malformed
  | ok c =>
    simp only [Obeys, after, attempt, evaluateJson_of_classified hc, Traced.value_map]
    rw [← Condition.toJson_of_ofJson hc]
    exact .evaluateJson rfl c

theorem obeys_evaluateText (t : String) : s.Obeys (.evaluateText t) := by
  have read (c : Condition) : (Condition.ofText t).value = .ok c ↔ Padded c.Rendering t.toList :=
    Condition.ofText_eq_ok_iff.trans (Condition.spelledBy_rendering c).ofText_eq_ok_iff
  cases hc : (Condition.ofText t).value with
  | error e =>
    have unread : ∀ c : Condition, ¬ Padded c.Rendering t.toList := by
      intro c ht
      cases hc.symm.trans ((read c).2 ht)
    simp only [Obeys, after, attempt, hc]
    exact .evaluateTextFails unread
  | ok c =>
    simp only [Obeys, after, attempt, hc]
    exact .evaluateText rfl ((read c).1 hc)

theorem obeys (step : Step) : s.Obeys step := by
  cases step with
  | new => exact .new
  | insert name value =>
    have inserted : (s.after (.insert name value)).view =
        { s.view with bound := Function.update s.view.bound name (some value) } :=
      congrArg (View.mk · s.view.saved) (s.bindings.get?_insert_eq_update name value)
    rw [Obeys, inserted]
    exact .insert name value
  | get name => exact .get name
  | isEmpty => exact .isEmpty s.bindings.isEmpty_iff
  | loadText t => exact s.obeys_loadText t
  | loadJson w => exact s.obeys_loadJson w
  | ofPairs pairs => exact .ofPairs (lastPairs_ofList pairs)
  | save slot => exact s.obeys_save slot
  | restore slot => exact s.obeys_restore slot
  | equals slot => exact s.obeys_equals slot
  | evaluate c => exact .evaluate rfl c
  | evaluateJson w => exact s.obeys_evaluateJson w
  | evaluateText t => exact s.obeys_evaluateText t

theorem follows (steps : List Step) :
    s.view.Follows steps ((s.run steps).map fun r => (r.1.toOption, r.2.view)) := by
  induction steps generalizing s with
  | nil => exact .nil s.view
  | cons step steps ih =>
    have answer : ((s.attempt step).map Prod.fst).toOption = (s.attempt step).toOption.map Prod.fst := by
      cases s.attempt step <;> rfl
    rw [run, List.map_cons, answer]
    exact .cons (s.obeys step) (ih (s.after step))

def afterAll (steps : List Step) : Session :=
  steps.foldl after s

theorem drop_run (before later : List Step) :
    (s.run (before ++ later)).drop before.length = (s.afterAll before).run later := by
  induction before generalizing s with
  | nil => rfl
  | cons step before ih =>
    rw [List.cons_append, run, List.length_cons, List.drop_succ_cons, ih]
    rfl

/-- What is in a slot stays there until something else is saved in it. -/
theorem saved_eq_of_mem_run {slot : String} {steps : List Step} (h : .save slot ∉ steps)
    {r : Except StepError Answer × Session} (hr : r ∈ s.run steps) :
    r.2.view.saved slot = s.view.saved slot := by
  induction steps generalizing s with
  | nil => cases hr
  | cons step steps ih =>
    have hstep : step ≠ .save slot := fun heq => h (heq ▸ List.mem_cons_self)
    have hsteps : .save slot ∉ steps := fun hmem => h (List.mem_cons_of_mem step hmem)
    have here : (s.after step).view.saved slot = s.view.saved slot := (s.obeys step).saved_eq hstep
    rw [run] at hr
    rcases List.mem_cons.1 hr with rfl | hr
    · exact here
    · exact (ih (s.after step) hsteps hr).trans here

end Session

/-- Whatever the steps, a session is seen as the map it should be after each of them, and nothing but what
names are bound to tells one from another. -/
theorem Session.run_follows (steps : List Step) :
    View.start.Follows steps ((start.run steps).map fun r => (r.1.toOption, r.2.view)) ∧
    (∀ r ∈ start.run steps,
      {name | ∃ value, r.2.bindings.get? name = some value}.Finite ∧
      r.2.bindings.size = {name | ∃ value, r.2.bindings.get? name = some value}.ncard ∧
      (r.2.bindings.isEmpty = true ↔ ∀ name, r.2.bindings.get? name = none)) ∧
    (∀ others, ∀ r ∈ start.run steps, ∀ r' ∈ start.run others,
      (r.2.bindings = r'.2.bindings ↔ ∀ name, r.2.bindings.get? name = r'.2.bindings.get? name)) ∧
    ∀ before slot later, steps = before ++ .save slot :: later → .save slot ∉ later →
      ∀ r ∈ (start.run steps).drop before.length,
        r.2.view.saved slot = some (start.afterAll before).view.bound := by
  refine ⟨start.follows steps, ?_, ?_, ?_⟩
  · intro r _
    exact ⟨r.2.bindings.finite_bound, r.2.bindings.size_eq_ncard, r.2.bindings.isEmpty_iff⟩
  · intro others r _ r' _
    exact ⟨fun h name => congrArg (·.get? name) h, Bindings.ext⟩
  · rintro before slot later rfl hlater r hr
    rw [drop_run, run] at hr
    rcases List.mem_cons.1 hr with rfl | hr
    · exact ((start.afterAll before).obeys (.save slot)).saved_self
    · have kept := saved_eq_of_mem_run _ hlater hr
      exact kept.trans ((start.afterAll before).obeys (.save slot)).saved_self

/-- A text that cannot be loaded comes between, and the saved bindings are not the later ones. -/
theorem Session.run_follows_restored :
    let before : List Step := [.insert "a" "x"]
    let later : List Step :=
      [.insert "a" "y", .loadText "[", .equals "s", .restore "s", .get "a"]
    let run := start.run (before ++ .save "s" :: later)
    run.map (·.1.toOption) = [some .nothing, some .nothing, some (.string "x"), none,
      some (.boolean false), some .nothing, some (.string "x")] ∧
    .save "s" ∉ later ∧
    ∀ r ∈ run.drop 1, r.2.view.saved "s" = some (start.afterAll before).view.bound := by
  intro before later run
  have answers : run.map (·.1.toOption) = [some .nothing, some .nothing, some (.string "x"), none,
      some (.boolean false), some .nothing, some (.string "x")] := by decide +kernel
  have unsaved : .save "s" ∉ later := by simp [later]
  obtain ⟨-, -, -, saved⟩ := run_follows (before ++ .save "s" :: later)
  exact ⟨answers, unsaved, saved before "s" later rfl unsaved⟩

end Conditions
