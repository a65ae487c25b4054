import Conditions.Entries
import Conditions.Json.Reader.Typed

set_option autoImplicit false

namespace Conditions

structure Bindings where
  entries : List (String × String)
  ascending : Entries.Ascending entries
deriving DecidableEq

namespace Bindings

def empty : Bindings := ⟨[], List.Pairwise.nil⟩

def get? (x : Bindings) (name : String) : Option String :=
  Entries.find? name x.entries

def insert (x : Bindings) (name value : String) : Bindings :=
  ⟨Entries.insert name value x.entries, x.ascending.insert name value⟩

def size (x : Bindings) : Nat := x.entries.length

def isEmpty (x : Bindings) : Bool := x.entries.isEmpty

def ofList (es : List (String × String)) : Bindings :=
  ⟨Entries.ofList es, Entries.ascending_ofList es⟩

theorem ascending_filterMap {β γ : Type} {es : List (String × β)} (h : Entries.Ascending es)
    (f : β → Option γ) :
    Entries.Ascending (es.filterMap fun e => (f e.2).map fun c => (e.1, c)) := by
  refine List.Pairwise.filterMap _ (fun e e' hlt c hc c' hc' => ?_) h
  simp only [Option.map_eq_some_iff] at hc hc'
  obtain ⟨_, _, rfl⟩ := hc
  obtain ⟨_, _, rfl⟩ := hc'
  exact hlt

/-- The last mention of a name counts, and leaves it unbound if it has no value. -/
def ofMentions (es : List (String × Option String)) : Bindings :=
  ⟨(Entries.ofList es).filterMap fun e => (id e.2).map fun v => (e.1, v),
    ascending_filterMap (Entries.ascending_ofList es) id⟩

@[ext] theorem ext {x y : Bindings} (h : ∀ name, x.get? name = y.get? name) : x = y := by
  cases x with
  | mk es hes =>
    cases y with
    | mk fs hfs =>
      obtain rfl : es = fs := Entries.ext_find? hes hfs h
      rfl

theorem get?_insert (x : Bindings) (name value k : String) :
    (x.insert name value).get? k = if k = name then some value else x.get? k :=
  Entries.find?_insert k name value x.entries

theorem get?_ofList (es : List (String × String)) (name : String) :
    (ofList es).get? name = Entries.find? name es.reverse :=
  Entries.find?_ofList name es

theorem find?_filterMap {β γ : Type} {es : List (String × β)} (h : Entries.Ascending es)
    (f : β → Option γ) (k : String) :
    Entries.find? k (es.filterMap fun e => (f e.2).map fun c => (e.1, c)) =
      (Entries.find? k es).bind f := by
  induction es with
  | nil => rfl
  | cons e es ih =>
    obtain ⟨k', b⟩ := e
    obtain ⟨hk, hes⟩ := List.pairwise_cons.1 h
    by_cases hkk : k = k'
    · subst hkk
      have hnone : Entries.find? k es = none := Entries.find?_eq_none_of_lt hk
      cases hf : f b <;> simp [hf, ih hes, Entries.find?, hnone]
    · cases hf : f b <;> simp [hf, ih hes, Entries.find?, hkk]

theorem get?_ofMentions (es : List (String × Option String)) (name : String) :
    (ofMentions es).get? name = (Entries.find? name es.reverse).join := by
  rw [get?, ofMentions, find?_filterMap (Entries.ascending_ofList es), Entries.find?_ofList]
  cases Entries.find? name es.reverse <;> rfl

open Json (Fault Reader)

def readMentions (first : Bool) (cs : List Char) :
    Except Fault (List (String × Option String) × List Char) :=
  match h : Json.nextMember first cs with
  | .error f => .error f
  | .ok (.close rest) => .ok ([], rest)
  | .ok (.item name rest) =>
    match hs : Json.readOptionalString rest with
    | .error f => .error f
    | .ok (v, rest') =>
      have : rest'.length < cs.length :=
        Nat.lt_trans (Json.length_readOptionalString hs) (Json.length_nextMember h)
      (readMentions false rest').map fun p => ((name, v) :: p.1, p.2)
termination_by cs.length

def read : Reader Bindings := fun cs =>
  match Json.skipBlank cs with
  | '{' :: rest => (readMentions true rest).map fun p => (ofMentions p.1, p.2)
  | rest => .error (Json.mismatch .map rest)

def ofText (text : String) : Except Json.Error Bindings :=
  read.ofText text

def mention : Json → Except Json.Error (Option String)
  | .string s => .ok (some s)
  | .null => .ok none
  | v => .error ⟨.wrongType v.shape .string, none⟩

def mentions : List (String × Json) → Except Json.Error (List (String × Option String))
  | [] => .ok []
  | (name, v) :: ms =>
    match mention v with
    | .error e => .error e
    | .ok s => (mentions ms).map ((name, s) :: ·)

def ofJson : Json → Except Json.Error Bindings
  | .object ms => (mentions ms).map ofMentions
  | v => .error ⟨.wrongType v.shape .map, none⟩

def toJson (x : Bindings) : Json :=
  .object (x.entries.map fun e => (e.1, .string e.2))

theorem length_readMentions {first : Bool} {cs rest : List Char}
    {ms : List (String × Option String)} (h : readMentions first cs = .ok (ms, rest)) :
    rest.length < cs.length := by
  fun_induction readMentions first cs generalizing ms rest with
  | case1 => simp at h
  | case2 first cs left hn =>
    simp only [Except.ok.injEq, Prod.mk.injEq] at h
    exact h.2 ▸ Json.length_nextMember hn
  | case3 => simp at h
  | case4 first cs name r hn v r' hs hlt ih =>
    cases hr : readMentions false r' with
    | error f => simp [hr, Except.map] at h
    | ok p =>
      simp only [hr, Except.map, Except.ok.injEq, Prod.mk.injEq] at h
      have := ih hr
      rw [← h.2]
      omega

theorem length_read {cs rest : List Char} {x : Bindings} (h : read cs = .ok (x, rest)) :
    rest.length < cs.length := by
  have hcs := Json.length_skipBlank cs
  unfold read at h
  split at h
  · rename_i r heq
    cases hr : readMentions true r with
    | error f => simp [hr, Except.map] at h
    | ok p =>
      simp only [hr, Except.map, Except.ok.injEq, Prod.mk.injEq] at h
      have := length_readMentions hr
      simp only [heq, List.length_cons] at hcs
      rw [← h.2]
      omega
  · simp at h

end Bindings

end Conditions
