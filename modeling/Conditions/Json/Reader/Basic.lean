import Conditions.Json.Error

set_option autoImplicit false

namespace Except

variable {ε ε' α β : Type}

@[simp] theorem mapError_ok (f : ε → ε') (a : α) : (.ok a : Except ε α).mapError f = .ok a := rfl

@[simp] theorem mapError_error (f : ε → ε') (e : ε) :
    (.error e : Except ε α).mapError f = .error (f e) := rfl

theorem mapError_eq_error_iff {f : ε → ε'} {x : Except ε α} {e : ε'} :
    x.mapError f = .error e ↔ ∃ d, x = .error d ∧ f d = e := by
  cases x <;> simp

theorem map_eq_ok_iff {f : α → β} {x : Except ε α} {b : β} :
    x.map f = .ok b ↔ ∃ a, x = .ok a ∧ f a = b := by
  cases x <;> simp [Except.map]

theorem map_eq_error_iff {f : α → β} {x : Except ε α} {e : ε} :
    x.map f = .error e ↔ x = .error e := by
  cases x <;> simp [Except.map]

theorem bind_eq_ok_iff {x : Except ε α} {f : α → Except ε β} {b : β} :
    x >>= f = .ok b ↔ ∃ a, x = .ok a ∧ f a = .ok b := by
  cases x <;> simp [bind, Except.bind]

end Except

namespace Conditions.Json

/-- What is left of a text becomes a value and what is left then. Nothing else is kept: where a fault
lies follows from what was left when it was found. -/
abbrev Reader (α : Type) := List Char → Except Fault (α × List Char)

def isBlank (c : Char) : Bool :=
  c = ' ' || c = '\t' || c = '\n' || c = '\r'

def skipBlank (cs : List Char) : List Char :=
  cs.dropWhile isBlank

theorem length_skipBlank (cs : List Char) : (skipBlank cs).length ≤ cs.length :=
  (List.dropWhile_suffix isBlank).sublist.length_le

def readLetters : List Char → List Char → Except Fault (List Char)
  | [], cs => .ok cs
  | _ :: _, [] => .error (.before .eofInValue [])
  | w :: ws, c :: cs => if c = w then readLetters ws cs else .error (.next .expectedIdent (c :: cs))

theorem length_readLetters {ws cs rest : List Char} (h : readLetters ws cs = .ok rest) :
    rest.length ≤ cs.length := by
  fun_induction readLetters ws cs with
  | case1 cs => simp_all
  | case2 => simp at h
  | case3 ws c cs ih => exact Nat.le_succ_of_le (ih h)
  | case4 => simp at h

def readEnd (cs : List Char) : Except Fault Unit :=
  match skipBlank cs with
  | [] => .ok ()
  | rest => .error (.next .trailingCharacters rest)

def Reader.ofText {α : Type} (read : Reader α) (text : String) : Except Error α :=
  match read text.toList with
  | .error f => .error (f.locate text.toList)
  | .ok (a, rest) =>
    match readEnd rest with
    | .error f => .error (f.locate text.toList)
    | .ok () => .ok a

end Conditions.Json
