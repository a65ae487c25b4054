import Conditions.Json.Reader.Value

set_option autoImplicit false

namespace Conditions.Json

variable {κ α β : Type}

/-- With `next` a part is found, its value is read with `read`, and both are put together. -/
def Loops (next : Bool → List Char → Except Fault (Next κ)) (read : Reader α) (pair : κ → α → β)
    (loop : Bool → Reader (List β)) : Prop :=
  ∀ first cs, loop first cs =
    match next first cs with
    | .error f => .error f
    | .ok (.close rest) => .ok ([], rest)
    | .ok (.item k inner) =>
      match read inner with
      | .error f => .error f
      | .ok (a, mid) => (loop false mid).map fun p => (pair k a :: p.1, p.2)

theorem readItems_loops : Loops nextItem readValue (fun _ v => v) readItems := by
  intro first cs
  rw [readItems_eq]
  cases nextItem first cs with
  | error f => rfl
  | ok n =>
    cases n with
    | close rest => rfl
    | item _ inner =>
      simp only
      cases readValue inner <;> rfl

theorem readMembers_loops : Loops nextMember readValue Prod.mk readMembers := by
  intro first cs
  rw [readMembers_eq]
  cases nextMember first cs with
  | error f => rfl
  | ok n =>
    cases n with
    | close rest => rfl
    | item key inner =>
      simp only
      cases readValue inner <;> rfl

section

variable {next : Bool → List Char → Except Fault (Next κ)} {read : Reader α} {pair : κ → α → β}
  {loop : Bool → Reader (List β)} {first : Bool} {cs : List Char}

theorem Loops.of_fault (h : Loops next read pair loop) {f : Fault} (hnext : next first cs = .error f) :
    loop first cs = .error f := by
  rw [h, hnext]

theorem Loops.of_close (h : Loops next read pair loop) {rest : List Char}
    (hnext : next first cs = .ok (.close rest)) : loop first cs = .ok ([], rest) := by
  rw [h, hnext]

theorem Loops.of_item_fault (h : Loops next read pair loop) {k : κ} {inner : List Char} {f : Fault}
    (hnext : next first cs = .ok (.item k inner)) (hread : read inner = .error f) :
    loop first cs = .error f := by
  rw [h, hnext]
  simp only [hread]

theorem Loops.of_item (h : Loops next read pair loop) {k : κ} {inner mid : List Char} {a : α}
    (hnext : next first cs = .ok (.item k inner)) (hread : read inner = .ok (a, mid)) :
    loop first cs = (loop false mid).map fun p => (pair k a :: p.1, p.2) := by
  rw [h, hnext]
  simp only [hread]

end

end Conditions.Json
