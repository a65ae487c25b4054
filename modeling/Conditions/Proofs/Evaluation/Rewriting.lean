import Conditions.Proofs.Evaluation.Eager

set_option autoImplicit false

namespace Conditions.Condition

/-- The rewritings of a whole condition, each in one direction. -/
inductive Rewrites : Condition → Condition → Prop
  | permute (k : Connective) {cs ds : List Condition} (h : cs.Perm ds) :
      Rewrites (.logical k cs) (.logical k ds)
  | duplicate (k : Connective) (before : List Condition) (c : Condition)
      (after : List Condition) :
      Rewrites (.logical k (before ++ c :: after)) (.logical k (before ++ c :: c :: after))
  | splice (k : Connective) (before cs after : List Condition) :
      Rewrites (.logical k (before ++ .logical k cs :: after))
        (.logical k (before ++ cs ++ after))
  | unwrap (k : Connective) (c : Condition) : Rewrites (.logical k [c]) c

/-- The smallest congruence of the rewritings. -/
inductive Equivalent : Condition → Condition → Prop
  | rewrite {c d : Condition} (h : Rewrites c d) : Equivalent c d
  | operand (k : Connective) (before after : List Condition) {c d : Condition}
      (h : Equivalent c d) :
      Equivalent (.logical k (before ++ c :: after)) (.logical k (before ++ d :: after))
  | refl (c : Condition) : Equivalent c c
  | symm {c d : Condition} (h : Equivalent c d) : Equivalent d c
  | trans {c d e : Condition} (h : Equivalent c d) (h' : Equivalent d e) : Equivalent c e

variable {x : Bindings} {k : Connective} {c d : Condition} {cs ds : List Condition}

theorem not_decided_nil : ¬ Decided x k [] :=
  fun ⟨_, hc, _⟩ => List.not_mem_nil hc

theorem decided_cons : Decided x k (c :: cs) ↔ value x c = k.deciding ∨ Decided x k cs := by
  simp only [Decided, List.mem_cons, or_and_right, exists_or, exists_eq_left]

theorem decided_append : Decided x k (cs ++ ds) ↔ Decided x k cs ∨ Decided x k ds := by
  simp only [Decided, List.mem_append, or_and_right, exists_or]

theorem decided_perm (h : cs.Perm ds) : Decided x k cs ↔ Decided x k ds := by
  simp only [Decided, h.mem_iff]

theorem value_logical_congr (h : Decided x k cs ↔ Decided x k ds) :
    value x (.logical k cs) = value x (.logical k ds) := by
  rw [← value_logical_iff_decided, ← value_logical_iff_decided] at h
  exact k.eq_of_deciding_iff h

theorem value_logical_operand (k : Connective) (before after : List Condition)
    (h : value x c = value x d) :
    value x (.logical k (before ++ c :: after)) = value x (.logical k (before ++ d :: after)) := by
  apply value_logical_congr
  rw [decided_append, decided_cons, decided_append, decided_cons, h]

theorem value_eq_of_rewrites (h : Rewrites c d) (x : Bindings) : value x c = value x d := by
  cases h with
  | permute k h => exact value_logical_congr (decided_perm h)
  | duplicate k before c after =>
    apply value_logical_congr
    rw [decided_append, decided_cons, decided_append, decided_cons, decided_cons, or_self_left]
  | splice k before cs after =>
    apply value_logical_congr
    -- The child decides its parent just if one of the child's own operands does.
    rw [decided_append, decided_cons, value_logical_iff_decided, decided_append, decided_append,
      or_assoc]
  | unwrap k c =>
    apply k.eq_of_deciding_iff
    rw [value_logical_iff_decided, decided_cons, or_iff_left not_decided_nil]

theorem value_eq_of_equivalent (h : Equivalent c d) (x : Bindings) : value x c = value x d := by
  induction h with
  | rewrite h => exact value_eq_of_rewrites h x
  | operand k before after _ ih => exact value_logical_operand k before after ih
  | refl c => rfl
  | symm _ ih => exact ih.symm
  | trans _ _ ih ih' => exact ih.trans ih'

/-- Conditions that can be rewritten into one another have the same value under all bindings. -/
theorem evaluate_eq_of_equivalent (h : Equivalent c d) (x : Bindings) :
    (c.evaluate x).value = (d.evaluate x).value := by
  rw [evaluate_eq, evaluate_eq]
  exact value_eq_of_equivalent h x

/-- Other operands are visited in the one than in the other before the one that is true. -/
theorem evaluate_eq_of_equivalent_rearranged :
    let a := equals "$a" "1"
    let b := equals "$b" ""
    let nameless : Condition := .comparison .equal none ""
    let c := or [nameless, and [and [], or [b, a, b]]]
    let d := or [nameless, a, b]
    let x := Bindings.ofList [("b", "")]
    Equivalent c d ∧ (c.evaluate x).value = (d.evaluate x).value := by
  intro a b nameless c d x
  have empty : Equivalent (and [and [], or [b, a, b]]) (and [or [b, a, b]]) :=
    .rewrite (.splice .and [] [] [or [b, a, b]])
  have only : Equivalent (and [or [b, a, b]]) (or [b, a, b]) := .rewrite (.unwrap .and _)
  have swapped : Equivalent (or [b, a, b]) (or [a, b, b]) := .rewrite (.permute .or (.swap a b [b]))
  have merged : Equivalent (or [a, b, b]) (or [a, b]) := .symm (.rewrite (.duplicate .or [a] b []))
  have inner : Equivalent (and [and [], or [b, a, b]]) (or [a, b]) :=
    empty.trans (only.trans (swapped.trans merged))
  have outer : Equivalent c (or [nameless, or [a, b]]) := .operand .or [nameless] [] inner
  have spliced : Equivalent (or [nameless, or [a, b]]) d := .rewrite (.splice .or [nameless] [a, b] [])
  exact ⟨outer.trans spliced, evaluate_eq_of_equivalent (outer.trans spliced) x⟩

end Conditions.Condition
