import Conditions.Proofs.CommandLine.Operands

set_option autoImplicit false

namespace Conditions.CommandLine

inductive VerbosityFlag : Nat → String → Prop
  | long : VerbosityFlag 1 "--verbose"
  | short (n : Nat) : VerbosityFlag (n + 1) (String.ofList ('-' :: List.replicate (n + 1) 'v'))

/-- Operands in their order, with so many verbosity flags among them; behind `--` nothing is a flag. -/
inductive Flagged : Nat → List String → List String → Prop
  | nil : Flagged 0 [] []
  | flag {m n : Nat} {a : String} {operands arguments : List String} (head : VerbosityFlag m a)
      (tail : Flagged n operands arguments) : Flagged (m + n) operands (a :: arguments)
  | operand {n : Nat} {a : String} {operands arguments : List String}
      (head : a.toList.head? ≠ some '-') (tail : Flagged n operands arguments) :
      Flagged n (a :: operands) (a :: arguments)
  | behind (operands : List String) : Flagged 0 operands ("--" :: operands)

/-- Verbosity flags and nothing else, so many in all. -/
inductive Flags : Nat → List String → Prop
  | nil : Flags 0 []
  | cons {m n : Nat} {a : String} {arguments : List String} (head : VerbosityFlag m a)
      (tail : Flags n arguments) : Flags (m + n) (a :: arguments)

/-- A command with its operands, at one verbosity. -/
def Line (verbosity : Nat) (name : String) (operands arguments : List String) : Prop :=
  ∃ m n front back, Flags m front ∧ Flagged n operands back ∧ arguments = front ++ name :: back ∧
    verbosity = if n = 0 then m else n

theorem VerbosityFlag.word {n : Nat} {a : String} (h : VerbosityFlag n a) :
    (Word.of a = .long "verbose".toList ∧ n = 1) ∨
      Word.of a = .short (List.replicate n 'v') ∧ 0 < n := by
  cases h with
  | long => exact .inl ⟨by decide, rfl⟩
  | short n =>
    refine .inr ⟨?_, n.succ_pos⟩
    rw [Word.of, String.toList_ofList, List.replicate_succ]
    rfl

theorem Flagged.operands? {n : Nat} {operands arguments : List String}
    (h : Flagged n operands arguments) : operands? arguments = some (n, operands) := by
  induction h with
  | nil => rfl
  | @flag m n a _ _ head tail ih =>
    rcases head.word with ⟨hword, rfl⟩ | ⟨hword, -⟩
    · simp [CommandLine.operands?, hword, ih, Word.verbosity?]
    · simp [CommandLine.operands?, hword, ih, Word.verbosity?]
  | operand head tail ih => simp [CommandLine.operands?, Word.of_eq_operand head, ih]
  | behind operands =>
    have hword : Word.of "--" = .endOfOptions := by decide
    simp [CommandLine.operands?, hword]

theorem Flags.requestAfter? {n : Nat} {arguments : List String} (h : Flags n arguments)
    (flags : Nat) (more : List String) :
    requestAfter? flags (arguments ++ more) = requestAfter? (flags + n) more := by
  induction h generalizing flags with
  | nil => rfl
  | @cons m n a _ head tail ih =>
    rw [List.cons_append, CommandLine.requestAfter?, ← Nat.add_assoc, ← ih]
    rcases head.word with ⟨hword, rfl⟩ | ⟨hword, -⟩
    · simp [hword, Word.isVersion, Word.verbosity?]
    · simp [hword, Word.isVersion, Word.verbosity?]

theorem request?_of_line {verbosity : Nat} {name : String} {operands arguments : List String}
    (hname : name.toList.head? ≠ some '-') (h : Line verbosity name operands arguments) :
    request? arguments =
      (command? name operands).map fun command => .run ⟨verbosity, command⟩ := by
  obtain ⟨m, n, front, back, hfront, hback, rfl, rfl⟩ := h
  rw [request?, hfront.requestAfter?, requestAfter?, Word.of_eq_operand hname]
  simp only [hback.operands?, Option.bind_some, Nat.zero_add]

end Conditions.CommandLine
