import Conditions.Proofs.CommandLine.Flags

set_option autoImplicit false

namespace Conditions

namespace Filter

theorem shows_ofLevel (l : Level) (e : Event) :
    (ofLevel l).shows e = decide (e.level.rank ≤ l.rank) := by
  simp [shows, ruleFor, ofLevel, Rule.covers, Demand.metBy, prefer]

theorem not_shows_ofVerbosity {flags : Nat} (h : flags ≤ 1) (e : Event) :
    (ofVerbosity flags).shows e = false := by
  have few : flags = 0 ∨ flags = 1 := by omega
  rcases few with rfl | rfl <;> rw [ofVerbosity, shows_ofLevel] <;> cases e <;> rfl

theorem shows_ofVerbosity_two (e : Event) : (ofVerbosity 2).shows e = decide (e.level = .debug) := by
  rw [ofVerbosity, shows_ofLevel]
  cases e <;> rfl

theorem shows_ofVerbosity {flags : Nat} (h : 3 ≤ flags) (e : Event) :
    (ofVerbosity flags).shows e = true := by
  obtain ⟨n, rfl⟩ := Nat.exists_eq_add_of_le' h
  have all : ofVerbosity (n + 3) = ofLevel .trace := rfl
  rw [all, shows_ofLevel]
  cases e <;> rfl

/-- What so many flags show of some events. -/
theorem filter_ofVerbosity (flags : Nat) (events : List Event) :
    (flags ≤ 1 → events.filter (ofVerbosity flags).shows = []) ∧
    (flags = 2 → events.filter (ofVerbosity flags).shows = events.filter (·.level = .debug)) ∧
    (3 ≤ flags → events.filter (ofVerbosity flags).shows = events) := by
  refine ⟨?_, ?_, ?_⟩
  · intro h
    exact List.filter_eq_nil_iff.2 fun e _ => by simp [not_shows_ofVerbosity h]
  · rintro rfl
    exact List.filter_congr fun e _ => shows_ofVerbosity_two e
  · intro h
    exact List.filter_eq_self.2 fun e _ => shows_ofVerbosity h e

end Filter

namespace CommandLine

/-- The second arguments are the first with so many verbosity flags put in, none of them behind `--`. -/
inductive FlagsAdded : Nat → List String → List String → Prop
  | nil : FlagsAdded 0 [] []
  | flag {m n : Nat} {a : String} {plain arguments : List String} (head : VerbosityFlag m a)
      (tail : FlagsAdded n plain arguments) : FlagsAdded (m + n) plain (a :: arguments)
  | keep {n : Nat} {a : String} {plain arguments : List String} (options : a ≠ "--")
      (tail : FlagsAdded n plain arguments) : FlagsAdded n (a :: plain) (a :: arguments)
  | behind (arguments : List String) : FlagsAdded 0 ("--" :: arguments) ("--" :: arguments)

theorem Word.of_eq_endOfOptions_iff {a : String} : Word.of a = .endOfOptions ↔ a = "--" := by
  constructor
  · intro h
    rw [← String.toList_inj]
    unfold Word.of at h
    split at h
    · assumption
    · cases h
    · cases h
    · cases h
  · rintro rfl
    decide

theorem operands?_flag {m : Nat} {a : String} (h : VerbosityFlag m a) (as : List String) :
    operands? (a :: as) = (operands? as).map fun p => (m + p.1, p.2) := by
  rcases h.word with ⟨hword, rfl⟩ | ⟨hword, -⟩
  · simp [operands?, hword, Word.verbosity?]
  · simp [operands?, hword, Word.verbosity?]

theorem FlagsAdded.operands? {n : Nat} {plain arguments : List String}
    (h : FlagsAdded n plain arguments) :
    operands? arguments = (operands? plain).map fun p => (n + p.1, p.2) := by
  induction h with
  | nil => rfl
  | @flag m n a plain arguments head tail ih =>
    rw [operands?_flag head, ih, Option.map_map]
    simp only [Function.comp_def, Nat.add_assoc]
  | @keep n a plain arguments options tail ih =>
    have option (count : Option Nat) :
        (count.bind fun k => ((CommandLine.operands? plain).map fun p => (n + p.1, p.2)).map
          fun p => (k + p.1, p.2)) =
        (count.bind fun k => (CommandLine.operands? plain).map fun p => (k + p.1, p.2)).map
          fun p => (n + p.1, p.2) := by
      cases count <;> cases CommandLine.operands? plain <;> simp [Nat.add_left_comm]
    rw [CommandLine.operands?, CommandLine.operands?, ih]
    cases hword : Word.of a with
    | endOfOptions => exact absurd (Word.of_eq_endOfOptions_iff.1 hword) options
    | operand => cases CommandLine.operands? plain <;> rfl
    | long name => exact option _
    | short letters => exact option _
  | behind arguments =>
    have word : Word.of "--" = .endOfOptions := by decide
    simp [CommandLine.operands?, word]

theorem requestAfter?_of_name {name : String} (hname : name.toList.head? ≠ some '-') (flags : Nat)
    (arguments : List String) :
    requestAfter? flags (name :: arguments) = (operands? arguments).bind fun p =>
      (command? name p.2).map fun c => .run ⟨if p.1 = 0 then flags else p.1, c⟩ := by
  rw [requestAfter?, Word.of_eq_operand hname]

/-- With flags the same is asked for, at the verbosity that they stand for. -/
theorem request?_of_flagsAdded {name : String} (hname : name.toList.head? ≠ some '-') {m n : Nat}
    {front plain back : List String} {command : Command}
    (valid : request? (name :: plain) = some (.run ⟨0, command⟩)) (hfront : Flags m front)
    (hback : FlagsAdded n plain back) :
    request? (front ++ name :: back) = some (.run ⟨if n = 0 then m else n, command⟩) := by
  rw [request?, requestAfter?_of_name hname, Option.bind_eq_some_iff] at valid
  obtain ⟨⟨count, operands⟩, hoperands, hcommand⟩ := valid
  obtain ⟨c, hc, hrun⟩ := Option.map_eq_some_iff.1 hcommand
  obtain ⟨hcount, rfl⟩ : count = 0 ∧ c = command := by simpa using hrun
  rw [request?, hfront.requestAfter?, requestAfter?_of_name hname, hback.operands?, hoperands]
  simp [hc, hcount]

theorem log_runInvocation (read : ReadFile) (filterText : Option String) (i : Invocation) :
    (runInvocation read filterText i).log =
      (perform read i.command).events.filter (filterFor filterText i.verbosity).shows := by
  rw [runInvocation]
  cases (perform read i.command).value <;> rfl

theorem runInvocation_verbosity (read : ReadFile) (command : Command) (flags flags' : Nat) :
    let r := runInvocation read none ⟨flags, command⟩
    let r' := runInvocation read none ⟨flags', command⟩
    r.exitCode = r'.exitCode ∧ r.output = r'.output ∧ r.complaint = r'.complaint := by
  simp only [runInvocation]
  cases (perform read command).value <;> exact ⟨rfl, rfl, rfl⟩

/-- Verbosity flags change neither the result nor the complaint, and the log shows no events if they
count as one at most, the debugging ones for two, and all for more. -/
theorem run_of_flagsAdded (read : ReadFile) {name : String} {front plain back : List String}
    {command : Command} {m n : Nat} (hname : name = "eval" ∨ name = "cases")
    (valid : request? (name :: plain) = some (.run ⟨0, command⟩)) (hfront : Flags m front)
    (hback : FlagsAdded n plain back) :
    let flagless := run read none (name :: plain)
    let r := run read none (front ++ name :: back)
    let events := (perform read command).events
    let count := if n = 0 then m else n
    r.exitCode = flagless.exitCode ∧ r.output = flagless.output ∧
      r.complaint = flagless.complaint ∧ r.log.Sublist events ∧
      (count ≤ 1 → r.log = []) ∧ (count = 2 → r.log = events.filter (·.level = .debug)) ∧
      (3 ≤ count → r.log = events) := by
  intro flagless r events count
  have hhead : name.toList.head? ≠ some '-' := by rcases hname with rfl | rfl <;> decide
  have hflagless : flagless = runInvocation read none ⟨0, command⟩ := by
    simp only [flagless, run, valid]
  have hr : r = runInvocation read none ⟨count, command⟩ := by
    simp only [r, run, request?_of_flagsAdded hhead valid hfront hback, count]
  have hlog : r.log = events.filter (Filter.ofVerbosity count).shows := by
    rw [hr, log_runInvocation]
    rfl
  obtain ⟨hcode, houtput, hcomplaint⟩ := runInvocation_verbosity read command count 0
  rw [hlog, hr, hflagless]
  exact ⟨hcode, houtput, hcomplaint, List.filter_sublist, Filter.filter_ofVerbosity count events⟩

/-- A case fails, and the flags behind the name outdo those in front of it. -/
theorem run_of_flagsAdded_failing :
    let read : ReadFile := fun path =>
      if path = "c" then .ok "[\"OR\",[\"==\",null,\"\"],[\"AND\"]]" else .error .missing
    let plain := ["@c", "[[\x7b\x7d,false]]"]
    let back := ["-vv", "@c", "--verbose", "[[\x7b\x7d,false]]"]
    let command := Command.cases "@c" "[[\x7b\x7d,false]]"
    let r := run read none (["-v", "--verbose"] ++ "cases" :: back)
    request? ("cases" :: plain) = some (.run ⟨0, command⟩) ∧ Flags 2 ["-v", "--verbose"] ∧
      FlagsAdded 3 plain back ∧ r.exitCode = 1 ∧ r.output = "0 FAIL\n" ∧ r.complaint = none ∧
      r.log = (perform read command).events := by
  intro read plain back command r
  have valid : request? ("cases" :: plain) = some (.run ⟨0, command⟩) := by decide
  have front : Flags 2 ["-v", "--verbose"] := .cons (.short 0) (.cons .long .nil)
  have added : FlagsAdded 3 plain back :=
    .flag (.short 1) (.keep (by decide) (.flag .long (.keep (by decide) .nil)))
  obtain ⟨hcode, houtput, hcomplaint, -, -, -, all⟩ :=
    run_of_flagsAdded read (.inr rfl) valid front added
  have flagless : run read none ("cases" :: plain) = ⟨1, "0 FAIL\n", none, []⟩ := by decide +kernel
  rw [flagless] at hcode houtput hcomplaint
  exact ⟨valid, front, added, hcode, houtput, hcomplaint, all (by decide)⟩

end CommandLine

end Conditions
