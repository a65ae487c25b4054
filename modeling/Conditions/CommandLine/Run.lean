import Conditions.CaseTable
import Conditions.CommandLine.Arguments
import Conditions.CommandLine.Files
import Conditions.Log.Filter

set_option autoImplicit false

namespace Conditions.CommandLine

inductive Complaint where
  | usage
  | unreadableFile (path : String) (failure : ReadFailure)
  | unreadableText (error : Json.Error)
deriving DecidableEq

/-- Only stands for what is written about arguments that do not fit. Those words, which say what is
wrong with which argument, are left out like the text of help. -/
def usageText : String :=
  "usage: ceval [-v]... eval CONDITION [CONTEXT]\n       ceval [-v]... cases CONDITION CASES\n"

def Complaint.text : Complaint → String
  | .usage => usageText
  | .unreadableFile path failure => "error: cannot read " ++ path ++ ": " ++ failure.text ++ "\n"
  | .unreadableText e => "error: " ++ unreadableMessage e ++ "\n"

/-- What a run leaves behind; the log holds the events that are shown. -/
structure Run where
  exitCode : Nat
  output : String
  complaint : Option Complaint
  log : List Event
deriving DecidableEq

def Run.failed (complaint : Complaint) (log : List Event) : Run :=
  ⟨2, "", some complaint, log⟩

def operandText (read : ReadFile) (operand : String) : Except Complaint String :=
  match operand.toList with
  | '@' :: path =>
    match read (String.ofList path) with
    | .ok text => .ok text
    | .error failure => .error (.unreadableFile (String.ofList path) failure)
  | _ => .ok operand

def readCondition (read : ReadFile) (operand : String) : Traced (Except Complaint Condition) :=
  match operandText read operand with
  | .error e => .pure (.error e)
  | .ok text => (Condition.ofText text).map fun c => c.mapError .unreadableText

def readOperand {α : Type} (ofText : String → Except Json.Error α) (read : ReadFile)
    (operand : String) : Except Complaint α :=
  match operandText read operand with
  | .error e => .error e
  | .ok text => (ofText text).mapError .unreadableText

structure Verdict where
  output : String
  passed : Bool
deriving DecidableEq

def evalVerdict (value : Bool) : Verdict :=
  ⟨if value then "true\n" else "false\n", true⟩

def casesVerdict (outcomes : List CaseOutcome) : Verdict :=
  ⟨if outcomes.isEmpty then "" else report outcomes ++ "\n", outcomes.all CaseOutcome.passed⟩

def perform (read : ReadFile) : Command → Traced (Except Complaint Verdict)
  | .eval condition bindings =>
    (readCondition read condition).bind fun
      | .error e => .pure (.error e)
      | .ok c =>
        match readOperand Bindings.ofText read bindings with
        | .error e => .pure (.error e)
        | .ok x => (c.evaluate x).map fun value => .ok (evalVerdict value)
  | .cases condition table =>
    (readCondition read condition).bind fun
      | .error e => .pure (.error e)
      | .ok c =>
        match readOperand CaseTable.ofText read table with
        | .error e => .pure (.error e)
        | .ok cases => (c.runCases cases).map fun outcomes => .ok (casesVerdict outcomes)

/-- A filter text that is well formed is used in place of the verbosity. -/
def filterFor (filterText : Option String) (verbosity : Nat) : Filter :=
  (filterText.bind Filter.ofText?).getD (Filter.ofVerbosity verbosity)

def runInvocation (read : ReadFile) (filterText : Option String) (i : Invocation) : Run :=
  let result := perform read i.command
  let log := result.events.filter (filterFor filterText i.verbosity).shows
  match result.value with
  | .error complaint => .failed complaint log
  | .ok verdict => ⟨if verdict.passed then 0 else 1, verdict.output, none, log⟩

def versionText : String := "condition-eval 0.1.0\n"

def run (read : ReadFile) (filterText : Option String) (arguments : List String) : Run :=
  match request? arguments with
  | none => .failed .usage []
  | some .version => ⟨0, versionText, none, []⟩
  | some (.run i) => runInvocation read filterText i

end Conditions.CommandLine
