import Conditions.Entries
import Conditions.Text.Characters
import Conditions.Text.Quoted
import Conditions.Decimal
import Conditions.Json.Value
import Conditions.Json.Error
import Conditions.Json.Reader.Basic
import Conditions.Json.Reader.String
import Conditions.Json.Reader.Number
import Conditions.Json.Reader.Next
import Conditions.Json.Reader.Value
import Conditions.Json.Reader.Typed
import Conditions.Condition.Basic
import Conditions.Condition.Classification
import Conditions.Bindings
import Conditions.Evaluation
import Conditions.Session
import Conditions.CaseTable
import Conditions.Log.Event
import Conditions.Pattern.Basic
import Conditions.Pattern.Escape
import Conditions.Pattern.Brackets
import Conditions.Pattern.Reader
import Conditions.Log.Filter
import Conditions.CommandLine.Arguments
import Conditions.CommandLine.Files
import Conditions.CommandLine.Run
import Conditions.Main
import Conditions.Proofs.Condition.Classification
import Conditions.Proofs.Condition.JsonForm
import Conditions.Proofs.Condition.DefectivePlace
import Conditions.Proofs.Condition.FirstDefect
import Conditions.Proofs.Condition.Relocation
import Conditions.Proofs.Json.Arrays
import Conditions.Proofs.Json.Spelling
import Conditions.Proofs.Condition.Rendering
import Conditions.Proofs.Json.Nesting
import Conditions.Proofs.Condition.Depth
import Conditions.Proofs.Evaluation.Eager
import Conditions.Proofs.Evaluation.Rewriting
import Conditions.Proofs.Evaluation.References
import Conditions.Proofs.Evaluation.Monotone
import Conditions.Proofs.Condition.Reading
import Conditions.Proofs.Evaluation.Texts
import Conditions.Proofs.Json.Objects
import Conditions.Proofs.Json.Loops
import Conditions.Proofs.Bindings.Rendering
import Conditions.Proofs.Bindings.Written
import Conditions.Proofs.Json.Numerals
import Conditions.Proofs.Json.Document
import Conditions.Proofs.CaseTable.Report
import Conditions.Proofs.CaseTable.Rendering
import Conditions.Proofs.Json.Routes
import Conditions.Proofs.Bindings.Routes
import Conditions.Proofs.CaseTable.Routes
import Conditions.Proofs.Json.Lines
import Conditions.Proofs.Json.ByteOrder
import Conditions.Proofs.Bindings.IllTyped
import Conditions.Proofs.Json.Faults
import Conditions.Proofs.Texts.Places
import Conditions.Proofs.Json.Truncation
import Conditions.Proofs.Texts.Truncation
import Conditions.Proofs.Texts.Continuation
import Conditions.Proofs.CommandLine.Evaluation
import Conditions.Proofs.CommandLine.Cases
import Conditions.Proofs.CommandLine.Flags
import Conditions.Proofs.CommandLine.Precedence
import Conditions.Proofs.CommandLine.Verbosity
import Conditions.Proofs.Session
