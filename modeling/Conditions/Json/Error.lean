import Conditions.Text.Characters
import Conditions.Json.Value
import Conditions.Text.Quoted

set_option autoImplicit false

/-!
# Why a JSON text is refused, and where

A `Cause` says what is wrong, a `Fault` also where: it keeps the part of the text that was not read
yet, and how many bytes of that part belong to the faulty place. `Error` is what a caller gets. It
has the place as a line, counted from one, and a column, which counts bytes of the UTF-8 form and so
may lie inside a character.
-/
namespace Conditions.Json

structure Position where
  line : Nat
  column : Nat
deriving DecidableEq, Repr

/-- The position `index` bytes after `start`, where `start` is the position of the text. -/
def Position.advance (start : Position) : List Char → Nat → Position
  | [], _ => start
  | c :: cs, index =>
    if index < c.utf8Size then ⟨start.line, start.column + index⟩
    else if c = '\n' then Position.advance ⟨start.line + 1, 0⟩ cs (index - c.utf8Size)
    else Position.advance ⟨start.line, start.column + c.utf8Size⟩ cs (index - c.utf8Size)

def Position.ofIndex (text : List Char) (index : Nat) : Position :=
  Position.advance ⟨1, 0⟩ text index

inductive Expected where
  | map
  | string
  | boolean
  | sequence
  | case
  | caseOfTwo
  | fewerElements
deriving DecidableEq

def Expected.text : Expected → String
  | .map => "a map"
  | .string => "a string"
  | .boolean => "a boolean"
  | .sequence => "a sequence"
  | .case => "tuple struct Case"
  | .caseOfTwo => "tuple struct Case with 2 elements"
  | .fewerElements => "fewer elements in array"

def Shape.text : Shape → String
  | .null => "null"
  | .boolean b => "boolean `" ++ (if b then "true" else "false") ++ "`"
  | .number n =>
    (match n with
      | .exact _ => "integer `"
      | .real _ => "floating point `") ++ String.ofList n.text ++ "`"
  | .string s => "string " ++ Text.quoted s
  | .sequence => "sequence"
  | .map => "map"

inductive Cause where
  | eofInValue
  | eofInList
  | eofInObject
  | eofInString
  | expectedIdent
  | expectedValue
  | expectedListComma
  | expectedObjectComma
  | expectedColon
  | keyNotString
  | trailingComma
  | trailingCharacters
  | controlCharacter
  | invalidEscape
  | loneSurrogate
  | unfinishedSurrogate
  | invalidNumber
  | numberOutOfRange
  | wrongType (got : Shape) (expected : Expected)
  | wrongLength (found : Nat) (expected : Expected)
  | refused (reason : String)
deriving DecidableEq

inductive Category where
  | eof
  | data
  | grammar
deriving DecidableEq

def Cause.category : Cause → Category
  | .eofInValue | .eofInList | .eofInObject | .eofInString => .eof
  | .wrongType .. | .wrongLength .. | .refused _ => .data
  | _ => .grammar

def Cause.text : Cause → String
  | .eofInValue => "EOF while parsing a value"
  | .eofInList => "EOF while parsing a list"
  | .eofInObject => "EOF while parsing an object"
  | .eofInString => "EOF while parsing a string"
  | .expectedIdent => "expected ident"
  | .expectedValue => "expected value"
  | .expectedListComma => "expected `,` or `]`"
  | .expectedObjectComma => "expected `,` or `\x7d`"
  | .expectedColon => "expected `:`"
  | .keyNotString => "key must be a string"
  | .trailingComma => "trailing comma"
  | .trailingCharacters => "trailing characters"
  | .controlCharacter => "control character (\\u0000-\\u001F) found while parsing a string"
  | .invalidEscape => "invalid escape"
  | .loneSurrogate => "lone leading surrogate in hex escape"
  | .unfinishedSurrogate => "unexpected end of hex escape"
  | .invalidNumber => "invalid number"
  | .numberOutOfRange => "number out of range"
  | .wrongType got expected => "invalid type: " ++ got.text ++ ", expected " ++ expected.text
  | .wrongLength found expected =>
    "invalid length " ++ Nat.repr found ++ ", expected " ++ expected.text
  | .refused reason => reason

/-- The faulty place is `past` bytes into `rest`, the part of the text that was not read. -/
structure Fault where
  cause : Cause
  rest : List Char
  past : Nat
deriving DecidableEq

def Fault.before (cause : Cause) (rest : List Char) : Fault :=
  ⟨cause, rest, 0⟩

/-- A fault at the next byte, which belongs to the place. -/
def Fault.next (cause : Cause) (rest : List Char) : Fault :=
  ⟨cause, rest, min 1 (Text.byteCount rest)⟩

def Fault.index (text : List Char) (f : Fault) : Nat :=
  Text.byteCount text - Text.byteCount f.rest + f.past

structure Error where
  cause : Cause
  position : Option Position
deriving DecidableEq

def Error.message (e : Error) : String :=
  match e.position with
  | none => e.cause.text
  | some p =>
    e.cause.text ++ " at line " ++ Nat.repr p.line ++ " column " ++ Nat.repr p.column

/-- The number that digits write, if it fits 64 bits. -/
def countOf? (digits : List Char) : Option Nat :=
  let n := digits.foldl (fun n d => 10 * n + (d.toNat - 48)) 0
  if digits.isEmpty || Nat.pow 2 64 ≤ n then none else some n

/-- The number at the end of a text, and what stands before it and the word in front of it. The text
is given backwards, and so is what stands before. -/
def takeCount? (word : String) (cs : List Char) : Option (Nat × List Char) :=
  match countOf? (cs.takeWhile Char.isDigit).reverse with
  | none => none
  | some n =>
    (word.toList.reverse.isPrefixOf? (cs.dropWhile Char.isDigit)).map fun before => (n, before)

/-- The position that ends a message, and the message without it. -/
def splitPosition? (message : List Char) : Option (List Char × Position) :=
  match takeCount? " column " message.reverse with
  | none => none
  | some (column, rest) =>
    (takeCount? " at line " rest).map fun p => (p.2.reverse, ⟨p.1, column⟩)

/-- The error for a reason of its own, which has the position that the reason ends in, if any. -/
def Error.ofReason (reason : String) : Error :=
  match splitPosition? reason.toList with
  | none => ⟨.refused reason, none⟩
  | some (message, p) => ⟨.refused (String.ofList message), some p⟩

def Fault.locate (text : List Char) (f : Fault) : Error :=
  ⟨f.cause, some (Position.ofIndex text (f.index text))⟩

end Conditions.Json
