import Conditions.Text.Characters

set_option autoImplicit false

/-!
# Files that a command may read

A set of files, named by paths from one directory. Reading a path gives the text of its file or the
reason why there is none. Nothing is known of what lies outside the directory but that there are
directories above it.
-/
namespace Conditions.CommandLine

inductive ReadFailure where
  | missing
  | notDirectory
  | isDirectory
  | nameTooLong
  | notText
  | other (reason : String)
deriving DecidableEq

def ReadFailure.text : ReadFailure → String
  | .missing => "No such file or directory (os error 2)"
  | .notDirectory => "Not a directory (os error 20)"
  | .isDirectory => "Is a directory (os error 21)"
  | .nameTooLong => "File name too long (os error 36)"
  | .notText => "stream did not contain valid UTF-8"
  | .other reason => reason

abbrev ReadFile := String → Except ReadFailure String

inductive FileNode where
  | file (bytes : ByteArray)
  | directory

def textOfBytes (bytes : ByteArray) : Except ReadFailure String :=
  match String.fromUTF8? bytes with
  | some s => .ok s
  | none => .error .notText

def splitSlashes : List Char → List (List Char)
  | [] => [[]]
  | c :: cs =>
    match splitSlashes cs with
    | [] => [[c]]
    | part :: parts => if c = '/' then [] :: part :: parts else (c :: part) :: parts

structure Files where
  entries : List (List (List Char) × FileNode)

namespace Files

def ofList (es : List (String × FileNode)) : Files :=
  ⟨es.map fun e => (splitSlashes e.1.toList, e.2)⟩

/-- What lies at a place; every part of the way to an entry is a directory. -/
def node? (files : Files) (place : List (List Char)) : Option FileNode :=
  if place.isEmpty then some .directory
  else
    match files.entries.find? (·.1 = place) with
    | some e => some e.2
    | none => if files.entries.any fun e => place.isPrefixOf e.1 then some .directory else none

def longestName : Nat := 255

def longestPath : Nat := 4095

def walkOutside : List (List Char) → Except ReadFailure FileNode
  | [] => .ok .directory
  | name :: names =>
    if name = [] ∨ name = ['.'] ∨ name = ['.', '.'] then walkOutside names
    else if Text.byteCount name ≤ longestName then .error .missing
    else .error .nameTooLong

def walk (files : Files) (place : List (List Char)) :
    List (List Char) → Except ReadFailure FileNode
  | [] =>
    match files.node? place with
    | some n => .ok n
    | none => .error .missing
  | name :: names =>
    match files.node? place with
    | none => .error .missing
    | some (.file _) => .error .notDirectory
    | some .directory =>
      if name = [] ∨ name = ['.'] then files.walk place names
      else if name = ['.', '.'] then
        if place.isEmpty then walkOutside names else files.walk place.dropLast names
      else if Text.byteCount name ≤ longestName then files.walk (place ++ [name]) names
      else .error .nameTooLong

/-- A path that starts with a slash leads outside. -/
def find (files : Files) (path : List Char) : Except ReadFailure FileNode :=
  if path = [] then .error .missing
  else if longestPath < Text.byteCount path then .error .nameTooLong
  else if path.head? = some '/' then walkOutside (splitSlashes path)
  else files.walk [] (splitSlashes path)

def read (files : Files) : ReadFile := fun path =>
  match files.find path.toList with
  | .error e => .error e
  | .ok .directory => .error .isDirectory
  | .ok (.file bytes) => textOfBytes bytes

end Files

end Conditions.CommandLine
