import Conditions.CommandLine.Run

set_option autoImplicit false

namespace Conditions.CommandLine

/-- Some calls give the negated code of the system. -/
def absoluteCode (code : UInt32) : UInt32 :=
  if code < 0x80000000 then code else 0 - code

def failureOf (e : IO.Error) : ReadFailure :=
  match e with
  | .noFileOrDirectory .. => .missing
  | .inappropriateType _ code _ =>
    if absoluteCode code = 20 then .notDirectory
    else if absoluteCode code = 21 then .isDirectory
    else .other e.toString
  | .invalidArgument _ code _ =>
    if absoluteCode code = 36 then .nameTooLong else .other e.toString
  | _ => .other e.toString

def readDisk (path : String) : IO (Except ReadFailure String) := do
  try
    return textOfBytes (← IO.FS.readBinFile path)
  catch e =>
    return .error (failureOf e)

def pathOf (argument : String) : Option String :=
  match argument.toList with
  | '@' :: path => some (String.ofList path)
  | _ => none

end Conditions.CommandLine

open Conditions CommandLine in
def main (arguments : List String) : IO UInt32 := do
  let files ← (arguments.filterMap pathOf).mapM fun path => do return (path, ← readDisk path)
  let read : ReadFile := fun path => (files.lookup path).getD (.error .missing)
  let result := run read (← IO.getEnv "RUST_LOG") arguments
  for event in result.log do
    IO.eprintln event.line
  IO.print result.output
  if let some complaint := result.complaint then
    IO.eprint complaint.text
  return result.exitCode.toUInt32
