set_option autoImplicit false

/-!
# Arguments of the command line

Options may stand before and behind the name of a command and between its operands; behind `--` there
are operands only. The verbosity is the number of flags behind the name if there are any, else of
those before it.
-/
namespace Conditions.CommandLine

/-- An operand is JSON text, or `@` and the path of a file that holds it. -/
inductive Command where
  | eval (condition bindings : String)
  | cases (condition table : String)
deriving DecidableEq

structure Invocation where
  verbosity : Nat
  command : Command
deriving DecidableEq

inductive Request where
  | run (invocation : Invocation)
  | version
deriving DecidableEq

inductive Word where
  | endOfOptions
  | long (name : List Char)
  | short (letters : List Char)
  | operand
deriving DecidableEq

/-- A hyphen alone is an operand. -/
def Word.of (argument : String) : Word :=
  match argument.toList with
  | '-' :: '-' :: [] => .endOfOptions
  | '-' :: '-' :: name => .long name
  | '-' :: c :: letters => .short (c :: letters)
  | _ => .operand

def Word.verbosity? : Word → Option Nat
  | .long name => if name = "verbose".toList then some 1 else none
  | .short letters => if letters.all (· = 'v') then some letters.length else none
  | _ => none

/-- Whether an option asks for the version before it goes wrong. -/
def Word.isVersion : Word → Bool
  | .long name => name = "version".toList
  | .short letters => (letters.dropWhile (· = 'v')).head? = some 'V'
  | _ => false

def operands? : List String → Option (Nat × List String)
  | [] => some (0, [])
  | a :: as =>
    match Word.of a with
    | .endOfOptions => some (0, as)
    | .operand => (operands? as).map fun p => (p.1, a :: p.2)
    | option =>
      option.verbosity?.bind fun n => (operands? as).map fun p => (n + p.1, p.2)

def command? (name : String) (operands : List String) : Option Command :=
  if name = "eval" then
    match operands with
    | [condition] => some (.eval condition "\x7b\x7d")
    | [condition, bindings] => some (.eval condition bindings)
    | _ => none
  else if name = "cases" then
    match operands with
    | [condition, table] => some (.cases condition table)
    | _ => none
  else none

def requestAfter? (flags : Nat) : List String → Option Request
  | [] => none
  | a :: as =>
    match Word.of a with
    | .endOfOptions => none
    | .operand =>
      (operands? as).bind fun p =>
        (command? a p.2).map fun c => .run ⟨if p.1 = 0 then flags else p.1, c⟩
    | option =>
      if option.isVersion then some .version
      else option.verbosity?.bind fun n => requestAfter? (flags + n) as

/-- Help is left out. The command answers `-h`, `--help` and `help` with a text that its parser of
arguments writes, and with success; here they do not fit, as unknown options and commands do not. -/
def request? (arguments : List String) : Option Request :=
  requestAfter? 0 arguments

end Conditions.CommandLine
