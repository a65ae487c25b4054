import Conditions.Decimal
import Conditions.Entries

set_option autoImplicit false

namespace Conditions

namespace Json

/-- A number without fraction and exponent that fits 64 bits is exact, but for the negative zero. -/
inductive Number where
  | exact (value : Int)
  | real (bits : UInt64)
deriving DecidableEq

/-- Decimals below `10 ^ most` and not below `10 ^ (least - 1)` are written positionally, all others
with an exponent that always has a sign. -/
structure Layout where
  least : Int
  most : Int

def Number.layout : Layout := ⟨-4, 16⟩

def Layout.write (layout : Layout) (d : Decimal) : List Char :=
  let digits := Nat.toDigits 10 d.digits
  let point := digits.length + d.exponent
  if 0 < point ∧ point ≤ layout.most then
    let whole := digits.take point.toNat
    let places := digits.drop point.toNat
    whole ++ List.replicate (point.toNat - whole.length) '0' ++
      '.' :: (if places.isEmpty then ['0'] else places)
  else if layout.least ≤ point ∧ point ≤ 0 then
    '0' :: '.' :: (List.replicate (-point).toNat '0' ++ digits)
  else
    let places := digits.drop 1
    let power := point - 1
    digits.take 1 ++ (if places.isEmpty then [] else '.' :: places) ++
      'e' :: (if power < 0 then '-' else '+') :: Nat.toDigits 10 power.natAbs

def realText (bits : UInt64) : List Char :=
  let magnitude := Decimal.Binary.ofBits bits
  (if bits.toNat < Nat.pow 2 63 then [] else ['-']) ++
    if magnitude.significand = 0 then ['0', '.', '0']
    else Number.layout.write magnitude.shortest

def Number.text : Number → List Char
  | .exact (.ofNat n) => Nat.toDigits 10 n
  | .exact (.negSucc n) => '-' :: Nat.toDigits 10 (n + 1)
  | .real bits => realText bits

end Json

inductive Json where
  | null
  | boolean (value : Bool)
  | number (value : Json.Number)
  | string (value : String)
  | array (items : List Json)
  | object (members : List (String × Json))

namespace Json

/-- Of members with one key the last counts. -/
def ofMembers (members : List (String × Json)) : Json :=
  .object (Entries.ofList members)

/-- What can be said of a value before its items or members are known. -/
inductive Shape where
  | null
  | boolean (value : Bool)
  | number (value : Number)
  | string (value : String)
  | sequence
  | map
deriving DecidableEq

def shape : Json → Shape
  | .null => .null
  | .boolean b => .boolean b
  | .number n => .number n
  | .string s => .string s
  | .array _ => .sequence
  | .object _ => .map

def escapeChar (c : Char) : List Char :=
  match c with
  | '"' => ['\\', '"']
  | '\\' => ['\\', '\\']
  | '\x08' => ['\\', 'b']
  | '\x0c' => ['\\', 'f']
  | '\n' => ['\\', 'n']
  | '\r' => ['\\', 'r']
  | '\t' => ['\\', 't']
  | c =>
    if c.toNat < 0x20 then
      ['\\', 'u', '0', '0', Nat.digitChar (c.toNat / 16), Nat.digitChar (c.toNat % 16)]
    else [c]

def renderString (s : String) : List Char :=
  '"' :: (s.toList.flatMap escapeChar ++ ['"'])

mutual

def render : Json → List Char
  | .null => ['n', 'u', 'l', 'l']
  | .boolean true => ['t', 'r', 'u', 'e']
  | .boolean false => ['f', 'a', 'l', 's', 'e']
  | .number n => n.text
  | .string s => renderString s
  | .array [] => ['[', ']']
  | .array (v :: vs) => '[' :: (render v ++ renderItems vs)
  | .object [] => ['{', '}']
  | .object ((k, v) :: ms) => '{' :: (renderString k ++ ':' :: (render v ++ renderMembers ms))

def renderItems : List Json → List Char
  | [] => [']']
  | v :: vs => ',' :: (render v ++ renderItems vs)

def renderMembers : List (String × Json) → List Char
  | [] => ['}']
  | (k, v) :: ms => ',' :: (renderString k ++ ':' :: (render v ++ renderMembers ms))

end

def text (v : Json) : String :=
  String.ofList v.render

end Json

end Conditions
