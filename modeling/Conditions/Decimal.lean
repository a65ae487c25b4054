set_option autoImplicit false

/-!
# The fewest decimal digits of a binary number

A positive binary64 number is `significand * 2 ^ exponent`. Every real between the midpoints to its
two neighbours is read as this number, and the midpoints too if the significand is even. On the grid
of multiples of `10 ^ k` only the neighbours of the number itself can be nearest, so
`Binary.shortest` takes the coarsest grid on which one of them is read back.
-/
namespace Conditions

/-- The number `digits * 10 ^ exponent`. -/
structure Decimal where
  digits : Nat
  exponent : Int
deriving DecidableEq

namespace Decimal

/-- `tight` says that the number below is nearer than the number above. -/
structure Binary where
  significand : Nat
  exponent : Int
  tight : Bool

def Binary.ofBits (bits : UInt64) : Binary :=
  let biased : Nat := bits.toNat / Nat.pow 2 52 % Nat.pow 2 11
  let fraction : Nat := bits.toNat % Nat.pow 2 52
  if biased = 0 then ⟨fraction, -1074, false⟩
  else ⟨Nat.pow 2 52 + fraction, (biased : Int) - 1075, fraction = 0 && 1 < biased⟩

namespace Binary

/-- A quarter of the last binary place over `10 ^ k`, as numerator and denominator. -/
def quarter (x : Binary) (k : Int) : Nat × Nat :=
  (Nat.pow 2 (x.exponent - 2).toNat * Nat.pow 10 (-k).toNat,
    Nat.pow 2 (2 - x.exponent).toNat * Nat.pow 10 k.toNat)

/-- Whether `d * 10 ^ k` is read as `x`. -/
def admits (x : Binary) (k : Int) (d : Nat) : Bool :=
  let low := (4 * x.significand - if x.tight then 1 else 2) * (x.quarter k).1
  let high := (4 * x.significand + 2) * (x.quarter k).1
  let mid := d * (x.quarter k).2
  if x.significand % 2 = 0 then low ≤ mid && mid ≤ high else low < mid && mid < high

def nearer (x : Binary) (k : Int) (d : Nat) : Nat :=
  let twice := 8 * x.significand * (x.quarter k).1
  let middle := (2 * d + 1) * (x.quarter k).2
  if twice < middle then d
  else if middle < twice then d + 1
  else if d % 2 = 0 then d else d + 1

def onGrid (x : Binary) (k : Int) : Option Nat :=
  let d := 4 * x.significand * (x.quarter k).1 / (x.quarter k).2
  match x.admits k d, x.admits k (d + 1) with
  | true, true => some (x.nearer k d)
  | true, false => some d
  | false, true => some (d + 1)
  | false, false => none

/-- The least `k` with `x < 10 ^ k`, found near the binary logarithm. -/
def magnitude (x : Binary) : Int :=
  let estimate := (x.significand.log2 + x.exponent) * 30103 / 100000
  let candidates := [estimate - 1, estimate, estimate + 1]
  (candidates.find? fun k => 4 * x.significand * (x.quarter k).1 < (x.quarter k).2).getD
    (estimate + 2)

def exactDecimal (x : Binary) : Decimal :=
  if 0 ≤ x.exponent then ⟨x.significand * Nat.pow 2 x.exponent.toNat, 0⟩
  else ⟨x.significand * Nat.pow 5 (-x.exponent).toNat, x.exponent⟩

end Binary

def trim (d : Decimal) : Decimal :=
  if h : d.digits ≠ 0 ∧ d.digits % 10 = 0 then
    have : d.digits / 10 < d.digits := by omega
    trim ⟨d.digits / 10, d.exponent + 1⟩
  else d
termination_by d.digits

/-- Seventeen digits always suffice. -/
def Binary.shortest (x : Binary) : Decimal :=
  let grids := (List.range 17).map fun (i : Nat) => x.magnitude - 1 - i
  let found := grids.findSome? fun k => (x.onGrid k).map fun d => (⟨d, k⟩ : Decimal)
  (found.getD x.exactDecimal).trim

def dropSign (cs : List Char) : List Char :=
  match cs with
  | '+' :: rest => rest
  | '-' :: rest => rest
  | _ => cs

def isDigits (cs : List Char) : Bool :=
  !cs.isEmpty && cs.all Char.isDigit

def isPower (cs : List Char) : Bool :=
  match cs with
  | [] => true
  | c :: rest => (c = 'e' || c = 'E') && isDigits (dropSign rest)

def isNumeral (cs : List Char) : Bool :=
  let body := dropSign cs
  let name := String.ofList (body.map Char.toLower)
  let whole := body.takeWhile Char.isDigit
  let behind := body.dropWhile Char.isDigit
  name = "inf" || name = "infinity" || name = "nan" ||
    match behind with
    | '.' :: rest =>
      isDigits (whole ++ rest.takeWhile Char.isDigit) && isPower (rest.dropWhile Char.isDigit)
    | _ => isDigits whole && isPower behind

end Decimal

end Conditions
