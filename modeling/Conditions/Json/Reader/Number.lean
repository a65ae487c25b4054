import Conditions.Json.Reader.Basic

set_option autoImplicit false

/-!
# Numerals

`readNumeral` takes the longest numeral; `Numeral.value` is its value. The digits are gathered in 64
bits for as long as they fit, the rest of them counts only for the power of ten, and the gathered
number is scaled in binary64, at most 308 places at a time. A number beyond the largest binary64 is a
fault; one below the smallest is zero.
-/
namespace Conditions.Json

structure Exponent where
  negative : Bool
  digits : List Char

structure Numeral where
  negative : Bool
  whole : List Char
  places : Option (List Char)
  exponent : Option Exponent

def readWhole (cs : List Char) : Except Fault (List Char × List Char) :=
  match cs with
  | [] => .error (.before .eofInValue [])
  | '0' :: rest =>
    match rest with
    | d :: _ => if d.isDigit then .error (.next .invalidNumber rest) else .ok (['0'], rest)
    | [] => .ok (['0'], rest)
  | d :: rest =>
    if d.isDigit then .ok (d :: rest.takeWhile Char.isDigit, rest.dropWhile Char.isDigit)
    else .error (.next .invalidNumber cs)

def readPlaces (cs : List Char) : Except Fault (Option (List Char) × List Char) :=
  match cs with
  | '.' :: rest =>
    match rest with
    | [] => .error (.before .eofInValue [])
    | d :: _ =>
      if d.isDigit then .ok (some (rest.takeWhile Char.isDigit), rest.dropWhile Char.isDigit)
      else .error (.next .invalidNumber rest)
  | rest => .ok (none, rest)

def readSign (cs : List Char) : Bool × List Char :=
  match cs with
  | '-' :: rest => (true, rest)
  | '+' :: rest => (false, rest)
  | rest => (false, rest)

def readExponent (cs : List Char) : Except Fault (Option Exponent × List Char) :=
  match cs with
  | c :: rest =>
    if c = 'e' ∨ c = 'E' then
      let (negative, rest) := readSign rest
      match rest with
      | [] => .error (.before .eofInValue [])
      | d :: _ =>
        if d.isDigit then
          .ok (some ⟨negative, rest.takeWhile Char.isDigit⟩, rest.dropWhile Char.isDigit)
        else .error (.next .invalidNumber rest)
    else .ok (none, cs)
  | [] => .ok (none, [])

def readUnsigned (negative : Bool) (cs : List Char) : Except Fault (Numeral × List Char) := do
  let (whole, cs) ← readWhole cs
  let (places, cs) ← readPlaces cs
  let (exponent, cs) ← readExponent cs
  return (⟨negative, whole, places, exponent⟩, cs)

def readNumeral (cs : List Char) : Except Fault (Numeral × List Char) :=
  match cs with
  | '-' :: rest => readUnsigned true rest
  | _ => readUnsigned false cs

def digitValue (d : Char) : Nat := d.toNat - 48

/-- Appends digits to a number while it stays below `bound`; the digits left over are given too. -/
def gather (bound : Nat) (n : Nat) : List Char → Nat × List Char
  | [] => (n, [])
  | d :: ds =>
    if 10 * n + digitValue d < bound then gather bound (10 * n + digitValue d) ds else (n, d :: ds)

def tenTo (n : Nat) : Float := Float.ofScientific 1 false n

def scaleUp (x : Float) (places : Nat) : Option Float :=
  if places ≤ 308 then
    let y := x * tenTo places
    if y.isInf then none else some y
  else if x == 0 then some x
  else none

def scaleDown (x : Float) (places : Nat) : Float :=
  if places ≤ 308 then x / tenTo places
  else if x == 0 then x
  else scaleDown (x / tenTo 308) (places - 308)
termination_by places

/-- The binary64 number `significand * 10 ^ power`, unless it is too large. -/
def scale (significand : Nat) (power : Int) : Option Float :=
  let x := significand.toUInt64.toFloat
  if 0 ≤ power then scaleUp x power.toNat else some (scaleDown x (-power).toNat)

def signedReal (negative : Bool) (x : Float) : Number :=
  .real (if negative then -x else x).toBits

/-- A whole number with sign, exact if it fits 64 bits. There is no exact negative zero. -/
def wholeNumber (negative : Bool) (n : Nat) : Number :=
  if !negative then .exact n
  else if 0 < n ∧ n ≤ Nat.pow 2 63 then .exact (-n)
  else signedReal true n.toUInt64.toFloat

/-- The gathered digits as a number, and the power of ten that goes with it before the exponent. -/
def Numeral.mantissa (m : Numeral) : Nat × Int :=
  let (n, skipped) := gather (Nat.pow 2 64) 0 m.whole
  match m.places with
  | none => (n, skipped.length)
  | some places =>
    let (n, ignored) := gather (Nat.pow 2 64) n places
    (n, skipped.length - (places.length - ignored.length : Nat))

def Numeral.isWhole (m : Numeral) : Bool :=
  m.places.isNone && m.exponent.isNone && (gather (Nat.pow 2 64) 0 m.whole).2.isEmpty

def Numeral.scaled (m : Numeral) (power : Int) (rest : List Char) : Except Fault Number :=
  match scale m.mantissa.1 power with
  | some x => .ok (signedReal m.negative x)
  | none => .error (.before .numberOutOfRange rest)

/-- Exponents from here on are not gathered. -/
def exponentBound : Nat := Nat.pow 2 31

/-- The value of a numeral in front of `rest`. A fault lies behind the numeral, but behind the digit
that makes the exponent too large if that is the reason. -/
def Numeral.value (m : Numeral) (rest : List Char) : Except Fault Number :=
  match m.exponent with
  | none =>
    if m.isWhole then .ok (wholeNumber m.negative m.mantissa.1)
    else m.scaled m.mantissa.2 rest
  | some e =>
    match gather exponentBound 0 e.digits with
    | (n, []) => m.scaled (if e.negative then m.mantissa.2 - n else m.mantissa.2 + n) rest
    | (_, _ :: after) =>
      if e.negative ∨ m.mantissa.1 = 0 then .ok (signedReal m.negative 0)
      else .error (.before .numberOutOfRange (after ++ rest))

def readNumber (cs : List Char) : Except Fault (Number × List Char) := do
  let (numeral, rest) ← readNumeral cs
  let n ← numeral.value rest
  return (n, rest)

theorem length_readWhole {cs ds rest : List Char} (h : readWhole cs = .ok (ds, rest)) :
    rest.length < cs.length := by
  unfold readWhole at h
  split at h
  · simp at h
  · split at h
    · split at h <;> simp_all
    · simp only [Except.ok.injEq, Prod.mk.injEq] at h
      simp [← h.2]
  · rename_i d r _
    split at h
    · simp only [Except.ok.injEq, Prod.mk.injEq] at h
      rw [← h.2]
      exact Nat.lt_succ_of_le (List.dropWhile_suffix _).sublist.length_le
    · simp at h

theorem length_readPlaces {cs rest : List Char} {ds : Option (List Char)}
    (h : readPlaces cs = .ok (ds, rest)) : rest.length ≤ cs.length := by
  unfold readPlaces at h
  split at h
  · split at h
    · simp at h
    · split at h
      · simp only [Except.ok.injEq, Prod.mk.injEq] at h
        rw [← h.2]
        exact Nat.le_succ_of_le (List.dropWhile_suffix _).sublist.length_le
      · simp at h
  · simp_all

theorem length_readSign (cs : List Char) : (readSign cs).2.length ≤ cs.length := by
  unfold readSign
  split <;> simp

theorem length_readExponent {cs rest : List Char} {e : Option Exponent}
    (h : readExponent cs = .ok (e, rest)) : rest.length ≤ cs.length := by
  unfold readExponent at h
  split at h
  · rename_i c r
    split at h
    · have hs := length_readSign r
      generalize readSign r = s at h hs
      obtain ⟨negative, r'⟩ := s
      simp only at h hs
      split at h
      · simp at h
      · split at h
        · simp only [Except.ok.injEq, Prod.mk.injEq] at h
          rw [← h.2]
          exact Nat.le_succ_of_le
            (Nat.le_trans (List.dropWhile_suffix _).sublist.length_le hs)
        · simp at h
    · simp_all
  · simp_all

theorem length_readUnsigned {negative : Bool} {cs rest : List Char} {m : Numeral}
    (h : readUnsigned negative cs = .ok (m, rest)) : rest.length < cs.length := by
  cases hw : readWhole cs with
  | error f => simp [readUnsigned, hw, bind, Except.bind] at h
  | ok w =>
    cases hp : readPlaces w.2 with
    | error f => simp [readUnsigned, hw, hp, bind, Except.bind] at h
    | ok p =>
      cases he : readExponent p.2 with
      | error f => simp [readUnsigned, hw, hp, he, bind, Except.bind] at h
      | ok e =>
        simp only [readUnsigned, hw, hp, he, bind, Except.bind, pure, Except.pure,
          Except.ok.injEq, Prod.mk.injEq] at h
        have hw := length_readWhole hw
        have hp := length_readPlaces hp
        have he := length_readExponent he
        rw [← h.2]
        omega

theorem length_readNumeral {cs rest : List Char} {m : Numeral}
    (h : readNumeral cs = .ok (m, rest)) : rest.length < cs.length := by
  unfold readNumeral at h
  split at h
  · exact Nat.lt_succ_of_lt (length_readUnsigned h)
  · exact length_readUnsigned h

theorem length_readNumber {cs rest : List Char} {n : Number}
    (h : readNumber cs = .ok (n, rest)) : rest.length < cs.length := by
  cases hm : readNumeral cs with
  | error f => simp [readNumber, hm, bind, Except.bind] at h
  | ok m =>
    cases hv : m.1.value m.2 with
    | error f => simp [readNumber, hm, hv, bind, Except.bind] at h
    | ok v =>
      simp only [readNumber, hm, hv, bind, Except.bind, pure, Except.pure, Except.ok.injEq,
        Prod.mk.injEq] at h
      rw [← h.2]
      exact length_readNumeral hm

end Conditions.Json
