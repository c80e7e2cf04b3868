/-!
Binary64 numbers by their exact values. A finite one is `m · 2 ^ q`; all conversions below go
through that value and round a quotient to the nearest double, a tie to the even one.
-/

namespace ContractReview

/-- What a binary64 number is. -/
inductive Magnitude
  | finite (negative : Bool) (m : Nat) (q : Int)
  | infinite (negative : Bool)
  | nan
deriving DecidableEq, Repr

namespace Double

def magnitude (x : Float) : Magnitude :=
  let bits := x.toBits.toNat
  let negative := Nat.pow 2 63 ≤ bits
  let exponent : Nat := bits / Nat.pow 2 52 % Nat.pow 2 11
  let fraction : Nat := bits % Nat.pow 2 52
  if exponent = 2047 then
    if fraction = 0 then .infinite negative else .nan
  else if exponent = 0 then .finite negative fraction (-1074)
  else .finite negative (Nat.pow 2 52 + fraction) ((exponent : Int) - 1075)

/-- The quotient of two numbers rounded to a whole one, a half to the even neighbour. -/
def roundDiv (num den : Nat) : Nat :=
  let whole := num / den
  let twice := 2 * (num % den)
  if twice < den ∨ (twice = den ∧ whole % 2 = 0) then whole else whole + 1

/-- `m · 2 ^ q` over one, as a pair of whole numbers. -/
def scaled (m : Nat) (q : Int) : Nat × Nat :=
  if 0 ≤ q then (m * Nat.pow 2 q.toNat, 1) else (m, Nat.pow 2 (-q).toNat)

/-- The bits of the double nearest to `num / den`. -/
def bitsOfRatio (num den : Nat) : Nat :=
  if num = 0 then 0
  else
    let guess : Int := (Nat.log2 num : Int) - Nat.log2 den
    let low := scaled 1 guess
    let top : Int := if num * low.2 < den * low.1 then guess - 1 else guess
    let q := max (top - 52) (-1074)
    let unit := scaled 1 q
    let m := roundDiv (num * unit.2) (den * unit.1)
    let bits :=
      if m < Nat.pow 2 52 then m else (q + 1075).toNat * Nat.pow 2 52 + (m - Nat.pow 2 52)
    min bits (2047 * Nat.pow 2 52)

/-- The double nearest to `± num / den`; infinite when the value is beyond the largest double. -/
def ofRatio (negative : Bool) (num den : Nat) : Float :=
  Float.ofBits (UInt64.ofNat (bitsOfRatio num den + if negative then Nat.pow 2 63 else 0))

def infinity (negative : Bool) : Float :=
  Float.ofBits (UInt64.ofNat (2047 * Nat.pow 2 52 + if negative then Nat.pow 2 63 else 0))

def notANumber : Float := Float.ofBits (UInt64.ofNat (2047 * Nat.pow 2 52 + Nat.pow 2 51))

/-- `± digits · 10 ^ exponent`. Exponents far outside the range of doubles are settled unseen. -/
def ofDecimal (negative : Bool) (digits : Nat) (exponent : Int) : Float :=
  let width : Int := (Nat.log2 digits : Int) / 3 + 1
  if digits = 0 ∨ exponent + width < -400 then ofRatio negative 0 1
  else if 400 < exponent then infinity negative
  else if 0 ≤ exponent then ofRatio negative (digits * Nat.pow 10 exponent.toNat) 1
  else ofRatio negative digits (Nat.pow 10 (-exponent).toNat)

/-- The double nearest to a whole number, if one is near enough. -/
def ofInt? (i : Int) : Option Float :=
  if bitsOfRatio i.natAbs 1 = 2047 * Nat.pow 2 52 then none
  else some (ofRatio (decide (i < 0)) i.natAbs 1)

/-- The whole part of a finite double. -/
def trunc? (x : Float) : Option Int :=
  match magnitude x with
  | .finite negative m q =>
      let value := scaled m q
      let whole : Int := (value.1 / value.2 : Nat)
      some (if negative then -whole else whole)
  | _ => none

def isNaN (x : Float) : Bool := x.isNaN

/-- Whether the whole number `i` is below the double `x`. -/
def intLt (i : Int) (x : Float) : Bool :=
  match magnitude x with
  | .nan => false
  | .infinite negative => !negative
  | .finite negative m q =>
      let value := scaled m q
      let num : Int := if negative then -(value.1 : Int) else value.1
      i * value.2 < num

/-- Whether the double `x` is below the whole number `i`. -/
def ltInt (x : Float) (i : Int) : Bool :=
  match magnitude x with
  | .nan => false
  | .infinite negative => negative
  | .finite negative m q =>
      let value := scaled m q
      let num : Int := if negative then -(value.1 : Int) else value.1
      num < i * value.2

/-- The least whole number that is not below a finite double, after rounding it to `places` decimal
places as a double. -/
def ceilRounded (places : Nat) (x : Float) : Int :=
  match magnitude x with
  | .finite negative m q =>
      let value := scaled m q
      let scale := Nat.pow 10 places
      let rounded := ofRatio negative (roundDiv (value.1 * scale) value.2) scale
      match magnitude rounded with
      | .finite negative m q =>
          let value := scaled m q
          if negative then -((value.1 / value.2 : Nat) : Int)
          else ((value.1 + value.2 - 1) / value.2 : Nat)
      | _ => 0
  | _ => 0

example : ofDecimal false 1 (-1) = 0.1 ∧ ofDecimal true 25 (-9) = -2.5e-8 := by decide +kernel
example : ofDecimal false 5 (-324) = Float.ofBits 1 ∧ ofDecimal false 1 401 = infinity false := by
  decide +kernel
example : ofInt? 9007199254740993 = some 9007199254740992.0 := by decide +kernel
example : trunc? (-2.9) = some (-2) ∧ ceilRounded 9 (5 * 0.6) = 3 := by decide +kernel

end Double

end ContractReview
