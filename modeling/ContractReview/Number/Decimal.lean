import ContractReview.Number.Double

/-!
Decimal texts of doubles: the fewest digits that read back as the same number, and a fixed count of
places.
-/

namespace ContractReview.Double

/-- A finite value `m · 2 ^ q` with the interval of reals that round to it, all over one
denominator. -/
structure Span where
  low : Nat
  value : Nat
  high : Nat
  den : Nat
  closed : Bool

/-- The neighbours of a double lie one unit away, half a unit below the least mantissa. -/
def spanOf (m : Nat) (q : Int) : Span :=
  let unit := scaled 1 (q - 2)
  let below := if m = Nat.pow 2 52 ∧ -1074 < q then 1 else 2
  { low := (4 * m - below) * unit.1
    value := 4 * m * unit.1
    high := (4 * m + 2) * unit.1
    den := unit.2
    closed := m % 2 = 0 }

def Span.holds (s : Span) (num den : Nat) : Bool :=
  let left := num * s.den
  (s.low * den < left && left < s.high * den) ||
    (s.closed && (left = s.low * den || left = s.high * den))

/-- `num · 10 ^ exponent` as a quotient. -/
def powerQuotient (num : Nat) (exponent : Int) : Nat × Nat :=
  if 0 ≤ exponent then (num * Nat.pow 10 exponent.toNat, 1)
  else (num, Nat.pow 10 (-exponent).toNat)

/-- The better of the two neighbours of the value on the grid `10 ^ exponent`, if it reads back. -/
def Span.onGrid (s : Span) (exponent : Int) : Option Nat :=
  let grid := powerQuotient 1 exponent
  let down := s.value * grid.2 / (s.den * grid.1)
  let near := roundDiv (s.value * grid.2) (s.den * grid.1)
  let far := if near = down then down + 1 else down
  let reads (k : Nat) : Bool :=
    let at' := powerQuotient k exponent
    s.holds at'.1 at'.2
  if reads near then some near else if reads far then some far else none

/-- The first grid, from the coarsest, on which a neighbour reads back. -/
def Span.search (s : Span) (exponent : Int) : Nat → Nat × Int
  | 0 => (roundDiv s.value s.den, 0)
  | fuel + 1 =>
      match s.onGrid exponent with
      | some digits => (digits, exponent)
      | none => s.search (exponent - 1) fuel

/-- A power of ten above the value. -/
def Span.top (s : Span) : Int :=
  let bits : Int := (Nat.log2 s.value : Int) - Nat.log2 s.den + 1
  if 0 ≤ bits then bits * 30103 / 100000 + 1 else bits * 30102 / 100000 + 1

def trimZeros (digits : Nat) (exponent : Int) : Nat → Nat × Int
  | 0 => (digits, exponent)
  | fuel + 1 =>
      if digits ≠ 0 ∧ digits % 10 = 0 then trimZeros (digits / 10) (exponent + 1) fuel
      else (digits, exponent)

/-- The shortest decimal `digits · 10 ^ exponent` that reads back as `m · 2 ^ q`, the nearest of
those. -/
def shortest (m : Nat) (q : Int) : Nat × Int :=
  let s := spanOf m q
  let found := s.search s.top 25
  trimZeros found.1 found.2 400

def zeros (n : Nat) : List Char := List.replicate n '0'

def natText (n : Nat) : List Char := Nat.toDigits 10 n

def intText (i : Int) : List Char := if i < 0 then '-' :: natText i.natAbs else natText i.natAbs

/-- Positional from `0.0001` up to below `10 ^ 16`, else with an exponent of at least two digits; a
whole number keeps one zero behind its point. -/
def decimalChars (digits : List Char) (exponent : Int) : List Char :=
  let count : Int := digits.length
  let point := count + exponent
  if -4 < point ∧ point ≤ 16 then
    if point ≤ 0 then '0' :: '.' :: zeros (-point).toNat ++ digits
    else if count ≤ point then digits ++ zeros (point - count).toNat ++ ['.', '0']
    else digits.take point.toNat ++ '.' :: digits.drop point.toNat
  else
    let power := point - 1
    let mark := natText power.natAbs
    let body := match digits with
      | [d] => [d]
      | d :: rest => d :: '.' :: rest
      | [] => []
    body ++ 'e' :: (if power < 0 then '-' else '+') ::
      (if mark.length < 2 then '0' :: mark else mark)

def textChars (x : Float) : List Char :=
  match magnitude x with
  | .nan => "nan".toList
  | .infinite negative => if negative then "-inf".toList else "inf".toList
  | .finite negative m q =>
      let body :=
        if m = 0 then "0.0".toList
        else
          let found := shortest m q
          decimalChars (natText found.1) found.2
      if negative then '-' :: body else body

/-- The text of a double. -/
def text (x : Float) : String := String.ofList (textChars x)

/-- Two places after the point; a half goes to the even neighbour of the exact value. -/
def hundredths (x : Float) : String :=
  match magnitude x with
  | .nan => "nan"
  | .infinite negative => if negative then "-inf" else "inf"
  | .finite negative m q =>
      let value := scaled m q
      let units := roundDiv (value.1 * 100) value.2
      let places := natText (units % 100)
      String.ofList <|
        (if negative then ['-'] else []) ++ natText (units / 100) ++
          '.' :: (if places.length < 2 then '0' :: places else places)

example : textChars 0.1 = "0.1".toList ∧ textChars 1e16 = "1e+16".toList := by decide +kernel
example : textChars 5e-324 = "5e-324".toList ∧ textChars (-0.0) = "-0.0".toList := by
  decide +kernel
example : textChars 1e15 = "1000000000000000.0".toList ∧ textChars 1e-5 = "1e-05".toList := by
  decide +kernel

end ContractReview.Double
