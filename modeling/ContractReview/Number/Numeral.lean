import ContractReview.Number.Basic
import ContractReview.Text.Blank
import ContractReview.Text.CaseMapping
import ContractReview.Text.Quoted
import ContractReview.Text.Search
import ContractReview.Text.Word

/-!
Reading numbers from text as people write them: with blanks around, a sign, single low lines between
digits, and the decimal digits of any script.
-/

namespace ContractReview.Numeral

open ContractReview.Text

/-- Blanks that may stand around a numeral; the separators of records are none of them. -/
def isPadding (c : Char) : Bool :=
  let n := c.toNat
  (9 ≤ n && n ≤ 13) || n == 32 || (127 < n && isBlank c)

def unpadded (cs : List Char) : List Char :=
  ((cs.dropWhile isPadding).reverse.dropWhile isPadding).reverse

/-- The sign, and whether it is negative. -/
def unsigned : List Char → Bool × List Char
  | '-' :: rest => (true, rest)
  | '+' :: rest => (false, rest)
  | cs => (false, cs)

/-- The value and count of a run of digits. -/
structure Run where
  value : Nat
  count : Nat
deriving DecidableEq

def Run.push (run : Run) (digit : Nat) : Run := ⟨run.value * 10 + digit, run.count + 1⟩

/-- The longest run of digits, continuing `run`; a low line counts only between two digits. -/
def takeRun (run : Run) : List Char → Run × List Char
  | [] => (run, [])
  | '_' :: c :: rest =>
      match digitValue? c with
      | some d => if run.count = 0 then (run, '_' :: c :: rest) else takeRun (run.push d) rest
      | none => (run, '_' :: c :: rest)
  | c :: rest =>
      match digitValue? c with
      | some d => takeRun (run.push d) rest
      | none => (run, c :: rest)

def digitLimit : Nat := 4300

/-- Why a text is no whole number. -/
inductive Misread
  | noNumeral (text : String)
  | tooLong (digits : Nat)
deriving DecidableEq, Repr

def Misread.text : Misread → String
  | .noNumeral text =>
      "invalid literal for int() with base 10: " ++ firstChars 200 (quoted text)
  | .tooLong digits =>
      "Exceeds the limit (" ++ toString digitLimit ++
        " digits) for integer string conversion: value has " ++ toString digits ++
        " digits; use sys.set_int_max_str_digits() to increase the limit"

def whole (text : String) : Except Misread Int :=
  let (negative, cs) := unsigned (unpadded text.toList)
  let (run, rest) := takeRun ⟨0, 0⟩ cs
  if run.count = 0 ∨ rest ≠ [] then .error (.noNumeral text)
  else if digitLimit < run.count then .error (.tooLong run.count)
  else .ok (if negative then -(run.value : Int) else run.value)

/-- A power of ten after `e`; an exponent of no size at all is none. -/
def exponentOf : List Char → Option Int
  | [] => some 0
  | c :: rest =>
      if c = 'e' ∨ c = 'E' then
        let (negative, cs) := unsigned rest
        let (run, rest) := takeRun ⟨0, 0⟩ cs
        if run.count = 0 ∨ rest ≠ [] then none
        else some (if negative then -(run.value : Int) else run.value)
      else none

/-- A fraction after the point, as the digits it adds to `run`. -/
def fractionOf (run : Run) : List Char → Option (Run × List Char)
  | '.' :: rest =>
      let (tail, rest) := takeRun ⟨0, 0⟩ rest
      if run.count = 0 ∧ tail.count = 0 then none
      else some (⟨run.value * Nat.pow 10 tail.count + tail.value, tail.count⟩, rest)
  | rest => if run.count = 0 then none else some (⟨run.value, 0⟩, rest)

def namedDouble? (negative : Bool) (cs : List Char) : Option Float :=
  let name := lowerFrom [] cs
  if cs.all (·.toNat < 128) then
    if name = "inf".toList ∨ name = "infinity".toList then some (Double.infinity negative)
    else if name = "nan".toList then some Double.notANumber
    else none
  else none

/-- A double from a decimal numeral; beyond the largest double it is infinite. -/
def double? (text : String) : Option Float :=
  let (negative, cs) := unsigned (unpadded text.toList)
  match namedDouble? negative cs with
  | some x => some x
  | none =>
      let (run, rest) := takeRun ⟨0, 0⟩ cs
      match fractionOf run rest with
      | none => none
      | some (digits, rest) =>
          (exponentOf rest).map fun power =>
            Double.ofDecimal negative digits.value (power - digits.count)

example : (whole " -1_000 ").toOption = some (-1000) ∧ (whole "1__0").toOption = none := by
  decide +kernel
example : double? "1_0.5e1" = some 105.0 ∧ double? "." = none ∧ double? "1." = some 1.0 := by
  decide +kernel

end ContractReview.Numeral
