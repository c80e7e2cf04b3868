import ContractReview.Json.Basic
import ContractReview.Number.Numeral

/-!
Plain scalars of a YAML 1.1 document: which of them are truth values, numbers or nothing at all.
-/

namespace ContractReview.Yaml

open Text

inductive Scalar
  | null
  | bool (value : Bool)
  | number (value : Number)
  | text (value : String)
deriving DecidableEq

namespace Scalar

def toJson : Scalar → Json
  | .null => .null
  | .bool b => .bool b
  | .number n => .num n
  | .text s => .str s

/-- The scalar as the name of a field. -/
def fieldName : Scalar → String
  | .null => "null"
  | .bool b => if b then "true" else "false"
  | .number n => n.text
  | .text s => s

/-- A word in its three spellings: small, capital first, all capital. -/
def spellings (word : String) : List (List Char) :=
  [word.toList, (title word).toList, (upper word).toList]

def nullWords : List (List Char) := [[], ['~']] ++ spellings "null"
def trueWords : List (List Char) := ["yes", "true", "on"].flatMap spellings
def falseWords : List (List Char) := ["no", "false", "off"].flatMap spellings

def isDigit (c : Char) : Bool := '0' ≤ c && c ≤ '9'

def isDigitOrLine (c : Char) : Bool := isDigit c || c == '_'

/-- The value of a digit in any base up to sixteen. -/
def digitOf (c : Char) : Nat :=
  if isDigit c then c.toNat - 48
  else if 'a' ≤ c ∧ c ≤ 'f' then c.toNat - 87
  else if 'A' ≤ c ∧ c ≤ 'F' then c.toNat - 55
  else 16

/-- Digits of a base, of which an underscore is none. -/
def inBase (base : Nat) (cs : List Char) : Nat :=
  (cs.filter (· ≠ '_')).foldl (fun n c => n * base + digitOf c) 0

def allInBase (base : Nat) (cs : List Char) : Bool :=
  cs.any (· ≠ '_') && cs.all fun c => c == '_' || digitOf c < base

/-- One or two digits below sixty. -/
def isSixtieth : List Char → Bool
  | [c] => isDigit c
  | [c, d] => '0' ≤ c && c ≤ '5' && isDigit d
  | _ => false

/-- A whole number without its sign. -/
def natural? : List Char → Option Nat
  | '0' :: 'b' :: rest => if allInBase 2 rest then some (inBase 2 rest) else none
  | '0' :: 'x' :: rest => if allInBase 16 rest then some (inBase 16 rest) else none
  | ['0'] => some 0
  | '0' :: rest =>
      if rest.all fun c => c == '_' || digitOf c < 8 then some (inBase 8 rest) else none
  | cs =>
      match pieces ':' cs with
      | first :: rest =>
          if (first.head?.any isDigit) && first.all isDigitOrLine && rest.all isSixtieth then
            some (rest.foldl (fun n part => n * 60 + inBase 10 part) (inBase 10 first))
          else none
      | [] => none

def whole? (cs : List Char) : Option Int :=
  match cs with
  | '-' :: rest => (natural? rest).map fun n => -(n : Int)
  | '+' :: rest => (natural? rest).map fun n => (n : Int)
  | cs => (natural? cs).map fun n => (n : Int)

/-- An exponent has a sign. -/
def isExponent : List Char → Bool
  | [] => true
  | e :: sign :: digits =>
      (e == 'e' || e == 'E') && (sign == '-' || sign == '+') && !digits.isEmpty &&
        digits.all isDigit
  | _ => false

/-- A double has a point; one that begins with it has no sign. -/
def isDouble (signed : Bool) (cs : List Char) : Bool :=
  let head := cs.takeWhile isDigitOrLine
  match cs.dropWhile isDigitOrLine with
  | '.' :: tail =>
      let leads (digits : List Char) : Bool := digits.head?.any isDigit
      (if head.isEmpty then !signed && leads tail else leads head) &&
        isExponent (tail.dropWhile isDigitOrLine)
  | _ => false

def infinities : List (List Char) := [".inf".toList, ".Inf".toList, ".INF".toList]
def nans : List (List Char) := [".nan".toList, ".NaN".toList, ".NAN".toList]

def double? (cs : List Char) : Option Float :=
  let (negative, body) := Numeral.unsigned cs
  if infinities.contains body then some (Double.infinity negative)
  else if nans.contains cs then some Double.notANumber
  else if isDouble (body.length < cs.length) body then
    Numeral.double? (String.ofList (cs.filter (· ≠ '_')))
  else none

/-- What a plain scalar stands for. The marks of a default value and of a merge stand for none. -/
def ofPlain? (cs : List Char) : Option Scalar :=
  if nullWords.contains cs then some .null
  else if trueWords.contains cs then some (.bool true)
  else if falseWords.contains cs then some (.bool false)
  else if cs = ['='] ∨ cs = ['<', '<'] then none
  else
    match double? cs, whole? cs with
    | some x, _ => some (.number (.float x))
    | none, some i => some (.number (.int i))
    | none, none => some (.text (String.ofList cs))

end Scalar

example : Scalar.whole? "0x1F".toList = some 31 ∧ Scalar.whole? "010".toList = some 8 ∧
    Scalar.whole? "1_000".toList = some 1000 ∧ Scalar.whole? "-1:30".toList = some (-90) ∧
    Scalar.whole? "08".toList = none := by decide +kernel

end ContractReview.Yaml
