import ContractReview.Json.Basic
import ContractReview.Text.Quoted

/-!
Data written as JSON on one line, in ASCII. A number that JSON has no numeral for is written as an
object of one field that names it.
-/

namespace ContractReview.Json

def escapedUnit (n : Nat) : List Char := '\\' :: 'u' :: Text.hexDigits 4 n

/-- Quotes, backslashes, control characters and all that is not ASCII are escaped; a character
beyond the first plane as a pair of surrogates. -/
def escaped (c : Char) : List Char :=
  let n := c.toNat
  if c = '"' then ['\\', '"']
  else if c = '\\' then ['\\', '\\']
  else if 32 ≤ n ∧ n < 127 then [c]
  else if n < 0x10000 then escapedUnit n
  else escapedUnit (0xD800 + (n - 0x10000) / 0x400) ++ escapedUnit (0xDC00 + (n - 0x10000) % 0x400)

def writtenText (s : String) : List Char := '"' :: s.toList.flatMap escaped ++ ['"']

def namedNumber (name : String) : List Char := ("\x7b\"$float\":\"" ++ name ++ "\"\x7d").toList

def writtenNumber : Number → List Char
  | .int i => Double.intText i
  | .float x =>
      if x.isNaN then namedNumber "nan"
      else if x == Double.infinity false then namedNumber "inf"
      else if x == Double.infinity true then namedNumber "-inf"
      else Double.textChars x

/-- Parts with commas between them. -/
def separated : List (List Char) → List Char
  | [] => []
  | [part] => part
  | part :: rest => part ++ ',' :: separated rest

mutual

def written : Json → List Char
  | .null => "null".toList
  | .bool true => "true".toList
  | .bool false => "false".toList
  | .num n => writtenNumber n
  | .str s => writtenText s
  | .arr items => '[' :: separated (writtenItems items) ++ [']']
  | .obj fields => '\x7b' :: separated (writtenFields fields) ++ ['\x7d']

def writtenItems : List Json → List (List Char)
  | [] => []
  | v :: rest => written v :: writtenItems rest

def writtenFields : List (String × Json) → List (List Char)
  | [] => []
  | (name, v) :: rest => (writtenText name ++ ':' :: written v) :: writtenFields rest

end

def render (v : Json) : String := String.ofList (written v)

example : render (.str "a\u00e9\"") = "\"a\\u00e9\\\"\"" := by decide +kernel

end ContractReview.Json
