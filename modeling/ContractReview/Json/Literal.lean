import ContractReview.Json.Basic
import ContractReview.Text.Quoted

/-!
Values inside running text: a text stands for itself, and everything else is shown as a literal in
which texts are quoted.
-/

namespace ContractReview.Json

mutual

def literalChars : Json → List Char
  | .null => "None".toList
  | .bool true => "True".toList
  | .bool false => "False".toList
  | .num n => n.text.toList
  | .str s => Text.quotedChars s.toList
  | .arr items => '[' :: literalItems true items
  | .obj fields => '\x7b' :: literalFields true fields

def literalItems (isFirst : Bool) : List Json → List Char
  | [] => [']']
  | item :: rest =>
      (if isFirst then [] else [',', ' ']) ++ literalChars item ++ literalItems false rest

def literalFields (isFirst : Bool) : List (String × Json) → List Char
  | [] => ['\x7d']
  | (name, value) :: rest =>
      (if isFirst then [] else [',', ' ']) ++ Text.quotedChars name.toList ++ ':' :: ' ' ::
        literalChars value ++ literalFields false rest

end

/-- The value with quotes around a text. -/
def literal (v : Json) : String := String.ofList v.literalChars

/-- The value as a part of running text. -/
def shown : Json → String
  | .str s => s
  | v => v.literal

end ContractReview.Json
