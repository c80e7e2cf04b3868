import ContractReview.Json.Reader
import ContractReview.Text.Blank

/-!
Recovering the object that a model's answer holds: the whole answer, else its first fenced block,
else everything between its first and its last brace.
-/

namespace ContractReview.Extract

open Text

def fence : List Char := ['\x60', '\x60', '\x60']

/-- Letters are the same in either case; the long s is an s. -/
def sameLetter (letter c : Char) : Bool :=
  c = letter || c.toNat + 32 = letter.toNat || (letter = 's' && c = '\u017f')

/-- The text behind a tag, if it is there. -/
def afterTag? : (tag text : List Char) → Option (List Char)
  | [], text => some text
  | _ :: _, [] => none
  | letter :: tag, c :: text => if sameLetter letter c then afterTag? tag text else none

/-- The text of the first fenced block that is closed, without the tag `json`. -/
def fenced? (text : List Char) : Option (List Char) :=
  match cut? fence text with
  | none => none
  | some (_, inside) =>
      (cut? fence (trimStart ((afterTag? "json".toList inside).getD inside))).map (·.1)

/-- From the first brace that opens to the last that closes behind it. -/
def braced? (text : List Char) : Option (List Char) :=
  match text.dropWhile (· ≠ '\x7b') with
  | [] => none
  | opened =>
      match opened.reverse.dropWhile (· ≠ '\x7d') with
      | [] => none
      | closed => some closed.reverse

/-- The texts that may be the object, the likeliest first. -/
def candidates (text : List Char) : List (List Char) :=
  [trim text] ++ ((fenced? text).map trim).toList ++ (braced? text).toList

def object? (text : List Char) : Option (List (String × Json)) :=
  match Json.readAll text with
  | .ok (.obj fields) => some fields
  | _ => none

/-- The fields of the object that the answer holds. -/
def fields? (answer : String) : Option (List (String × Json)) :=
  if allBlank answer then none else (candidates answer.toList).findSome? object?

example : fenced? "a\x60\x60\x60JSON\n [1]\x60\x60\x60".toList = some "[1]".toList := by decide

end ContractReview.Extract
