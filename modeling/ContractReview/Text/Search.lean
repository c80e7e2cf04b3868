/-!
Finding, splitting and joining plain text, on lists of characters so that each step can be followed.
-/

namespace ContractReview.Text

/-- What follows `start` when the text begins with it. -/
def after? : (start text : List Char) → Option (List Char)
  | [], text => some text
  | _ :: _, [] => none
  | c :: start, d :: text => if c = d then after? start text else none

/-- The text before and after the first occurrence of `mark`. -/
def cut? (mark : List Char) : List Char → Option (List Char × List Char)
  | [] => if mark.isEmpty then some ([], []) else none
  | c :: rest =>
      match after? mark (c :: rest) with
      | some behind => some ([], behind)
      | none => (cut? mark rest).map fun (before, behind) => (c :: before, behind)

def occurs (mark text : List Char) : Bool := (cut? mark text).isSome

def contains (text mark : String) : Bool := occurs mark.toList text.toList

def startsWith (text start : String) : Bool := (after? start.toList text.toList).isSome

/-- The pieces between the occurrences of one separating character. -/
def pieces (separator : Char) : List Char → List (List Char)
  | [] => [[]]
  | c :: rest =>
      match pieces separator rest with
      | [] => [[c]]
      | piece :: others =>
          if c = separator then [] :: piece :: others else (c :: piece) :: others

def splitAt (separator : Char) (s : String) : List String :=
  (pieces separator s.toList).map String.ofList

/-- The text up to the last occurrence of `mark` and the text after it. -/
def cutLast? (mark : Char) (cs : List Char) : Option (List Char × List Char) :=
  let behind := cs.reverse.takeWhile (· ≠ mark)
  match cs.reverse.dropWhile (· ≠ mark) with
  | [] => none
  | _ :: before => some (before.reverse, behind.reverse)

def replaceChar (old new : Char) (s : String) : String :=
  String.ofList (s.toList.map fun c => if c = old then new else c)

def joined (separator : String) (texts : List String) : String := separator.intercalate texts

/-- The first `n` characters. -/
def firstChars (n : Nat) (s : String) : String := String.ofList (s.toList.take n)

/-- The last `n` characters. -/
def lastChars (n : Nat) (s : String) : String :=
  String.ofList (s.toList.drop (s.toList.length - n))

example : occurs "bc".toList "abcd".toList ∧ ¬ occurs "ca".toList "abcd".toList := by decide
example : pieces ',' "a,,b".toList = [['a'], [], ['b']] := by decide
example : cutLast? '.' "a.b.c".toList = some ("a.b".toList, "c".toList) := by decide

end ContractReview.Text
