import ContractReview.Text.Search

/-!
A contract as it is submitted for review. Its code, like every text here, is a list of Unicode
scalar values: a text with half of a surrogate pair in it, which no file in UTF-8 holds, is left
out.
-/

namespace ContractReview

structure Contract where
  filename : String
  code : String
  platform : String
  language : Option String := none
deriving DecidableEq, Repr

namespace Contract

open Text

/-- The length of the code in UTF-8. -/
def sizeBytes (c : Contract) : Nat := c.code.utf8ByteSize

/-- The last component of a path, whichever slash separates them. -/
def baseName (path : List Char) : List Char :=
  (path.reverse.takeWhile fun c => c ≠ '/' ∧ c ≠ '\\').reverse

/-- A file name up to its last point; a name that would be empty is replaced. -/
def stem (base : List Char) : List Char :=
  let name := ((cutLast? '.' base).map (·.1)).getD base
  if name.isEmpty then "Contract".toList else name

/-- The base name of the file without directory and extension. -/
def name (c : Contract) : String := String.ofList (stem (baseName c.filename.toList))

end Contract

example : Contract.stem (Contract.baseName "a\\b/C.t.sol".toList) = "C.t".toList := by decide
example : Contract.stem (Contract.baseName "a/.env".toList) = "Contract".toList := by decide

end ContractReview
