import ContractReview.Failure
import ContractReview.Finding

/-!
Outcomes of a review, of a check before it, and of asking for a tool.
-/

namespace ContractReview

/-- The outcome of reviewing some contracts. `failure` is present when the review itself failed. -/
structure Report where
  success : Bool
  findings : List Finding := []
  errors : List String := []
  warnings : List String := []
  executionTime : Number := .float 0.0
  details : Option (List (String × Json)) := none
  failure : Option Failure := none

/-- What a check of one contract found. -/
structure Validation where
  errors : List String := []
  warnings : List String := []
deriving DecidableEq, Repr

namespace Validation

def isValid (v : Validation) : Bool := v.errors.isEmpty

def error (v : Validation) (message : String) : Validation :=
  { v with errors := v.errors ++ [message] }

def warn (v : Validation) (message : String) : Validation :=
  { v with warnings := v.warnings ++ [message] }

def warnIf (v : Validation) (condition : Bool) (message : String) : Validation :=
  if condition then v.warn message else v

def append (v w : Validation) : Validation :=
  { errors := v.errors ++ w.errors, warnings := v.warnings ++ w.warnings }

end Validation

/-- Whether a tool is there, and what it says of itself. -/
structure Installation where
  installed : Bool
  version : Option String := none
  error : Option String := none
deriving DecidableEq, Repr

end ContractReview
