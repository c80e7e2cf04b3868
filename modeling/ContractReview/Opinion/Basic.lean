import ContractReview.Finding

/-!
What one model thinks of a contract. Opinions are stated over any numbers `ν`.
-/

namespace ContractReview

/-- A vulnerability that a model reports. -/
structure Concern (ν : Type) where
  category : String
  severity : String
  description : String
  location : Location
  confidence : ν

structure Advice where
  category : String
  priority : String
  description : String
  guide : String := ""
deriving DecidableEq, Repr

/-- Estimates of the quality of the code, from zero to a hundred. -/
structure Quality (ν : Type) where
  codeQuality : ν
  maintainability : ν
  testCoverage : ν
deriving DecidableEq, Repr

structure Opinion (ν : Type) where
  model : String
  concerns : List (Concern ν)
  advice : List Advice
  quality : Quality ν
  confidence : ν
  executionTime : ν

namespace Opinion

/-- What a model can be taken to say whose answer cannot be read. -/
def unreadable (model : String) (time : Number) : Opinion Number :=
  { model
    concerns := []
    advice := []
    quality := ⟨.float 50.0, .float 50.0, .float 0.0⟩
    confidence := .float 0.1
    executionTime := time }

end Opinion

end ContractReview
