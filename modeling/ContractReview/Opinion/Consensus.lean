import ContractReview.Opinion.Basic

/-!
One opinion from several. A concern stays when enough opinions share it or when one of them is very
sure; what all of them estimate is averaged.
-/

namespace ContractReview

/-- Numbers that opinions can be weighed with. -/
class Measure (ν : Type) where
  zero : ν
  add : ν → ν → ν
  /-- One of `count` equal shares. -/
  share : ν → Nat → ν
  below : ν → ν → Bool
  /-- Above this, one confidence suffices. -/
  trusted : ν
  /-- `count · threshold`, rounded to nine places and up to a whole number. -/
  quota : (threshold : ν) → (count : Nat) → Int

instance : Measure Number where
  zero := 0
  add := Number.add
  share := Number.share
  below := Number.ltb
  trusted := .float 0.8
  quota
    | .int t, count => count * t
    | .float t, count => Double.ceilRounded 9 (Double.ofRatio false count 1 * t)

namespace Consensus

variable {ν : Type} [Measure ν]

/-- How many of `count` models must share a concern. -/
def required (threshold : ν) (count : Nat) : Int := max 1 (Measure.quota threshold count)

def sum (values : List ν) : ν := values.foldl Measure.add Measure.zero

def mean (values : List ν) : ν := Measure.share (sum values) values.length

/-- The greatest of some values, the first of equals. -/
def greatestBy {α : Type} (key : α → ν) (first : α) (rest : List α) : α :=
  rest.foldl (fun best a => if Measure.below (key best) (key a) then a else best) first

/-- What makes two concerns one. -/
structure Key where
  category : String
  line : Int
  severity : String
deriving DecidableEq, Repr

def keyOf (c : Concern ν) : Key := ⟨c.category, c.location.line, c.severity⟩

/-- Concerns of one key, in order of report. -/
structure Group (ν : Type) where
  key : Key
  first : Concern ν
  rest : List (Concern ν)

namespace Group

def members (g : Group ν) : List (Concern ν) := g.first :: g.rest

def trusted (g : Group ν) : Bool :=
  g.members.any fun c => Measure.below (Measure.trusted (ν := ν)) c.confidence

/-- Its most confident member. -/
def spokesman (g : Group ν) : Concern ν := greatestBy Concern.confidence g.first g.rest

end Group

/-- Adds a concern to the group of its key, or opens one. -/
def place (c : Concern ν) : List (Group ν) → List (Group ν)
  | [] => [⟨keyOf c, c, []⟩]
  | g :: rest =>
      if g.key = keyOf c then { g with rest := g.rest ++ [c] } :: rest else g :: place c rest

/-- The groups of some concerns, in order of their first members. -/
def groups (concerns : List (Concern ν)) : List (Group ν) :=
  concerns.foldl (fun gs c => place c gs) []

def keeps (required : Int) (g : Group ν) : Bool :=
  decide (required ≤ g.members.length) || g.trusted

def concerns (threshold : ν) (opinions : List (Opinion ν)) : List (Concern ν) :=
  ((groups (opinions.flatMap (·.concerns))).filter
    (keeps (required threshold opinions.length))).map Group.spokesman

/-- Keeps the first advice of each category and description that is not in `seen`. -/
def freshAdvice (seen : List (String × String)) : List Advice → List Advice
  | [] => []
  | a :: rest =>
      if (a.category, a.description) ∈ seen then freshAdvice seen rest
      else a :: freshAdvice ((a.category, a.description) :: seen) rest

def meanQuality (opinions : List (Opinion ν)) : Quality ν :=
  { codeQuality := mean (opinions.map (·.quality.codeQuality))
    maintainability := mean (opinions.map (·.quality.maintainability))
    testCoverage := mean (opinions.map (·.quality.testCoverage)) }

/-- One opinion from the first and the others; a single one stays as it is. -/
def combine (threshold : ν) (first : Opinion ν) (others : List (Opinion ν)) : Opinion ν :=
  match others with
  | [] => first
  | _ :: _ =>
      let opinions := first :: others
      { model := "ensemble"
        concerns := concerns threshold opinions
        advice := freshAdvice [] (opinions.flatMap (·.advice))
        quality := meanQuality opinions
        confidence := mean (opinions.map (·.confidence))
        executionTime :=
          greatestBy id first.executionTime (others.map (·.executionTime)) }

end Consensus

end ContractReview
