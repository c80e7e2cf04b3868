import ContractReview.Number.Decimal

/-!
Numbers of structured data: a whole number of any size, or a double. The two kinds stay apart in
every text, and meet in comparisons by their exact values.
-/

namespace ContractReview

inductive Number
  | int (value : Int)
  | float (value : Float)
deriving DecidableEq

instance : Inhabited Number := ⟨.int 0⟩

namespace Number

instance (n : Nat) : OfNat Number n := ⟨.int n⟩

def text : Number → String
  | .int i => String.ofList (Double.intText i)
  | .float x => Double.text x

/-- The double of a number; none for a whole number beyond all doubles. -/
def toFloat? : Number → Option Float
  | .int i => Double.ofInt? i
  | .float x => some x

/-- The double of a number; a whole number beyond all doubles counts as infinite. -/
def toFloat : Number → Float
  | .int i => (Double.ofInt? i).getD (Double.infinity (decide (i < 0)))
  | .float x => x

def ltb : Number → Number → Bool
  | .int i, .int j => i < j
  | .int i, .float x => Double.intLt i x
  | .float x, .int i => Double.ltInt x i
  | .float x, .float y => x < y

/-- Equal in value, whatever the kind. -/
def same : Number → Number → Bool
  | .int i, .int j => i == j
  | .float x, .float y => x == y
  | .int i, .float x | .float x, .int i =>
      !x.isNaN && !Double.intLt i x && !Double.ltInt x i

def le (a b : Number) : Bool := a.ltb b || a.same b

/-- Whole numbers add exactly, all else as doubles. -/
def add : Number → Number → Number
  | .int i, .int j => .int (i + j)
  | a, b => .float (a.toFloat + b.toFloat)

def sub : Number → Number → Number
  | .int i, .int j => .int (i - j)
  | a, b => .float (a.toFloat - b.toFloat)

def mul : Number → Number → Number
  | .int i, .int j => .int (i * j)
  | a, b => .float (a.toFloat * b.toFloat)

/-- The product, unless a double meets a whole number beyond all doubles. -/
def mul? (a b : Number) : Option Number :=
  match a, b with
  | .int i, .int j => some (.int (i * j))
  | a, b =>
      match a.toFloat?, b.toFloat? with
      | some x, some y => some (.float (x * y))
      | _, _ => none

/-- The share of one in `count`, always a double. -/
def share (a : Number) (count : Nat) : Number :=
  match a with
  | .int i => .float (Double.ofRatio (decide (i < 0)) i.natAbs count)
  | .float x => .float (x / Double.ofRatio false count 1)

/-- The first of two numbers unless the second is greater. -/
def upper (a b : Number) : Number := if a.ltb b then b else a

def isZero (a : Number) : Bool := a.same (.int 0)

instance : LT Number := ⟨fun a b => a.ltb b = true⟩
instance : DecidableRel (α := Number) (· < ·) := fun a b =>
  inferInstanceAs (Decidable (a.ltb b = true))
instance : Add Number := ⟨add⟩
instance : Sub Number := ⟨sub⟩
instance : Mul Number := ⟨mul⟩

end Number

end ContractReview
