import ContractReview.Json.Access
import ContractReview.Opinion.Basic
import ContractReview.Opinion.Extract

/-!
Opinions from what models answer. A field that cannot be used gets a default or a bound, so that one
of them never costs the others.
-/

namespace ContractReview.Repair

def concernTypes : List String :=
  ["reentrancy", "overflow", "access_control", "gas_optimization", "best_practice", "security"]

def priorities : List String := ["high", "medium", "low"]

def severities : List String := Severity.all.map Severity.name

/-- A text of a closed vocabulary, else `default`. -/
def oneOf (vocabulary : List String) (default : String) : Json → String
  | .null => default
  | v =>
      let folded := Severity.folded v.shown
      if folded ∈ vocabulary then folded else default

def words : Json → String
  | .null => ""
  | v => v.shown

/-- Into the range from `low` to `high`. -/
def clamp (low high x : Float) : Float :=
  let below := if x < high then x else high
  if low < below then below else low

/-- A number in a range; what is none becomes `default`. A whole number beyond all doubles is a
fault. -/
def within (low high default : Float) (v : Json) : Except Fault Number :=
  match v.double with
  | .ok x => .ok (.float (if x.isNaN then default else clamp low high x))
  | .error .otherwise => .ok (.float default)
  | .error .tooLarge => .error .wholeTooLarge

/-- The whole part of a value that reads as a finite double. -/
def whole? (v : Json) : Option Int := v.double.toOption.bind Double.trunc?

/-- A place counted from one. -/
def place (v : Json) : Int :=
  match whole? v with
  | some i => if 1 ≤ i then i else 1
  | none => 1

def length (v : Json) : Json :=
  match whole? v with
  | some i => if 0 ≤ i then .num (.int i) else .null
  | none => .null

def file : Json → String
  | .null => "contract.sol"
  | .str "" => "contract.sol"
  | v => v.shown

/-- The value of a field if the object has it, else `default`. -/
def given {α : Type} (fields : List (String × Json)) (name : String) (default : α)
    (use : Json → α) : α :=
  match Json.lookup name fields with
  | some v => use v
  | none => default

def location (fields : List (String × Json)) : Location :=
  { file := given fields "file" "contract.sol" file
    line := given fields "line" 1 place
    column := given fields "column" 1 place
    length := given fields "length" .null length }

def objectFields : Json → List (String × Json)
  | .obj fields => fields
  | _ => []

/-- The objects among the items of a list; any other value has none. -/
def objectsOf : Json → List (List (String × Json))
  | .arr items => items.filterMap fun
      | .obj fields => some fields
      | _ => none
  | _ => []

def confidence (fields : List (String × Json)) : Except Fault Number :=
  given fields "confidence" (.ok (.float 0.5)) (within 0.0 1.0 0.5)

def concern (fields : List (String × Json)) : Except Fault (Concern Number) := do
  return {
    category := given fields "type" "best_practice" (oneOf concernTypes "best_practice")
    severity := given fields "severity" "low" (oneOf severities "low")
    description := given fields "description" "" words
    location := location (given fields "location" [] objectFields)
    confidence := ← confidence fields }

def advice (fields : List (String × Json)) : Advice :=
  { category := given fields "category" "General" words
    priority := given fields "priority" "medium" (oneOf priorities "medium")
    description := given fields "description" "" words
    guide := given fields "implementation_guide" "" words }

def quality (fields : List (String × Json)) : Except Fault (Quality Number) := do
  return {
    codeQuality := ← given fields "code_quality_score" (.ok (.float 50.0)) (within 0.0 100.0 50.0)
    maintainability :=
      ← given fields "maintainability_index" (.ok (.float 50.0)) (within 0.0 100.0 50.0)
    testCoverage :=
      ← given fields "test_coverage_estimate" (.ok (.float 0.0)) (within 0.0 100.0 0.0) }

/-- The quality field under either of its names. -/
def qualityField (fields : List (String × Json)) : List (String × Json) :=
  given fields "qualityMetrics" (given fields "quality_metrics" [] objectFields) objectFields

/-- The opinion that an object states. -/
def ofFields (fields : List (String × Json)) (model : String) (time : Number) :
    Except Fault (Opinion Number) := do
  let concerns ← (given fields "vulnerabilities" [] objectsOf).mapM concern
  let quality ← quality (qualityField fields)
  return {
    model
    concerns
    advice := (given fields "recommendations" [] objectsOf).map advice
    quality
    confidence := ← confidence fields
    executionTime := time }

/-- The opinion that a value states; only an object states one. -/
def ofJson (value : Json) (model : String) (time : Number) : Except Fault (Opinion Number) :=
  match value with
  | .obj fields => ofFields fields model time
  | _ => .ok (Opinion.unreadable model time)

/-- The opinion that an answer holds. -/
def ofAnswer (answer model : String) (time : Number) : Except Fault (Opinion Number) :=
  match Extract.fields? answer with
  | some fields => ofFields fields model time
  | none => .ok (Opinion.unreadable model time)

end ContractReview.Repair
