import ContractReview.Digest.Sha256
import ContractReview.Severity
import ContractReview.Text.Utf8

/-!
Findings: what one tool or the models report at one place of one contract.
-/

namespace ContractReview

/-- The type of a finding: a text, or the bare value a tool gave in its stead. -/
inductive Label
  | text (s : String)
  | flag (b : Bool)
  | number (n : Number)
deriving DecidableEq

namespace Label

instance : Coe String Label := ⟨.text⟩

def toJson : Label → Json
  | .text s => .str s
  | .flag b => .bool b
  | .number n => .num n

def shown (l : Label) : String := l.toJson.shown

/-- What a label is told apart by. -/
inductive Key
  | text (s : String)
  | whole (i : Int)
  | bits (x : UInt64)
  | notANumber
deriving DecidableEq

/-- Numbers of one value share a key, and so do a flag and its number. What is no number has a key
of its own. -/
def key : Label → Key
  | .text s => .text s
  | .flag b => .whole (if b then 1 else 0)
  | .number (.int i) => .whole i
  | .number (.float x) =>
      if x.isNaN then .notANumber
      else
        match Double.trunc? x with
        | some i => if (Number.float x).same (.int i) then .whole i else .bits x.toBits
        | none => .bits x.toBits

end Label

/-- A place in a source file. The length is what the tool reports, absent when it reports none. -/
structure Location where
  file : String
  line : Int := 1
  column : Int := 1
  length : Json := .null

inductive Source
  | static | ai | combined
deriving DecidableEq, Repr

namespace Source

def name : Source → String
  | .static => "static"
  | .ai => "ai"
  | .combined => "combined"

def ofName? (s : String) : Option Source := [Source.static, .ai, .combined].find? (·.name = s)

end Source

structure Finding where
  category : Label
  severity : Severity
  title : String
  description : String
  location : Location
  recommendation : String
  confidence : Float
  source : Source
  platform : String
  details : Json
  id : String

namespace Finding

/-- Into the range from zero to one; what is no number counts as one. -/
def clampUnit (x : Float) : Float :=
  let below := if x < 1.0 then x else 1.0
  if 0.0 < below then below else 0.0

/-- The text whose digest identifies a finding. -/
def material (category : Label) (location : Location) (description : String) : String :=
  category.shown ++ "-" ++ location.file ++ "-" ++ toString location.line ++ "-" ++ description

def idOf (platform : String) (category : Label) (location : Location) (description : String) :
    String :=
  platform ++ "-" ++
    String.ofList ((Sha256.hex (Text.octetsOf (material category location description))).take 16)

/-- A finding with its confidence in range and its id. -/
def create (platform : String) (category : Label) (severity : Severity)
    (title description : String) (location : Location) (recommendation : String)
    (confidence : Float) (source : Source := .static) (details : Json := .null) : Finding :=
  { category, severity, title, description, location, recommendation
    confidence := clampUnit confidence
    source, platform, details
    id := idOf platform category location description }

/-- What two reports of one finding share. -/
structure Key where
  category : Label.Key
  file : String
  line : Int
  column : Int
deriving DecidableEq

def key (f : Finding) : Key :=
  ⟨f.category.key, f.location.file, f.location.line, f.location.column⟩

/-- Keeps the first finding of every key that is not in `seen`. -/
def freshFrom (seen : List Key) : List Finding → List Finding
  | [] => []
  | f :: rest =>
      if f.key ∈ seen then freshFrom seen rest else f :: freshFrom (f.key :: seen) rest

/-- The findings with the first one for each type, file, line and column. -/
def fresh (findings : List Finding) : List Finding := freshFrom [] findings

end Finding

end ContractReview
