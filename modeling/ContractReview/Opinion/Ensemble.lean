import ContractReview.Opinion.Consensus
import ContractReview.Opinion.Provider
import ContractReview.Opinion.Repair
import ContractReview.Opinion.Retry

/-!
Several models asked about one contract. Each of them answers, fails or stays silent on its own; the
opinions of those that answer are combined. How long it took is no part of the verdict: nothing
depends on it.
-/

namespace ContractReview

structure Member where
  model : String
  provider : String := "openrouter"
deriving DecidableEq, Repr

structure Ensemble where
  members : List Member
  timeout : Number := .float 120.0
  maxTokens : Int := 4000
  temperature : Number := .float 0.1
  threshold : Number := .float 0.6
  retries : List (String × RetryPolicy) := []

/-- What a model comes back with; a silent one never does. -/
inductive Reply
  | content (content : Json)
  | fault (fault : Fault)
  | silence

/-- The models as the surroundings `σ` hold them. -/
structure Models (σ : Type) where
  ask : Member → Request → σ → Reply × σ
  permit : (provider : String) → σ → σ
  pause : Number → σ → σ

/-- The outcome of asking every member. -/
structure Verdict where
  opinion : Option (Opinion Number) := none
  opinions : List (Opinion Number) := []
  failed : List String := []
  error : Option String := none

namespace Verdict

def success (v : Verdict) : Bool := v.opinion.isSome

end Verdict

namespace Ensemble

variable {σ : Type}

def isShare (x : Number) : Bool := Number.le 0 x && x.le 1

/-- An ensemble whose threshold is a share of its members. -/
def create (e : Ensemble) : Except Fault Ensemble :=
  if isShare e.threshold then .ok e else .error .thresholdOutside

def modelIds (e : Ensemble) : List String := e.members.map (·.model)

def requestOf (e : Ensemble) (member : Member) (question : Question) : Request :=
  { model := member.model
    messages := question.messages
    maxTokens := some e.maxTokens
    temperature := some e.temperature }

/-- What a member's content comes to; nothing at all is an unreadable answer. -/
def opinionOf (member : Member) (content : Json) : Except Fault (Opinion Number) :=
  match content with
  | .str answer => Repair.ofAnswer answer member.model (.float 0.0)
  | v =>
      if v.isFilled then .error (.noAttribute v.kind.name "strip")
      else .ok (Opinion.unreadable member.model (.float 0.0))

/-- One call. Silence ends as the time for the whole consultation does, and is not tried again. -/
def call (models : Models σ) (member : Member) (request : Request) (s : σ) :
    Except Fault (Option Json) × σ :=
  match models.ask member request s with
  | (.content content, s) => (.ok (some content), s)
  | (.fault fault, s) => (.error fault, s)
  | (.silence, s) => (.ok none, s)

/-- Asks one member, with retries when its provider has a policy for them. No time is no call. -/
def consult (e : Ensemble) (models : Models σ) (question : Question) (member : Member) (s : σ) :
    Except Fault (Opinion Number) × σ :=
  let late : Fault := .raised .timeout ""
  if e.timeout.le 0 then (.error late, s)
  else
    let request := e.requestOf member question
    let answered :=
      match e.retries.lookup member.provider with
      | none => call models member request s
      | some policy =>
          policy.run
            { permit := models.permit member.provider
              call := call models member request
              pause := models.pause } s
    match answered with
    | (.ok (some content), s) => (opinionOf member content, s)
    | (.ok none, s) => (.error late, s)
    | (.error fault, s) => (.error fault, s)

/-- What each of some members comes to, in order. -/
def consultAll (e : Ensemble) (models : Models σ) (question : Question) :
    List Member → σ → List (Member × Except Fault (Opinion Number)) × σ
  | [], s => ([], s)
  | member :: rest, s =>
      let first := e.consult models question member s
      let others := e.consultAll models question rest first.2
      ((member, first.1) :: others.1, others.2)

def noModels : String := "No AI models configured"
def allFailed : String := "All AI models failed to analyze the contract"

/-- The verdict on what the members came to. -/
def verdictOf (threshold : Number) (outcomes : List (Member × Except Fault (Opinion Number))) :
    Verdict :=
  let opinions := outcomes.filterMap fun (_, outcome) => outcome.toOption
  let failed := outcomes.filterMap fun (member, outcome) =>
    match outcome with
    | .ok _ => none
    | .error _ => some member.model
  match opinions with
  | [] => { failed, error := some allFailed }
  | first :: others =>
      { opinion := some (Consensus.combine threshold first others), opinions, failed }

/-- Asks every member about a contract. -/
def analyze (e : Ensemble) (models : Models σ) (question : Question) (s : σ) : Verdict × σ :=
  match e.members with
  | [] => ({ error := some noModels }, s)
  | _ :: _ =>
      let asked := e.consultAll models question e.members s
      (verdictOf e.threshold asked.1, asked.2)

end Ensemble

end ContractReview
