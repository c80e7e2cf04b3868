import ContractReview.Code.Rule
import ContractReview.Opinion.Ensemble
import ContractReview.Review.Tool

/-!
The review of contracts on one platform: checks of the input, the platform's static stage, the
models' stage, and the report that joins them. The models' report is kept while the static stage
fails in a way that may pass.
-/

namespace ContractReview

structure ReviewOptions where
  ensemble : Option Ensemble := none
  timeout : Number := .float 120.0
  maxContractSize : Number := .int 10485760
  healthTimeout : Number := .float 5.0
  modelsEnabled : Bool := true
  focusAreas : List String := []

/-- What a platform brings to its review. -/
structure Stages (σ : Type) where
  language : String
  static : List Contract → Act σ Report
  /-- Adds what the platform's checks of one contract find. A fault leaves what was found before. -/
  syntaxCheck : Contract → Validation → σ → (Validation × Option Fault) × σ
  health : Act σ Installation

/-- A review of one platform, in surroundings `σ`. -/
structure Pipeline (σ : Type) where
  platform : String
  options : ReviewOptions
  stages : Stages σ
  models : Models σ

/-- What the models' work on some contracts is kept for. -/
abbrev ContractsKey := List (String × String)

/-- The models' report that waits for another try of the static stage. -/
abbrev Kept := Option (ContractsKey × Report)

namespace Pipeline

open Text

variable {σ : Type}

def noContracts : String := "No contracts provided for analysis"
def emptyCode : String := "Contract code cannot be empty"
def modelsUnavailable : String :=
  "AI analysis unavailable - continuing with static analysis only"

/-- The checks that need no tool. -/
def checkInput (p : Pipeline σ) (c : Contract) : Validation :=
  { errors :=
      (if allBlank c.code then [emptyCode] else []) ++
      (if p.options.maxContractSize.ltb (.int c.sizeBytes) then
        ["Contract size exceeds maximum limit of " ++ p.options.maxContractSize.text ++ " bytes"]
      else [])
    warnings :=
      if c.platform ≠ p.platform then
        ["Contract platform '" ++ c.platform ++ "' does not match analyzer platform '" ++
          p.platform ++ "'"]
      else [] }

/-- Messages with the file they belong to. -/
def inFile (c : Contract) (messages : List String) : List String :=
  messages.map fun message => c.filename ++ ": " ++ message

def recommendations : List (String × String) :=
  [("reentrancy", "Apply the checks-effects-interactions pattern or a reentrancy guard."),
   ("overflow", "Use checked arithmetic and validate numeric bounds."),
   ("access_control",
    "Restrict the function to authorised callers and verify signers/owners."),
   ("gas_optimization", "Reduce storage writes and redundant computation."),
   ("best_practice", "Follow the platform's recommended coding guidelines.")]

def recommendation (category : String) : String :=
  (recommendations.lookup category).getD
    "Review the flagged code path and add explicit validation."

/-- At most a hundred characters, with dots in place of what is cut off. -/
def shortened (description : String) : String :=
  if description.toList.length ≤ 100 then description else firstChars 100 description ++ "..."

/-- A models' concern as a finding in the contract that they were asked about. -/
def findingOf (p : Pipeline σ) (c : Contract) (concern : Concern Number) : Finding :=
  let description :=
    if concern.description = "" then concern.category ++ " issue reported by AI analysis"
    else concern.description
  Finding.create p.platform concern.category (Severity.parse (.str concern.severity) .low)
    (shortened description) description { concern.location with file := c.filename }
    (recommendation concern.category) concern.confidence.toFloat .ai

/-- What the models are asked about a contract. -/
def questionOf (p : Pipeline σ) (focusAreas : List String) (c : Contract) : Question :=
  { source := c.code
    name := c.name
    focusAreas := if focusAreas.isEmpty then p.options.focusAreas else focusAreas
    platform := p.platform
    language := match c.language with
      | none | some "" => p.stages.language
      | some language => language
    filename := c.filename }

/-- What the models came to on several contracts. -/
structure Gathered where
  findings : List Finding := []
  errors : List String := []
  succeeded : Nat := 0

/-- Adds the verdict on one contract. -/
def Gathered.add (p : Pipeline σ) (g : Gathered) (c : Contract) (v : Verdict) : Gathered :=
  match v.opinion with
  | some opinion =>
      { g with
        findings := g.findings ++ opinion.concerns.map (p.findingOf c)
        succeeded := g.succeeded + 1 }
  | none =>
      { g with errors := g.errors ++
          [Client.orText v.error ("AI analysis failed for " ++ c.filename)] }

def gather (p : Pipeline σ) (ensemble : Ensemble) (focusAreas : List String) :
    List Contract → Gathered → σ → Gathered × σ
  | [], g, s => (g, s)
  | c :: rest, g, s =>
      let asked := ensemble.analyze p.models (p.questionOf focusAreas c) s
      gather p ensemble focusAreas rest (Gathered.add p g c asked.1) asked.2

def Gathered.report (ensemble : Ensemble) (g : Gathered) : Report :=
  { success := 0 < g.succeeded
    findings := Finding.fresh g.findings
    errors := g.errors
    details := some [("models", .ofStrings ensemble.modelIds),
      ("contracts_analyzed", g.succeeded)] }

/-- The models' report on some contracts; without models there is none. -/
def consult (p : Pipeline σ) (contracts : List Contract) (focusAreas : List String) :
    Act σ Report := fun s =>
  match p.options.ensemble with
  | none =>
      (.error (.platform {
        code := .unavailable
        message := "No AI ensemble configured"
        platform := p.platform }), s)
  | some ensemble =>
      let gathered := p.gather ensemble focusAreas contracts {} s
      (.ok (gathered.1.report ensemble), gathered.2)

/-- The models' stage, which is left out when there are no models or they are switched off. -/
def modelStage (p : Pipeline σ) (contracts : List Contract) (s : σ) : Option Report × σ :=
  if !p.options.modelsEnabled || p.options.ensemble.isNone then (none, s)
  else
    match (p.consult contracts []).run s with
    | (.ok report, s) => (some report, s)
    | (.error fault, s) =>
        (some { success := false, errors := ["AI analysis failed: " ++ fault.text] }, s)

/-- The static stage, whose faults become a failed report. -/
def staticStage (p : Pipeline σ) (contracts : List Contract) (s : σ) : Report × σ :=
  match (p.stages.static contracts).run s with
  | (.ok report, s) => (report, s)
  | (.error fault, s) =>
      let failure := fault.asFailure p.platform
      ({ success := false, errors := [failure.message], failure := some failure }, s)

/-- The static report with what the models found after it. Success, errors and failure are those of
the static report. -/
def merge (static : Report) (models : Option Report) : Report :=
  match models with
  | none => { static with findings := Finding.fresh static.findings }
  | some models =>
      let details := static.details.getD []
      let details := match models.details with
        | some (field :: fields) => Json.insert "ai_analysis" (.obj (field :: fields)) details
        | _ => details
      { success := static.success
        findings := Finding.fresh (static.findings ++ models.findings)
        errors := static.errors
        warnings := static.warnings ++ models.warnings ++
          models.errors.map ("AI: " ++ ·) ++
          (if models.success then [] else [modelsUnavailable])
        executionTime := static.executionTime.add models.executionTime
        details := if details.isEmpty then none else some details
        failure := static.failure }

def keyOf (contracts : List Contract) : ContractsKey :=
  contracts.map fun c => (c.filename, c.code)

/-- What is kept is handed out once, and only for the contracts that it is about. -/
def take (key : ContractsKey) (kept : Kept) : Option Report :=
  kept.bind fun (about, report) => if about = key then some report else none

/-- What is kept after the stages: a good report of the models while the static stage's failure may
pass. -/
def keep (key : ContractsKey) (static : Report) (models : Option Report) : Kept :=
  match static.failure, models with
  | some failure, some report =>
      if failure.retryable && report.success then some (key, report) else none
  | _, _ => none

/-- Both stages, the models' one replaced by what was kept. -/
def runStages (p : Pipeline σ) (contracts : List Contract) (kept : Option Report) (s : σ) :
    (Report × Option Report) × σ :=
  let static := p.staticStage contracts s
  match kept with
  | some report => ((static.1, some report), static.2)
  | none =>
      let models := p.modelStage contracts static.2
      ((static.1, models.1), models.2)

/-- The errors and warnings of checking every contract's input. -/
def inputMessages (p : Pipeline σ) (contracts : List Contract) : List String × List String :=
  (contracts.flatMap fun c => inFile c (p.checkInput c).errors,
   contracts.flatMap fun c => inFile c (p.checkInput c).warnings)

/-- Reviews the contracts. What is kept for a later call goes in and comes out. -/
def analyze (p : Pipeline σ) (contracts : List Contract) (kept : Kept) (s : σ) :
    Report × Kept × σ :=
  match contracts with
  | [] => ({ success := false, errors := [noContracts] }, kept, s)
  | _ :: _ =>
      let messages := p.inputMessages contracts
      if messages.1 ≠ [] then
        ({ success := false, errors := messages.1, warnings := messages.2 }, kept, s)
      else
        let key := keyOf contracts
        let stages := p.runStages contracts (take key kept) s
        let merged := merge stages.1.1 stages.1.2
        ({ merged with warnings := messages.2 ++ merged.warnings },
          keep key stages.1.1 stages.1.2, stages.2)

/-- Checks one contract. What a tool does changes only the warnings. -/
def validate (p : Pipeline σ) (c : Contract) (s : σ) : Validation × σ :=
  let input := p.checkInput c
  if allBlank c.code then (input, s)
  else
    match p.stages.syntaxCheck c input s with
    | ((found, none), s) => (found, s)
    | ((found, some (.platform failure)), s) =>
        (found.warn ("Syntax probe unavailable: " ++ failure.message), s)
    | ((found, some fault), s) => (found.warn ("Syntax probe failed: " ++ fault.text), s)

end Pipeline

end ContractReview
