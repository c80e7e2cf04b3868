import ContractReview.Code.Rules
import ContractReview.Move.Structure
import ContractReview.Review.Pipeline

/-!
Move modules of either dialect: line rules do the static stage, once some Move tool is there.
-/

namespace ContractReview.Move

open Text

inductive Dialect
  | aptos | sui
deriving DecidableEq, Repr

namespace Dialect

/-- The command line tool of the dialect's platform. -/
def tool : Dialect → String
  | .aptos => "aptos"
  | .sui => "sui"

def rules : Dialect → List Rule
  | .aptos => Rule.aptos
  | .sui => Rule.sui

def usages : Dialect → List Usage
  | .aptos => aptosUsages
  | .sui => suiUsages

def check : Dialect → String → Validation
  | .aptos => aptosCheck
  | .sui => suiCheck

/-- The counts that only this dialect reports. -/
def extraDetails : Dialect → List Contract → List (String × Json)
  | .aptos, _ => []
  | .sui, contracts =>
      [("object_types",
        total (contracts.map fun c => (objectHeader.matchesIn c.code.toList).length))]

end Dialect

variable {σ : Type}

/-- The tool that serves every dialect. -/
def standalone : String := "move"

/-- Asks the platform's tool and, without it, the standalone one. -/
def probeTools (tools : Tools σ) (dialect : Dialect) (platform : String) (review : ReviewOptions) :
    Act σ Installation := do
  let own ← Tool.probe tools dialect.tool review.healthTimeout platform
  if own.installed then return own
  let other ← Tool.probe tools standalone review.healthTimeout platform
  if other.installed then
    return {
      installed := true
      version := other.version
      error := some (dialect.tool ++ " CLI not available; using the standalone Move CLI") }
  else
    return {
      installed := false
      error := some ("Neither " ++ dialect.tool ++ " nor " ++ standalone ++
        " CLI is available: " ++ Tool.shownText own.error) }

/-- The failure that it is when no tool is there. -/
def missing (dialect : Dialect) (platform : String) (found : Installation) : Failure :=
  { code := .toolMissing
    message := Client.orText found.error (dialect.tool ++ " CLI is not installed")
    platform
    context := [("tool", .str dialect.tool)] }

def static (tools : Tools σ) (dialect : Dialect) (platform : String) (review : ReviewOptions)
    (contracts : List Contract) : Act σ Report := do
  let found ← probeTools tools dialect platform review
  if !found.installed then throw (.platform (missing dialect platform found))
  return {
    success := true
    findings := contracts.flatMap fun c => Rule.applyAll (Rule.move ++ dialect.rules) c platform
    warnings :=
      (contracts.flatMap fun c => Pipeline.inFile c (usageWarnings dialect.usages c.code)) ++
      found.error.toList
    details := some ((statistics contracts).fields ++
      [("move_version", Json.ofOption Json.str found.version)] ++
      dialect.extraDetails contracts) }

def stages (tools : Tools σ) (dialect : Dialect) (platform : String) (review : ReviewOptions) :
    Stages σ :=
  { language := "move"
    static := static tools dialect platform review
    syntaxCheck := fun c v s => ((v.append (dialect.check c.code), none), s)
    health := probeTools tools dialect platform review }

end ContractReview.Move
