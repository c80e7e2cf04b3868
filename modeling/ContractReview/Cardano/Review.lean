import ContractReview.Cardano.Contract
import ContractReview.Cardano.Hlint
import ContractReview.Code.Rules
import ContractReview.Review.Pipeline

/-!
Plutus validators: line rules and, where it is installed, HLint do the static stage.
-/

namespace ContractReview.Cardano

open Text

variable {σ : Type}

structure Toolchain where
  ghc : Installation
  cabal : Installation
  hlint : Installation

def toolchain (tools : Tools σ) (platform : String) (review : ReviewOptions) : Act σ Toolchain := do
  return {
    ghc := ← Tool.probe tools "ghc" review.healthTimeout platform
    cabal := ← Tool.probe tools "cabal" review.healthTimeout platform
    hlint := ← Tool.probe tools "hlint" review.healthTimeout platform }

/-- The tools that have to be there and are not. -/
def Toolchain.missing (t : Toolchain) : List (String × Installation) :=
  [("ghc", t.ghc), ("cabal", t.cabal)].filter fun (_, found) => !found.installed

/-- The compiler and its build tool have to be there; without HLint a remark is added. -/
def Toolchain.health (t : Toolchain) : Installation :=
  match t.missing with
  | [] =>
      { installed := true
        version := some ("GHC " ++ Tool.shownText t.ghc.version ++ ", Cabal " ++
          Tool.shownText t.cabal.version ++ ", HLint " ++
          (if t.hlint.installed then Tool.shownText t.hlint.version else "not installed"))
        error := if t.hlint.installed then none
          else some "HLint not installed; lint checks disabled" }
  | missing =>
      { installed := false
        error := some ("Required Haskell tools missing (" ++
          joined "; " (missing.map fun (tool, found) =>
            tool ++ ": " ++ Tool.shownText found.error) ++ ")") }

/-- HLint may succeed when it is tried again. -/
def hlintFailed (platform file : String) (output : ToolOutput) : Failure :=
  { Tool.failed "hlint" "HLint" platform file output with transient := true }

/-- What HLint reports. It ends with one when it has hints; without output it found nothing. -/
def findingsOf (platform file : String) (output : ToolOutput) : Except Fault (List Finding) :=
  if allBlank output.stdout then
    if output.exitCode = 0 ∨ output.exitCode = 1 then .ok []
    else .error (.platform (hlintFailed platform file output))
  else Hlint.findings platform file output.stdout

def runHlint (tools : Tools σ) (platform : String) (review : ReviewOptions) (c : Contract)
    (names : List String) : Act σ (List Finding) := do
  let output ← tools.run {
    command := "hlint"
    args := ["--json", "src/"]
    timeout := review.timeout, platform, contracts := names
    files := some [("contract-analysis.cabal", Hlint.project), ("src/Main.hs", c.code)] }
  (findingsOf platform c.filename output : Except Fault (List Finding))

def noMarks (c : Contract) : List String :=
  if isPlutus c.code then [] else [c.filename ++ ": no Plutus imports or validator found"]

def static (tools : Tools σ) (platform : String) (review : ReviewOptions)
    (contracts : List Contract) : Act σ Report := do
  let found ← toolchain tools platform review
  if !found.ghc.installed then throw (.platform (Tool.missing platform "ghc" found.ghc))
  if !found.cabal.installed then throw (.platform (Tool.missing platform "cabal" found.cabal))
  let names := contracts.map (·.filename)
  let findings ← contracts.mapM fun c => do
    let hints ← if found.hlint.installed then runHlint tools platform review c names else pure []
    return Rule.applyAll Rule.cardano c platform ++ hints
  return {
    success := true
    findings := findings.flatten
    warnings := contracts.flatMap noMarks ++
      (if found.hlint.installed then []
      else ["HLint not installed; only pattern checks were run"])
    details := some [
      ("ghc_version", Json.ofOption Json.str found.ghc.version),
      ("cabal_version", Json.ofOption Json.str found.cabal.version),
      ("contracts_analyzed", contracts.length),
      ("plutus_contracts", contracts.countP fun c => isPlutus c.code),
      ("total_lines_of_code", total (contracts.map fun c => countFilledLines c.code)),
      ("analysis_tools",
        .ofStrings (["ghc", "cabal"] ++ if found.hlint.installed then ["hlint"] else []))] }

def structureCheck (c : Contract) (v : Validation) : Validation :=
  let v := v.warnIf (!contains c.code "module ") "No Haskell module declaration found"
  let v := v.warnIf (!isPlutus c.code) "No Plutus imports or validator definition found"
  v.warnIf (!contains c.code "\x7b-# INLINABLE" && contains c.code "validator")
    "Validator functions should be marked INLINABLE for PlutusTx compilation"

def stages (tools : Tools σ) (platform : String) (review : ReviewOptions) : Stages σ :=
  { language := "haskell"
    static := static tools platform review
    syntaxCheck := fun c v s => ((structureCheck c v, none), s)
    health := do return (← toolchain tools platform review).health }

end ContractReview.Cardano
