import ContractReview.Code.Delimiters
import ContractReview.Evm.Slither
import ContractReview.Review.Pipeline

/-!
Solidity contracts, on every chain that runs them: Slither does the static stage.
-/

namespace ContractReview.Evm

open Text

/-- The chains that run Solidity contracts. -/
def platforms : List String := ["ethereum", "bsc", "polygon"]

structure Options where
  selection : Slither.Selection := {}
  probeTimeout : Number := .float 30.0

variable {σ : Type}

/-- The name that a contract's file has in the scratch directory. -/
def sourceName (c : Contract) : String := c.name ++ ".sol"

/-- A file cannot be named so. -/
def unnameable (name : String) : Bool := name.toList.contains '\x00'

/-- Runs Slither in a directory that holds one contract. -/
def runOn (tools : Tools σ) (platform : String) (c : Contract) (args : String → List String)
    (timeout : Number) (contracts : List String) : Act σ ToolOutput :=
  if unnameable (sourceName c) then throw .nullByte
  else
    tools.run {
      command := Slither.tool
      args := args (tools.scratch.path ++ "/" ++ sourceName c)
      timeout, platform, contracts
      files := some [(sourceName c, c.code)] }

/-- The lines of the error output that hold warnings. -/
def warningLines (file stderr : String) : List String :=
  ((linesOf stderr.toList).filter fun line => occurs "warning".toList (lowerFrom [] line)).map
    fun line => file ++ ": " ++ String.ofList (trim line)

/-- The last line that says something, else the exit code. -/
def lastWord (output : ToolOutput) : String :=
  (lastFilledLine? output.stderr).getD ("exit code " ++ toString output.exitCode)

def uncompilable (platform file : String) (output : ToolOutput) (complaint : String) : Failure :=
  { code := .toolFailed
    message := "Slither could not analyze " ++ file ++ ": " ++ firstChars 500 (strip complaint)
    platform
    context := [("tool", .str Slither.tool), ("exit_code", output.exitCode),
      ("contract", .str file)] }

def broken (platform file : String) (output : ToolOutput) : Failure :=
  { code := .toolFailed
    message := "Slither failed for " ++ file ++ ": " ++ lastWord output
    platform
    context := [("tool", .str Slither.tool), ("exit_code", output.exitCode),
      ("stderr", .str (lastChars 1000 output.stderr))]
    transient := true }

/-- What an output of Slither reports on a contract. -/
def findingsOf (platform file : String) (output : ToolOutput) : Except Fault (List Finding) := do
  match ← Slither.report? output.stdout with
  | some report =>
      match Slither.complaint? report with
      | some complaint => throw (.platform (uncompilable platform file output complaint))
      | none => Slither.findings platform file report
  | none =>
      let found ← Slither.textFindings platform file (output.stdout ++ "\n" ++ output.stderr)
      if output.exitCode ≠ 0 ∧ found.isEmpty then throw (.platform (broken platform file output))
      else return found

def static (tools : Tools σ) (platform : String) (review : ReviewOptions) (options : Options)
    (contracts : List Contract) : Act σ Report := do
  let names := contracts.map (·.filename)
  let parts ← contracts.mapM fun c => do
    let output ← runOn tools platform c options.selection.args review.timeout names
    let found ← (findingsOf platform c.filename output : Except Fault (List Finding))
    return (found, warningLines c.filename output.stderr)
  return {
    success := true
    findings := parts.flatMap (·.1)
    warnings := parts.flatMap (·.2)
    details := some [
      ("tool", .str Slither.tool),
      ("detectors",
        if options.selection.detectors.isEmpty then .str "all"
        else .ofStrings options.selection.detectors),
      ("contracts_analyzed", contracts.length),
      ("total_lines_of_code", total (contracts.map fun c => countFilledLines c.code))] }

def definition : Pattern :=
  Pattern.inOrder [.boundary,
    Pattern.anyOf [.literal "contract", .literal "interface", .literal "library"],
    Pattern.someBlanks, Pattern.name]

/-- What a contract is checked for without a tool. -/
def structureCheck (c : Contract) (v : Validation) : Validation :=
  let v := v.warnIf (!contains c.code "pragma solidity")
    "No 'pragma solidity' version directive found"
  let v := v.warnIf (!definition.foundIn c.code.toList)
    "No contract, interface or library definition found"
  { v with errors := v.errors ++
      Code.delimiterErrors c.code [Code.braces, Code.parentheses] .texts }

def syntaxCheck (tools : Tools σ) (platform : String) (review : ReviewOptions) (options : Options)
    (c : Contract) (v : Validation) (s : σ) : (Validation × Option Fault) × σ :=
  let v := structureCheck c v
  if !tools.available Slither.tool s then
    ((v.warn "Slither not installed; syntax probe skipped", none), s)
  else
    let timeout :=
      if options.probeTimeout.ltb review.timeout then options.probeTimeout else review.timeout
    let probe := runOn tools platform c
      (fun path => [path, "--print", "human-summary", "--disable-color"]) timeout [c.filename]
    match probe.run s with
    | (.ok output, s) =>
        ((v.warnIf (output.exitCode != 0)
          ("Slither syntax probe reported a problem: " ++ lastWord output), none), s)
    | (.error fault, s) => ((v, some fault), s)

def health (tools : Tools σ) (platform : String) (review : ReviewOptions) : Act σ Installation := do
  let found ← Tool.probe tools Slither.tool review.healthTimeout platform
  if found.installed then return found
  else return { found with error := some ("Slither not available: " ++ Tool.shownText found.error) }

def stages (tools : Tools σ) (platform : String) (review : ReviewOptions)
    (options : Options := {}) : Stages σ :=
  { language := "solidity"
    static := static tools platform review options
    syntaxCheck := syntaxCheck tools platform review options
    health := health tools platform review }

end ContractReview.Evm
