import ContractReview.Code.Delimiters
import ContractReview.Code.Rules
import ContractReview.Review.Pipeline
import ContractReview.Solana.Clippy
import ContractReview.Solana.Program

/-!
Solana programs: line rules and Clippy do the static stage.
-/

namespace ContractReview.Solana

open Text

variable {σ : Type}

/-- What is known of the three tools. -/
structure Toolchain where
  rustc : Installation
  cargo : Installation
  anchor : Installation

def toolchain (tools : Tools σ) (platform : String) (review : ReviewOptions) : Act σ Toolchain := do
  return {
    rustc := ← Tool.probe tools "rustc" review.healthTimeout platform
    cargo := ← Tool.probe tools "cargo" review.healthTimeout platform
    anchor := ← Tool.probe tools "anchor" review.healthTimeout platform }

/-- Rust and Cargo have to be there; Anchor is only reported. -/
def Toolchain.health (t : Toolchain) : Installation :=
  if !t.rustc.installed then
    { installed := false, error := some ("Rust not installed: " ++ Tool.shownText t.rustc.error) }
  else if !t.cargo.installed then
    { installed := false, error := some ("Cargo not installed: " ++ Tool.shownText t.cargo.error) }
  else
    { installed := true
      version := some ("Rust " ++ Tool.shownText t.rustc.version ++ ", Cargo " ++
        Tool.shownText t.cargo.version ++ ", Anchor " ++
        (if t.anchor.installed then Tool.shownText t.anchor.version else "not installed")) }

def clippyFailed (platform file : String) (output : ToolOutput) : Failure :=
  Tool.failed "cargo clippy" "cargo clippy" platform file output

/-- What Clippy reports on a contract; a failed run that reports nothing is a failure. -/
def messagesOf (platform file : String) (output : ToolOutput) : Except Fault Clippy.Messages := do
  let messages ← Clippy.messages platform file output.stdout
  if output.exitCode ≠ 0 ∧ messages.findings.isEmpty ∧ messages.notes.isEmpty then
    throw (.platform (clippyFailed platform file output))
  else return messages

def runClippy (tools : Tools σ) (platform : String) (review : ReviewOptions) (c : Contract)
    (names : List String) : Act σ Clippy.Messages := do
  let output ← tools.run {
    command := "cargo"
    args := ["clippy", "--message-format=json", "--", "-W", "clippy::all"]
    timeout := review.timeout, platform, contracts := names
    files := some [("Cargo.toml", manifest (lower tools.scratch.name) c.code),
      ("src/lib.rs", c.code)] }
  (messagesOf platform c.filename output : Except Fault Clippy.Messages)

def static (tools : Tools σ) (platform : String) (review : ReviewOptions)
    (contracts : List Contract) : Act σ Report := do
  let found ← toolchain tools platform review
  if !found.rustc.installed then throw (.platform (Tool.missing platform "rustc" found.rustc))
  if !found.cargo.installed then throw (.platform (Tool.missing platform "cargo" found.cargo))
  let names := contracts.map (·.filename)
  let parts ← contracts.mapM fun c => do
    let messages ← runClippy tools platform review c names
    return (Rule.applyAll Rule.solana c platform ++ messages.findings,
      (if isProgram c.code then []
      else [c.filename ++ ": no Solana or Anchor program markers found"]) ++ messages.notes)
  return {
    success := true
    findings := parts.flatMap (·.1)
    warnings := parts.flatMap (·.2)
    details := some [
      ("rust_version", Json.ofOption Json.str found.rustc.version),
      ("anchor_version", Json.ofOption Json.str found.anchor.version),
      ("contracts_analyzed", contracts.length),
      ("anchor_programs", contracts.countP fun c => isAnchor c.code),
      ("total_lines_of_code", total (contracts.map fun c => countFilledLines c.code)),
      ("analysis_tools", .ofStrings ["clippy", "solana-security-checks"])] }

def structureCheck (c : Contract) (v : Validation) : Validation :=
  let v := { v with errors := v.errors ++ Code.delimiterErrors c.code }
  let v := v.warnIf (!isProgram c.code) "No Solana program imports or Anchor attributes found"
  let v := v.warnIf (contains c.code "AccountInfo" && !contains c.code "is_signer")
    "Consider validating account signers where appropriate"
  let v := v.warnIf (contains c.code "Pubkey::find_program_address" && !contains c.code "bump")
    "PDA derivation should use canonical bump seeds"
  v.warnIf (contains c.code "invoke" && !contains c.code "AccountMeta")
    "Cross-program invocations should properly validate account metadata"

def stages (tools : Tools σ) (platform : String) (review : ReviewOptions) : Stages σ :=
  { language := "rust"
    static := static tools platform review
    syntaxCheck := fun c v s => ((structureCheck c v, none), s)
    health := do return (← toolchain tools platform review).health }

end ContractReview.Solana
