import ContractReview.Json.Basic
import ContractReview.Text.CaseMapping
import ContractReview.Text.Search

/-!
Failures of a platform's review: every failure that leaves an analyzer is one of four kinds.
-/

namespace ContractReview

inductive FailureCode
  | toolMissing | toolTimeout | toolFailed | unavailable
deriving DecidableEq, Repr

namespace FailureCode

def all : List FailureCode := [.toolMissing, .toolTimeout, .toolFailed, .unavailable]

def name : FailureCode → String
  | .toolMissing => "TOOL_INSTALLATION_MISSING"
  | .toolTimeout => "TOOL_EXECUTION_TIMEOUT"
  | .toolFailed => "TOOL_EXECUTION_FAILED"
  | .unavailable => "ANALYZER_UNAVAILABLE"

def ofName? (s : String) : Option FailureCode := all.find? (·.name = s)

end FailureCode

/-- A failure of one platform. `context` tells what was going on; `transient` marks a failed
execution that may succeed when it is tried again. -/
structure Failure where
  code : FailureCode
  message : String
  platform : String
  context : List (String × Json) := []
  transient : Bool := false

namespace Failure

/-- Worth trying again: a timeout, or a failed execution that is marked so. -/
def retryable (f : Failure) : Bool :=
  match f.code with
  | .toolTimeout => true
  | .toolFailed => f.transient
  | _ => false

/-- Every kind of failure still leaves a lesser way of reviewing. -/
def fallbackAvailable (_ : Failure) : Bool := true

def text (f : Failure) : String := "[" ++ f.code.name ++ "] " ++ f.platform ++ ": " ++ f.message

def withContext (f : Failure) (extra : List (String × Json)) : Failure :=
  { f with context := Json.merge f.context extra }

/-- The context that is shown: all but the description of the causing error. -/
def shownContext (f : Failure) : List (String × Json) :=
  f.context.filter (·.1 ≠ "original_error")

/-- How to get a missing tool. -/
def suggestions : List (String × String) :=
  [("slither", "pip install slither-analyzer"),
   ("solc", "pip install solc-select && solc-select install latest"),
   ("ghc", "Install GHC via ghcup: https://www.haskell.org/ghcup/"),
   ("cabal", "Install Cabal via ghcup: https://www.haskell.org/ghcup/"),
   ("hlint", "cabal install hlint"),
   ("rustc", "Install Rust via rustup: https://rustup.rs/"),
   ("cargo", "Install Rust via rustup: https://rustup.rs/"),
   ("anchor",
    "cargo install --git https://github.com/coral-xyz/anchor avm && avm install latest"),
   ("aptos", "Install the Aptos CLI: https://aptos.dev/tools/aptos-cli/"),
   ("sui", "cargo install --locked --git https://github.com/MystenLabs/sui.git sui"),
   ("move", "Install the Move CLI: https://github.com/move-language/move")]

def suggestion (tool : String) : String :=
  (suggestions.lookup tool).getD ("Install " ++ tool ++ " and make sure it is on PATH")

/-- The failure that a tool's error text tells of. `fileMissing` says that the system found no such
program. -/
def ofToolText (tool text : String) (fileMissing : Bool) (platform : String)
    (context : List (String × Json)) : Failure :=
  let lowered := Text.lower text
  let context := Json.merge [("tool", .str tool)] context
  if fileMissing || Text.contains lowered "not found" then
    { code := .toolMissing
      message := tool ++ " is not installed or not available in PATH"
      platform
      context := Json.insert "suggestion" (.str (suggestion tool)) context }
  else if Text.contains lowered "timeout" || Text.contains lowered "timed out" then
    { code := .toolTimeout, message := tool ++ " execution timed out", platform, context }
  else
    { code := .toolFailed, message := tool ++ " execution failed: " ++ text, platform, context }

end Failure

end ContractReview
