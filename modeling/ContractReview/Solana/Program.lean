import ContractReview.Text.Search

/-!
Solana programs: how they are recognised, and the package that a program is linted in.
-/

namespace ContractReview.Solana

open Text

def anchorMarks : List String := ["use anchor_lang::prelude::*", "#[program]", "anchor_lang::"]

def nativeMarks : List String :=
  ["solana_program::", "use solana_program", "ProgramResult", "AccountInfo"]

def isAnchor (code : String) : Bool := anchorMarks.any (contains code)

def isProgram (code : String) : Bool := isAnchor code || nativeMarks.any (contains code)

def anchorDependencies : String :=
  "anchor-lang = \"0.29.0\"\nanchor-spl = \"0.29.0\"\nsolana-program = \"1.17.0\""

def nativeDependencies : String :=
  "solana-program = \"1.17.0\"\nthiserror = \"1.0\"\nspl-token = \"4.0\""

/-- The manifest of a package that holds one program. -/
def manifest (name code : String) : String :=
  "[package]\nname = \"" ++ name ++
    "\"\nversion = \"0.1.0\"\nedition = \"2021\"\n\n" ++
    "[lib]\ncrate-type = [\"cdylib\", \"lib\"]\n\n" ++
    "[dependencies]\n" ++ (if isAnchor code then anchorDependencies else nativeDependencies) ++ "\n"

end ContractReview.Solana
