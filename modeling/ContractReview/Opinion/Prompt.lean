import ContractReview.Text.Search

/-!
What the models are asked.
-/

namespace ContractReview

structure Message where
  role : String
  content : String
deriving DecidableEq, Repr

/-- A contract as it is put before the models. -/
structure Question where
  source : String
  name : String
  focusAreas : List String := []
  platform : String := "ethereum"
  language : String := "solidity"
  filename : String := "contract.sol"
deriving DecidableEq, Repr

namespace Question

def instruction : String :=
  "You are an expert smart contract security auditor. " ++
    "You answer with a single valid JSON object and nothing else."

/-- The shape of the answer, with the file name that locations should have. -/
def answerFormat (filename : String) : String :=
  "Required JSON structure:\n" ++
  "\x7b\n" ++
  "  \"vulnerabilities\": [\n" ++
  "    \x7b\n" ++
  "      \"type\": \"reentrancy|overflow|access_control|gas_optimization|best_practice|" ++
  "security\",\n" ++
  "      \"severity\": \"critical|high|medium|low|informational\",\n" ++
  "      \"description\": \"Detailed description of the vulnerability\",\n" ++
  "      \"location\": \x7b\"file\": \"" ++ filename ++
    "\", \"line\": 1, \"column\": 1, \"length\": 10\x7d,\n" ++
  "      \"confidence\": 0.95\n" ++
  "    \x7d\n" ++
  "  ],\n" ++
  "  \"recommendations\": [\n" ++
  "    \x7b\n" ++
  "      \"category\": \"Security\",\n" ++
  "      \"priority\": \"high|medium|low\",\n" ++
  "      \"description\": \"Recommendation description\",\n" ++
  "      \"implementation_guide\": \"Step-by-step implementation guide\"\n" ++
  "    \x7d\n" ++
  "  ],\n" ++
  "  \"qualityMetrics\": \x7b\n" ++
  "    \"code_quality_score\": 85,\n" ++
  "    \"maintainability_index\": 75,\n" ++
  "    \"test_coverage_estimate\": 60\n" ++
  "  \x7d,\n" ++
  "  \"confidence\": 0.88\n" ++
  "\x7d"

def focusText (areas : List String) : String :=
  if areas.isEmpty then "general-security, best-practices" else Text.joined ", " areas

def prompt (q : Question) : String :=
  "Analyze the following " ++ q.platform ++ " smart contract written in " ++ q.language ++
    " for security vulnerabilities, gas optimizations and code quality issues.\n\n" ++
  "Contract Name: " ++ q.name ++ "\n" ++
  "Focus Areas: " ++ focusText q.focusAreas ++ "\n\n" ++
  "Contract Source Code:\n\x60\x60\x60" ++ q.language ++ "\n" ++ q.source ++
    "\n\x60\x60\x60\n\n" ++
  "Focus on:\n" ++
  "1. Reentrancy vulnerabilities\n" ++
  "2. Integer overflow/underflow issues\n" ++
  "3. Access control problems\n" ++
  "4. Gas or resource optimization opportunities\n" ++
  "5. Best practice violations\n" ++
  "6. Logic errors and edge cases\n\n" ++
  "Provide specific line numbers and detailed explanations for each finding. " ++
  "Rate your overall confidence in the analysis (0-1).\n\n" ++
  answerFormat q.filename ++
  "\n\nIMPORTANT: respond with valid JSON only. " ++
  "Do not include any text before or after the JSON object."

def messages (q : Question) : List Message :=
  [⟨"system", instruction⟩, ⟨"user", q.prompt⟩]

end Question

end ContractReview
