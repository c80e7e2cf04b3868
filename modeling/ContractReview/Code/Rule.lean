import ContractReview.Contract
import ContractReview.Finding
import ContractReview.Text.Lines
import ContractReview.Text.Pattern

/-!
Rules that look for a pattern on each line of a contract.
-/

namespace ContractReview

/-- A rule reports every line that its pattern meets, unless `unless?` is found anywhere in the
code. -/
structure Rule where
  id : String
  pattern : Text.Pattern
  severity : Severity
  title : String
  description : String
  recommendation : String
  confidence : Float := 0.6
  unless? : Option Text.Pattern := none

namespace Rule

open Text

/-- The finding on one line, if the rule has one there. -/
def onLine? (rule : Rule) (contract : Contract) (platform : String) (number : Nat)
    (line : List Char) : Option Finding :=
  (rule.pattern.firstIn? line).map fun found =>
    Finding.create platform rule.id rule.severity rule.title rule.description
      { file := contract.filename
        line := number
        column := (found.start + 1 : Nat)
        length := .num (.int (found.stop - found.start : Nat)) }
      rule.recommendation rule.confidence .static
      (.obj [("rule", .str rule.id), ("snippet", .str (String.ofList ((trim line).take 200)))])

/-- The findings on the lines from number `number` on. -/
def onLines (rule : Rule) (contract : Contract) (platform : String) (number : Nat) :
    List (List Char) → List Finding
  | [] => []
  | line :: rest =>
      let later := rule.onLines contract platform (number + 1) rest
      match rule.onLine? contract platform number line with
      | some finding => finding :: later
      | none => later

def silenced (rule : Rule) (contract : Contract) : Bool :=
  rule.unless?.any (·.foundIn contract.code.toList)

def apply (rule : Rule) (contract : Contract) (platform : String) : List Finding :=
  if rule.silenced contract then []
  else rule.onLines contract platform 1 (linesOf contract.code.toList)

/-- The findings of every rule, rule by rule. -/
def applyAll (rules : List Rule) (contract : Contract) (platform : String) : List Finding :=
  rules.flatMap (·.apply contract platform)

end Rule

namespace Text.Pattern

/-- A word on its own. -/
def word (text : String) : Pattern := inOrder [.boundary, literal text, .boundary]

def blanks : Pattern := .many 0 isBlank
def someBlanks : Pattern := .many 1 isBlank
def name : Pattern := .many 1 isWord
def digits : Pattern := .many 1 isDigit

end Text.Pattern

end ContractReview
