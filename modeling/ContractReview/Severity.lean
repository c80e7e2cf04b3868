import ContractReview.Json.Literal
import ContractReview.Text.Blank
import ContractReview.Text.CaseMapping

/-!
How serious a finding is, and the labels that tools use for it.
-/

namespace ContractReview

inductive Severity
  | informational | low | medium | high | critical
deriving DecidableEq, Repr

namespace Severity

def all : List Severity := [.informational, .low, .medium, .high, .critical]

def name : Severity → String
  | .informational => "informational"
  | .low => "low"
  | .medium => "medium"
  | .high => "high"
  | .critical => "critical"

/-- The place on the scale, from zero for the mildest. -/
def rank : Severity → Nat
  | .informational => 0
  | .low => 1
  | .medium => 2
  | .high => 3
  | .critical => 4

def ofName? (s : String) : Option Severity := all.find? (·.name = s)

theorem ofName?_name (s : Severity) : ofName? s.name = some s := by cases s <;> decide

/-- Labels with the severity they stand for. -/
abbrev Labels := List (String × Severity)

/-- The labels of tools that have none of their own. -/
def commonLabels : Labels :=
  [("critical", .critical), ("error", .critical), ("high", .high), ("warning", .high),
   ("medium", .medium), ("moderate", .medium), ("low", .low), ("minor", .low),
   ("info", .informational), ("informational", .informational), ("note", .informational)]

/-- A text without blanks around it, in lower case. -/
def folded (s : String) : String := Text.lower (Text.strip s)

/-- The severity of that name, in any case and with blanks around it. -/
def parse (value : Json) (default : Severity) : Severity :=
  (ofName? (folded value.shown)).getD default

/-- The severity of a label; an unknown or empty one counts as `default`. -/
def ofLabel (labels : Labels) (value : Json) (default : Severity := .medium) : Severity :=
  (labels.lookup (folded (value.orElse (.str "")).shown)).getD default

end Severity

end ContractReview
