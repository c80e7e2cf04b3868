import ContractReview.Json.Access
import ContractReview.Json.Reader
import ContractReview.Report
import ContractReview.Text.Lines

/-!
Clippy: the messages in the stream of objects, one a line, that Cargo writes.
-/

namespace ContractReview.Clippy

open Text

def levels : Severity.Labels :=
  [("error", .high), ("warning", .medium), ("note", .low), ("help", .low)]

def confidence : Float := 0.8

/-- Codes of imports that only the surrounding project could resolve; these are no findings. -/
def unresolvedImports : List String := ["E0432", "E0433"]

def checkedArithmetic : String := "Use checked arithmetic operations to prevent overflow"

def recommendations : List (String × String) :=
  [("clippy::integer_arithmetic", checkedArithmetic),
   ("clippy::arithmetic_side_effects", checkedArithmetic),
   ("clippy::panic", "Avoid panic! in production code, use proper error handling"),
   ("clippy::unwrap_used", "Avoid unwrap(), use proper error handling with match or if let"),
   ("clippy::expect_used", "Consider using proper error handling instead of expect()"),
   ("clippy::indexing_slicing", "Use safe indexing methods like get() instead of direct indexing"),
   ("clippy::cast_lossless", "Use From/Into traits for lossless conversions"),
   ("clippy::cast_possible_truncation", "Validate numeric conversions to prevent data loss")]

/-- The label of a code, none for the codes that cannot be one. -/
def labelOf (code : Json) : Except Fault Label :=
  match code.orElse (.str "clippy-warning") with
  | .str s => .ok (.text s)
  | .bool b => .ok (.flag b)
  | .num n => .ok (.number n)
  | v => .error (.unhashable v.kind)

def recommendation (code : Json) : String :=
  let default := "Review and address the Clippy warning"
  match code with
  | .str s => (recommendations.lookup s).getD default
  | _ => default

/-- The first of the spans that is marked primary, else `first`. -/
def primaryOr (first : Json) : List Json → Except Fault Json
  | [] => .ok first
  | span :: rest =>
      match span.fieldOf "is_primary" with
      | .error fault => .error fault
      | .ok mark => if mark.isFilled then .ok span else primaryOr first rest

def chosenSpan (spans : Json) : Except Fault Json := do
  let items ← spans.itemsOf
  let first ← spans.firstItem
  primaryOr first items

/-- The finding of a message; a message without a span is none. -/
def finding? (platform file : String) (message code : Json) : Except Fault (Option Finding) := do
  let spans := (← message.fieldOf "spans").orElse (.arr [])
  if !spans.isFilled then return none
  let span ← chosenSpan spans
  let level ← message.fieldOf "level"
  let text := strip (← message.fieldOr "message" (.str "")).shown
  let column ← ((← span.fieldOf "column_start").orElse (.num 1)).whole
  let stop ← span.fieldOf "column_end"
  let line ← ((← span.fieldOf "line_start").orElse (.num 1)).whole
  let length ← stop.lengthTo column
  let label ← labelOf code
  return some (Finding.create platform label (Severity.ofLabel levels level) ("Clippy: " ++ text)
    text { file, line, column, length } (recommendation code) confidence .static
    (.obj [("clippy_code", code), ("clippy_level", level)]))

/-- What one entry of the stream comes to. -/
inductive Outcome
  | skipped
  | note (text : String)
  | finding (finding : Finding)

def ofEntry (platform file : String) (entry : Json) : Except Fault Outcome := do
  if !(← entry.fieldOf "reason").isText "compiler-message" then return .skipped
  let message := (← entry.fieldOf "message").orElse (.obj [])
  let code ← ((← message.fieldOf "code").orElse (.obj [])).fieldOf "code"
  if unresolvedImports.any (code.isText ·) then
    return .note (file ++ ": unresolved import skipped (" ++
      (← message.fieldOf "message").shown ++ ")")
  match ← finding? platform file message code with
  | none => return .skipped
  | some finding => return .finding finding

/-- A line is an entry when it starts with a brace and is JSON. -/
def ofLine (platform file : String) (line : List Char) : Except Fault Outcome :=
  match trim line with
  | '\x7b' :: rest =>
      match Json.readAll ('\x7b' :: rest) with
      | .ok entry => ofEntry platform file entry
      | .error (.tooLong digits) => .error (.misread (.tooLong digits))
      | .error (.refused ..) => .ok .skipped
  | _ => .ok .skipped

/-- The findings and the notes of a stream. -/
structure Messages where
  findings : List Finding
  notes : List String

def messages (platform file stdout : String) : Except Fault Messages := do
  let outcomes ← (linesOf stdout.toList).mapM (ofLine platform file)
  return {
    findings := outcomes.filterMap fun
      | .finding finding => some finding
      | _ => none
    notes := outcomes.filterMap fun
      | .note text => some text
      | _ => none }

end ContractReview.Clippy
