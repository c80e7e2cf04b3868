import ContractReview.Code.Rule
import ContractReview.Json.Access
import ContractReview.Json.Reader
import ContractReview.Report

/-!
Slither: how it is called, and what its two kinds of output report.
-/

namespace ContractReview.Slither

open Text

def tool : String := "slither"

/-- Slither's impacts, each one notch above its own name. -/
def impactLabels : Severity.Labels :=
  [("high", .critical), ("medium", .high), ("low", .medium), ("informational", .low),
   ("optimization", .informational)]

def lineLabels : Severity.Labels := [("error", .high), ("warning", .medium), ("info", .low)]

def confidences : List (String × Float) := [("high", 0.9), ("medium", 0.7), ("low", 0.5)]

def effectsFirst : String :=
  "Update state before external calls (checks-effects-interactions) or add a reentrancy guard."

/-- The detectors that are asked for by default, with the advice that goes with each. -/
def detectors : List (String × String) := [
  ("reentrancy-eth", effectsFirst),
  ("reentrancy-no-eth", effectsFirst),
  ("reentrancy-benign",
    "Move state updates before external calls to keep the contract reentrancy-safe."),
  ("reentrancy-events", "Emit events before making external calls."),
  ("arbitrary-send-eth", "Restrict who can trigger Ether transfers and to which destinations."),
  ("suicidal", "Protect selfdestruct behind strict access control or remove it."),
  ("controlled-delegatecall", "Never delegatecall into an address supplied by users."),
  ("uninitialized-state",
    "Initialize state variables explicitly in the declaration or constructor."),
  ("uninitialized-storage", "Initialize storage pointers before use."),
  ("unchecked-transfer",
    "Check the boolean returned by ERC20 transfer/transferFrom or use SafeERC20."),
  ("unchecked-lowlevel", "Check the success flag returned by low-level calls."),
  ("unchecked-send", "Check the return value of send or use call with explicit handling."),
  ("tx-origin", "Use msg.sender instead of tx.origin for authorization."),
  ("timestamp", "Avoid relying on block.timestamp for critical comparisons."),
  ("locked-ether", "Add a withdrawal function or stop accepting Ether."),
  ("incorrect-equality", "Avoid strict equality on balances or timestamps."),
  ("shadowing-state", "Rename the variable so it does not shadow inherited state."),
  ("low-level-calls",
    "Prefer high-level calls; if low-level calls are required, validate their results."),
  ("missing-zero-check", "Validate that address parameters are not the zero address."),
  ("solc-version", "Pin a recent, non-vulnerable Solidity compiler version.")]

def defaultDetectors : List String := detectors.map (·.1)

def advice (check : String) : String :=
  (detectors.lookup check).getD
    ("Review the '" ++ check ++ "' finding and follow the Slither detector documentation.")

/-- The detectors to run, all of them when none is named, and those to leave out. -/
structure Selection where
  detectors : List String := defaultDetectors
  excluded : List String := []
deriving DecidableEq, Repr

def Selection.args (s : Selection) (path : String) : List String :=
  [path, "--json", "-"] ++
    (if s.detectors.isEmpty then [] else ["--detect", joined "," s.detectors]) ++
    (if s.excluded.isEmpty then [] else ["--exclude", joined "," s.excluded]) ++
    ["--disable-color", "--no-fail-pedantic"]

/-- The report that an output consists of; none when it is no JSON object. -/
def report? (stdout : String) : Except Fault (Option Json) :=
  if allBlank stdout then .ok none
  else
    match Json.read stdout with
    | .ok (.obj fields) => .ok (some (.obj fields))
    | .error (.tooLong digits) => .error (.misread (.tooLong digits))
    | _ => .ok none

/-- Where the first element of a detector's entry is found in the source. -/
def mapping (entry : Json) : Except Fault Json := do
  let elements := (← entry.fieldOf "elements").orElse (.arr [])
  if elements.isFilled then
    return (← (← elements.firstItem).fieldOf "source_mapping").orElse (.obj [])
  else return .obj []

def entryFinding (platform file : String) (entry : Json) : Except Fault Finding := do
  let check := (← entry.fieldOr "check" (.str "unknown")).shown
  let impact := lower (← entry.fieldOr "impact" (.str "")).shown
  let confidence := lower (← entry.fieldOr "confidence" (.str "")).shown
  let mapping ← mapping entry
  let lines := (← mapping.fieldOf "lines").orElse (.arr [.num 1])
  let description := strip (← entry.fieldOr "description" (.str "")).shown
  let line ← (← lines.firstItem).whole
  let column ← ((← mapping.fieldOf "starting_column").orElse (.num 1)).whole
  return Finding.create platform check
    (Severity.ofLabel impactLabels (.str impact))
    (title (replaceChar '-' ' ' check)) description
    { file, line := if line = 0 then 1 else line, column, length := ← mapping.fieldOf "length" }
    (advice check) ((confidences.lookup confidence).getD 0.6) .static
    (.obj [("detector", .str check), ("impact", ← entry.fieldOf "impact"),
      ("confidence", ← entry.fieldOf "confidence"), ("markdown", ← entry.fieldOf "markdown")])

/-- The findings of a report. -/
def findings (platform file : String) (report : Json) : Except Fault (List Finding) := do
  let results := (← report.fieldOf "results").orElse (.obj [])
  let entries := (← results.fieldOf "detectors").orElse (.arr [])
  (← entries.itemsOf).mapM (entryFinding platform file)

/-- The complaint of a report on code that could not be analyzed. -/
def complaint? (report : Json) : Option String :=
  match report.field "success" with
  | .bool false =>
      let error := report.field "error"
      if error.isFilled then some error.shown else none
  | _ => none

/-- A line `LEVEL:section:message`. -/
structure LogLine where
  level : String
  topic : String
  message : String
deriving DecidableEq, Repr

def LogLine.read? (line : List Char) : Option LogLine :=
  ["INFO", "WARNING", "ERROR"].findSome? fun level =>
    (after? (level.toList ++ [':']) line).map fun rest =>
      let topic := rest.takeWhile (· ≠ ':')
      { level
        topic := String.ofList (trim topic)
        message := String.ofList (trim (rest.drop (topic.length + 1))) }

/-- A reference to a line, such as `#12`. -/
def lineReference : Pattern := .both (.literal "#") (.group Pattern.digits)

/-- The line that a message refers to first, else the first one. -/
def referredLine (message : String) : Except Fault Int :=
  match lineReference.firstIn? message.toList with
  | some ⟨_, _, digits :: _⟩ => (Numeral.whole (String.ofList digits)).mapError .misread
  | _ => .ok 1

def lineFinding? (platform file : String) (line : List Char) : Except Fault (Option Finding) :=
  match LogLine.read? (trim line) with
  | none => .ok none
  | some entry =>
      if entry.message = "" ∨ entry.topic = "Slither" then .ok none
      else
        (referredLine entry.message).map fun number =>
          some (Finding.create platform "text-parsed"
            (Severity.ofLabel lineLabels (.str entry.level)) "Slither finding" entry.message
            { file, line := number } "Review the Slither output for this finding." 0.5)

/-- The findings of an output that is meant for people. -/
def textFindings (platform file : String) (output : String) : Except Fault (List Finding) := do
  return (← (linesOf output.toList).mapM (lineFinding? platform file)).filterMap id

example : LogLine.read? "INFO:a: b:c".toList = some ⟨"INFO", "a", "b:c"⟩ := by decide +kernel
example : LogLine.read? "INFO:only".toList = some ⟨"INFO", "only", ""⟩ := by decide +kernel

end ContractReview.Slither
