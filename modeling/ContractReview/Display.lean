import ContractReview.Platform.Health
import ContractReview.Review.Fallback

/-!
What is shown: panels, tables and lines of marked-up text. A text that comes from outside is shown
as it is, without markup.
-/

namespace ContractReview.Display

open Text

/-- A piece of text: with markup in it, or plain in one style. -/
inductive Piece
  | markup (text : String)
  | plain (text style : String)
deriving DecidableEq, Repr

instance : Coe String Piece := ⟨.markup⟩

inductive Border
  | heavy | rounded | simple
deriving DecidableEq, Repr

def Border.name : Border → String
  | .heavy => "HEAVY"
  | .rounded => "ROUNDED"
  | .simple => "SIMPLE"

structure Column where
  header : String
  style : String := ""
  toRight : Bool := false
deriving DecidableEq, Repr

inductive Item
  | panel (body : Piece) (title color : String) (border : Border)
  | table (columns : List Column) (rows : List (List Piece))
  | line (text : String)
deriving DecidableEq, Repr

/-- Characters that move a terminal's cursor. -/
def isControl (c : Char) : Bool := [7, 8, 11, 12, 13].contains c.toNat

/-- A plain text, without what would move the cursor. -/
def plain (text style : String) : Piece :=
  .plain (String.ofList (text.toList.filter fun c => !isControl c)) style

def lines (texts : List String) : String := joined "\n" texts

/-! ### Messages -/

def message (kind color : String) (border : Border) (text : String) : Item :=
  .panel (plain text "white") ("[bold " ++ color ++ "]" ++ kind ++ "[/bold " ++ color ++ "]") color
    border

def error (text : String) : Item := message "Error" "red" .heavy text
def warning (text : String) : Item := message "Warning" "yellow" .heavy text
def info (text : String) : Item := message "Info" "blue" .simple text

/-! ### Reports -/

def severityStyle : Severity → String
  | .critical => "bold white on red"
  | .high => "bold red"
  | .medium => "yellow"
  | .low => "cyan"
  | .informational => "dim"

/-- A lesser way that a report was come to, and what it costs. -/
structure Degradation where
  strategy : String
  level : String
deriving DecidableEq, Repr

def Degradation.of? (strategy : Strategy) : Option Degradation :=
  if strategy = .full then none else some ⟨strategy.name, strategy.degradation⟩

def summaryLines (platform time : String) (r : Report) (lesser : Option Degradation) :
    List String :=
  ["Platform: [bold]" ++ platform ++ "[/bold]",
   "Status: " ++ (if r.success then "[bold green]success[/bold green]"
     else "[bold red]failed[/bold red]"),
   "Findings: " ++ toString r.findings.length,
   "Execution time: " ++ time ++ "s"] ++
  match lesser with
  | none => []
  | some d =>
      ["Fallback: [yellow]" ++ d.strategy ++ "[/yellow] (degradation: " ++ d.level ++ ")"]

def summary (platform time : String) (r : Report) (lesser : Option Degradation) : Item :=
  .panel (lines (summaryLines platform time r lesser)) "[bold cyan]Analysis Result[/bold cyan]"
    "cyan" .rounded

def findingColumns : List Column :=
  [{ header := "Severity", style := "bold" }, { header := "Type" },
   { header := "Location", style := "dim" }, { header := "Title", style := "white" },
   { header := "Source", style := "dim" }, { header := "Conf.", toRight := true }]

/-- The findings from the most severe to the mildest, else in their order. -/
def bySeverity (findings : List Finding) : List Finding :=
  [Severity.critical, .high, .medium, .low, .informational].flatMap fun severity =>
    findings.filter fun f => f.severity = severity

/-- Only a text can stand in a table. -/
def labelText : Label → Except Fault String
  | .text s => .ok s
  | label => .error (.notShowable label.toJson.kind)

def findingRow (f : Finding) : Except Fault (List Piece) := do
  return [plain f.severity.name (severityStyle f.severity), ← labelText f.category,
    f.location.file ++ ":" ++ toString f.location.line ++ ":" ++ toString f.location.column,
    f.title, f.source.name, Double.hundredths f.confidence]

def findingTable (findings : List Finding) : Except Fault Item :=
  if findings.isEmpty then .ok (.line "[dim]No vulnerabilities reported.[/dim]")
  else ((bySeverity findings).mapM findingRow).map (.table findingColumns)

/-- What is shown, up to a fault if there is one. -/
structure Shown where
  items : List Item
  fault : Option Fault := none

/-- A report: its summary, its findings, then its messages. -/
def report (platform : String) (r : Report) (lesser : Option Degradation) : Shown :=
  match r.executionTime.toFloat? with
  | none => { items := [], fault := some .wholeTooLarge }
  | some time =>
      let head := summary platform (Double.hundredths time) r lesser
      match findingTable r.findings with
      | .error fault => { items := [head], fault := some fault }
      | .ok findings =>
          { items := [head, findings] ++ r.errors.map error ++ r.warnings.map warning }

/-! ### Platforms -/

def statusStyle (status : String) : String :=
  ([("healthy", "bold green"), ("degraded", "yellow"), ("unhealthy", "bold red"),
    ("unknown", "dim")].lookup status).getD ""

/-- A platform in the table of health. -/
structure HealthRow where
  name : String
  status : String
  version : String
  notes : String
deriving DecidableEq, Repr

def orText (text : Option String) (default : String) : String :=
  match text with
  | none | some "" => default
  | some s => s

def HealthRow.of (id displayName status : String) (version error : Option String) : HealthRow :=
  ⟨orText (some displayName) id, status, orText version "-", orText error ""⟩

/-- How many platforms there are of each status. -/
structure HealthCounts where
  total : Int
  healthy : Int
  degraded : Int
  unhealthy : Int
  unknown : Int
deriving DecidableEq, Repr

def healthItems (rows : List HealthRow) (counts : HealthCounts) : List Item :=
  [.table [{ header := "Platform", style := "bold" }, { header := "Status" },
      { header := "Version", style := "dim" }, { header := "Notes", style := "white" }]
    (rows.map fun row =>
      [row.name, plain row.status (statusStyle row.status), row.version, row.notes]),
   .line ("Total: " ++ toString counts.total ++ "  [green]healthy " ++ toString counts.healthy ++
     "[/green]  [yellow]degraded " ++ toString counts.degraded ++ "[/yellow]  [red]unhealthy " ++
     toString counts.unhealthy ++ "[/red]  [dim]unknown " ++ toString counts.unknown ++ "[/dim]")]

def health (h : HealthSummary) : List Item :=
  healthItems
    (h.platforms.map fun p => .of p.id p.displayName p.status.name p.version p.error)
    { total := h.platforms.length, healthy := h.count .healthy, degraded := h.count .degraded
      unhealthy := h.count .unhealthy, unknown := h.count .unknown }

def readiness (platform : String) (ready : Bool) (issues advice : List String) : Item :=
  .panel
    (lines (["[bold]" ++ (if ready then "ready" else "not ready") ++ "[/bold]"] ++
      issues.map (fun issue => "[red]- " ++ issue ++ "[/red]") ++
      advice.map (fun hint => "[cyan]* " ++ hint ++ "[/cyan]")))
    ("[bold]Analyzer: " ++ platform ++ "[/bold]") (if ready then "green" else "red") .heavy

def yesNo (b : Bool) : String := if b then "yes" else "no"

/-- Platforms, each with the word whether it has an analyzer. -/
def platforms (offers : List (Platform × Bool)) : Item :=
  .table [{ header := "Id", style := "bold" }, { header := "Name" }, { header := "Languages" },
      { header := "Extensions", style := "dim" }, { header := "Active" }, { header := "Analyzer" }]
    (offers.map fun (p, hasAnalyzer) =>
      [p.id, p.displayName, joined ", " p.languages, joined ", " p.extensions, yesNo p.isActive,
       yesNo hasAnalyzer])

end ContractReview.Display
