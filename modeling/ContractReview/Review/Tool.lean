import ContractReview.Fault
import ContractReview.Report
import ContractReview.Text.Lines
import ContractReview.Text.Pattern

/-!
Tools outside the program: how they are called, and how they are asked for their version.
-/

namespace ContractReview

/-- A step that changes the surroundings `σ` and may fail. -/
abbrev Act (σ : Type) := ExceptT Fault (StateM σ)

/-- One call. `files` is what the directory holds that the tool runs in, if it has one of its
own. -/
structure ToolCall where
  command : String
  args : List String
  timeout : Number := .float 120.0
  platform : String := "unknown"
  contracts : List String := []
  files : Option (List (String × String)) := none

structure ToolOutput where
  stdout : String := ""
  stderr : String := ""
  exitCode : Int := 0
deriving DecidableEq, Repr

/-- A directory that is made for one call and removed after it. -/
structure Scratch where
  path : String
  name : String
deriving DecidableEq, Repr

structure Tools (σ : Type) where
  run : ToolCall → Act σ ToolOutput
  available : (command : String) → σ → Bool
  scratch : Scratch

namespace Tool

open Text

def versionPattern : Pattern :=
  Pattern.inOrder [.many 1 isDigit, .literal ".", .many 1 isDigit]

def firstLine (output : String) : String :=
  match linesOf output.toList with
  | [] => ""
  | line :: _ => String.ofList (trim line)

/-- What an output says about the tool's version. -/
def versionOf (command : String) (args : List String) (output : ToolOutput) : Installation :=
  if output.exitCode ≠ 0 then
    { installed := false
      error := some (command ++ " " ++ joined " " args ++ " exited with code " ++
        toString output.exitCode) }
  else
    let line := firstLine (if allBlank output.stdout then strip output.stderr
      else strip output.stdout)
    if versionPattern.foundIn line.toList then { installed := true, version := some line }
    else
      { installed := false
        error := some ("Unrecognised version output from " ++ command ++ ": " ++ quoted line) }

/-- How a version or an error text that may be missing is shown. -/
def shownText (text : Option String) : String := text.getD "None"

/-- The failure that it is when a tool that is needed was not found. -/
def missing (platform tool : String) (found : Installation) : Failure :=
  { code := .toolMissing
    message := tool ++ " is not installed or not available in PATH"
    platform
    context := [("tool", .str tool), ("detail", Json.ofOption Json.str found.error)] }

/-- The failure that it is when a tool breaks off on a contract. -/
def failed (tool displayName platform file : String) (output : ToolOutput) : Failure :=
  { code := .toolFailed
    message := displayName ++ " failed for " ++ file ++ " with exit code " ++
      toString output.exitCode
    platform
    context := [("tool", .str tool), ("stderr", .str (lastChars 1000 output.stderr))] }

/-- Asks a tool for its version. A failure of the tool is an answer; any other fault is not. -/
def probe {σ : Type} (tools : Tools σ) (command : String) (timeout : Number) (platform : String)
    (args : List String := ["--version"]) : Act σ Installation := fun s =>
  match (tools.run { command, args, timeout, platform }).run s with
  | (.ok output, s) => (.ok (versionOf command args output), s)
  | (.error (.platform failure), s) =>
      (.ok { installed := false, error := some failure.message }, s)
  | (.error fault, s) => (.error fault, s)

end Tool

end ContractReview
