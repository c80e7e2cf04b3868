import ContractReview.Process.Course
import ContractReview.Process.Shell.Printing
import ContractReview.Process.Volume

/-!
The state of a shell that runs on the host: its variables, where it stands, where its two channels
lead, and what was written to them.
-/

namespace ContractReview.Shell

structure Variable where
  name : Raw
  value : Raw
  exported : Bool := false

/-- Where a channel leads. A pipe has the number of pipes around it. -/
inductive Target
  | output
  | errors
  | nowhere
  | pipe (around : Nat)
  | file (path : Raw)
deriving DecidableEq

/-- How a shell stands: going on, or on its way out of something. -/
inductive Stage
  | going
  | leaving (ending : Ending)
  | breaking (loops : Nat)
  | continuing (loops : Nat)
  | endless

structure Machine where
  name : Raw
  arguments : List Raw := []
  bindings : List Variable := []
  folder : List String := []
  files : List (Raw × Raw) := []
  input : Raw := []
  output : Target := .output
  errors : Target := .errors
  /-- What was written, last first. -/
  written : List (Target × Raw) := []
  /-- Nanoseconds since the start, and until when something started besides holds the channels. -/
  time : Nat := 0
  held : Nat := 0
  status : Nat := 0
  stage : Stage := .going
  pipes : Nat := 0
  /-- How many loops the shell is in. -/
  loops : Nat := 0
  /-- What is done about a signal; zero stands for the end of the shell. -/
  traps : List (Nat × Raw) := []
  /-- A trap's commands that are to be run now. -/
  sprung : Option Raw := none

namespace Machine

def going (m : Machine) : Bool := m.stage matches .going

/-- The number by which a shell knows itself. -/
def ownNumber : Raw := "4242".toList

def value? (m : Machine) (name : Raw) : Option Raw :=
  (m.bindings.find? (·.name = name)).map (·.value)

def set (m : Machine) (name value : Raw) : Machine :=
  if (m.value? name).isSome then
    { m with bindings := m.bindings.map fun v => if v.name = name then { v with value } else v }
  else { m with bindings := m.bindings ++ [{ name, value }] }

def share (m : Machine) (name : Raw) : Machine :=
  { m with
    bindings := m.bindings.map fun v => if v.name = name then { v with exported := true } else v }

def unset (m : Machine) (name : Raw) : Machine :=
  { m with bindings := m.bindings.filter (·.name ≠ name) }

/-- What the programs that it starts see of the variables. -/
def environment (m : Machine) : List Variable := m.bindings.filter (·.exported)

def writeTo (m : Machine) (target : Target) (text : Raw) : Machine :=
  if text.isEmpty then m
  else
    match target with
    | .nowhere => m
    | .file path =>
        { m with
          files := m.files.map fun (p, old) => if p = path then (p, old ++ text) else (p, old) }
    | target => { m with written := (target, text) :: m.written }

def print (m : Machine) (text : Raw) : Machine := m.writeTo m.output text

def printError (m : Machine) (text : String) : Machine := m.writeTo m.errors text.toList

/-- What was written to a target, in order. -/
def writtenTo (m : Machine) (target : Target) : Raw :=
  ((m.written.filter (·.1 = target)).map (·.2)).reverse.flatten

def answer (m : Machine) (status : Nat) : Machine := { m with status }

/-- A complaint of the shell itself. -/
def complain (m : Machine) (text : String) (status : Nat) : Machine :=
  (m.printError (String.ofList m.name ++ ": 1: " ++ text ++ "\n")).answer status

/-- A complaint that the shell does not survive. -/
def giveUp (m : Machine) (text : String) : Machine :=
  { m.complain text 2 with stage := .leaving (.exited 2) }

/-- How the shell ended. A script that goes on to its end gives the last status. -/
def ending (m : Machine) : Ending :=
  match m.stage with
  | .leaving ending => ending
  | _ => .exited m.status

/-- The shell after commands that ran apart from it: what they wrote, read and took stays, and what
they changed in the shell does not. -/
def backFrom (m inner : Machine) : Machine :=
  { m with
    files := inner.files
    input := inner.input
    written := inner.written
    time := inner.time
    held := inner.held
    status := inner.status
    stage :=
      match inner.stage with
      | .endless => .endless
      | .leaving (.killed signal) => .leaving (.killed signal)
      | _ => .going }
  |> fun back =>
    match inner.stage with
    | .leaving (.exited code) => { back with status := code }
    | _ => back

/-! ## Paths -/

def place (m : Machine) (path : Raw) : List String × Volume.Entry :=
  Volume.find m.folder (String.ofList path)

/-- A path in one spelling. -/
def settled (m : Machine) (path : Raw) : Raw :=
  if path.head? = some '/' then (FilePath.shortest (String.ofList path)).toList
  else (FilePath.shortest (Volume.pathOf m.folder ++ "/" ++ String.ofList path)).toList

/-- The content of a file, if it is known. -/
def read? (m : Machine) (path : Raw) : Option Raw :=
  if m.settled path = "/dev/null".toList then some [] else m.files.lookup (m.settled path)

/-- The path can take a file. -/
def writable (m : Machine) (path : Raw) : Bool :=
  let parts := FilePath.parts (String.ofList (m.settled path))
  match (Volume.walk [] parts).2, (Volume.walk [] parts.dropLast).2 with
  | .file, _ | .program _, _ | .missing, .folder => true
  | _, _ => false

end Machine

end ContractReview.Shell
