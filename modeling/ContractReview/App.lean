import ContractReview.CommandLine
import ContractReview.Display
import ContractReview.Folder
import ContractReview.Log
import ContractReview.Opinion.Assembly
import ContractReview.Platform.Family

/-!
The program: settings make the analyzers, and commands put them to work. What is shown, what goes to
the error output and the exit code are the outcome.
-/

namespace ContractReview

/-- What a command comes to. -/
structure Outcome where
  exitCode : Nat
  shown : List Display.Item := []
  /-- A line for the error output. -/
  complaint : Option String := none

/-- What the program finds where it runs: the texts of settings and variables, and the files that
paths lead to. -/
structure Site where
  settingsText : Option FileText := none
  variablesText : Option FileText := none
  file? : String → Option FileText

namespace App

open Text

variable {σ : Type}

/-- The analyzers, the platforms they are for, and what happens when a review fails. -/
structure Setup (σ : Type) where
  workshop : Workshop σ (Pipeline σ)
  registry : Registry
  policy : FallbackPolicy

/-- The log that settings ask for. -/
def logOptions (s : Settings) : Except Fault Log.Options := do
  let format ←
    match s.get "logging.format" (({} : Log.Options).format) with
    | .str text => pure text
    | v => if v.isFilled then throw (.formatNotText v.kind) else pure ""
  let file ←
    match s.get "logging.file" with
    | .str path => pure (some path)
    | v => if v.isFilled then throw (.pathNotText v.kind) else pure none
  return { level := Log.levelOf (s.get "logging.level" "WARNING"), format, file }

/-- Sets the program up. Any fault on the way is fatal. -/
def setUp (s : Settings) (tools : Tools σ) (models : Models σ) (useModels : Bool) :
    Except Fault (Setup σ) := do
  discard <| Log.setUp (← logOptions s) fun _ => true
  let useModels := useModels && s.modelsEnabled
  let ensemble ←
    if useModels then do
      let assembly ← Ensemble.assemble s (← s.models)
      pure (assembly.map (·.ensemble))
    else pure none
  let options : ReviewOptions := {
    ensemble
    timeout := .float (← s.reviewTimeout)
    maxContractSize := .int (← s.maxContractSize)
    healthTimeout := .float (← s.healthTimeout)
    modelsEnabled := useModels }
  let fallback ← s.fallback
  return {
    workshop := .standard tools models options
    registry := .standard
    policy := {
      maxAttempts := fallback.maxRetries
      retryDelay := .float fallback.delay
      useModels := fallback.useModels && ensemble.isSome
      useChecks := fallback.useChecks } }

/-! ### Reviews -/

def mixedPlatforms (ids : List String) : String :=
  "Files belong to different platforms (" ++ joined ", " ids ++ "); use --platform"

def unknownPlatform : String :=
  "Could not detect the platform from the file extension; use --platform"

/-- The platform that is asked for, else the one that the names of the files speak for. -/
def platformOf (registry : Registry) (files : List String) (platform : Option String) :
    Except String String :=
  match platform with
  | some name =>
      if name = "" then detected else .ok (lower name)
  | none => detected
where
  detected : Except String String :=
    match (files.filterMap fun f => registry.detect (FilePath.name f)).eraseDups with
    | [] => .error unknownPlatform
    | [id] => .ok id
    | ids => .error (mixedPlatforms (ids.mergeSort fun a b => decide (a ≤ b)))

/-- What is told of a file that cannot be read. -/
def unread (path why : String) : String := "Cannot read " ++ FilePath.shortest path ++ ": " ++ why

def noSuchFile (path : String) : String :=
  "[Errno 2] No such file or directory: " ++ quoted (FilePath.shortest path)

/-- The contracts in the files; one that is missing or is no text ends it. -/
def contractsOf (site : Site) (platform : String) (language : Option String) :
    List String → Except String (List Contract)
  | [] => .ok []
  | path :: rest =>
      match site.file? path with
      | none => .error (unread path (noSuchFile path))
      | some (.error why) => .error (unread path (Fault.malformedText why))
      | some (.ok code) =>
          (contractsOf site platform language rest).map fun others =>
            { filename := FilePath.name path, code, platform, language } :: others

/-- A report that is shown, and whether it is a success; a fault while it is shown is told. -/
def showReport (platform : String) (report : Report) (lesser : Option Display.Degradation) :
    Outcome :=
  let shown := Display.report platform report lesser
  match shown.fault with
  | none => { exitCode := if report.success then 0 else 1, shown := shown.items }
  | some fault =>
      { exitCode := 1
        shown := shown.items ++ [Display.error ("Command execution failed: " ++ fault.text)] }

def failed (message : String) : Outcome := { exitCode := 1, shown := [Display.error message] }

/-- Reviews contracts with an analyzer, with or without lesser ways in reserve. -/
def reviewWith (setup : Setup σ) (pause : Number → σ → σ) (useFallback : Bool) (p : Pipeline σ)
    (contracts : List Contract) (s : σ) : Outcome × σ :=
  if useFallback then
    let done := Fallback.review (p.reviewer pause) setup.policy
      (some (setup.registry.focusAreas p.platform)) contracts (none, s)
    match done.1 with
    | .ok (traced, _) =>
        (showReport p.platform traced.report (Display.Degradation.of? traced.strategy), done.2.2)
    | .error fault => (failed ("Command execution failed: " ++ fault.text), done.2.2)
  else
    let done := p.analyze contracts none s
    (showReport p.platform done.1 none, done.2.2)

def analyze (setup : Setup σ) (site : Site) (pause : Number → σ → σ) (files : List String)
    (platform : Option String) (useFallback : Bool) (s : σ) : Outcome × σ :=
  match platformOf setup.registry files platform with
  | .error message => (failed message, s)
  | .ok id =>
      let stock : Stock (Pipeline σ) := { registry := setup.registry }
      match setup.workshop.analyzer? stock id s with
      | ((none, stock), s) =>
          (failed ("Platform '" ++ id ++ "' is not available. Available platforms: " ++
            joined ", " (setup.workshop.available stock)), s)
      | ((some p, _), s) =>
          let language := (setup.registry.find? id).bind (·.languages.head?)
          match contractsOf site id language files with
          | .error message => (failed message, s)
          | .ok contracts => reviewWith setup pause useFallback p contracts s

/-! ### Commands -/

def health (setup : Setup σ) (s : σ) : Outcome × σ :=
  let found := HealthSummary.take setup.workshop { registry := setup.registry } s
  ({ exitCode := 0, shown := Display.health found.1.1 }, found.2)

def validate (setup : Setup σ) (platform : String) (s : σ) : Outcome × σ :=
  let id := lower platform
  let found := setup.workshop.readiness { registry := setup.registry } id s
  let ready := found.1.1.isReady
  ({ exitCode := if ready then 0 else 1
     shown := [Display.readiness id ready found.1.1.issues found.1.1.advice] }, found.2)

def platforms (setup : Setup σ) : Outcome :=
  { exitCode := 0
    shown := [Display.platforms
      (setup.registry.platforms.map fun p => (p, setup.workshop.implements p.id))] }

/-- The wrong use of the command line. -/
def misuse : Outcome := { exitCode := 2 }

def fatal (fault : Fault) : Outcome :=
  { exitCode := 1, complaint := some ("FATAL ERROR during initialization: " ++ fault.text) }

def usesModels : Command → Bool
  | .analyze _ _ useModels _ => useModels
  | _ => false

/-- Files that a command needs and that are not there. -/
def isMissing (site : Site) : Command → Bool
  | .analyze files _ _ _ => files.any fun f => (site.file? f).isNone
  | _ => false

def runCommand (setup : Setup σ) (site : Site) (pause : Number → σ → σ) (command : Command)
    (s : σ) : Outcome × σ :=
  match command with
  | .analyze files platform _ useFallback =>
      analyze setup site pause files platform useFallback s
  | .health => health setup s
  | .validate platform => validate setup platform s
  | .platforms => (platforms setup, s)

/-- Runs the program with a command line. -/
def run (settings : Settings) (site : Site) (tools : Tools σ) (models : Models σ)
    (pause : Number → σ → σ) (words : List String) (s : σ) : Outcome × σ :=
  match CommandLine.parse words with
  | none => (misuse, s)
  | some .help => ({ exitCode := 0 }, s)
  | some (.run command) =>
      if isMissing site command then (misuse, s)
      else
        let prepared := do
          let loaded := settings.load site.settingsText site.variablesText
          loaded.1
          setUp loaded.2 tools models (usesModels command)
        match prepared with
        | .error fault => (fatal fault, s)
        | .ok setup => runCommand setup site pause command s

end App

end ContractReview
