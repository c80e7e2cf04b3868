import ContractReview.Review.Pipeline

/-!
Reviews that always end with a report. A review that fails for a passing reason is tried again;
when it fails for good, lesser ways of reviewing take its place one after the other. The trail of
attempts and events tells how the report came about, but for the times that are measured on the way.
-/

namespace ContractReview

/-- The ways of coming to a report, the best first. -/
inductive Strategy
  | full | modelsOnly | checksOnly | minimal
deriving DecidableEq, Repr

namespace Strategy

def name : Strategy → String
  | .full => "none"
  | .modelsOnly => "ai-only"
  | .checksOnly => "basic-validation"
  | .minimal => "minimal"

/-- How much is lost by it. -/
def degradation : Strategy → String
  | .full => "none"
  | .modelsOnly => "partial"
  | .checksOnly => "significant"
  | .minimal => "minimal"

def features : Strategy → List String
  | .full => ["Static Analysis", "AI Analysis", "Vulnerability Detection", "Best Practices"]
  | .modelsOnly => ["AI Analysis", "Pattern Recognition", "Basic Vulnerability Detection"]
  | .checksOnly => ["Syntax Validation", "Structure Validation", "Basic Error Detection"]
  | .minimal => ["Basic Contract Information", "File Structure Analysis"]

def missingFeatures : Strategy → List String
  | .full => []
  | .modelsOnly => ["Static Analysis Tools", "Platform-Specific Analyzers"]
  | .checksOnly => ["Static Analysis", "AI Analysis", "Advanced Vulnerability Detection"]
  | .minimal => ["Vulnerability Detection", "Security Analysis", "Code Quality Assessment"]

end Strategy

structure FallbackPolicy where
  maxAttempts : Int := 3
  retryDelay : Number := .float 1.0
  useModels : Bool := true
  useChecks : Bool := true

/-- One try at a report. -/
structure Attempt where
  number : Nat
  strategy : Strategy
  success : Bool
  failure : Option Failure := none
  reason : Option String := none

/-- What is announced while a review goes on. -/
inductive Event
  | attemptFailed (strategy : Strategy) (number : Nat) (failure : Failure)
  | retryScheduled (number : Nat) (delay : Number) (code : FailureCode)
  | fellBack (source target : Strategy) (reason : String) (code : FailureCode)
  | completed (strategy : Strategy) (success : Bool)

/-- A report with the way that it was come to. `cause` is the failure that stood in a better way. -/
structure TracedReport where
  report : Report
  strategy : Strategy
  attempts : List Attempt
  cause : Option Failure

/-- What reviews the contracts of one platform, in surroundings `σ`. -/
structure Reviewer (σ : Type) where
  platform : String
  analyze : List Contract → Act σ Report
  consult : List Contract → (focusAreas : Option (List String)) → Act σ Report
  validate : Contract → Act σ Validation
  pause : Number → σ → σ

namespace Fallback

open Text

variable {σ : Type}

/-- The attempts made and the events announced. -/
structure Trail where
  attempts : List Attempt := []
  events : List Event := []

namespace Trail

def attempt (t : Trail) (a : Attempt) : Trail := { t with attempts := t.attempts ++ [a] }

def announce (t : Trail) (e : Event) : Trail := { t with events := t.events ++ [e] }

/-- The number of the next attempt. -/
def next (t : Trail) : Nat := t.attempts.length + 1

def lastStrategy (t : Trail) : Strategy :=
  (t.attempts.getLast?.map Attempt.strategy).getD .full

end Trail

/-- The delay after the attempt of the given number: it doubles with every attempt. A factor or a
delay that no double can hold is a fault. -/
def delayAfter (delay : Number) (number : Nat) : Except Fault Number :=
  let factor : Number := .int (Nat.pow 2 (number - 1))
  match delay with
  | .float x =>
      match factor.toFloat? with
      | some f => .ok (.float (x * f))
      | none => .error .wholeTooLarge
  | .int i =>
      let product : Number := .int (i * Nat.pow 2 (number - 1))
      match product.toFloat? with
      | some _ => .ok product
      | none => .error .wholeTooLarge

/-- A report without a failure, or the failure that an attempt met. -/
def judged (platform : String) : Except Fault Report → Except Failure Report
  | .ok report =>
      match report.failure with
      | none => .ok report
      | some failure => .error failure
  | .error fault => .error (fault.asFailure platform)

/-- Tries the full review, and again after failures that may pass; `left` is how often at most. -/
def tryFull (r : Reviewer σ) (retryDelay : Number) (contracts : List Contract) :
    (left : Nat) → (number : Nat) → Trail → σ →
      Except Fault (Except Failure Report × Trail) × σ
  | left, number, trail, s =>
      let tried := (r.analyze contracts).run s
      match judged r.platform tried.1 with
      | .ok report =>
          (.ok (.ok report, trail.attempt ⟨number, .full, report.success, none, none⟩), tried.2)
      | .error failure =>
          let trail := trail.attempt
            ⟨number, .full, false, some failure, some "Primary analysis failed"⟩
          let trail := trail.announce (.attemptFailed .full number failure)
          match left with
          | 0 => (.ok (.error failure, trail), tried.2)
          | left + 1 =>
              if failure.retryable then
                match delayAfter retryDelay number with
                | .error fault => (.error fault, tried.2)
                | .ok delay =>
                    tryFull r retryDelay contracts left (number + 1)
                      (trail.announce (.retryScheduled (number + 1) delay failure.code))
                      (r.pause delay tried.2)
              else (.ok (.error failure, trail), tried.2)

def modelsWarning : String := "Analysis performed using AI-only fallback"
def checksWarning : String := "Analysis performed using basic validation only"

/-- What a degraded report says of itself. -/
def method (name : String) (cause : Failure) (limits : List String) : List (String × Json) :=
  [("analysis_method", .str name), ("original_error", .str cause.message),
   ("limitations", .ofStrings limits)]

def modelsReport (cause : Failure) (found : Report) : Report :=
  { success := true
    findings := found.findings
    errors := found.errors
    warnings := modelsWarning :: found.warnings
    details := some (Json.merge (found.details.getD [])
      (method "AI-only analysis" cause
        ["Static analysis tools unavailable",
         "Results based on AI pattern recognition only",
         "May miss tool-specific vulnerabilities"])) }

/-- The models alone. -/
def tryModels (r : Reviewer σ) (focusAreas : Option (List String)) (contracts : List Contract)
    (cause : Failure) (trail : Trail) (s : σ) : (Option Report × Trail) × σ :=
  match (r.consult contracts focusAreas).run s with
  | (.error fault, s) =>
      ((none, trail.attempt ⟨trail.next, .modelsOnly, false, some (fault.asFailure r.platform),
        some "AI analysis unavailable"⟩), s)
  | (.ok found, s) =>
      if found.success then
        ((some (modelsReport cause found), trail.attempt ⟨trail.next, .modelsOnly, true, none,
          some "Static analysis tools unavailable"⟩), s)
      else
        ((none, trail.attempt ⟨trail.next, .modelsOnly, false, none,
          some (joined "; " found.errors)⟩), s)

/-- Checks the contracts in turn; what they come to is told file by file. -/
def checkAll (r : Reviewer σ) : List Contract → Validation → Act σ Validation
  | [], found => pure found
  | c :: rest, found => do
      let v ← r.validate c
      checkAll r rest
        (found.append ⟨Pipeline.inFile c v.errors, Pipeline.inFile c v.warnings⟩)

def checksReport (cause : Failure) (found : Validation) : Report :=
  { success := false
    errors := cause.message :: found.errors
    warnings := checksWarning :: found.warnings
    details := some (method "Basic contract validation" cause
      ["No static analysis performed",
       "No AI-based vulnerability detection",
       "Limited to syntax and structure validation"]) }

/-- The checks alone. -/
def tryChecks (r : Reviewer σ) (contracts : List Contract) (cause : Failure) (trail : Trail)
    (s : σ) : (Option Report × Trail) × σ :=
  match (checkAll r contracts {}).run s with
  | (.error fault, s) =>
      ((none, trail.attempt ⟨trail.next, .checksOnly, false, some (fault.asFailure r.platform),
        some "Basic validation failed"⟩), s)
  | (.ok found, s) =>
      ((some (checksReport cause found), trail.attempt ⟨trail.next, .checksOnly, true, none,
        some "Full analysis unavailable"⟩), s)

def describe (c : Contract) : Json :=
  .obj [("filename", c.filename), ("size_bytes", c.sizeBytes),
    ("lines", (linesOf c.code.toList).length)]

/-- What can always be said. -/
def minimalReport (contracts : List Contract) (cause : Failure) : Report :=
  { success := false
    errors := [cause.message]
    warnings := ["Analysis completed with minimal functionality",
      "Full security analysis unavailable",
      "Manual review recommended"]
    details := some [
      ("analysis_method", .str "Minimal contract information extraction"),
      ("contracts", .arr (contracts.map describe)),
      ("limitations", .ofStrings ["No vulnerability detection performed",
        "No static analysis available",
        "No AI analysis available",
        "Manual security review required"]),
      ("recommendations", .ofStrings ["Resolve analyzer installation issues",
        "Perform manual security review",
        "Use alternative analysis tools"])] }

/-- A report of a lesser way than the full one says so in its details. -/
def fallbackDetails (strategy : Strategy) (attempts : Nat) (cause : Option Failure) :
    List (String × Json) :=
  match strategy with
  | .full => []
  | strategy =>
      [("fallback_analysis", .obj [
        ("strategy", .str strategy.name),
        ("degradation_level", .str strategy.degradation),
        ("total_attempts", .num (.int attempts)),
        ("original_error", Json.ofOption (fun f : Failure => .str f.message) cause)])]

def finish (report : Report) (strategy : Strategy) (trail : Trail) (cause : Option Failure) :
    TracedReport × List Event :=
  let details := Json.merge (report.details.getD [])
    (fallbackDetails strategy trail.attempts.length cause)
  ({ report := { report with
      executionTime := .float 0.0
      details := if details.isEmpty then none else some details
      failure := if strategy = .full then report.failure else cause }
     strategy, attempts := trail.attempts, cause },
   (trail.announce (.completed strategy report.success)).events)

/-- The lesser ways in turn, after a failure of the full review. -/
def degrade (r : Reviewer σ) (policy : FallbackPolicy) (focusAreas : Option (List String))
    (contracts : List Contract) (cause : Failure) (trail : Trail) (s : σ) :
    (TracedReport × List Event) × σ :=
  let byModels :=
    if policy.useModels then
      tryModels r focusAreas contracts cause
        (trail.announce (.fellBack .full .modelsOnly "Primary analysis failed" cause.code)) s
    else ((none, trail), s)
  match byModels with
  | ((some report, trail), s) => (finish report .modelsOnly trail (some cause), s)
  | ((none, trail), s) =>
      let source := if policy.useModels then Strategy.modelsOnly else .full
      let byChecks :=
        if policy.useChecks then
          tryChecks r contracts cause
            (trail.announce (.fellBack source .checksOnly "Full analysis unavailable" cause.code)) s
        else ((none, trail), s)
      match byChecks with
      | ((some report, trail), s) => (finish report .checksOnly trail (some cause), s)
      | ((none, trail), s) =>
          let trail := trail.announce (.fellBack trail.lastStrategy .minimal
            "All other analysis methods failed" cause.code)
          let trail := trail.attempt ⟨trail.next, .minimal, true, none,
            some "All other analysis methods failed"⟩
          (finish (minimalReport contracts cause) .minimal trail (some cause), s)

/-- Reviews the contracts. At least one attempt is made. -/
def review (r : Reviewer σ) (policy : FallbackPolicy) (focusAreas : Option (List String))
    (contracts : List Contract) (s : σ) : Except Fault (TracedReport × List Event) × σ :=
  match tryFull r policy.retryDelay contracts (policy.maxAttempts.toNat - 1) 1 {} s with
  | (.error fault, s) => (.error fault, s)
  | (.ok (.ok report, trail), s) => (.ok (finish report .full trail none), s)
  | (.ok (.error cause, trail), s) =>
      let degraded := degrade r policy focusAreas contracts cause trail s
      (.ok degraded.1, degraded.2)

end Fallback

namespace Pipeline

/-- A pipeline as a reviewer. What it keeps between calls is part of the surroundings. -/
def reviewer {σ : Type} (p : Pipeline σ) (pause : Number → σ → σ) : Reviewer (Kept × σ) :=
  { platform := p.platform
    analyze := fun contracts (kept, s) =>
      let done := p.analyze contracts kept s
      (.ok done.1, (done.2.1, done.2.2))
    consult := fun contracts focusAreas (kept, s) =>
      let done := (p.consult contracts (focusAreas.getD [])).run s
      (done.1, (kept, done.2))
    validate := fun c (kept, s) =>
      let done := p.validate c s
      (.ok done.1, (kept, done.2))
    pause := fun time (kept, s) => (kept, pause time s) }

end Pipeline

end ContractReview
