import ContractReview.Json.Defaults
import ContractReview.Review.Fallback

/-!
Reports and their parts as data.
-/

namespace ContractReview

open Json (ofStrings ofOption)

def Failure.toJson (f : Failure) : Json :=
  .obj [("code", f.code.name), ("message", f.message), ("platform", f.platform),
    ("context", .obj f.shownContext), ("retryable", f.retryable),
    ("fallback_available", f.fallbackAvailable), ("transient", f.transient), ("text", f.text)]

def Location.toJson (l : Location) : Json :=
  .obj [("file", l.file), ("line", l.line), ("column", l.column), ("length", l.length)]

def Finding.toJson (f : Finding) : Json :=
  .obj [("type", f.category.toJson), ("severity", f.severity.name), ("title", f.title),
    ("description", f.description), ("location", f.location.toJson),
    ("recommendation", f.recommendation), ("confidence", f.confidence),
    ("source", f.source.name), ("platform", f.platform),
    ("platform_specific_data", f.details), ("id", f.id)]

def Finding.listToJson (findings : List Finding) : Json := .arr (findings.map Finding.toJson)

def Report.fields (r : Report) : List (String × Json) :=
  [("success", .bool r.success), ("vulnerabilities", Finding.listToJson r.findings),
   ("errors", ofStrings r.errors), ("warnings", ofStrings r.warnings),
   ("execution_time", .num r.executionTime), ("platform_specific", ofOption .obj r.details),
   ("platform_error", ofOption Failure.toJson r.failure)]

def Validation.toJson (v : Validation) : Json :=
  .obj [("is_valid", v.isValid), ("errors", ofStrings v.errors),
    ("warnings", ofStrings v.warnings)]

def Installation.toJson (i : Installation) : Json :=
  .obj [("installed", i.installed), ("version", ofOption .str i.version),
    ("error", ofOption .str i.error)]

def Attempt.toJson (a : Attempt) : Json :=
  .obj [("attempt", a.number), ("strategy", a.strategy.name), ("success", a.success),
    ("error", ofOption Failure.toJson a.failure), ("fallback_reason", ofOption .str a.reason)]

def TracedReport.fields (t : TracedReport) : List (String × Json) :=
  t.report.fields ++
  [("fallback_strategy", .str t.strategy.name), ("attempts", .arr (t.attempts.map Attempt.toJson)),
   ("original_error", ofOption Failure.toJson t.cause),
   ("degradation_level", .str t.strategy.degradation),
   ("available_features", ofStrings t.strategy.features),
   ("unavailable_features", ofStrings t.strategy.missingFeatures)]

open Json.Defaults in
def FallbackPolicy.ofJson (v : Json) : FallbackPolicy :=
  { maxAttempts := int v "max_retry_attempts" 3
    retryDelay := number v "retry_delay_s" (.float 1.0)
    useModels := (fieldD v "enable_ai_fallback" true).isFilled
    useChecks := (fieldD v "enable_basic_validation" true).isFilled }

open Json.Defaults in
def RetryPolicy.ofJson (v : Json) : RetryPolicy :=
  { maxRetries := int v "max_retries" 2
    initialBackoff := number v "initial_backoff_s" (.float 1.0)
    factor := number v "backoff_factor" (.float 2.0) }

namespace Event

def name : Event → String
  | .attemptFailed .. => "AnalysisAttemptFailed"
  | .retryScheduled .. => "RetryScheduled"
  | .fellBack .. => "FallbackTriggered"
  | .completed .. => "AnalysisCompleted"

def fields : Event → List (String × Json)
  | .attemptFailed strategy number failure =>
      [("strategy", strategy.name), ("attempt_number", number),
       ("error_code", failure.code.name), ("error_message", failure.message)]
  | .retryScheduled number delay code =>
      [("attempt_number", number), ("delay_seconds", .num delay), ("error_code", code.name)]
  | .fellBack source target reason code =>
      [("from_strategy", source.name), ("to_strategy", target.name), ("reason", reason),
       ("error_code", code.name)]
  | .completed strategy success =>
      [("strategy", strategy.name), ("degradation_level", strategy.degradation),
       ("success", success)]

/-- The event as it is announced for a platform. -/
def toJson (platform : String) (e : Event) : Json :=
  .obj (("event", .str e.name) :: ("platform", .str platform) :: e.fields)

end Event

end ContractReview
