import ContractReview.Opinion.Ensemble
import ContractReview.Record.Review

/-!
Opinions, and the requests that they answer, as data.
-/

namespace ContractReview

open Json (ofStrings ofOption)

def Concern.toJson (c : Concern Number) : Json :=
  .obj [("type", c.category), ("severity", c.severity), ("description", c.description),
    ("location", c.location.toJson), ("confidence", .num c.confidence)]

def Advice.toJson (a : Advice) : Json :=
  .obj [("category", a.category), ("priority", a.priority), ("description", a.description),
    ("implementation_guide", a.guide)]

def Quality.toJson (q : Quality Number) : Json :=
  .obj [("code_quality_score", .num q.codeQuality),
    ("maintainability_index", .num q.maintainability),
    ("test_coverage_estimate", .num q.testCoverage)]

def Opinion.fields (o : Opinion Number) : List (String × Json) :=
  [("model", .str o.model), ("vulnerabilities", .arr (o.concerns.map Concern.toJson)),
   ("recommendations", .arr (o.advice.map Advice.toJson)), ("quality_metrics", o.quality.toJson),
   ("confidence", .num o.confidence), ("execution_time", .num o.executionTime)]

def Message.toJson (m : Message) : Json := .obj [("role", m.role), ("content", m.content)]

/-- What is sent; what is not asked for is not sent. -/
def Request.fields (r : Request) : List (String × Json) :=
  [("model", .str r.model), ("messages", .arr (r.messages.map Message.toJson))] ++
  (r.maxTokens.map fun n => ("max_tokens", Json.num (.int n))).toList ++
  (r.temperature.map fun x => ("temperature", Json.num x)).toList

def TokenUsage.toJson (u : TokenUsage) : Json :=
  .obj [("prompt_tokens", u.prompt), ("completion_tokens", u.completion), ("total_tokens", u.total)]

def Completion.toJson (c : Completion) : Json :=
  .obj [("content", c.content), ("token_usage", ofOption TokenUsage.toJson c.usage),
    ("model_name", c.model)]

end ContractReview
