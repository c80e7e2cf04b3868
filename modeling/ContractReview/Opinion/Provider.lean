import ContractReview.Json.Access
import ContractReview.Opinion.Prompt

/-!
The providers that serve models: their clients, what is sent to them, and what is taken from their
replies.
-/

namespace ContractReview

inductive Provider
  | openRouter | groq
deriving DecidableEq, Repr

namespace Provider

def name : Provider → String
  | .openRouter => "openrouter"
  | .groq => "groq"

def defaultModel : Provider → String
  | .openRouter => "z-ai/glm-4.5-air:free"
  | .groq => "llama-3.3-70b-versatile"

def defaultUrl : String := "https://openrouter.ai/api/v1"

def keyVariable : Provider → String
  | .openRouter => "OPENROUTER_API_KEY"
  | .groq => "GROQ_API_KEY"

def title : Provider → String
  | .openRouter => "OpenRouter"
  | .groq => "Groq"

/-- The interface that replies come from, as faults name it. -/
def interface : Provider → String
  | .openRouter => "OpenAI-compatible API"
  | .groq => "Groq"

end Provider

/-- What a model is sent. -/
structure Request where
  model : String
  messages : List Message
  maxTokens : Option Int := none
  temperature : Option Number := none
deriving DecidableEq

structure TokenUsage where
  prompt : Json
  completion : Json
  total : Json

/-- What is taken from a reply. -/
structure Completion where
  content : Json
  usage : Option TokenUsage
  model : Json

structure Client where
  provider : Provider
  key : String
  model : String
  baseUrl : Option String
deriving DecidableEq, Repr

namespace Client

/-- The text unless it is missing or empty. -/
def orText (text : Option String) (default : String) : String :=
  match text with
  | none | some "" => default
  | some s => s

/-- A client with the given key or that of the environment; an empty key is none. -/
def create (provider : Provider) (key model baseUrl environmentKey : Option String) :
    Except Fault Client :=
  let key := orText key (orText environmentKey "")
  if key = "" then .error (.keyMissing provider.title)
  else .ok {
    provider
    key
    model := orText model provider.defaultModel
    baseUrl := match provider with
      | .openRouter => some (orText baseUrl Provider.defaultUrl)
      | .groq => none }

def request (c : Client) (messages : List Message) (model : Option String) (maxTokens : Option Int)
    (temperature : Option Number) : Request :=
  { model := orText model c.model, messages, maxTokens, temperature }

/-- The name of the type of records in replies. -/
abbrev RecordName := String

def part (record : RecordName) (v : Json) (name : String) : Except Fault Json :=
  match v with
  | .obj fields =>
      match Json.lookup name fields with
      | some value => .ok value
      | none => .error (.noAttribute record name)
  | v => .error (.noAttribute v.kind.name name)

def firstOf (record : RecordName) : Json → Except Fault Json
  | .obj _ => .error (.notSubscriptable record)
  | v => v.firstItem

/-- A record counts as present even without fields. -/
def isPresent : Json → Bool
  | .obj _ => true
  | v => v.isFilled

/-- What a reply says, before its model's name is filled in. -/
def completion (provider : Provider) (record : RecordName) (reply : Json) :
    Except Fault Completion := do
  let choice ← firstOf record (← part record reply "choices")
  let content ← part record (← part record choice "message") "content"
  let usage ← part record reply "usage"
  let tokens ←
    if isPresent usage then do
      pure (some (⟨← part record usage "prompt_tokens",
        ← part record usage "completion_tokens",
        ← part record usage "total_tokens"⟩ : TokenUsage))
    else pure none
  let model ← match provider with
    | .openRouter => part record reply "model"
    | .groq => pure (reply.field "model")
  return { content := content.orElse (.str ""), usage := tokens, model }

/-- What a reply to a request says; a reply without a part that it needs is a fault. -/
def read (c : Client) (record : RecordName) (request : Request) (reply : Json) :
    Except Fault Completion :=
  match completion c.provider record reply with
  | .error fault => .error (.badAnswer c.provider.interface fault.text)
  | .ok found =>
      .ok (if isPresent found.model then found else { found with model := .str request.model })

end Client

end ContractReview
