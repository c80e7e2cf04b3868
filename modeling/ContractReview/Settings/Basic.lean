import ContractReview.Folder
import ContractReview.Json.Access
import ContractReview.Settings.Dotenv
import ContractReview.Settings.Yaml
import ContractReview.Text.CaseMapping
import ContractReview.Text.Search

/-!
Settings by dotted names. What is set aside for the occasion counts first, then the environment,
then the settings file.
-/

namespace ContractReview

structure Settings where
  environment : List (String × String) := []
  file : List (Yaml.Scalar × Yaml) := []
  overrides : List (String × Json) := []
  isLoaded : Bool := false

namespace Settings

open Text

/-- The settings of a file, if its text is a mapping. -/
def entriesOf (text : String) : List (Yaml.Scalar × Yaml) :=
  match Yaml.read text with
  | some (.map entries) => entries
  | _ => []

/-- Reads the settings file and the file of variables, once. An unreadable text is a fault, and what
was read before it stays. -/
def load (s : Settings) (file dotenv : Option FileText) : Except Fault Unit × Settings :=
  if s.isLoaded then (.ok (), s)
  else
    match file with
    | some (.error why) => (.error (.undecodable why.streamed), { s with file := [] })
    | file =>
        let s := { s with file :=
          match file with
          | some (.ok text) => entriesOf text
          | _ => [] }
        match dotenv with
        | some (.error why) => (.error (.undecodable why), s)
        | some (.ok text) =>
            (.ok (), { s with
              environment := Dotenv.extend s.environment text
              isLoaded := true })
        | none => (.ok (), { s with isLoaded := true })

/-- Forgets what was read from the settings file, so that it is read again. -/
def reset (s : Settings) : Settings := { s with file := [], isLoaded := false }

/-- The name of the environment variable for a setting. -/
def variableName (name : String) : String := replaceChar '.' '_' (upper name)

/-- The settings that the program knows. -/
def names : List String :=
  ["ai.enabled", "ai.models", "ai.timeout_seconds", "ai.max_tokens", "ai.temperature",
    "ai.ensemble_threshold", "OPENROUTER_API_KEY", "openrouter.api_key", "openrouter.base_url",
    "GROQ_API_KEY", "groq.api_key", "analysis.timeout_seconds", "analysis.max_file_size_bytes",
    "analysis.health_check_timeout_seconds", "fallback.max_retries", "fallback.retry_delay_seconds",
    "fallback.enable_ai", "fallback.enable_basic_validation", "logging.level", "logging.format",
    "logging.file"]

/-- What an environment variable's text stands for: a truth value, a number or itself. -/
def valueOf (text : String) : Json :=
  let lowered := lower text
  if lowered = "true" then true
  else if lowered = "false" then false
  else if contains text "." then
    match Numeral.double? text with
    | some x => x
    | none => text
  else
    match Numeral.whole text with
    | .ok i => i
    | .error _ => text

/-- The value at the end of a path through mappings. -/
def follow : List String → Yaml → Option Yaml
  | [], v => some v
  | name :: path, .map entries => (entries.lookup (.text name)).bind (follow path)
  | _ :: _, _ => none

/-- A setting of the file: one of the full name counts before one that mappings lead to. -/
def inFile (s : Settings) (name : String) : Option Yaml :=
  match s.file.lookup (.text name) with
  | some v => some v
  | none => follow (splitAt '.' name) (.map s.file)

def find? (s : Settings) (name : String) : Option Json :=
  match s.overrides.lookup name with
  | some v => some v
  | none =>
      match s.environment.lookup (variableName name) with
      | some text => some (valueOf text)
      | none =>
          match (s.inFile name).map Yaml.toJson with
          | none | some .null => none
          | some v => some v

def get (s : Settings) (name : String) (default : Json := .null) : Json :=
  (s.find? name).getD default

def override (s : Settings) (values : List (String × Json)) : Settings :=
  { s with overrides := Json.merge s.overrides values }

def clearOverrides (s : Settings) : Settings := { s with overrides := [] }

def setVariables (s : Settings) (values : List (String × String)) : Settings :=
  { s with environment := values ++ s.environment }

/-! ### Typed values -/

/-- A number; what is none gives the default. -/
def number (s : Settings) (name : String) (default : Float) : Except Fault Float :=
  match (s.get name default).double with
  | .ok x => .ok x
  | .error .tooLarge => .error .wholeTooLarge
  | .error .otherwise => .ok default

/-- The whole part of a number. -/
def whole (s : Settings) (name : String) (default : Int) : Except Fault Int := do
  match (Number.int default).toFloat? with
  | some x => Json.wholeOfFloat (← s.number name x)
  | none => throw .wholeTooLarge

def yesWords : List String := ["1", "true", "yes", "on"]

/-- A text says yes or no; any other value says yes unless it is empty. -/
def truth (s : Settings) (name : String) (default : Bool) : Bool :=
  match s.get name default with
  | .str text => yesWords.contains (lower (strip text))
  | v => v.isFilled

/-- The first of two settings that is not empty, else the second. -/
def key? (s : Settings) (first second : String) : Option String :=
  match (s.get first).orElse (s.get second) with
  | .null => none
  | v => some v.shown

def openRouterKey? (s : Settings) : Option String :=
  s.key? "OPENROUTER_API_KEY" "openrouter.api_key"

def openRouterUrl (s : Settings) : String :=
  (s.get "openrouter.base_url" "https://openrouter.ai/api/v1").shown

def groqKey? (s : Settings) : Option String := s.key? "GROQ_API_KEY" "groq.api_key"

def defaultModels : Json := .ofStrings ["moonshotai/kimi-k2:free", "z-ai/glm-4.5-air:free"]

/-- The models to ask: a list of them, or a text with commas between them. -/
def models (s : Settings) : Except Fault (List String) := do
  let items ← match s.get "ai.models" defaultModels with
    | .str text => pure ((splitAt ',' text).map fun part => Json.str (strip part))
    | v => v.itemsOf
  return (items.map Json.shown).filter fun text => !allBlank text

def modelTimeout (s : Settings) : Except Fault Float := s.number "ai.timeout_seconds" 120.0
def maxTokens (s : Settings) : Except Fault Int := s.whole "ai.max_tokens" 4000
def temperature (s : Settings) : Except Fault Float := s.number "ai.temperature" 0.1
def threshold (s : Settings) : Except Fault Float := s.number "ai.ensemble_threshold" 0.6
def modelsEnabled (s : Settings) : Bool := s.truth "ai.enabled" true
def reviewTimeout (s : Settings) : Except Fault Float := s.number "analysis.timeout_seconds" 120.0

def maxContractSize (s : Settings) : Except Fault Int :=
  s.whole "analysis.max_file_size_bytes" 10485760

def healthTimeout (s : Settings) : Except Fault Float :=
  s.number "analysis.health_check_timeout_seconds" 5.0

/-- How often a review is tried again, how long it waits, and what may take its place. -/
structure FallbackValues where
  maxRetries : Int
  delay : Float
  useModels : Bool
  useChecks : Bool

def fallback (s : Settings) : Except Fault FallbackValues := do
  return {
    maxRetries := ← s.whole "fallback.max_retries" 3
    delay := ← s.number "fallback.retry_delay_seconds" 1.0
    useModels := s.truth "fallback.enable_ai" true
    useChecks := s.truth "fallback.enable_basic_validation" true }

end Settings

end ContractReview
