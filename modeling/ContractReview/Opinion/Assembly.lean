import ContractReview.Opinion.Ensemble
import ContractReview.Settings.Basic

/-!
The ensemble that settings ask for: models named with or without their provider, of which those
count whose provider there is a key for.
-/

namespace ContractReview

open Text

namespace Provider

def all : List Provider := [.openRouter, .groq]

def ofName? (name : String) : Option Provider := all.find? (·.name = name)

/-- The key of a provider in the settings. -/
def key? (p : Provider) (s : Settings) : Option String :=
  match p with
  | .openRouter => s.openRouterKey?
  | .groq => s.groqKey?

end Provider

/-- A provider and a model. A name without a known provider before a colon is a model of the first
provider. -/
def Member.ofSpec (spec : String) : Provider × String :=
  match cut? [':'] spec.toList with
  | some (provider, model) =>
      match Provider.ofName? (lower (String.ofList provider)) with
      | some provider =>
          if model.isEmpty then (.openRouter, spec) else (provider, String.ofList model)
      | none => (.openRouter, spec)
  | none => (.openRouter, spec)

namespace Ensemble

/-- The client of a provider, if there is a key for it. -/
def client? (s : Settings) (p : Provider) : Option Client :=
  match p.key? s with
  | none | some "" => none
  | some key =>
      (Client.create p (some key) none
        (match p with
          | .openRouter => some s.openRouterUrl
          | .groq => none) none).toOption

/-- An ensemble and the clients of its providers. -/
structure Assembly where
  ensemble : Ensemble
  clients : List Client

/-- The ensemble of the models in a list; there is none when no model can be asked. -/
def assemble (s : Settings) (specs : List String) : Except Fault (Option Assembly) := do
  let timeout ← s.modelTimeout
  let named := specs.map Member.ofSpec
  let clients := ((named.map (·.1)).eraseDups).filterMap (client? s)
  let members := named.filter fun (provider, _) => clients.any (·.provider = provider)
  if members.isEmpty then return none
  let ensemble ← Ensemble.create {
    members := members.map fun (provider, model) => { model, provider := provider.name }
    timeout := .float timeout
    maxTokens := ← s.maxTokens
    temperature := .float (← s.temperature)
    threshold := .float (← s.threshold)
    retries := clients.map fun c => (c.provider.name, {}) }
  return some ⟨ensemble, clients⟩

end Ensemble

end ContractReview
