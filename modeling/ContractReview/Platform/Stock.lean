import ContractReview.Platform.Registry
import ContractReview.Review.Tool

/-!
The analyzers of the registered platforms. Each is built when it is first asked for and kept from
then on.
-/

namespace ContractReview

/-- How the analyzers `α` come about and are asked for their health, in surroundings `σ`. -/
structure Workshop (σ α : Type) where
  builders : List (String × (Platform → Act σ α))
  health : α → Act σ Installation

/-- The registered platforms with the analyzers that are kept. -/
structure Stock (α : Type) where
  registry : Registry
  kept : List (String × α) := []

/-- What an analyzer says of its health, or the fault that came instead. -/
abbrev HealthCheck := Except Fault Installation

/-- Whether a platform is ready to review contracts. -/
structure Readiness where
  issues : List String := []
  advice : List String := []
deriving DecidableEq, Repr

def Readiness.isReady (r : Readiness) : Bool := r.issues.isEmpty

namespace Workshop

variable {σ α : Type}

def implements (w : Workshop σ α) (id : String) : Bool := (w.builders.lookup id).isSome

/-- The analyzer of a platform: the kept one, else a new one for an active platform that has a
builder, which is kept. -/
def analyzer? (w : Workshop σ α) (stock : Stock α) (id : String) (s : σ) :
    (Option α × Stock α) × σ :=
  match stock.kept.lookup id with
  | some a => ((some a, stock), s)
  | none =>
      match stock.registry.find? id, w.builders.lookup id with
      | some platform, some build =>
          if platform.isActive then
            match (build platform).run s with
            | (.ok a, s) => ((some a, { stock with kept := stock.kept ++ [(id, a)] }), s)
            | (.error _, s) => ((none, stock), s)
          else ((none, stock), s)
      | _, _ => ((none, stock), s)

/-- The analyzers of some platforms, without those that cannot be had. -/
def analyzersOf (w : Workshop σ α) : List String → Stock α → σ → (List (String × α) × Stock α) × σ
  | [], stock, s => (([], stock), s)
  | id :: rest, stock, s =>
      let first := w.analyzer? stock id s
      let others := w.analyzersOf rest first.1.2 first.2
      match first.1.1 with
      | some a => (((id, a) :: others.1.1, others.1.2), others.2)
      | none => others

/-- The analyzers of all active platforms. -/
def analyzers (w : Workshop σ α) (stock : Stock α) (s : σ) : (List (String × α) × Stock α) × σ :=
  w.analyzersOf (stock.registry.active.map (·.id)) stock s

/-- The active platforms that have a builder. -/
def available (w : Workshop σ α) (stock : Stock α) : List String :=
  (stock.registry.active.filter fun p => w.implements p.id).map (·.id)

/-- Asks some analyzers for their health. -/
def checkEach (w : Workshop σ α) : List (String × α) → σ → List (String × HealthCheck) × σ
  | [], s => ([], s)
  | (id, a) :: rest, s =>
      let first := (w.health a).run s
      let others := w.checkEach rest first.2
      ((id, first.1) :: others.1, others.2)

/-- The health of all active platforms that have an analyzer. -/
def checkAll (w : Workshop σ α) (stock : Stock α) (s : σ) :
    (List (String × HealthCheck) × Stock α) × σ :=
  let found := w.analyzers stock s
  let checked := w.checkEach found.1.1 found.2
  ((checked.1, found.1.2), checked.2)

/-- What a health check says about readiness. -/
def readinessOf (platform : Platform) (check : HealthCheck) : Readiness :=
  let found : Readiness :=
    match check with
    | .error fault => { issues := ["Analyzer validation failed: " ++ fault.text] }
    | .ok found =>
        if !found.installed then
          { issues := ["Analyzer tools not properly installed: " ++ Tool.shownText found.error]
            advice := ["Install required analysis tools for this platform"] }
        else
          match found.error with
          | none | some "" => {}
          | some remark => { advice := [remark] }
  { found with advice := found.advice ++
      (if platform.analyzers.isEmpty then
        ["Configure static analyzers for better analysis coverage"]
      else []) }

/-- Whether a platform is registered, active, implemented, and its analyzer in health. -/
def readiness (w : Workshop σ α) (stock : Stock α) (id : String) (s : σ) :
    (Readiness × Stock α) × σ :=
  match stock.registry.find? id with
  | none => (({ issues := ["Platform '" ++ id ++ "' not found in registry"] }, stock), s)
  | some platform =>
      if !platform.isActive then
        (({ issues := ["Platform '" ++ id ++ "' is not active"]
            advice := ["Activate the platform in the registry"] }, stock), s)
      else if !w.implements id then
        (({ issues := ["No analyzer implementation available for platform '" ++ id ++ "'"]
            advice := ["Implement analyzer for this platform"] }, stock), s)
      else
        match w.analyzer? stock id s with
        | ((none, stock), s) =>
            (({ issues := ["Failed to create analyzer for platform '" ++ id ++ "'"] }, stock), s)
        | ((some a, stock), s) =>
            let checked := (w.health a).run s
            ((readinessOf platform checked.1, stock), checked.2)

end Workshop

namespace Stock

variable {α : Type}

def clear (stock : Stock α) : Stock α := { stock with kept := [] }

/-- Drops the analyzer of a platform, and says whether there was one. -/
def remove (stock : Stock α) (id : String) : Bool × Stock α :=
  ((stock.kept.lookup id).isSome, { stock with kept := stock.kept.filter (·.1 ≠ id) })

def setActive (stock : Stock α) (id : String) (isActive : Bool) : Except Fault (Stock α) :=
  (stock.registry.setActive id isActive).map fun registry => { stock with registry }

/-- Counts of platforms and analyzers. -/
structure Counts where
  platforms : Nat
  implemented : Nat
  kept : Nat
  active : Nat
deriving DecidableEq, Repr

def counts {σ : Type} (w : Workshop σ α) (stock : Stock α) : Counts :=
  { platforms := stock.registry.platforms.length
    implemented := stock.registry.platforms.countP fun p => w.implements p.id
    kept := stock.kept.length
    active := stock.registry.active.length }

end Stock

end ContractReview
