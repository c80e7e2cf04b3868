import ContractReview.Platform.Stock

/-!
The health of every registered platform at a glance. When it was looked at is not kept: nothing
depends on it.
-/

namespace ContractReview

inductive HealthStatus
  | healthy | degraded | unhealthy | unknown
deriving DecidableEq, Repr

namespace HealthStatus

def name : HealthStatus → String
  | .healthy => "healthy"
  | .degraded => "degraded"
  | .unhealthy => "unhealthy"
  | .unknown => "unknown"

def all : List HealthStatus := [.healthy, .degraded, .unhealthy, .unknown]

/-- Tools that are there but leave a remark make a platform degraded; a check that did not come to
an end says nothing. -/
def classify (healthy remark failed : Bool) : HealthStatus :=
  if healthy then if remark then .degraded else .healthy
  else if failed then .unknown
  else .unhealthy

end HealthStatus

/-- What a check comes to for one platform. -/
structure HealthEntry where
  healthy : Bool
  version : Option String
  error : Option String
  failed : Bool
deriving DecidableEq, Repr

namespace HealthEntry

def ofCheck : HealthCheck → HealthEntry
  | .ok found => ⟨found.installed, found.version, found.error, false⟩
  | .error fault => ⟨false, none, some ("Health check failed: " ++ fault.text), true⟩

def status (e : HealthEntry) : HealthStatus :=
  .classify e.healthy (e.error.any (· ≠ "")) e.failed

end HealthEntry

structure PlatformHealth where
  id : String
  displayName : String
  status : HealthStatus
  version : Option String
  error : Option String
deriving DecidableEq, Repr

namespace PlatformHealth

/-- The health of a platform, from its check if there was one. -/
def ofEntry (isImplemented : Bool) (platform : Platform) : Option HealthEntry → PlatformHealth
  | some entry =>
      ⟨platform.id, platform.displayName, entry.status, entry.version, entry.error⟩
  | none =>
      ⟨platform.id, platform.displayName, .unknown, none,
        some (if !platform.isActive then "Platform is not active"
          else if !isImplemented then "No analyzer implementation available"
          else "Analyzer could not be created")⟩

end PlatformHealth

structure HealthSummary where
  platforms : List PlatformHealth
deriving DecidableEq, Repr

namespace HealthSummary

def count (h : HealthSummary) (status : HealthStatus) : Nat :=
  h.platforms.countP (·.status = status)

/-- The summary of all registered platforms, in the order of their registration. -/
def take {σ α : Type} (w : Workshop σ α) (stock : Stock α) (s : σ) :
    (HealthSummary × Stock α) × σ :=
  let checked := w.checkAll stock s
  let entryOf (p : Platform) := (checked.1.1.lookup p.id).map HealthEntry.ofCheck
  ((⟨stock.registry.platforms.map fun p =>
      PlatformHealth.ofEntry (w.implements p.id) p (entryOf p)⟩, checked.1.2), checked.2)

end HealthSummary

end ContractReview
