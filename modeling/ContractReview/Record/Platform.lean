import ContractReview.Json.Defaults
import ContractReview.Platform.Health

/-!
Platforms and their health as data.
-/

namespace ContractReview

open Json (ofStrings ofOption)

open Json.Defaults in
def Platform.ofJson (v : Json) : Platform :=
  { id := text v "id", name := text v "name", displayName := text v "display_name"
    languages := strings (items v "languages"), extensions := strings (items v "file_extensions")
    isActive := flag v "is_active" true, analyzers := strings (items v "static_analyzers")
    focusAreas := strings (items v "focus_areas") }

def Platform.toJson (p : Platform) : Json :=
  .obj [("id", p.id), ("name", p.name), ("display_name", p.displayName),
    ("languages", ofStrings p.languages), ("file_extensions", ofStrings p.extensions),
    ("is_active", p.isActive), ("static_analyzers", ofStrings p.analyzers),
    ("focus_areas", ofStrings p.focusAreas)]

/-- A platform as it is offered, with the word whether it has an analyzer. -/
def Platform.offer (p : Platform) (hasAnalyzer : Bool) : Json :=
  .obj [("id", p.id), ("display_name", p.displayName), ("languages", ofStrings p.languages),
    ("file_extensions", ofStrings p.extensions), ("is_active", p.isActive),
    ("has_analyzer", hasAnalyzer), ("static_analyzers", ofStrings p.analyzers)]

def HealthEntry.toJson (platform : String) (e : HealthEntry) : Json :=
  .obj [("platform", platform), ("healthy", e.healthy), ("version", ofOption .str e.version),
    ("error", ofOption .str e.error), ("check_failed", e.failed)]

def PlatformHealth.toJson (p : PlatformHealth) : Json :=
  .obj [("id", p.id), ("display_name", p.displayName), ("status", p.status.name),
    ("version", ofOption .str p.version), ("error", ofOption .str p.error)]

def HealthSummary.toJson (h : HealthSummary) : Json :=
  .obj ([("total", .num (.int h.platforms.length))] ++
    HealthStatus.all.map (fun s => (s.name, .num (.int (h.count s)))) ++
    [("platforms", .arr (h.platforms.map PlatformHealth.toJson))])

def Stock.Counts.toJson (c : Stock.Counts) : Json :=
  .obj [("totalPlatforms", c.platforms), ("implementedAnalyzers", c.implemented),
    ("cachedAnalyzers", c.kept), ("activePlatforms", c.active)]

def Readiness.toJson (r : Readiness) : Json :=
  .obj [("valid", r.isReady), ("issues", ofStrings r.issues),
    ("recommendations", ofStrings r.advice)]

end ContractReview
