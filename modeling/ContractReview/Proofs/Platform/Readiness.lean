import ContractReview.Platform.Health
import ContractReview.Proofs.Platform.Stock
import Mathlib.Data.List.Nodup

/-!
Two ways to learn whether a platform is ready: its own readiness check and its line in the health
summary. Both come to the same fact about registry and builders, in which the stock of kept
analyzers does not occur.
-/

namespace ContractReview

/-- The platform as it is while it is switched on. -/
def Platform.activated (p : Platform) : Platform := { p with isActive := true }

theorem Platform.activated_eq_self {p : Platform} (h : p.isActive = true) : p.activated = p := by
  unfold activated
  rw [← h]

theorem Platform.id_eq_of_activated {p q : Platform} (h : p.activated = q.activated) :
    p.id = q.id := by
  have hid : p.activated.id = q.activated.id := congrArg Platform.id h
  exact hid

theorem Platform.activated_switch (p : Platform) (id : String) (isActive : Bool) :
    (if p.id = id then { p with isActive } else p).activated = p.activated := by
  split <;> rfl

namespace Registry

/-- No two platforms share an id. -/
def Distinct (r : Registry) : Prop := (r.platforms.map (·.id)).Nodup

theorem map_id_register (p : Platform) (platforms : List Platform) :
    (register p platforms).map (·.id) =
      if p.id ∈ platforms.map (·.id) then platforms.map (·.id)
      else platforms.map (·.id) ++ [p.id] := by
  induction platforms with
  | nil => rfl
  | cons q rest ih =>
      by_cases hq : q.id = p.id
      · simp [register, hq]
      · have hp : ¬ p.id = q.id := fun h => hq h.symm
        simp only [register, hq, if_false, List.map_cons, ih, List.mem_cons, hp, false_or]
        split <;> rfl

theorem nodup_register {platforms : List Platform} (h : (platforms.map (·.id)).Nodup)
    (p : Platform) : ((register p platforms).map (·.id)).Nodup := by
  rw [map_id_register]
  split
  next => exact h
  next hfresh =>
    rw [← List.concat_eq_append]
    exact h.concat hfresh

theorem distinct_ofList (platforms : List Platform) : (ofList platforms).Distinct := by
  unfold ofList Distinct
  induction platforms using List.reverseRecOn with
  | nil => exact List.nodup_nil
  | append_singleton platforms p ih =>
      rw [List.foldl_append]
      exact nodup_register ih p

theorem id_of_find? {r : Registry} {id : String} {p : Platform} (h : r.find? id = some p) :
    p.id = id := by
  simpa using List.find?_some h

theorem Distinct.find?_eq_some_iff {r : Registry} (h : r.Distinct) (id : String) (p : Platform) :
    r.find? id = some p ↔ p ∈ r.platforms ∧ p.id = id := by
  constructor
  · intro hfind
    exact ⟨List.mem_of_find?_eq_some hfind, id_of_find? hfind⟩
  · rintro ⟨hmem, rfl⟩
    cases hfind : r.find? p.id with
    | none => exact absurd (List.find?_eq_none.mp hfind p hmem) (by simp)
    | some q =>
        have hq := List.mem_of_find?_eq_some hfind
        rw [List.inj_on_of_nodup_map h hq hmem (id_of_find? hfind)]

theorem Distinct.nodup_active {r : Registry} (h : r.Distinct) : (r.active.map (·.id)).Nodup :=
  h.sublist (List.filter_sublist.map _)

theorem Distinct.isActive_iff {r : Registry} (h : r.Distinct) (id : String) :
    r.isActive id = true ↔ id ∈ r.active.map (·.id) := by
  rw [isActive_eq, Option.any_eq_true]
  simp only [active, List.mem_map, List.mem_filter, h.find?_eq_some_iff]
  constructor
  · rintro ⟨p, ⟨hmem, hid⟩, hactive⟩
    exact ⟨p, ⟨hmem, hactive⟩, hid⟩
  · rintro ⟨p, ⟨hmem, hactive⟩, hid⟩
    exact ⟨p, ⟨hmem, hid⟩, hactive⟩

end Registry

/-- Switching touches no analyzer, and of the platforms nothing but their flags. -/
theorem Stock.switched_change {α : Type} (stock : Stock α) (id : String) (isActive : Bool) :
    (stock.switched id isActive).kept = stock.kept ∧
    ∃ change : Platform → Platform,
      (∀ p, (change p).activated = p.activated) ∧
      (stock.switched id isActive).registry = ⟨stock.registry.platforms.map change⟩ := by
  unfold switched setActive Registry.setActive
  cases stock.registry.find? id with
  | none => exact ⟨rfl, fun p => p, fun _ => rfl, by simp [Except.map]⟩
  | some p => exact ⟨rfl, _, fun p => p.activated_switch id isActive, rfl⟩

/-- A check that came to an end and found the tools installed. -/
def HealthCheck.Passed (check : HealthCheck) : Prop :=
  ∃ found, check = .ok found ∧ found.installed = true

theorem HealthEntry.status_ofCheck_iff (check : HealthCheck) :
    ((ofCheck check).status = .healthy ∨ (ofCheck check).status = .degraded) ↔
      check.Passed := by
  unfold HealthCheck.Passed ofCheck status HealthStatus.classify
  cases check with
  | error fault => simp
  | ok found =>
      cases hinstalled : found.installed with
      | false => simp [hinstalled]
      | true =>
          refine iff_of_true ?_ ⟨found, rfl, hinstalled⟩
          cases found.error.any (· ≠ "") <;> simp [hinstalled]

theorem PlatformHealth.id_ofEntry (isImplemented : Bool) (platform : Platform)
    (entry : Option HealthEntry) : (ofEntry isImplemented platform entry).id = platform.id := by
  cases entry <;> rfl

theorem PlatformHealth.status_ofEntry_iff (isImplemented : Bool) (platform : Platform)
    (check : Option HealthCheck) :
    ((ofEntry isImplemented platform (check.map HealthEntry.ofCheck)).status = .healthy ∨
      (ofEntry isImplemented platform (check.map HealthEntry.ofCheck)).status = .degraded) ↔
      ∃ c, check = some c ∧ c.Passed := by
  cases check with
  | none => simp [ofEntry]
  | some check => simpa [ofEntry] using HealthEntry.status_ofCheck_iff check

/-- The summary says of the platform that its tools are there. -/
def HealthSummary.Reports (h : HealthSummary) (id : String) : Prop :=
  ∃ entry ∈ h.platforms, entry.id = id ∧ (entry.status = .healthy ∨ entry.status = .degraded)

namespace Workshop

variable {σ α : Type} (w : Workshop σ α)

theorem isReady_readinessOf_iff (platform : Platform) (check : HealthCheck) :
    (readinessOf platform check).isReady = true ↔ check.Passed := by
  unfold HealthCheck.Passed readinessOf Readiness.isReady
  cases check with
  | error fault => simp
  | ok found =>
      cases hinstalled : found.installed with
      | false => simp [hinstalled]
      | true =>
          refine iff_of_true ?_ ⟨found, rfl, hinstalled⟩
          simp only [hinstalled, Bool.not_true, Bool.false_eq_true, if_false]
          split <;> rfl

/-- Two tries to build that nobody can tell apart: both fail, or the health checks of what they make
always come to the same. -/
inductive Alike : Except Fault α → Except Fault α → Prop
  | failed (fault fault' : Fault) : Alike (.error fault) (.error fault')
  | built {a a' : α} (h : ∀ t t', ((w.health a).run t).1 = ((w.health a').run t').1) :
      Alike (.ok a) (.ok a')

/-- Builders and health checks behave the same each time they are called. -/
def Steady : Prop :=
  ∀ id build, w.builders.lookup id = some build → ∀ platform s s',
    w.Alike ((build platform).run s).1 ((build platform).run s').1

/-- The analyzer is one that the platform's builder makes of it while it is active. -/
def Makes (r : Registry) (id : String) (a : α) : Prop :=
  ∃ platform build s, r.find? id = some platform ∧ w.builders.lookup id = some build ∧
    ((build platform.activated).run s).1 = .ok a

/-- Every kept analyzer is one that its platform's builder makes. -/
def Traced (stock : Stock α) : Prop :=
  ∀ entry ∈ stock.kept, w.Makes stock.registry entry.1 entry.2

/-- The platform is active, and its builder makes an analyzer that finds its tools. -/
def Fit (r : Registry) (id : String) : Prop :=
  r.isActive id = true ∧ ∃ a t, w.Makes r id a ∧ HealthCheck.Passed ((w.health a).run t).1

variable {w}

theorem Steady.health_eq (h : w.Steady) {r : Registry} {id : String} {a a' : α}
    (ha : w.Makes r id a) (ha' : w.Makes r id a') (t t' : σ) :
    ((w.health a).run t).1 = ((w.health a').run t').1 := by
  obtain ⟨platform, build, s, hfind, hbuild, hmade⟩ := ha
  obtain ⟨platform', build', s', hfind', hbuild', hmade'⟩ := ha'
  obtain rfl : platform = platform' := Option.some.inj (hfind.symm.trans hfind')
  obtain rfl : build = build' := Option.some.inj (hbuild.symm.trans hbuild')
  have halike := h id build hbuild platform.activated s s'
  rw [hmade, hmade'] at halike
  cases halike with
  | built heq => exact heq t t'

/-- Any one analyzer that the builder makes decides whether the platform is fit. -/
theorem Steady.fit_iff (h : w.Steady) {r : Registry} {id : String} {a : α}
    (hactive : r.isActive id = true) (ha : w.Makes r id a) (t : σ) :
    w.Fit r id ↔ HealthCheck.Passed ((w.health a).run t).1 := by
  constructor
  · rintro ⟨-, a', t', ha', hpassed⟩
    rwa [h.health_eq ha ha' t t']
  · intro hpassed
    exact ⟨hactive, a, t, ha, hpassed⟩

theorem Makes.implements {r : Registry} {id : String} {a : α} (h : w.Makes r id a) :
    w.implements id = true := by
  obtain ⟨-, build, -, -, hbuild, -⟩ := h
  rw [Workshop.implements, hbuild]
  rfl

theorem Traced.makes_of_lookup {stock : Stock α} (h : w.Traced stock) {id : String} {a : α}
    (ha : stock.kept.lookup id = some a) : w.Makes stock.registry id a := by
  obtain ⟨before, after, heq, -⟩ := List.lookup_eq_some_iff.mp ha
  refine h (id, a) ?_
  rw [heq]
  exact List.mem_append_right _ List.mem_cons_self

/-- How an analyzer is come by: it is kept or newly built, and in both cases one that the platform's
builder makes. There is none if the platform is switched off or cannot be built for. -/
theorem analyzer?_makes {stock : Stock α} (h : w.Traced stock) (id : String) (s : σ) :
    (∃ a stock' s', w.analyzer? stock id s = ((some a, stock'), s') ∧
      w.Makes stock.registry id a ∧
      ∀ entry ∈ stock'.kept, entry ∈ stock.kept ∨ entry = (id, a)) ∨
    ((∃ s', w.analyzer? stock id s = ((none, stock), s')) ∧
      (w.Steady → stock.registry.isActive id = true → ∀ a, ¬ w.Makes stock.registry id a)) := by
  have hobtains := w.obtains_analyzer? stock id s
  generalize w.analyzer? stock id s = got at hobtains ⊢
  cases hobtains with
  | @kept a hkept =>
      exact .inl ⟨a, stock, s, rfl, h.makes_of_lookup hkept, fun _ => .inl⟩
  | @built platform build a s' _ hfind hactive hbuild hrun =>
      refine .inl ⟨a, _, s', rfl, ⟨platform, build, s, hfind, hbuild, ?_⟩, fun entry hentry => ?_⟩
      · rw [Platform.activated_eq_self hactive, hrun]
      · exact (List.mem_append.mp hentry).imp_right List.mem_singleton.mp
  | @failed platform build fault s' _ hfind hactive hbuild hrun =>
      refine .inr ⟨⟨s', rfl⟩, fun hsteady _ a => ?_⟩
      rintro ⟨platform', build', t, hfind', hbuild', hmade⟩
      obtain rfl : platform = platform' := Option.some.inj (hfind.symm.trans hfind')
      obtain rfl : build = build' := Option.some.inj (hbuild.symm.trans hbuild')
      -- it was built once, so a steady builder cannot have failed now
      have halike := hsteady id build hbuild platform.activated s t
      rw [hmade, Platform.activated_eq_self hactive, hrun] at halike
      cases halike
  | unavailable _ hwithout =>
      refine .inr ⟨⟨s, rfl⟩, fun _ hactive a hmakes => ?_⟩
      cases hmakes.implements.symm.trans (hwithout hactive)

theorem Traced.analyzer? {stock : Stock α} (h : w.Traced stock) (id : String) (s : σ) :
    w.Traced (w.analyzer? stock id s).1.2 := by
  have hregistry := (w.grown_analyzer? stock id s).registry
  rcases analyzer?_makes h id s with ⟨a, stock', s', heq, hmakes, hkept⟩ | ⟨⟨s', heq⟩, -⟩
  · rw [heq] at hregistry ⊢
    intro entry hentry
    rw [hregistry]
    rcases hkept entry hentry with hold | rfl
    · exact h entry hold
    · exact hmakes
  · rwa [heq]

theorem Traced.analyzersOf {stock : Stock α} (h : w.Traced stock) (ids : List String) (s : σ) :
    w.Traced (w.analyzersOf ids stock s).1.2 := by
  induction ids generalizing stock s with
  | nil => exact h
  | cons id rest ih =>
      rw [stock_analyzersOf_cons]
      exact ih (h.analyzer? id s) _

theorem Traced.readiness {stock : Stock α} (h : w.Traced stock) (id : String) (s : σ) :
    w.Traced (w.readiness stock id s).1.2 := by
  rcases w.stock_readiness stock id s with heq | heq
  · rwa [heq]
  · rw [heq]
    exact h.analyzer? id s

/-- What a builder makes does not depend on whether the platform is active now. -/
theorem Makes.map {platforms : List Platform} {change : Platform → Platform} {id : String} {a : α}
    (hchange : ∀ p, (change p).activated = p.activated)
    (h : w.Makes ⟨platforms⟩ id a) : w.Makes ⟨platforms.map change⟩ id a := by
  obtain ⟨platform, build, s, hfind, hbuild, hmade⟩ := h
  refine ⟨change platform, build, s, ?_, hbuild, ?_⟩
  · rw [Registry.find?_map change fun p => Platform.id_eq_of_activated (hchange p), hfind]
    rfl
  · rwa [hchange]

theorem Traced.use {now : Stock α × σ} (h : w.Traced now.1) (u : Usage) :
    w.Traced (w.use u now).1 := by
  obtain ⟨stock, s⟩ := now
  cases u with
  | setActive id isActive =>
      obtain ⟨hkept, change, hchange, hregistry⟩ := stock.switched_change id isActive
      intro entry hentry
      change entry ∈ (stock.switched id isActive).kept at hentry
      change w.Makes (stock.switched id isActive).registry _ _
      rw [hkept] at hentry
      rw [hregistry]
      exact (h entry hentry).map hchange
  | analyzer id => exact h.analyzer? id s
  | analyzers => exact h.analyzersOf _ s
  | checkAll => exact h.analyzersOf _ s
  | readiness id => exact h.readiness id s
  | remove id => exact fun entry hentry => h entry (List.mem_of_mem_filter hentry)
  | clear => exact fun entry hentry => absurd hentry List.not_mem_nil

theorem traced_run (registry : Registry) (uses : List Usage) (s : σ) :
    w.Traced (w.run uses ({ registry }, s)).1 := by
  induction uses using List.reverseRecOn with
  | nil => exact fun entry hentry => absurd hentry List.not_mem_nil
  | append_singleton uses u ih =>
      rw [run_concat]
      exact ih.use u

/-- No use changes more of a platform than its flag. -/
theorem registry_use (u : Usage) (now : Stock α × σ) :
    ∃ change : Platform → Platform,
      (∀ p, (change p).activated = p.activated) ∧
      (w.use u now).1.registry = ⟨now.1.registry.platforms.map change⟩ := by
  have hsame : now.1.registry = ⟨now.1.registry.platforms.map fun p => p⟩ := by simp
  rcases w.use_cases u now with
    ⟨-, hgrown⟩ | ⟨id, isActive, -, heq⟩ | ⟨id, -, heq⟩ | ⟨-, heq⟩
  · exact ⟨fun p => p, fun _ => rfl, hgrown.registry.trans hsame⟩
  · rw [heq]
    exact (now.1.switched_change id isActive).2
  · rw [heq]
    exact ⟨fun p => p, fun _ => rfl, hsame⟩
  · rw [heq]
    exact ⟨fun p => p, fun _ => rfl, hsame⟩

theorem distinct_use {now : Stock α × σ} (h : now.1.registry.Distinct) (u : Usage) :
    (w.use u now).1.registry.Distinct := by
  obtain ⟨change, hchange, hregistry⟩ := registry_use u now
  unfold Registry.Distinct at h ⊢
  rw [hregistry, List.map_map]
  have hid : (fun p : Platform => p.id) ∘ change = fun p => p.id :=
    funext fun p => Platform.id_eq_of_activated (hchange p)
  rwa [hid]

theorem distinct_run_of {start : Stock α × σ} (h : start.1.registry.Distinct) (uses : List Usage) :
    (w.run uses start).1.registry.Distinct := by
  induction uses using List.reverseRecOn with
  | nil => exact h
  | append_singleton uses u ih =>
      rw [run_concat]
      exact distinct_use ih u

theorem distinct_run {registry : Registry} (h : registry.Distinct) (uses : List Usage) (s : σ) :
    (w.run uses ({ registry }, s)).1.registry.Distinct := by
  refine distinct_run_of ?_ uses
  exact h

/-- The readiness check tells whether the platform is fit, from whatever stock. -/
theorem isReady_iff_fit {stock : Stock α} (hsteady : w.Steady) (h : w.Traced stock) (id : String)
    (s : σ) : (w.readiness stock id s).1.1.isReady = true ↔ w.Fit stock.registry id := by
  unfold Workshop.readiness
  cases hfind : stock.registry.find? id with
  | none => simp [Fit, Readiness.isReady, Registry.isActive_eq, hfind]
  | some platform =>
      cases hactive : platform.isActive with
      | false => simp [Fit, Readiness.isReady, Registry.isActive_eq, hfind, hactive]
      | true =>
          have hon : stock.registry.isActive id = true := by
            rw [Registry.isActive_eq, hfind]
            exact hactive
          cases himplements : w.implements id with
          | false =>
              refine iff_of_false (by simp [Readiness.isReady, hactive]) ?_
              rintro ⟨-, a, -, hmakes, -⟩
              exact absurd hmakes.implements (by simp [himplements])
          | true =>
              simp only [hactive, Bool.not_true, Bool.false_eq_true, if_false]
              rcases analyzer?_makes h id s with
                ⟨a, stock', s', heq, hmakes, -⟩ | ⟨⟨s', heq⟩, hnone⟩
              · rw [heq, hsteady.fit_iff hon hmakes]
                exact isReady_readinessOf_iff platform _
              · rw [heq]
                refine iff_of_false (by simp [Readiness.isReady]) ?_
                rintro ⟨-, a, -, hmakes, -⟩
                exact hnone hsteady hon a hmakes

theorem lookup_analyzersOf_cons (first : String) (rest : List String) (stock : Stock α) (s : σ)
    (id : String) :
    (w.analyzersOf (first :: rest) stock s).1.1.lookup id =
      (if id = first then (w.analyzer? stock first s).1.1 else none).or
        ((w.analyzersOf rest (w.analyzer? stock first s).1.2
          (w.analyzer? stock first s).2).1.1.lookup id) := by
  rw [Workshop.analyzersOf]
  split
  next a ha =>
    rw [List.lookup_cons]
    by_cases hid : id = first
    · simp [hid, ha]
    · simp [hid, beq_false_of_ne hid]
  next ha => simp [ha]

/-- What is found of a platform's analyzer among those of some platforms. -/
theorem lookup_analyzersOf {stock : Stock α} (h : w.Traced stock) (ids : List String) (s : σ)
    (id : String) :
    (∃ a, (w.analyzersOf ids stock s).1.1.lookup id = some a ∧ id ∈ ids ∧
      w.Makes stock.registry id a) ∨
    ((w.analyzersOf ids stock s).1.1.lookup id = none ∧
      (id ∈ ids → w.Steady → stock.registry.isActive id = true →
        ∀ a, ¬ w.Makes stock.registry id a)) := by
  induction ids generalizing stock s with
  | nil => exact .inr ⟨rfl, fun hid => absurd hid List.not_mem_nil⟩
  | cons first rest ih =>
      have hrest := ih (h.analyzer? first s) (w.analyzer? stock first s).2
      rw [(w.grown_analyzer? stock first s).registry] at hrest
      rw [lookup_analyzersOf_cons]
      by_cases hid : id = first
      · subst hid
        rw [if_pos rfl]
        rcases analyzer?_makes h id s with ⟨a, stock', s', heq, hmakes, -⟩ | ⟨⟨s', heq⟩, hnone⟩
        · exact .inl ⟨a, by rw [heq]; rfl, List.mem_cons_self, hmakes⟩
        · rw [heq] at hrest ⊢
          rcases hrest with ⟨a, hlookup, -, hmakes⟩ | ⟨hlookup, -⟩
          · exact .inl ⟨a, hlookup, List.mem_cons_self, hmakes⟩
          · exact .inr ⟨hlookup, fun _ => hnone⟩
      · rw [if_neg hid, Option.none_or]
        rcases hrest with ⟨a, hlookup, hmem, hmakes⟩ | ⟨hlookup, hnone⟩
        · exact .inl ⟨a, hlookup, List.mem_cons_of_mem _ hmem, hmakes⟩
        · exact .inr ⟨hlookup, fun hmem => hnone (List.mem_of_ne_of_mem hid hmem)⟩

/-- The check of a platform is one of its analyzer, in the surroundings that the checks before it
leave. -/
theorem lookup_checkEach (found : List (String × α)) (s : σ) (id : String) :
    (w.checkEach found s).1.lookup id = (found.lookup id).map fun a =>
      ((w.health a).run (w.checkEach (found.takeWhile (·.1 ≠ id)) s).2).1 := by
  induction found generalizing s with
  | nil => rfl
  | cons entry rest ih =>
      obtain ⟨first, a⟩ := entry
      rw [checkEach, List.lookup_cons, List.lookup_cons]
      by_cases hid : id = first
      · simp [hid, checkEach]
      · have hne : first ≠ id := fun h => hid h.symm
        simp [beq_false_of_ne hid, hne, checkEach, ih]

variable (w) in
/-- The surroundings that a platform's check takes place in when all platforms are checked. -/
def checkedIn (stock : Stock α) (s : σ) (id : String) : σ :=
  (w.checkEach ((w.analyzers stock s).1.1.takeWhile (·.1 ≠ id)) (w.analyzers stock s).2).2

theorem lookup_checkAll_eq (stock : Stock α) (s : σ) (id : String) :
    (w.checkAll stock s).1.1.lookup id = ((w.analyzers stock s).1.1.lookup id).map fun a =>
      ((w.health a).run (w.checkedIn stock s id)).1 :=
  lookup_checkEach (w.analyzers stock s).1.1 (w.analyzers stock s).2 id

/-- What the check of all platforms says of one is the health of an analyzer that its builder makes.
Where it says nothing, there is none to ask. -/
theorem lookup_checkAll {stock : Stock α} (h : w.Traced stock) (hids : stock.registry.Distinct)
    (s : σ) (id : String) :
    (∃ a t, (w.checkAll stock s).1.1.lookup id = some ((w.health a).run t).1 ∧
      stock.registry.isActive id = true ∧ w.Makes stock.registry id a) ∨
    ((w.checkAll stock s).1.1.lookup id = none ∧ (w.Steady → ¬ w.Fit stock.registry id)) := by
  rw [lookup_checkAll_eq]
  generalize w.checkedIn stock s id = t
  rcases lookup_analyzersOf h (stock.registry.active.map (·.id)) s id with
    ⟨a, ha, hid, hmakes⟩ | ⟨hnone, hbarren⟩
  · refine .inl ⟨a, t, ?_, (hids.isActive_iff id).mpr hid, hmakes⟩
    unfold analyzers
    rw [ha]
    rfl
  · refine .inr ⟨?_, ?_⟩
    · unfold analyzers
      rw [hnone]
      rfl
    · rintro hsteady ⟨hactive, a, -, hmakes, -⟩
      exact hbarren ((hids.isActive_iff id).mp hactive) hsteady hactive a hmakes

/-- A platform's line in the summary is drawn from its check alone. -/
theorem reports_take_iff (stock : Stock α) (s : σ) (id : String) :
    (HealthSummary.take w stock s).1.1.Reports id ↔
      (∃ p ∈ stock.registry.platforms, p.id = id) ∧
        ∃ check, (w.checkAll stock s).1.1.lookup id = some check ∧ check.Passed := by
  constructor
  · rintro ⟨entry, hentry, hid, hstatus⟩
    obtain ⟨p, hp, rfl⟩ := List.mem_map.mp hentry
    rw [PlatformHealth.id_ofEntry] at hid
    rw [PlatformHealth.status_ofEntry_iff, hid] at hstatus
    exact ⟨⟨p, hp, hid⟩, hstatus⟩
  · rintro ⟨⟨p, hp, rfl⟩, hchecked⟩
    refine ⟨_, List.mem_map_of_mem hp, PlatformHealth.id_ofEntry _ p _, ?_⟩
    rwa [PlatformHealth.status_ofEntry_iff]

/-- The summary tells whether the platform is fit, from whatever stock. -/
theorem reports_iff_fit {stock : Stock α} (hsteady : w.Steady) (h : w.Traced stock)
    (hids : stock.registry.Distinct) (id : String) (s : σ) :
    (HealthSummary.take w stock s).1.1.Reports id ↔ w.Fit stock.registry id := by
  rw [reports_take_iff]
  rcases lookup_checkAll h hids s id with ⟨a, t, hlookup, hactive, hmakes⟩ | ⟨hlookup, hnot⟩
  · obtain ⟨p, hfind⟩ := Option.isSome_iff_exists.mp (Registry.isSome_find?_of_isActive hactive)
    rw [hsteady.fit_iff hactive hmakes t, hlookup]
    simp only [Option.some.injEq, exists_eq_left', and_iff_right_iff_imp]
    exact fun _ => ⟨p, List.mem_of_find?_eq_some hfind, Registry.id_of_find? hfind⟩
  · rw [hlookup]
    refine iff_of_false ?_ (hnot hsteady)
    rintro ⟨-, check, hcheck, -⟩
    cases hcheck

/-- The readiness check finds a platform ready just if the health summary finds it healthy or
degraded, after any uses. The two need not be asked of the same stock: it is enough that the same
platforms are switched on. -/
theorem isReady_iff_reports (hsteady : w.Steady) (platforms : List Platform)
    (uses uses' : List Usage) (start start' : σ)
    (hsame : (w.run uses ({ registry := .ofList platforms }, start)).1.registry =
      (w.run uses' ({ registry := .ofList platforms }, start')).1.registry)
    (id : String) (s s' : σ) :
    (w.readiness (w.run uses ({ registry := .ofList platforms }, start)).1 id s).1.1.isReady =
        true ↔
      (HealthSummary.take w (w.run uses' ({ registry := .ofList platforms }, start')).1
        s').1.1.Reports id := by
  have hids := w.distinct_run (Registry.distinct_ofList platforms) uses' start'
  rw [isReady_iff_fit hsteady (traced_run _ uses start),
    reports_iff_fit hsteady (traced_run _ uses' start') hids, hsame]

/-- Ethereum's tools leave a remark, and Solana's analyzer cannot be built. Each health check is
counted. -/
def countedWorkshop : Workshop Nat (Option String) where
  builders := [("ethereum", fun _ => pure (some "solc is old")),
    ("solana", fun _ => throw .nullByte)]
  health := fun remark => do
    modify (· + 1)
    return { installed := true, version := none, error := remark }

theorem steady_countedWorkshop : countedWorkshop.Steady := by
  intro id build hbuild platform s s'
  simp only [countedWorkshop, List.lookup_cons, List.lookup_nil] at hbuild
  split at hbuild
  · cases hbuild
    exact .built fun _ _ => rfl
  · split at hbuild
    · cases hbuild
      exact .failed _ _
    · cases hbuild

/-- The platform is degraded and still ready, be its analyzer an old one or a new one. -/
theorem isReady_countedWorkshop :
    countedWorkshop.Steady ∧
    (countedWorkshop.run [.checkAll, .setActive "ethereum" false, .setActive "ethereum" true]
        ({ registry := .ofList Platform.known }, 0)).1.registry =
      (countedWorkshop.run [] ({ registry := .ofList Platform.known }, 7)).1.registry ∧
    (countedWorkshop.readiness (countedWorkshop.run
        [.checkAll, .setActive "ethereum" false, .setActive "ethereum" true]
        ({ registry := .ofList Platform.known }, 0)).1 "ethereum" 1).1.1.isReady = true ∧
    (HealthSummary.take countedWorkshop (countedWorkshop.run []
        ({ registry := .ofList Platform.known }, 7)).1 7).1.1.Reports "ethereum" := by
  have hsame : (countedWorkshop.run
        [.checkAll, .setActive "ethereum" false, .setActive "ethereum" true]
        ({ registry := .ofList Platform.known }, 0)).1.registry =
      (countedWorkshop.run [] ({ registry := .ofList Platform.known }, 7)).1.registry := by
    decide +kernel
  have hagree := isReady_iff_reports steady_countedWorkshop Platform.known _ _ 0 7 hsame
    "ethereum" 1 7
  have hready := hagree.mp (by decide +kernel)
  exact ⟨steady_countedWorkshop, hsame, hagree.mpr hready, hready⟩

end Workshop

end ContractReview
