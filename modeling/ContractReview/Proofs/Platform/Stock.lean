import ContractReview.Platform.Family
import ContractReview.Proofs.Latest
import ContractReview.Proofs.Review.Pipeline
import Mathlib.Data.List.Induction

/-!
The stock of analyzers through any sequence of uses. What is kept belongs to a registered platform
that has a builder; the platform was active when its analyzer was built, but need not be so any
longer.
-/

namespace ContractReview

/-- A use of the registry and its stock of analyzers. -/
inductive Usage
  | setActive (id : String) (isActive : Bool)
  | analyzer (id : String)
  | analyzers
  | checkAll
  | readiness (id : String)
  | remove (id : String)
  | clear

namespace Usage

/-- A use that asks for analyzers: it switches no platform and drops nothing. -/
inductive Asks : Usage → Prop
  | analyzer (id : String) : Asks (.analyzer id)
  | analyzers : Asks .analyzers
  | checkAll : Asks .checkAll
  | readiness (id : String) : Asks (.readiness id)

/-- A use behind which the platform's analyzer, if it is kept, is one of an active platform. -/
def Settles (u : Usage) (id : String) : Prop :=
  u = .setActive id true ∨ u = .remove id ∨ u = .clear

end Usage

namespace Stock

variable {α : Type}

/-- There is an analyzer of the platform in the stock. -/
def Keeps (stock : Stock α) (id : String) : Prop := id ∈ stock.kept.map Prod.fst

/-- An analyzer whose platform has been switched off in the meantime. -/
def Stale (stock : Stock α) (id : String) : Prop :=
  stock.Keeps id ∧ stock.registry.isActive id = false

theorem exists_lookup_iff (stock : Stock α) (id : String) :
    (∃ a, stock.kept.lookup id = some a) ↔ stock.Keeps id := by
  rw [← Option.isSome_iff_exists, List.lookup_isSome_iff]
  unfold Keeps
  rw [List.mem_map]
  constructor
  · rintro ⟨p, hp, hid⟩
    exact ⟨p, hp, (eq_of_beq hid).symm⟩
  · rintro ⟨p, hp, rfl⟩
    exact ⟨p, hp, beq_self_eq_true _⟩

theorem keeps_remove_iff (stock : Stock α) (id other : String) :
    (stock.remove id).2.Keeps other ↔ stock.Keeps other ∧ other ≠ id := by
  unfold Keeps remove
  simp only [List.mem_map, List.mem_filter, decide_eq_true_iff]
  constructor
  · rintro ⟨p, ⟨hp, hne⟩, rfl⟩
    exact ⟨⟨p, hp, rfl⟩, hne⟩
  · rintro ⟨⟨p, hp, rfl⟩, hne⟩
    exact ⟨p, ⟨hp, hne⟩, rfl⟩

theorem not_keeps_clear (stock : Stock α) (id : String) : ¬ stock.clear.Keeps id :=
  List.not_mem_nil

end Stock

namespace Registry

theorem find?_map (change : Platform → Platform) (hid : ∀ p, (change p).id = p.id)
    (platforms : List Platform) (id : String) :
    find? ⟨platforms.map change⟩ id = (find? ⟨platforms⟩ id).map change := by
  unfold find?
  rw [List.find?_map]
  congr 2
  funext p
  exact congrArg (fun id' => decide (id' = id)) (hid p)

theorem isActive_eq (r : Registry) (id : String) :
    r.isActive id = (r.find? id).any (·.isActive) := by
  unfold isActive
  cases r.find? id <;> rfl

theorem isSome_find?_of_isActive {r : Registry} {id : String} (h : r.isActive id = true) :
    (r.find? id).isSome := by
  rw [isActive_eq] at h
  cases hfind : r.find? id with
  | none =>
      rw [hfind] at h
      cases h
  | some p => rfl

/-- What switching a platform leaves: an unknown one is a fault, and of a known one nothing but its
own flag changes. -/
theorem setActive_cases (r : Registry) (id : String) (isActive : Bool) :
    (r.find? id = none ∧ r.setActive id isActive = .error (.unknownPlatform id)) ∨
    ((r.find? id).isSome ∧ ∃ r', r.setActive id isActive = .ok r' ∧
      (∀ other, (r'.find? other).isSome = (r.find? other).isSome) ∧
      ∀ other, r'.isActive other = if other = id then isActive else r.isActive other) := by
  unfold setActive
  cases hfind : r.find? id with
  | none => exact .inl ⟨rfl, rfl⟩
  | some p =>
      have hchanged (other : String) := find?_map
        (fun p => if p.id = id then { p with isActive } else p)
        (fun p => by split <;> rfl) r.platforms other
      refine .inr ⟨rfl, _, rfl, fun other => ?_, fun other => ?_⟩
      · rw [hchanged, Option.isSome_map]
      · have hid : ∀ q, r.find? other = some q → q.id = other := fun q hq => by
          simpa using List.find?_some hq
        rw [isActive_eq, isActive_eq, hchanged, Option.any_map]
        by_cases heq : other = id
        · subst heq
          change (r.find? other).any _ = _
          simp [hfind, hid p hfind]
        · change (r.find? other).any _ = _
          cases hother : r.find? other with
          | none => simp [heq]
          | some q => simp [heq, hid q hother]

end Registry

namespace Stock

variable {α : Type}

/-- The stock after a try to switch a platform on or off. -/
def switched (stock : Stock α) (id : String) (isActive : Bool) : Stock α :=
  match stock.setActive id isActive with
  | .ok stock => stock
  | .error _ => stock

/-- An unknown platform cannot be switched; of a known one nothing but its own flag changes. -/
theorem switched_cases (stock : Stock α) (id : String) (isActive : Bool) :
    (stock.registry.find? id = none ∧ stock.switched id isActive = stock) ∨
    ((stock.registry.find? id).isSome ∧ (stock.switched id isActive).kept = stock.kept ∧
      (∀ other, ((stock.switched id isActive).registry.find? other).isSome =
        (stock.registry.find? other).isSome) ∧
      ∀ other, (stock.switched id isActive).registry.isActive other =
        if other = id then isActive else stock.registry.isActive other) := by
  unfold switched setActive
  rcases stock.registry.setActive_cases id isActive with
    ⟨hnone, heq⟩ | ⟨hsome, r', heq, hfind, hactive⟩
  · rw [heq]
    exact .inl ⟨hnone, rfl⟩
  · rw [heq]
    exact .inr ⟨hsome, rfl, hfind, hactive⟩

end Stock

namespace Workshop

variable {σ α : Type} (w : Workshop σ α)

/-- What a use leaves of the stock and the surroundings. -/
def use : Usage → Stock α × σ → Stock α × σ
  | .setActive id isActive, (stock, s) => (stock.switched id isActive, s)
  | .analyzer id, (stock, s) =>
      let done := w.analyzer? stock id s
      (done.1.2, done.2)
  | .analyzers, (stock, s) =>
      let done := w.analyzers stock s
      (done.1.2, done.2)
  | .checkAll, (stock, s) =>
      let done := w.checkAll stock s
      (done.1.2, done.2)
  | .readiness id, (stock, s) =>
      let done := w.readiness stock id s
      (done.1.2, done.2)
  | .remove id, (stock, s) => ((stock.remove id).2, s)
  | .clear, (stock, s) => (stock.clear, s)

/-- What is left after some uses, one after the other. -/
def run (uses : List Usage) (start : Stock α × σ) : Stock α × σ :=
  uses.foldl (fun now u => w.use u now) start

/-- A stock that has only grown: what was kept still is, and what is new belongs to active platforms
with a builder. -/
structure Grown (stock stock' : Stock α) : Prop where
  registry : stock'.registry = stock.registry
  keeps : ∀ id, stock.Keeps id → stock'.Keeps id
  built : ∀ id, stock'.Keeps id →
    stock.Keeps id ∨ (stock.registry.isActive id = true ∧ w.implements id = true)

/-- All that is kept belongs to registered platforms with a builder. -/
def Sound (stock : Stock α) : Prop :=
  ∀ id, stock.Keeps id → (stock.registry.find? id).isSome ∧ w.implements id = true

namespace Grown

variable {w} {stock stock' stock'' : Stock α}

theorem refl : Grown w stock stock := ⟨rfl, fun _ h => h, fun _ h => .inl h⟩

theorem trans (h : Grown w stock stock') (h' : Grown w stock' stock'') : Grown w stock stock'' := by
  refine ⟨h'.registry.trans h.registry, fun id hid => h'.keeps id (h.keeps id hid), ?_⟩
  intro id hid
  rcases h'.built id hid with hold | hnew
  · exact h.built id hold
  · exact .inr (h.registry ▸ hnew)

theorem sound (h : Grown w stock stock') (hsound : Sound w stock) : Sound w stock' := by
  intro id hid
  rw [h.registry]
  rcases h.built id hid with hold | ⟨hactive, himplements⟩
  · exact hsound id hold
  · exact ⟨Registry.isSome_find?_of_isActive hactive, himplements⟩

theorem stale_iff (h : Grown w stock stock') (id : String) : stock'.Stale id ↔ stock.Stale id := by
  unfold Stock.Stale
  rw [h.registry]
  constructor
  · rintro ⟨hkeeps, hinactive⟩
    rcases h.built id hkeeps with hold | ⟨hactive, -⟩
    · exact ⟨hold, hinactive⟩
    · cases hinactive.symm.trans hactive
  · rintro ⟨hkeeps, hinactive⟩
    exact ⟨h.keeps id hkeeps, hinactive⟩

end Grown

/-- How an analyzer is come by, or how it is not. -/
inductive Obtains (stock : Stock α) (id : String) (s : σ) : (Option α × Stock α) × σ → Prop
  | kept {a : α} : stock.kept.lookup id = some a → Obtains stock id s ((some a, stock), s)
  | built {platform : Platform} {build : Platform → Act σ α} {a : α} {s' : σ} :
      stock.kept.lookup id = none → stock.registry.find? id = some platform →
      platform.isActive = true → w.builders.lookup id = some build →
      (build platform).run s = (.ok a, s') →
      Obtains stock id s ((some a, { stock with kept := stock.kept ++ [(id, a)] }), s')
  | failed {platform : Platform} {build : Platform → Act σ α} {fault : Fault} {s' : σ} :
      stock.kept.lookup id = none → stock.registry.find? id = some platform →
      platform.isActive = true → w.builders.lookup id = some build →
      (build platform).run s = (.error fault, s') → Obtains stock id s ((none, stock), s')
  | unavailable : stock.kept.lookup id = none →
      (stock.registry.isActive id = true → w.implements id = false) →
      Obtains stock id s ((none, stock), s)

theorem obtains_analyzer? (stock : Stock α) (id : String) (s : σ) :
    Obtains w stock id s (w.analyzer? stock id s) := by
  unfold analyzer?
  cases hkept : stock.kept.lookup id with
  | some a => exact .kept hkept
  | none =>
      cases hfind : stock.registry.find? id with
      | none => exact .unavailable hkept fun h => by simp [Registry.isActive_eq, hfind] at h
      | some platform =>
          cases hbuild : w.builders.lookup id with
          | none => exact .unavailable hkept fun _ => by simp [implements, hbuild]
          | some build =>
              cases hactive : platform.isActive with
              | false =>
                  simp only [hactive, Bool.false_eq_true, ↓reduceIte]
                  refine .unavailable hkept fun h => ?_
                  simp [Registry.isActive_eq, hfind, hactive] at h
              | true =>
                  simp only [hactive, ↓reduceIte]
                  rcases hrun : (build platform).run s with ⟨fault | a, s'⟩
                  · exact .failed hkept hfind hactive hbuild hrun
                  · exact .built hkept hfind hactive hbuild hrun

/-- An analyzer is kept, or it is built for an active platform and kept from then on, or there is
none. -/
theorem analyzer?_cases (stock : Stock α) (id : String) (s : σ) :
    (stock.Keeps id ∧ ∃ a, w.analyzer? stock id s = ((some a, stock), s)) ∨
    (¬ stock.Keeps id ∧ stock.registry.isActive id = true ∧ w.implements id = true ∧
      ∃ a s', w.analyzer? stock id s =
        ((some a, { stock with kept := stock.kept ++ [(id, a)] }), s')) ∨
    (¬ stock.Keeps id ∧ ∃ s', w.analyzer? stock id s = ((none, stock), s')) := by
  have hnot (hnone : stock.kept.lookup id = none) : ¬ stock.Keeps id := by
    rw [← stock.exists_lookup_iff, hnone]
    simp
  have hobtains := w.obtains_analyzer? stock id s
  generalize w.analyzer? stock id s = got at hobtains ⊢
  cases hobtains with
  | kept hkept => exact .inl ⟨(stock.exists_lookup_iff id).mp ⟨_, hkept⟩, _, rfl⟩
  | built hnone hfind hactive hbuild =>
      refine .inr (.inl ⟨hnot hnone, ?_, ?_, _, _, rfl⟩)
      · rw [Registry.isActive_eq, hfind]
        exact hactive
      · rw [implements, hbuild]
        rfl
  | failed hnone => exact .inr (.inr ⟨hnot hnone, _, rfl⟩)
  | unavailable hnone => exact .inr (.inr ⟨hnot hnone, _, rfl⟩)

theorem stock_analyzersOf_cons (id : String) (rest : List String) (stock : Stock α) (s : σ) :
    (w.analyzersOf (id :: rest) stock s).1.2 =
      (w.analyzersOf rest (w.analyzer? stock id s).1.2 (w.analyzer? stock id s).2).1.2 := by
  rw [analyzersOf]
  split
  · rfl
  · rfl

/-- A readiness check leaves the stock as it is, or as asking for the analyzer does. -/
theorem stock_readiness (stock : Stock α) (id : String) (s : σ) :
    (w.readiness stock id s).1.2 = stock ∨
      (w.readiness stock id s).1.2 = (w.analyzer? stock id s).1.2 := by
  unfold readiness
  split
  · exact .inl rfl
  · split
    · exact .inl rfl
    · split
      · exact .inl rfl
      · split
        next heq => exact .inr (by rw [heq])
        next heq => exact .inr (by rw [heq])

theorem grown_analyzer? (stock : Stock α) (id : String) (s : σ) :
    Grown w stock (w.analyzer? stock id s).1.2 := by
  rcases w.analyzer?_cases stock id s with
    ⟨-, a, heq⟩ | ⟨-, hactive, himplements, a, s', heq⟩ | ⟨-, s', heq⟩
  · rw [heq]
    exact .refl
  · rw [heq]
    refine ⟨rfl, fun other h => ?_, fun other h => ?_⟩
    · unfold Stock.Keeps at h ⊢
      rw [List.map_append]
      exact List.mem_append_left _ h
    · unfold Stock.Keeps at h
      rw [List.map_append, List.mem_append] at h
      rcases h with hold | hnew
      · exact .inl hold
      · obtain rfl := List.mem_singleton.mp hnew
        exact .inr ⟨hactive, himplements⟩
  · rw [heq]
    exact .refl

theorem grown_analyzersOf (ids : List String) (stock : Stock α) (s : σ) :
    Grown w stock (w.analyzersOf ids stock s).1.2 := by
  induction ids generalizing stock s with
  | nil => exact .refl
  | cons id rest ih =>
      rw [stock_analyzersOf_cons]
      exact (w.grown_analyzer? stock id s).trans (ih _ _)

theorem grown_readiness (stock : Stock α) (id : String) (s : σ) :
    Grown w stock (w.readiness stock id s).1.2 := by
  rcases w.stock_readiness stock id s with heq | heq
  · rw [heq]
    exact .refl
  · rw [heq]
    exact w.grown_analyzer? stock id s

theorem grown_use {u : Usage} (h : u.Asks) (now : Stock α × σ) : Grown w now.1 (w.use u now).1 := by
  obtain ⟨stock, s⟩ := now
  cases h with
  | analyzer id => exact w.grown_analyzer? stock id s
  | analyzers => exact w.grown_analyzersOf _ stock s
  | checkAll => exact w.grown_analyzersOf _ stock s
  | readiness id => exact w.grown_readiness stock id s

/-- What a use does to the stock. -/
theorem use_cases (u : Usage) (now : Stock α × σ) :
    (u.Asks ∧ Grown w now.1 (w.use u now).1) ∨
    (∃ id isActive, u = .setActive id isActive ∧ (w.use u now).1 = now.1.switched id isActive) ∨
    (∃ id, u = .remove id ∧ (w.use u now).1 = (now.1.remove id).2) ∨
    (u = .clear ∧ (w.use u now).1 = now.1.clear) := by
  cases u with
  | setActive id isActive => exact .inr (.inl ⟨id, isActive, rfl, rfl⟩)
  | analyzer id => exact .inl ⟨.analyzer id, w.grown_use (.analyzer id) now⟩
  | analyzers => exact .inl ⟨.analyzers, w.grown_use .analyzers now⟩
  | checkAll => exact .inl ⟨.checkAll, w.grown_use .checkAll now⟩
  | readiness id => exact .inl ⟨.readiness id, w.grown_use (.readiness id) now⟩
  | remove id => exact .inr (.inr (.inl ⟨id, rfl, rfl⟩))
  | clear => exact .inr (.inr (.inr ⟨rfl, rfl⟩))

variable {w}

theorem sound_use {now : Stock α × σ} (h : Sound w now.1) (u : Usage) :
    Sound w (w.use u now).1 := by
  rcases w.use_cases u now with
    ⟨-, hgrown⟩ | ⟨id, isActive, -, heq⟩ | ⟨id, -, heq⟩ | ⟨-, heq⟩
  · exact hgrown.sound h
  · rw [heq]
    intro other hkeeps
    rcases now.1.switched_cases id isActive with ⟨-, hsame⟩ | ⟨-, hkept, hfind, -⟩
    · rw [hsame] at hkeeps ⊢
      exact h other hkeeps
    · rw [hfind]
      refine h other ?_
      unfold Stock.Keeps at hkeeps ⊢
      rwa [hkept] at hkeeps
  · rw [heq]
    intro other hkeeps
    exact h other ((now.1.keeps_remove_iff id other).mp hkeeps).1
  · rw [heq]
    intro other hkeeps
    exact absurd hkeeps (now.1.not_keeps_clear other)

/-- A kept analyzer becomes stale when its platform is switched off, and stays so until the platform
is switched on again or the analyzer is dropped. -/
theorem stale_use_iff {now : Stock α × σ} (h : Sound w now.1) (u : Usage) (id : String) :
    (w.use u now).1.Stale id ↔
      (u = .setActive id false ∧ now.1.Keeps id) ∨ (now.1.Stale id ∧ ¬ u.Settles id) := by
  rcases w.use_cases u now with
    ⟨hasks, hgrown⟩ | ⟨other, isActive, rfl, heq⟩ | ⟨other, rfl, heq⟩ | ⟨rfl, heq⟩
  · rw [hgrown.stale_iff]
    cases hasks <;> simp [Usage.Settles]
  · rw [heq]
    unfold Stock.Stale
    rcases now.1.switched_cases other isActive with ⟨hnone, hsame⟩ | ⟨-, hkept, -, hactive⟩
    · have hother : now.1.Keeps id → id ≠ other := by
        rintro hkeeps rfl
        have hsome := (h id hkeeps).1
        rw [hnone] at hsome
        cases hsome
      rw [hsame]
      simp only [Usage.Settles, Usage.setActive.injEq, reduceCtorEq, or_false]
      constructor
      · rintro ⟨hkeeps, hinactive⟩
        exact .inr ⟨⟨hkeeps, hinactive⟩, fun heq => hother hkeeps heq.1.symm⟩
      · rintro (⟨⟨rfl, -⟩, hkeeps⟩ | ⟨hstale, -⟩)
        · exact absurd rfl (hother hkeeps)
        · exact hstale
    · have hkeeps : (now.1.switched other isActive).Keeps id ↔ now.1.Keeps id := by
        unfold Stock.Keeps
        rw [hkept]
      rw [hkeeps, hactive]
      by_cases heq : id = other
      · subst heq
        cases isActive <;> simp +contextual [Usage.Settles]
      · have hne : ¬ other = id := fun h => heq h.symm
        simp [Usage.Settles, heq, hne]
  · rw [heq]
    unfold Stock.Stale
    rw [now.1.keeps_remove_iff]
    have hregistry : (now.1.remove other).2.registry = now.1.registry := rfl
    rw [hregistry]
    by_cases heq : id = other
    · subst heq
      simp [Usage.Settles]
    · have hne : ¬ other = id := fun h => heq h.symm
      simp [Usage.Settles, heq, hne]
  · rw [heq]
    constructor
    · rintro ⟨hkeeps, -⟩
      exact absurd hkeeps (now.1.not_keeps_clear id)
    · rintro (⟨hclear, -⟩ | ⟨-, hnot⟩)
      · cases hclear
      · exact absurd (.inr (.inr rfl)) hnot

variable (w)

theorem run_concat (uses : List Usage) (u : Usage) (start : Stock α × σ) :
    w.run (uses ++ [u]) start = w.use u (w.run uses start) := by
  unfold run
  rw [List.foldl_append, List.foldl_cons, List.foldl_nil]

theorem sound_run (registry : Registry) (uses : List Usage) (s : σ) :
    Sound w (w.run uses ({ registry }, s)).1 := by
  induction uses using List.reverseRecOn with
  | nil =>
      intro id hkeeps
      exact absurd hkeeps List.not_mem_nil
  | append_singleton uses u ih =>
      rw [run_concat]
      exact sound_use ih u

/-- Stale is what was kept when its platform was switched off for the last time, if nothing has
settled it since. -/
theorem stale_run_iff (registry : Registry) (uses : List Usage) (s : σ) (id : String) :
    (w.run uses ({ registry }, s)).1.Stale id ↔
      ∃ before after, uses = before ++ .setActive id false :: after ∧
        (w.run before ({ registry }, s)).1.Keeps id ∧ ∀ u ∈ after, ¬ u.Settles id := by
  have hdecided : (w.run uses ({ registry }, s)).1.Stale id ↔
      Latest (fun u => ¬ u.Settles id)
        (fun before u => u = .setActive id false ∧ (w.run before ({ registry }, s)).1.Keeps id)
        uses := by
    refine iff_latest (Q := fun uses => (w.run uses ({ registry }, s)).1.Stale id) ?_ ?_ uses
    · rintro ⟨hkeeps, -⟩
      exact List.not_mem_nil hkeeps
    · intro uses u
      rw [run_concat, stale_use_iff (w.sound_run registry uses s), and_comm (b := ¬ u.Settles id)]
  rw [hdecided]
  constructor
  · rintro ⟨before, u, after, heq, hafter, rfl, hkeeps⟩
    exact ⟨before, after, heq, hkeeps, hafter⟩
  · rintro ⟨before, after, heq, hkeeps, hafter⟩
    exact ⟨before, _, after, heq, hafter, rfl, hkeeps⟩

/-- What the check of a platform comes to that is switched off. -/
def switchedOff (id : String) : Readiness :=
  { issues := ["Platform '" ++ id ++ "' is not active"]
    advice := ["Activate the platform in the registry"] }

/-- No finished check reads like that of a platform that is switched off. -/
theorem readinessOf_ne_switchedOff (platform : Platform) (check : HealthCheck) (id : String) :
    readinessOf platform check ≠ switchedOff id := by
  intro heq
  have hissues := congrArg Readiness.issues heq
  have hadvice := congrArg Readiness.advice heq
  unfold readinessOf switchedOff at hissues hadvice
  cases check with
  | error fault =>
      dsimp only at hadvice
      split at hadvice <;> simp at hadvice
  | ok found =>
      cases hinstalled : found.installed with
      | false => simp [hinstalled] at hadvice
      | true =>
          rcases herror : found.error with _ | remark
          · simp [hinstalled, herror] at hissues
          · by_cases hempty : remark = ""
            · simp [hinstalled, herror, hempty] at hissues
            · simp [hinstalled, herror] at hissues

theorem readiness_eq_switchedOff_iff (stock : Stock α) (id : String) (s : σ) :
    (w.readiness stock id s).1.1 = switchedOff id ↔
      (stock.registry.find? id).isSome ∧ stock.registry.isActive id = false := by
  rw [Registry.isActive_eq]
  unfold readiness
  cases hfind : stock.registry.find? id with
  | none => simp [switchedOff]
  | some platform =>
      cases hactive : platform.isActive with
      | false => simp [hactive, switchedOff]
      | true =>
          refine iff_of_false ?_ (by simp [hactive])
          cases himplements : w.implements id with
          | false => simp [hactive, switchedOff]
          | true =>
              simp only [hactive, Bool.not_true, Bool.false_eq_true, ↓reduceIte]
              split
              next => simp [switchedOff]
              next => exact readinessOf_ne_switchedOff platform _ id

/-- What can be said of the analyzer that a platform has after some uses. -/
structure Accounted (start : Stock α × σ) (uses : List Usage) (id : String) : Prop where
  standing : ∀ a, (w.analyzer? (w.run uses start).1 id (w.run uses start).2).1.1 = some a →
    ((w.run uses start).1.registry.find? id).isSome ∧ w.implements id = true ∧
      ((w.run uses start).1.registry.isActive id = true ∨ (w.run uses start).1.Stale id)
  contested : (w.run uses start).1.Stale id ↔
    (∃ a, (w.analyzer? (w.run uses start).1 id (w.run uses start).2).1.1 = some a) ∧
      (w.readiness (w.run uses start).1 id (w.run uses start).2).1.1 = switchedOff id
  origin : (w.run uses start).1.Stale id ↔
    ∃ before after, uses = before ++ .setActive id false :: after ∧
      (w.run before start).1.Keeps id ∧ ∀ u ∈ after, ¬ u.Settles id

/-- An analyzer is handed out only for a registered platform that has a builder and is active, or
whose analyzer is stale. A stale one is handed out although its platform is told to be switched off,
and it is stale because it was kept when the platform was switched off, and nothing settled it
since. -/
theorem accounted_run (registry : Registry) (s : σ) (uses : List Usage) (id : String) :
    Accounted w ({ registry }, s) uses id := by
  have hsound := w.sound_run registry uses s
  have hcases := w.analyzer?_cases (w.run uses ({ registry }, s)).1 id
    (w.run uses ({ registry }, s)).2
  refine ⟨?_, ?_, w.stale_run_iff registry uses s id⟩
  · intro a ha
    rcases hcases with ⟨hkeeps, -⟩ | ⟨-, hactive, himplements, -⟩ | ⟨-, s', heq⟩
    · obtain ⟨hfind, himplements⟩ := hsound id hkeeps
      refine ⟨hfind, himplements, ?_⟩
      cases hactive : (w.run uses ({ registry }, s)).1.registry.isActive id with
      | true => exact .inl rfl
      | false => exact .inr ⟨hkeeps, hactive⟩
    · exact ⟨Registry.isSome_find?_of_isActive hactive, himplements, .inl hactive⟩
    · rw [heq] at ha
      cases ha
  · rw [readiness_eq_switchedOff_iff]
    constructor
    · rintro ⟨hkeeps, hinactive⟩
      refine ⟨?_, (hsound id hkeeps).1, hinactive⟩
      rcases hcases with ⟨-, a, heq⟩ | ⟨hnot, -⟩ | ⟨hnot, -⟩
      · exact ⟨a, by rw [heq]⟩
      · exact absurd hkeeps hnot
      · exact absurd hkeeps hnot
    · rintro ⟨⟨a, ha⟩, -, hinactive⟩
      rcases hcases with ⟨hkeeps, -⟩ | ⟨-, hactive, -⟩ | ⟨-, s', heq⟩
      · exact ⟨hkeeps, hinactive⟩
      · cases hinactive.symm.trans hactive
      · rw [heq] at ha
        cases ha

/-- An analyzer that is handed out once is handed out again when its platform has been switched
off. -/
theorem contested_ethereum :
    let w := standard brokenTools silentModels {}
    let now := w.run [.analyzer "ethereum", .setActive "ethereum" false]
      ({ registry := .standard }, ())
    (∃ a, (w.analyzer? now.1 "ethereum" now.2).1.1 = some a) ∧
      (w.readiness now.1 "ethereum" now.2).1.1 = switchedOff "ethereum" := by
  intro w now
  have haccounted := accounted_run w .standard ()
    [.analyzer "ethereum", .setActive "ethereum" false] "ethereum"
  refine haccounted.contested.mp (haccounted.origin.mpr ⟨[.analyzer "ethereum"], [], rfl, ?_, ?_⟩)
  · unfold Stock.Keeps
    decide +kernel
  · simp

end Workshop

end ContractReview
