import ContractReview.Proofs.Platform.Readiness

/-!
How often the builders are called. Beside the stock runs a log of all calls of builders; it changes
nothing. Between two uses that drop a platform's analyzer, the log and the stock agree: the platform
is kept exactly when a call of its builder has succeeded, and what is kept is what that call made.
-/

namespace ContractReview

/-- A call of a platform's builder, and what came of it. -/
structure Build (α : Type) where
  id : String
  made : Except Fault α

namespace Build

variable {α : Type}

/-- What came of the calls of one platform's builder. -/
def callsOf (id : String) (log : List (Build α)) : List (Except Fault α) :=
  (log.filter (·.id = id)).map (·.made)

/-- The analyzers that one platform's builder made. -/
def madeFor (id : String) (log : List (Build α)) : List α :=
  (callsOf id log).filterMap Except.toOption

theorem callsOf_append (id : String) (log log' : List (Build α)) :
    callsOf id (log ++ log') = callsOf id log ++ callsOf id log' := by
  unfold callsOf
  rw [List.filter_append, List.map_append]

theorem callsOf_singleton (id : String) (build : Build α) :
    callsOf id [build] = if build.id = id then [build.made] else [] := by
  by_cases h : build.id = id <;> simp [callsOf, h]

end Build

namespace Act

variable {σ α : Type}

/-- A builder's step that is written down when it has ended. -/
def logged (id : String) (x : Act σ α) : Act (σ × List (Build α)) α := fun now =>
  let done := x.run now.1
  (done.1, (done.2, now.2 ++ [⟨id, done.1⟩]))

/-- A step beside a log, in which it writes nothing. -/
def beside {β : Type} (x : Act σ β) : Act (σ × List (Build α)) β := fun now =>
  let done := x.run now.1
  (done.1, (done.2, now.2))

end Act

namespace Usage

/-- A use behind which no analyzer of the platform is kept. -/
def Drops (u : Usage) (id : String) : Prop := u = .remove id ∨ u = .clear

/-- A use that asks for the platform's analyzer if the platform is active. -/
inductive Requests (id : String) : Usage → Prop
  | analyzer : Requests id (.analyzer id)
  | analyzers : Requests id .analyzers
  | checkAll : Requests id .checkAll
  | readiness : Requests id (.readiness id)

end Usage

namespace Stock

variable {α : Type} (stock : Stock α)

theorem lookup_eq_none_iff (id : String) : stock.kept.lookup id = none ↔ ¬ stock.Keeps id := by
  rw [← exists_lookup_iff, ← Option.isSome_iff_exists, Option.not_isSome_iff_eq_none]

/-- Dropping one platform's analyzer leaves every other one as it is. -/
theorem lookup_remove_of_ne {id other : String} (h : id ≠ other) :
    (stock.remove other).2.kept.lookup id = stock.kept.lookup id := by
  unfold remove
  dsimp only
  induction stock.kept with
  | nil => rfl
  | cons entry rest ih =>
      obtain ⟨first, a⟩ := entry
      by_cases hfirst : first = other
      · subst hfirst
        simp only [ne_eq, not_true_eq_false, decide_false, Bool.false_eq_true, not_false_eq_true,
          List.filter_cons_of_neg, List.lookup_cons, beq_false_of_ne h]
        exact ih
      · simp only [ne_eq, hfirst, not_false_eq_true, decide_true, List.filter_cons_of_pos,
          List.lookup_cons]
        split
        · rfl
        · exact ih

end Stock

namespace Workshop

variable {σ α : Type} (w : Workshop σ α)

/-- The workshop with a log of its builders' calls. -/
def recorded : Workshop (σ × List (Build α)) α where
  builders := w.builders.map fun (id, build) => (id, fun platform => (build platform).logged id)
  health a := (w.health a).beside

/-- The platform is active and has a builder. -/
def Buildable (r : Registry) (id : String) : Prop :=
  r.isActive id = true ∧ w.implements id = true

instance (r : Registry) (id : String) : Decidable (w.Buildable r id) :=
  inferInstanceAs (Decidable (_ ∧ _))

/-- The analyzers that a use comes by. A readiness check asks for one only if it may be built. -/
def handed : Usage → Stock α × σ → List (String × α)
  | .analyzer id, (stock, s) => (w.analyzer? stock id s).1.1.toList.map (id, ·)
  | .readiness id, (stock, s) =>
      if w.Buildable stock.registry id then (w.analyzer? stock id s).1.1.toList.map (id, ·) else []
  | .analyzers, (stock, s) | .checkAll, (stock, s) => (w.analyzers stock s).1.1
  | .setActive _ _, _ | .remove _, _ | .clear, _ => []

/-- The calls of builders while the uses are made. -/
def log (uses : List Usage) (now : Stock α × σ) : List (Build α) :=
  (w.recorded.run uses (now.1, (now.2, []))).2.2

/-! ## The log changes nothing -/

theorem lookup_recorded (id : String) :
    w.recorded.builders.lookup id =
      (w.builders.lookup id).map fun build platform => (build platform).logged id := by
  unfold recorded
  dsimp only
  induction w.builders with
  | nil => rfl
  | cons entry rest ih =>
      obtain ⟨first, build⟩ := entry
      rw [List.map_cons, List.lookup_cons, List.lookup_cons]
      by_cases h : id = first
      · subst h
        simp
      · simp only [beq_false_of_ne h]
        exact ih

theorem implements_recorded (id : String) : w.recorded.implements id = w.implements id := by
  unfold implements
  rw [lookup_recorded, Option.isSome_map]

/-- A state with its log left out. -/
def unlogged (now : Stock α × (σ × List (Build α))) : Stock α × σ := (now.1, now.2.1)

section

variable (stock : Stock α) (now : σ × List (Build α))

theorem analyzer?_recorded (id : String) :
    (w.recorded.analyzer? stock id now).1 = (w.analyzer? stock id now.1).1 ∧
      (w.recorded.analyzer? stock id now).2.1 = (w.analyzer? stock id now.1).2 := by
  unfold analyzer?
  rw [lookup_recorded]
  cases stock.kept.lookup id with
  | some a => exact ⟨rfl, rfl⟩
  | none =>
      cases stock.registry.find? id with
      | none => exact ⟨rfl, rfl⟩
      | some platform =>
          cases w.builders.lookup id with
          | none => exact ⟨rfl, rfl⟩
          | some build =>
              cases hactive : platform.isActive with
              | false => simp [hactive]
              | true =>
                  have hrun : ((build platform).logged id).run now =
                      (((build platform).run now.1).1,
                        (((build platform).run now.1).2,
                          now.2 ++ [⟨id, ((build platform).run now.1).1⟩])) := rfl
                  simp only [Option.map_some, hactive, if_true, hrun]
                  rcases (build platform).run now.1 with ⟨fault | a, s'⟩ <;> exact ⟨rfl, rfl⟩

theorem analyzersOf_recorded (ids : List String) :
    (w.recorded.analyzersOf ids stock now).1 = (w.analyzersOf ids stock now.1).1 ∧
      (w.recorded.analyzersOf ids stock now).2.1 = (w.analyzersOf ids stock now.1).2 := by
  induction ids generalizing stock now with
  | nil => exact ⟨rfl, rfl⟩
  | cons id rest ih =>
      obtain ⟨hfound, hstate⟩ := w.analyzer?_recorded stock now id
      obtain ⟨hothers, hstate'⟩ := ih (w.recorded.analyzer? stock id now).1.2
        (w.recorded.analyzer? stock id now).2
      rw [hfound, hstate] at hothers hstate'
      unfold analyzersOf
      simp only [hfound]
      cases (w.analyzer? stock id now.1).1.1 with
      | none => exact ⟨hothers, hstate'⟩
      | some a => exact ⟨by simp only [hothers], hstate'⟩

theorem checkEach_recorded (found : List (String × α)) :
    (w.recorded.checkEach found now).2.1 = (w.checkEach found now.1).2 := by
  induction found generalizing now with
  | nil => rfl
  | cons entry rest ih => exact ih _

theorem checkAll_recorded :
    (w.recorded.checkAll stock now).1.2 = (w.checkAll stock now.1).1.2 ∧
      (w.recorded.checkAll stock now).2.1 = (w.checkAll stock now.1).2 := by
  obtain ⟨hfound, hstate⟩ := w.analyzersOf_recorded stock now (stock.registry.active.map (·.id))
  unfold checkAll analyzers
  dsimp only
  rw [checkEach_recorded, hfound, hstate]
  exact ⟨rfl, rfl⟩

theorem readiness_recorded (id : String) :
    (w.recorded.readiness stock id now).1 = (w.readiness stock id now.1).1 ∧
      (w.recorded.readiness stock id now).2.1 = (w.readiness stock id now.1).2 := by
  obtain ⟨hfound, hstate⟩ := w.analyzer?_recorded stock now id
  unfold readiness
  rw [implements_recorded]
  cases stock.registry.find? id with
  | none => exact ⟨rfl, rfl⟩
  | some platform =>
      dsimp only
      split
      · exact ⟨rfl, rfl⟩
      · split
        · exact ⟨rfl, rfl⟩
        · rcases hplain : w.analyzer? stock id now.1 with ⟨⟨_ | a, stock'⟩, s⟩ <;>
            rcases hlogged : w.recorded.analyzer? stock id now with ⟨⟨a', stock''⟩, t⟩ <;>
            rw [hplain, hlogged] at hfound hstate <;>
            cases hfound <;> cases hstate
          · exact ⟨rfl, rfl⟩
          · exact ⟨rfl, rfl⟩

/-- A use does the same beside the log as without it. -/
theorem use_recorded (u : Usage) (now : Stock α × (σ × List (Build α))) :
    unlogged (w.recorded.use u now) = w.use u (unlogged now) := by
  obtain ⟨stock, now⟩ := now
  cases u with
  | setActive id isActive => rfl
  | analyzer id =>
      obtain ⟨hfound, hstate⟩ := w.analyzer?_recorded stock now id
      exact Prod.ext (congrArg Prod.snd hfound) hstate
  | analyzers =>
      obtain ⟨hfound, hstate⟩ := w.analyzersOf_recorded stock now (stock.registry.active.map (·.id))
      exact Prod.ext (congrArg Prod.snd hfound) hstate
  | checkAll =>
      obtain ⟨hfound, hstate⟩ := w.checkAll_recorded stock now
      exact Prod.ext hfound hstate
  | readiness id =>
      obtain ⟨hfound, hstate⟩ := w.readiness_recorded stock now id
      exact Prod.ext (congrArg Prod.snd hfound) hstate
  | remove id => rfl
  | clear => rfl

theorem run_recorded (uses : List Usage) (now : Stock α × (σ × List (Build α))) :
    unlogged (w.recorded.run uses now) = w.run uses (unlogged now) := by
  induction uses using List.reverseRecOn with
  | nil => rfl
  | append_singleton uses u ih => rw [run_concat, run_concat, use_recorded, ih]

end

/-! ## What one use does for one platform -/

/-- What is kept of a platform before and after a step, and the calls of its builder. A platform
that is wanted and not kept has its builder called, once; else nothing happens to it. -/
inductive Attempts (wanted : Prop) : Option α → Option α → List (Except Fault α) → Prop
  | spared {kept : Option α} : ¬ (wanted ∧ kept = none) → Attempts wanted kept kept []
  | failed {fault : Fault} : wanted → Attempts wanted none none [.error fault]
  | made {a : α} : wanted → Attempts wanted none (some a) [.ok a]

namespace Attempts

variable {wanted : Prop} {before after : Option α} {calls : List (Except Fault α)}

/-- What is kept stays kept. -/
theorem keeps (h : Attempts wanted before after calls) {a : α} (ha : before = some a) :
    after = some a := by
  subst ha
  cases h with
  | spared => rfl

theorem eq_of_failed (h : Attempts wanted before after calls) {fault : Fault}
    (hfault : .error fault ∈ calls) : after = before := by
  cases h with
  | spared => rfl
  | failed => rfl
  | made => cases List.mem_singleton.mp hfault

theorem exists_call (h : Attempts wanted before after calls) (hwanted : wanted)
    (hbefore : before = none) : ∃ made, calls = [made] := by
  cases h with
  | spared hspared => exact absurd ⟨hwanted, hbefore⟩ hspared
  | failed => exact ⟨_, rfl⟩
  | made => exact ⟨_, rfl⟩

end Attempts

/-- A step is an attempt at a platform, told by stock and log. -/
def Advances (wanted : Prop) (id : String) (now now' : Stock α × (σ × List (Build α))) : Prop :=
  ∃ calls, Build.callsOf id now'.2.2 = Build.callsOf id now.2.2 ++ calls ∧
    Attempts wanted (now.1.kept.lookup id) (now'.1.kept.lookup id) calls

namespace Advances

variable {wanted : Prop} {id : String} {now now' now'' : Stock α × (σ × List (Build α))}

/-- A step that touches neither the platform's entry nor the calls of its builder. -/
theorem still (hwanted : ¬ (wanted ∧ now.1.kept.lookup id = none))
    (hkept : now'.1.kept.lookup id = now.1.kept.lookup id)
    (hlog : Build.callsOf id now'.2.2 = Build.callsOf id now.2.2) :
    Advances wanted id now now' := by
  refine ⟨[], by rw [hlog, List.append_nil], ?_⟩
  rw [hkept]
  exact .spared hwanted

theorem eq_of_not (h : Advances wanted id now now') (hnot : ¬ wanted) :
    now'.1.kept.lookup id = now.1.kept.lookup id ∧
      Build.callsOf id now'.2.2 = Build.callsOf id now.2.2 := by
  obtain ⟨calls, hlog, hattempts⟩ := h
  generalize now.1.kept.lookup id = before at hattempts ⊢
  generalize now'.1.kept.lookup id = after at hattempts ⊢
  cases hattempts with
  | spared => exact ⟨rfl, by rw [hlog, List.append_nil]⟩
  | failed hwanted => exact absurd hwanted hnot
  | made hwanted => exact absurd hwanted hnot

theorem before_still (hstill : Advances False id now now') (h : Advances wanted id now' now'') :
    Advances wanted id now now'' := by
  obtain ⟨hkept, hlog⟩ := hstill.eq_of_not not_false
  unfold Advances at h ⊢
  rwa [hkept, hlog] at h

theorem then_still (h : Advances wanted id now now') (hstill : Advances False id now' now'') :
    Advances wanted id now now'' := by
  obtain ⟨hkept, hlog⟩ := hstill.eq_of_not not_false
  unfold Advances at h ⊢
  rwa [hkept, hlog]

theorem congr {wanted' : Prop} (h : Advances wanted id now now') (hiff : wanted' ↔ wanted) :
    Advances wanted' id now now' := by
  rwa [propext hiff]

end Advances

/-- What a builder of the recorded workshop writes down. -/
theorem callsOf_run {id : String} {build : Platform → Act (σ × List (Build α)) α}
    {platform : Platform} {now now' : σ × List (Build α)} {made : Except Fault α}
    (hbuild : w.recorded.builders.lookup id = some build)
    (hrun : (build platform).run now = (made, now')) (other : String) :
    Build.callsOf other now'.2 =
      Build.callsOf other now.2 ++ if id = other then [made] else [] := by
  rw [lookup_recorded] at hbuild
  obtain ⟨build, -, rfl⟩ := Option.map_eq_some_iff.mp hbuild
  cases hrun
  exact (Build.callsOf_append ..).trans (congrArg _ (Build.callsOf_singleton ..))

theorem buildable_of_lookup {r : Registry} {id : String} {platform : Platform}
    {build : Platform → Act (σ × List (Build α)) α} (hfind : r.find? id = some platform)
    (hactive : platform.isActive = true)
    (hbuild : w.recorded.builders.lookup id = some build) : w.Buildable r id := by
  constructor
  · rw [Registry.isActive_eq, hfind]
    exact hactive
  · rw [← implements_recorded, implements, hbuild]
    rfl

/-- Asking for an analyzer is an attempt at its platform and at no other. -/
theorem advances_analyzer? (stock : Stock α) (now : σ × List (Build α)) (id other : String) :
    Advances (id = other ∧ w.Buildable stock.registry other) other (stock, now)
      ((w.recorded.analyzer? stock id now).1.2, (w.recorded.analyzer? stock id now).2) := by
  have hobtains := w.recorded.obtains_analyzer? stock id now
  generalize w.recorded.analyzer? stock id now = got at hobtains ⊢
  cases hobtains with
  | @kept a hkept =>
      refine .still ?_ rfl rfl
      rintro ⟨⟨rfl, -⟩, hnone⟩
      cases hkept.symm.trans hnone
  | @built platform build a now' hkept hfind hactive hbuild hrun =>
      have hcalls := w.callsOf_run hbuild hrun other
      by_cases hid : id = other
      · subst hid
        rw [if_pos rfl] at hcalls
        refine ⟨[.ok a], hcalls, ?_⟩
        have hadded : (stock.kept ++ [(id, a)]).lookup id = some a := by
          rw [List.lookup_append, hkept, Option.none_or, List.lookup_cons_self]
        dsimp only
        rw [hkept, hadded]
        exact .made ⟨rfl, w.buildable_of_lookup hfind hactive hbuild⟩
      · rw [if_neg hid, List.append_nil] at hcalls
        refine .still (fun h => hid h.1.1) ?_ hcalls
        have hne : (other == id) = false := beq_false_of_ne fun h => hid h.symm
        simp [List.lookup_append, List.lookup_cons, hne]
  | @failed platform build fault now' hkept hfind hactive hbuild hrun =>
      have hcalls := w.callsOf_run hbuild hrun other
      by_cases hid : id = other
      · subst hid
        rw [if_pos rfl] at hcalls
        refine ⟨[.error fault], hcalls, ?_⟩
        dsimp only
        rw [hkept]
        exact .failed ⟨rfl, w.buildable_of_lookup hfind hactive hbuild⟩
      · rw [if_neg hid, List.append_nil] at hcalls
        exact .still (fun h => hid h.1.1) rfl hcalls
  | unavailable hkept hwithout =>
      refine .still ?_ rfl rfl
      rintro ⟨⟨rfl, hactive, himplements⟩, -⟩
      rw [implements_recorded, himplements] at hwithout
      cases hwithout hactive

theorem state_analyzersOf_cons (id : String) (rest : List String) (stock : Stock α) (s : σ) :
    (w.analyzersOf (id :: rest) stock s).2 =
      (w.analyzersOf rest (w.analyzer? stock id s).1.2 (w.analyzer? stock id s).2).2 := by
  rw [analyzersOf]
  split
  · rfl
  · rfl

/-- Asking for the analyzers of different platforms is an attempt at each of them. -/
theorem advances_analyzersOf {ids : List String} (hids : ids.Nodup) (stock : Stock α)
    (now : σ × List (Build α)) (id : String) :
    Advances (id ∈ ids ∧ w.Buildable stock.registry id) id (stock, now)
      ((w.recorded.analyzersOf ids stock now).1.2, (w.recorded.analyzersOf ids stock now).2) := by
  induction ids generalizing stock now with
  | nil => exact .still (fun h => List.not_mem_nil h.1.1) rfl rfl
  | cons first rest ih =>
      obtain ⟨hfirst, hrest⟩ := List.nodup_cons.mp hids
      have hstep := w.advances_analyzer? stock now first id
      have hothers := ih hrest (w.recorded.analyzer? stock first now).1.2
        (w.recorded.analyzer? stock first now).2
      rw [(w.recorded.grown_analyzer? stock first now).registry] at hothers
      rw [stock_analyzersOf_cons, state_analyzersOf_cons]
      by_cases hid : first = id
      · subst hid
        refine (hstep.then_still (hothers.congr ?_)).congr ?_
        · simp [hfirst]
        · simp
      · refine ((hstep.congr ?_).before_still hothers).congr ?_
        · simp [hid]
        · rw [List.mem_cons, or_iff_right fun h => hid h.symm]

theorem log_checkEach (found : List (String × α)) (now : σ × List (Build α)) :
    (w.recorded.checkEach found now).2.2 = now.2 := by
  induction found generalizing now with
  | nil => rfl
  | cons entry rest ih => exact ih _

/-- A readiness check asks for the analyzer if it may be built, and does nothing else. -/
theorem readiness_cases (stock : Stock α) (id : String) (s : σ) :
    (¬ w.Buildable stock.registry id ∧ (w.readiness stock id s).1.2 = stock ∧
      (w.readiness stock id s).2 = s) ∨
    (w.Buildable stock.registry id ∧
      (w.readiness stock id s).1.2 = (w.analyzer? stock id s).1.2 ∧
      ((w.readiness stock id s).2 = (w.analyzer? stock id s).2 ∨
        ∃ a, (w.readiness stock id s).2 = ((w.health a).run (w.analyzer? stock id s).2).2)) := by
  unfold Buildable readiness
  rw [Registry.isActive_eq]
  cases stock.registry.find? id with
  | none => exact .inl ⟨by simp, rfl, rfl⟩
  | some platform =>
      cases hactive : platform.isActive with
      | false => exact .inl ⟨by simp [hactive], by simp [hactive], by simp [hactive]⟩
      | true =>
          cases himplements : w.implements id with
          | false => exact .inl ⟨by simp, by simp [hactive], by simp [hactive]⟩
          | true =>
              refine .inr ⟨by simp [hactive], ?_⟩
              simp only [hactive, Bool.not_true, Bool.false_eq_true, if_false]
              rcases w.analyzer? stock id s with ⟨⟨_ | a, stock'⟩, s'⟩
              · exact ⟨rfl, .inl rfl⟩
              · exact ⟨rfl, .inr ⟨a, rfl⟩⟩

theorem advances_readiness (stock : Stock α) (now : σ × List (Build α)) (id other : String) :
    Advances (id = other ∧ w.Buildable stock.registry other) other (stock, now)
      ((w.recorded.readiness stock id now).1.2, (w.recorded.readiness stock id now).2) := by
  have hsame : w.recorded.Buildable stock.registry id ↔ w.Buildable stock.registry id := by
    unfold Buildable
    rw [implements_recorded]
  rcases w.recorded.readiness_cases stock id now with
    ⟨hnot, hstock, hstate⟩ | ⟨-, hstock, hstate⟩
  · rw [hstock, hstate]
    refine .still ?_ rfl rfl
    rintro ⟨⟨rfl, hbuildable⟩, -⟩
    exact hnot (hsame.mpr hbuildable)
  · have hlog : (w.recorded.readiness stock id now).2.2 =
        (w.recorded.analyzer? stock id now).2.2 := by
      rcases hstate with heq | ⟨a, heq⟩
      · rw [heq]
      · rw [heq]
        rfl
    have hstep := w.advances_analyzer? stock now id other
    unfold Advances at hstep ⊢
    rwa [hstock, hlog]

/-- A use that does not drop the platform's analyzer is an attempt at the platform. -/
theorem advances_use {u : Usage} {id : String} (hu : ¬ u.Drops id)
    (now : Stock α × (σ × List (Build α))) (hids : now.1.registry.Distinct) :
    Advances (u.Requests id ∧ w.Buildable now.1.registry id) id now (w.recorded.use u now) := by
  obtain ⟨stock, now⟩ := now
  have hall {u : Usage} (hu : u.Requests id) :
      u.Requests id ∧ w.Buildable stock.registry id ↔
        id ∈ stock.registry.active.map (·.id) ∧ w.Buildable stock.registry id := by
    rw [← hids.isActive_iff]
    unfold Buildable
    tauto
  cases u with
  | setActive other isActive =>
      refine .still (fun h => nomatch h.1.1) ?_ rfl
      exact congrArg (List.lookup id) (stock.switched_change other isActive).1
  | analyzer other =>
      refine (w.advances_analyzer? stock now other id).congr (and_congr_left' ⟨?_, ?_⟩)
      · rintro ⟨⟩
        rfl
      · rintro rfl
        exact .analyzer
  | analyzers =>
      exact (w.advances_analyzersOf hids.nodup_active stock now id).congr (hall .analyzers)
  | checkAll =>
      have hstep := (w.advances_analyzersOf hids.nodup_active stock now id).congr (hall .checkAll)
      have hlog := w.log_checkEach (w.recorded.analyzers stock now).1.1
        (w.recorded.analyzers stock now).2
      unfold Advances at hstep ⊢
      change ∃ calls, Build.callsOf id (w.recorded.checkEach _ _).2.2 = _ ∧ _
      rwa [hlog]
  | readiness other =>
      refine (w.advances_readiness stock now other id).congr (and_congr_left' ⟨?_, ?_⟩)
      · rintro ⟨⟩
        rfl
      · rintro rfl
        exact .readiness
  | remove other =>
      have hne : id ≠ other := fun h => hu (.inl (h ▸ rfl))
      exact .still (fun h => nomatch h.1.1) (stock.lookup_remove_of_ne hne) rfl
  | clear => exact absurd (.inr rfl) hu

theorem lookup_drops {u : Usage} {id : String} (hu : u.Drops id) (now : Stock α × σ) :
    (w.use u now).1.kept.lookup id = none := by
  rw [Stock.lookup_eq_none_iff]
  rcases hu with rfl | rfl
  · exact fun h => ((now.1.keeps_remove_iff id id).mp h).2 rfl
  · exact now.1.not_keeps_clear id

/-! ## What is handed out -/

/-- What is handed out for a platform is what is kept of it from then on. -/
theorem fst_analyzer? (stock : Stock α) (id : String) (s : σ) :
    (w.analyzer? stock id s).1.1 = (w.analyzer? stock id s).1.2.kept.lookup id := by
  have hobtains := w.obtains_analyzer? stock id s
  generalize w.analyzer? stock id s = got at hobtains ⊢
  cases hobtains with
  | kept hkept => exact hkept.symm
  | built hkept =>
      dsimp only
      rw [List.lookup_append, hkept, Option.none_or, List.lookup_cons_self]
  | failed hkept => exact hkept.symm
  | unavailable hkept => exact hkept.symm

theorem lookup_analyzer?_of_ne {id other : String} (h : id ≠ other) (stock : Stock α) (s : σ) :
    (w.analyzer? stock id s).1.2.kept.lookup other = stock.kept.lookup other := by
  have hstill := (w.advances_analyzer? stock (s, []) id other).eq_of_not fun hwanted => h hwanted.1
  rw [← (w.analyzer?_recorded stock (s, []) id).1]
  exact hstill.1

theorem keeps_analyzer? {stock : Stock α} {id : String} {a : α}
    (h : stock.kept.lookup id = some a) (other : String) (s : σ) :
    (w.analyzer? stock other s).1.2.kept.lookup id = some a := by
  obtain ⟨calls, -, hattempts⟩ := w.advances_analyzer? stock (s, []) other id
  have hkeeps := hattempts.keeps h
  rwa [(w.analyzer?_recorded stock (s, []) other).1] at hkeeps

theorem keeps_analyzersOf {stock : Stock α} {id : String} {a : α}
    (h : stock.kept.lookup id = some a) (ids : List String) (s : σ) :
    (w.analyzersOf ids stock s).1.2.kept.lookup id = some a := by
  induction ids generalizing stock s with
  | nil => exact h
  | cons first rest ih =>
      rw [stock_analyzersOf_cons]
      exact ih (w.keeps_analyzer? h first s) _

theorem kept_of_mem_analyzersOf {ids : List String} {stock : Stock α} {s : σ} {id : String} {a : α}
    (h : (id, a) ∈ (w.analyzersOf ids stock s).1.1) :
    (w.analyzersOf ids stock s).1.2.kept.lookup id = some a := by
  induction ids generalizing stock s with
  | nil => cases h
  | cons first rest ih =>
      rw [stock_analyzersOf_cons]
      rw [analyzersOf] at h
      have hfound := w.fst_analyzer? stock first s
      cases hfirst : (w.analyzer? stock first s).1.1 with
      | none =>
          simp only [hfirst] at h
          exact ih h
      | some b =>
          simp only [hfirst] at h
          rcases List.mem_cons.mp h with heq | h
          · cases heq
            exact w.keeps_analyzersOf (hfound.symm.trans hfirst) rest _
          · exact ih h

/-- What a use comes by is kept behind it. -/
theorem kept_of_handed {u : Usage} {now : Stock α × σ} {id : String} {a : α}
    (h : (id, a) ∈ w.handed u now) : (w.use u now).1.kept.lookup id = some a := by
  obtain ⟨stock, s⟩ := now
  cases u with
  | setActive | remove | clear => cases h
  | analyzer other =>
      obtain ⟨b, hb, heq⟩ := List.mem_map.mp h
      cases heq
      exact (w.fst_analyzer? stock id s).symm.trans (Option.mem_toList.mp hb)
  | analyzers => exact w.kept_of_mem_analyzersOf h
  | checkAll => exact w.kept_of_mem_analyzersOf h
  | readiness other =>
      rw [handed] at h
      split at h
      next hbuildable =>
        obtain ⟨b, hb, heq⟩ := List.mem_map.mp h
        cases heq
        rcases w.readiness_cases stock id s with ⟨hnot, -⟩ | ⟨-, hstock, -⟩
        · exact absurd hbuildable hnot
        · change (w.readiness stock id s).1.2.kept.lookup id = some a
          rw [hstock]
          exact (w.fst_analyzer? stock id s).symm.trans (Option.mem_toList.mp hb)
      next => cases h

/-! ## Through many uses -/

theorem run_append (uses later : List Usage) (start : Stock α × σ) :
    w.run (uses ++ later) start = w.run later (w.run uses start) := List.foldl_append ..

/-- What the log says of a platform and what is kept of it agree. -/
theorem Advances.agrees {wanted : Prop} {id : String} {now now' : Stock α × (σ × List (Build α))}
    (h : Advances wanted id now now')
    (hagrees : Build.madeFor id now.2.2 = (now.1.kept.lookup id).toList) :
    Build.madeFor id now'.2.2 = (now'.1.kept.lookup id).toList := by
  obtain ⟨calls, hlog, hattempts⟩ := h
  unfold Build.madeFor at hagrees ⊢
  rw [hlog, List.filterMap_append, hagrees]
  generalize now.1.kept.lookup id = before at hattempts ⊢
  generalize now'.1.kept.lookup id = after at hattempts ⊢
  cases hattempts with
  | spared => exact List.append_nil _
  | failed => rfl
  | made => rfl

section

variable {start : Stock α × σ} {uses : List Usage} {id : String}

/-- What a use does for a platform, with the calls that it makes of the platform's builder. -/
theorem attempts_use {u : Usage} (hu : ¬ u.Drops id) {now : Stock α × σ}
    (hids : now.1.registry.Distinct) :
    Attempts (u.Requests id ∧ w.Buildable now.1.registry id) (now.1.kept.lookup id)
      ((w.use u now).1.kept.lookup id) (Build.callsOf id (w.log [u] now)) := by
  obtain ⟨calls, hlog, hattempts⟩ := w.advances_use hu (now.1, (now.2, [])) hids
  have hcalls : Build.callsOf id (w.log [u] now) = calls := hlog
  have hsame : (w.recorded.use u (now.1, (now.2, []))).1 = (w.use u now).1 :=
    congrArg Prod.fst (w.use_recorded u (now.1, (now.2, [])))
  rwa [hsame, ← hcalls] at hattempts

theorem fst_recorded_run (uses : List Usage) (start : Stock α × σ) :
    (w.recorded.run uses (start.1, (start.2, []))).1 = (w.run uses start).1 :=
  congrArg Prod.fst (w.run_recorded uses (start.1, (start.2, [])))

/-- A platform that is not kept to begin with is kept just if a call of its builder has succeeded,
and then what is kept is what that call made. -/
theorem madeFor_log (hids : start.1.registry.Distinct)
    (hstart : start.1.kept.lookup id = none) (huses : ∀ u ∈ uses, ¬ u.Drops id) :
    Build.madeFor id (w.log uses start) = ((w.run uses start).1.kept.lookup id).toList := by
  have hagrees : Build.madeFor id (w.recorded.run uses (start.1, (start.2, []))).2.2 =
      ((w.recorded.run uses (start.1, (start.2, []))).1.kept.lookup id).toList := by
    induction uses using List.reverseRecOn with
    | nil =>
        change [] = (start.1.kept.lookup id).toList
        rw [hstart]
        rfl
    | append_singleton uses u ih =>
        rw [run_concat]
        refine Advances.agrees (w.advances_use ?_ _ ?_) (ih fun v hv => ?_)
        · exact huses u (List.mem_append_right _ List.mem_cons_self)
        · rw [fst_recorded_run]
          exact distinct_run_of hids uses
        · exact huses v (List.mem_append_left _ hv)
  rwa [fst_recorded_run] at hagrees

/-- What is kept of a platform stays until it is dropped. -/
theorem keeps_run {now : Stock α × σ} {a : α} (hids : now.1.registry.Distinct)
    (ha : now.1.kept.lookup id = some a) (huses : ∀ u ∈ uses, ¬ u.Drops id) :
    (w.run uses now).1.kept.lookup id = some a := by
  induction uses using List.reverseRecOn with
  | nil => exact ha
  | append_singleton uses u ih =>
      have hkept := ih fun v hv => huses v (List.mem_append_left _ hv)
      rw [run_concat]
      exact (w.attempts_use (huses u (List.mem_append_right _ List.mem_cons_self))
        (distinct_run_of hids uses)).keeps hkept

end

/-- A failed call leaves everything that is kept as it is. -/
theorem use_analyzer_of_failed {id : String} {now : Stock α × σ} {fault : Fault}
    (h : .error fault ∈ Build.callsOf id (w.log [.analyzer id] now)) :
    (w.use (.analyzer id) now).1 = now.1 := by
  obtain ⟨stock, s⟩ := now
  change _ ∈ Build.callsOf id (w.recorded.analyzer? stock id (s, [])).2.2 at h
  change (w.analyzer? stock id s).1.2 = stock
  rw [← (w.analyzer?_recorded stock (s, []) id).1]
  have hobtains := w.recorded.obtains_analyzer? stock id (s, [])
  generalize w.recorded.analyzer? stock id (s, []) = got at hobtains h ⊢
  cases hobtains with
  | kept => rfl
  | built _ _ _ hbuild hrun =>
      rw [w.callsOf_run hbuild hrun id, if_pos rfl] at h
      cases List.mem_singleton.mp h
  | failed => rfl
  | unavailable => rfl

/-- What can be said of a platform through some uses, with a log that changes nothing. Its builder
succeeds at most once, and whatever is handed out for it is what that call made. A failed call
leaves what is kept as it is, and until a call succeeds, each request calls the builder again.
Behind the uses the platform's analyzer can be removed just if the builder succeeded, and then
nothing else goes with it. -/
structure BuiltOnce (start : Stock α × σ) (uses : List Usage) (id : String) : Prop where
  logged : unlogged (w.recorded.run uses (start.1, (start.2, []))) = w.run uses start
  once : (Build.madeFor id (w.log uses start)).length ≤ 1
  shared : ∀ sofar u rest, uses = sofar ++ u :: rest → ∀ a,
    (id, a) ∈ w.handed u (w.run sofar start) → Build.madeFor id (w.log uses start) = [a]
  unchanged : ∀ sofar u rest, uses = sofar ++ u :: rest → ∀ fault,
    .error fault ∈ Build.callsOf id (w.log [u] (w.run sofar start)) →
      (w.use u (w.run sofar start)).1.kept.lookup id = (w.run sofar start).1.kept.lookup id ∧
      (u = .analyzer id → (w.use u (w.run sofar start)).1 = (w.run sofar start).1)
  retried : ∀ sofar u rest, uses = sofar ++ u :: rest → u.Requests id →
    w.Buildable (w.run sofar start).1.registry id → Build.madeFor id (w.log sofar start) = [] →
      ∃ made, Build.callsOf id (w.log [u] (w.run sofar start)) = [made]
  kept : (w.run uses start).1.Keeps id ↔ ∃ a, Build.madeFor id (w.log uses start) = [a]
  removed : ((w.run uses start).1.remove id).1 = true ↔ (w.run uses start).1.Keeps id
  others : ((w.run uses start).1.remove id).2.registry = (w.run uses start).1.registry ∧
    ¬ ((w.run uses start).1.remove id).2.Keeps id ∧
    ∀ other, other ≠ id → ((w.run uses start).1.remove id).2.kept.lookup other =
      (w.run uses start).1.kept.lookup other

/-- Between two uses that drop a platform's analyzer, it is built once at most and then shared. A
builder may number what it makes, so equal analyzers are one and the same. -/
theorem builtOnce_run (platforms : List Platform) (s : σ) (before uses : List Usage) (id : String)
    (hbefore : ∀ u ∈ before.getLast?, u.Drops id) (huses : ∀ u ∈ uses, ¬ u.Drops id) :
    w.BuiltOnce (w.run before ({ registry := .ofList platforms }, s)) uses id := by
  have hids : (w.run before ({ registry := .ofList platforms }, s)).1.registry.Distinct :=
    w.distinct_run (Registry.distinct_ofList platforms) before s
  have hnone : (w.run before ({ registry := .ofList platforms }, s)).1.kept.lookup id = none := by
    rcases List.eq_nil_or_concat before with rfl | ⟨earlier, last, rfl⟩
    · rfl
    · rw [List.concat_eq_append] at hbefore ⊢
      rw [run_concat]
      exact w.lookup_drops (hbefore last (by simp)) _
  generalize w.run before ({ registry := .ofList platforms }, s) = start at hids hnone ⊢
  have hmade := w.madeFor_log hids hnone huses
  have hkeeps : (w.run uses start).1.Keeps id ↔
      ∃ a, (w.run uses start).1.kept.lookup id = some a := (Stock.exists_lookup_iff _ id).symm
  have hdistinct (sofar : List Usage) : (w.run sofar start).1.registry.Distinct :=
    distinct_run_of hids sofar
  have hstep {sofar rest : List Usage} {u : Usage} (heq : uses = sofar ++ u :: rest) :=
    w.attempts_use (huses u (heq ▸ List.mem_append_right _ List.mem_cons_self)) (hdistinct sofar)
  refine ⟨w.run_recorded uses _, ?once, ?shared, ?unchanged, ?retried, ?kept, ?removed, rfl, ?gone,
    ?others⟩
  case once =>
    rw [hmade]
    cases (w.run uses start).1.kept.lookup id <;> simp
  case shared =>
    rintro sofar u rest rfl a ha
    have hkept : (w.run (sofar ++ [u]) start).1.kept.lookup id = some a := by
      rw [run_concat]
      exact w.kept_of_handed ha
    have hlast := w.keeps_run (hdistinct _) hkept fun v hv =>
      huses v (List.mem_append_right _ (List.mem_cons_of_mem _ hv))
    rw [← run_append, List.append_assoc, List.singleton_append] at hlast
    rw [hmade, hlast]
    rfl
  case unchanged =>
    intro sofar u rest heq fault hfault
    refine ⟨(hstep heq).eq_of_failed hfault, ?_⟩
    rintro rfl
    exact w.use_analyzer_of_failed hfault
  case retried =>
    intro sofar u rest heq hrequests hbuildable hnever
    have hsofar : Build.madeFor id (w.log sofar start) =
        ((w.run sofar start).1.kept.lookup id).toList :=
      w.madeFor_log hids hnone fun v hv => huses v (heq ▸ List.mem_append_left _ hv)
    rw [hnever, eq_comm, Option.toList_eq_nil_iff] at hsofar
    exact (hstep heq).exists_call ⟨hrequests, hbuildable⟩ hsofar
  case kept =>
    rw [hkeeps, hmade]
    cases (w.run uses start).1.kept.lookup id <;> simp
  case removed =>
    rw [hkeeps, ← Option.isSome_iff_exists]
    rfl
  case gone => exact fun h => ((Stock.keeps_remove_iff _ id id).mp h).2 rfl
  case others => exact fun other hne => Stock.lookup_remove_of_ne _ hne

/-- Every other call of Sui's builder fails, and what the others make is numbered. -/
def flakyWorkshop : Workshop Nat Nat where
  builders := [("sui", fun _ => do
      let number ← get
      set (number + 1)
      if number % 2 = 0 then throw .nullByte else return number),
    ("aptos", fun _ => return 0)]
  health _ := return { installed := true }

/-- Behind a removal the builder fails once more, then makes an analyzer that is handed out even
when the platform has been switched off. -/
theorem builtOnce_flakyWorkshop :
    let before := [Usage.analyzer "sui", .analyzer "sui", .remove "sui"]
    let uses := [Usage.analyzer "sui", .checkAll, .setActive "sui" false, .analyzer "sui"]
    let start := flakyWorkshop.run before ({ registry := .ofList Platform.known }, 0)
    (∀ u ∈ before.getLast?, u.Drops "sui") ∧ (∀ u ∈ uses, ¬ u.Drops "sui") ∧
      Build.madeFor "sui" (flakyWorkshop.log before ({ registry := .ofList Platform.known }, 0)) =
        [1] ∧
      (Build.callsOf "sui" (flakyWorkshop.log [.analyzer "sui"] start)).length = 1 ∧
      Build.madeFor "sui" (flakyWorkshop.log uses start) = [3] := by
  intro before uses start
  have hbefore : ∀ u ∈ before.getLast?, u.Drops "sui" := by simp [before, Usage.Drops]
  have huses : ∀ u ∈ uses, ¬ u.Drops "sui" := by simp [uses, Usage.Drops]
  obtain ⟨-, -, hshared, -, hretried, -⟩ :=
    flakyWorkshop.builtOnce_run Platform.known 0 before uses "sui" hbefore huses
  refine ⟨hbefore, huses, by decide +kernel, ?_, ?_⟩
  · obtain ⟨made, hmade⟩ := hretried [] (.analyzer "sui") _ rfl .analyzer (by decide +kernel)
      (by decide +kernel)
    exact congrArg List.length hmade
  · exact hshared [.analyzer "sui", .checkAll, .setActive "sui" false] (.analyzer "sui") [] rfl 3
      (by decide +kernel)

end Workshop

end ContractReview
