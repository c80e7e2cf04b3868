import ContractReview.Proofs.Opinion.RateLimit

/-!
How long a refused task waits. A full limiter has room again as soon as its oldest request is older
than the window, and the wait ends when that request is exactly as old. At this edge there is
nothing left to wait for and still no room; everywhere else the time to wait is what it says.
-/

namespace ContractReview.Limiter

variable {τ : Type} [AddCommGroup τ] [LinearOrder τ]

/-- A task that asks at a time is granted its permission. -/
def Grants (l : Limiter τ) (now : τ) : Prop := (l.ask now now).1 = .granted

/-- The limiter is full, and its oldest request is exactly as old as the window is long. -/
def AtEdge (l : Limiter τ) (now : τ) : Prop :=
  l.most ≤ (l.cleaned now).stamps.length ∧
    ∃ oldest, (l.cleaned now).stamps.head? = some oldest ∧ oldest + l.window = now

/-- A limiter that has room for a request, and holds no more of them than that. -/
structure Sound (l : Limiter τ) : Prop where
  room : 0 < l.most
  few : l.stamps.length ≤ l.most

theorem orZero_of_nonneg {t : τ} (h : 0 ≤ t) : orZero t = t := by
  unfold orZero
  split
  next => rfl
  next hnot => exact h.antisymm (not_lt.mp hnot)

/-! ## Asking at one time -/

section

variable {l : Limiter τ} {seen now later : τ} (wake : τ → τ → τ)

theorem grants_iff : Grants l now ↔ (l.cleaned now).stamps.length < l.most := by
  unfold Grants
  rcases l.ask_cases now now with ⟨hroom, heq⟩ | ⟨hfull, heq⟩
  · simp [heq, hroom]
  · simp [heq, hfull]

theorem ask_of_grants (h : Grants l now) :
    l.ask now now =
      (.granted, { l.cleaned now with stamps := (l.cleaned now).stamps ++ [now] }) := by
  rcases l.ask_cases now now with ⟨-, heq⟩ | ⟨hfull, -⟩
  · exact heq
  · exact absurd (grants_iff.mp h) hfull.not_gt

theorem ask_of_not_grants (h : ¬ Grants l now) :
    l.ask now now = (.wait ((l.cleaned now).delay now), l.cleaned now) := by
  rcases l.ask_cases now now with ⟨hroom, -⟩ | ⟨-, heq⟩
  · exact absurd (grants_iff.mpr hroom) h
  · exact heq

theorem of_ask_eq_wait {wait : τ} {l' : Limiter τ} (h : l.ask now now = (.wait wait, l')) :
    ¬ Grants l now ∧ wait = (l.cleaned now).delay now ∧ l' = l.cleaned now := by
  have hrefused : ¬ Grants l now := by
    intro hgrants
    cases (ask_of_grants hgrants).symm.trans h
  cases (ask_of_not_grants hrefused).symm.trans h
  exact ⟨hrefused, rfl, rfl⟩

theorem AtEdge.not_grants (h : AtEdge l now) : ¬ Grants l now :=
  fun hgrants => h.1.not_gt (grants_iff.mp hgrants)

theorem delay_of_grants (h : Grants l now) : (l.cleaned now).delay now = 0 := by
  have hroom := grants_iff.mp h
  unfold delay
  split
  · rfl
  · exact if_pos hroom

/-- What a limiter grants, and where its edge is, shows behind a cleaning. -/
theorem grants_congr {l' : Limiter τ} (h : l.cleaned now = l'.cleaned now) :
    (Grants l now ↔ Grants l' now) ∧ (AtEdge l now ↔ AtEdge l' now) := by
  have hmost : l.most = l'.most := congrArg (fun l => l.most) h
  have hwindow : l.window = l'.window := congrArg (fun l => l.window) h
  unfold AtEdge
  rw [grants_iff, grants_iff, h, hmost, hwindow]
  exact ⟨Iff.rfl, Iff.rfl⟩

theorem Sound.cleaned (hl : Sound l) : Sound (l.cleaned now) where
  room := hl.room
  few := ((List.dropWhile_suffix _).length_le).trans hl.few

theorem waitOn_of_grants (h : Grants l now) (fuel : Nat) :
    waitOn wake l now (fuel + 1) = ⟨(l.ask now now).2, now, []⟩ := by
  rw [waitOn, ask_of_grants h]

/-- A task that is refused sleeps, and is where it was but later. -/
theorem waitOn_of_not_grants (h : ¬ Grants l now) (hwait : 0 < (l.cleaned now).delay now)
    (fuel : Nat) :
    waitOn wake l now (fuel + 1) =
      let later := waitOn wake (l.cleaned now) (wake now ((l.cleaned now).delay now)) fuel
      { later with sleeps := (l.cleaned now).delay now :: later.sleeps } := by
  rw [waitOn, ask_of_not_grants h]
  exact if_pos hwait

variable [IsOrderedAddMonoid τ]

/-- Whatever an early cleaning drops, a later one would drop as well. -/
theorem cleaned_cleaned (h : seen ≤ later) : (l.cleaned seen).cleaned later = l.cleaned later := by
  have hdrop (stamps : List τ) :
      (stamps.dropWhile fun t => decide (l.window < seen - t)).dropWhile
          (fun t => decide (l.window < later - t)) =
        stamps.dropWhile fun t => decide (l.window < later - t) := by
    induction stamps with
    | nil => rfl
    | cons t rest ih =>
        by_cases hold : l.window < seen - t
        · have hlater : l.window < later - t := hold.trans_le (sub_le_sub_right h t)
          simp [hold, hlater, ih]
        · simp [List.dropWhile_cons, hold]
  unfold cleaned
  dsimp only
  rw [hdrop]

/-- What a full limiter waits for: its oldest request, which is not older than the window yet. -/
theorem Sound.exists_oldest (hl : Sound l) (h : ¬ Grants l now) :
    ∃ oldest rest, (l.cleaned now).stamps = oldest :: rest ∧
      now + (l.cleaned now).delay now = oldest + l.window ∧ now ≤ oldest + l.window := by
  have hfull : ¬ (l.cleaned now).stamps.length < l.most := mt grants_iff.mpr h
  rcases hstamps : (l.cleaned now).stamps with - | ⟨oldest, rest⟩
  · rw [hstamps] at hfull
    exact absurd hl.room hfull
  · rw [hstamps] at hfull
    have hopen : now ≤ oldest + l.window := by
      have hhead := List.head?_dropWhile_not (fun t => decide (l.window < now - t)) l.stamps
      rw [show l.stamps.dropWhile _ = oldest :: rest from hstamps] at hhead
      rw [← sub_le_iff_le_add']
      exact not_lt.mp (of_decide_eq_false hhead)
    have hdelay : (l.cleaned now).delay now = oldest + l.window - now := by
      unfold delay
      rw [hstamps]
      exact (if_neg hfull).trans (orZero_of_nonneg (sub_nonneg.mpr hopen))
    refine ⟨oldest, rest, rfl, ?_, hopen⟩
    rw [hdelay, add_sub_cancel]

/-- Until the end of the wait the limiter stays full, and behind it there is room. -/
theorem Sound.grants_iff_of_not_grants (hl : Sound l) (h : ¬ Grants l now) (hlater : now ≤ later) :
    (Grants l later ↔ now + (l.cleaned now).delay now < later) ∧
      (AtEdge l later ↔ later = now + (l.cleaned now).delay now) := by
  obtain ⟨oldest, rest, hstamps, hend, -⟩ := hl.exists_oldest h
  rw [hend]
  have hfew : (oldest :: rest).length ≤ l.most := by
    rw [← hstamps]
    exact ((List.dropWhile_suffix _).length_le).trans hl.few
  have hcleaned : (l.cleaned later).stamps =
      (oldest :: rest).dropWhile fun t => decide (l.window < later - t) := by
    rw [← cleaned_cleaned hlater, ← hstamps]
    rfl
  have hfull : l.most ≤ (oldest :: rest).length := by
    rw [← hstamps]
    exact not_lt.mp (mt grants_iff.mpr h)
  by_cases hpast : oldest + l.window < later
  -- The oldest request is dropped, which makes room for one at least.
  · have hgrants : Grants l later := by
      have hdropped : decide (l.window < later - oldest) = true :=
        decide_eq_true (lt_sub_iff_add_lt'.mpr hpast)
      simp only [grants_iff, hcleaned, List.dropWhile_cons, hdropped, ↓reduceIte]
      exact (List.dropWhile_suffix _).length_le.trans_lt hfew
    exact ⟨iff_of_true hgrants hpast,
      iff_of_false (fun hedge => hedge.not_grants hgrants) hpast.ne'⟩
  -- The oldest request is kept, and all the others with it.
  · have hkept : decide (l.window < later - oldest) = false :=
      decide_eq_false (mt lt_sub_iff_add_lt'.mp hpast)
    simp only [List.dropWhile_cons, hkept, Bool.false_eq_true, ↓reduceIte] at hcleaned
    have hrefused : ¬ Grants l later := by
      rw [grants_iff, hcleaned]
      exact hfull.not_gt
    refine ⟨iff_of_false hrefused hpast, ?_⟩
    unfold AtEdge
    rw [hcleaned]
    constructor
    · rintro ⟨-, t, ht, hedge⟩
      cases ht
      exact hedge.symm
    · intro hedge
      exact ⟨hfull, oldest, rfl, hedge.symm⟩

theorem Sound.delay_nonneg (hl : Sound l) (h : ¬ Grants l now) : 0 ≤ (l.cleaned now).delay now := by
  obtain ⟨oldest, rest, -, hend, hopen⟩ := hl.exists_oldest h
  rw [← hend] at hopen
  exact nonneg_of_le_add_right hopen

theorem Sound.delay_eq_zero_iff (hl : Sound l) :
    (l.cleaned now).delay now = 0 ↔ Grants l now ∨ AtEdge l now := by
  by_cases h : Grants l now
  · exact iff_of_true (delay_of_grants h) (.inl h)
  · rw [(hl.grants_iff_of_not_grants h le_rfl).2, left_eq_add, or_iff_right h]

end

/-! ## Taking turns -/

theorem Sound.step {d d' : Shared τ} {turn : Turn τ} (hstep : Step d turn d')
    (h : Sound d.limiter) : Sound d'.limiter := by
  rcases hstep.cases_limiter with ⟨-, heq, -⟩ | ⟨seen, -, -, ⟨-, heq⟩ | ⟨-, hroom, heq⟩⟩
  · rw [heq]
    exact h
  · rw [heq]
    exact h.cleaned
  · rw [heq]
    refine ⟨h.room, ?_⟩
    rw [List.length_append, List.length_singleton]
    exact hroom

theorem Schedule.clock_le {d d' : Shared τ} {turns : List (Turn τ)} (h : Schedule d turns d') :
    d.clock ≤ d'.clock := by
  induction h with
  | start => exact le_rfl
  | next _ hstep ih =>
      rcases hstep.cases_limiter with ⟨-, -, hclock⟩ | ⟨seen, hseen, hnow, -⟩
      · exact ih.trans hclock.ge
      · exact ih.trans (hseen.trans hnow)

variable [IsOrderedAddMonoid τ]

/-- As long as nobody is granted a permission, the tasks only clean up. -/
theorem Schedule.cleaned_eq {d d' : Shared τ} {turns : List (Turn τ)} (h : Schedule d turns d')
    (hnone : permissions turns = []) {time : τ} (htime : d'.clock ≤ time) :
    d'.limiter.cleaned time = d.limiter.cleaned time := by
  induction h with
  | start => rfl
  | @next past turn d₁ d₂ _ hstep ih =>
      have hpermissions : permissions past = [] ∧ turn.grantedAt? = none := by
        unfold permissions at hnone ⊢
        rw [List.filterMap_append, List.append_eq_nil_iff] at hnone
        exact ⟨hnone.1, by simpa using hnone.2⟩
      rcases hstep.cases_limiter with
        ⟨-, hlimiter, hclock⟩ | ⟨seen, hseen, hnow, ⟨-, hlimiter⟩ | ⟨hgranted, -, -⟩⟩
      · rw [hlimiter]
        exact ih hpermissions.1 (hclock ▸ htime)
      · rw [hlimiter, cleaned_cleaned (hnow.trans htime)]
        exact ih hpermissions.1 ((hseen.trans hnow).trans htime)
      · cases hgranted.symm.trans hpermissions.2

/-! ## Waiting alone -/

section

variable {l : Limiter τ} {now : τ} {wake : τ → τ → τ}

/-- At the edge a task asks again at once. -/
theorem waitOn_succ_of_atEdge (hl : Sound l) (h : AtEdge l now) (fuel : Nat) :
    waitOn wake l now (fuel + 1) = waitOn wake (l.cleaned now) now fuel := by
  have hwait : (l.cleaned now).delay now = 0 := hl.delay_eq_zero_iff.mpr (.inr h)
  rw [waitOn, ask_of_not_grants h.not_grants]
  exact if_neg hwait.not_gt

/-- As long as the clock stands still there, it asks in vain. -/
theorem waitOn_of_atEdge (hl : Sound l) (h : AtEdge l now) (fuel : Nat) :
    waitOn wake l now (fuel + 1) = ⟨l.cleaned now, now, []⟩ := by
  induction fuel generalizing l with
  | zero => exact waitOn_succ_of_atEdge hl h 0
  | succ fuel ih =>
      have hsame : (l.cleaned now).cleaned now = l.cleaned now := cleaned_cleaned le_rfl
      rw [waitOn_succ_of_atEdge hl h, ih hl.cleaned ((grants_congr hsame).2.mpr h), hsame]

/-- A task that is not at the edge, and whose sleeps last longer than they should, sleeps at most
once. -/
theorem exists_waitOn_eq (hl : Sound l) (hwake : ∀ s, 0 < s → now + s < wake now s)
    (h : ¬ AtEdge l now) (fuel : Nat) :
    ∃ time sleeps, waitOn wake l now (fuel + 2) = ⟨(l.ask time time).2, time, sleeps⟩ ∧
      Grants l time ∧ sleeps.length ≤ 1 ∧ ∀ s ∈ sleeps, 0 < s := by
  by_cases hnow : Grants l now
  · exact ⟨now, [], waitOn_of_grants wake hnow _, hnow, Nat.zero_le 1, by simp⟩
  · have hwait : 0 < (l.cleaned now).delay now := by
      apply lt_of_le_of_ne (hl.delay_nonneg hnow)
      intro hzero
      exact (hl.delay_eq_zero_iff.mp hzero.symm).elim hnow h
    have hpast := hwake _ hwait
    have hlater : now ≤ wake now ((l.cleaned now).delay now) :=
      (le_add_of_nonneg_right hwait.le).trans hpast.le
    have hgrants := (hl.grants_iff_of_not_grants hnow hlater).1.mpr hpast
    have hsame := cleaned_cleaned (l := l) hlater
    refine ⟨_, [(l.cleaned now).delay now], ?_, hgrants, le_rfl, by simpa using hwait⟩
    rw [waitOn_of_not_grants wake hnow hwait,
      waitOn_of_grants wake ((grants_congr hsame).1.mpr hgrants),
      ask_of_grants ((grants_congr hsame).1.mpr hgrants), hsame, ask_of_grants hgrants]

/-- A sleep that lasts exactly as long as it should ends at the edge. -/
theorem waitOn_of_exact (hl : Sound l) (hnow : ¬ Grants l now)
    (hwait : 0 < (l.cleaned now).delay now)
    (hwake : wake now ((l.cleaned now).delay now) = now + (l.cleaned now).delay now) (fuel : Nat) :
    waitOn wake l now (fuel + 2) =
      ⟨l.cleaned (now + (l.cleaned now).delay now), now + (l.cleaned now).delay now,
        [(l.cleaned now).delay now]⟩ := by
  have hlater : now ≤ now + (l.cleaned now).delay now := le_add_of_nonneg_right hwait.le
  have hedge := (hl.grants_iff_of_not_grants hnow hlater).2.mpr rfl
  have hsame := cleaned_cleaned (l := l) hlater
  rw [waitOn_of_not_grants wake hnow hwait, hwake,
    waitOn_of_atEdge hl.cleaned ((grants_congr hsame).2.mpr hedge), hsame]

end

/-- What holds of the waits at a shared limiter. -/
structure Punctual (d : Shared τ) : Prop where
  looked : ∀ now,
    (d.limiter.waitTime now now).1 = 0 ↔ Grants d.limiter now ∨ AtEdge d.limiter now
  apart : ∀ now, AtEdge d.limiter now → ¬ Grants d.limiter now
  refused : ∀ now wait l, d.limiter.ask now now = (.wait wait, l) →
    0 ≤ wait ∧ (wait = 0 ↔ AtEdge d.limiter now)
  later : ∀ now wait l, d.limiter.ask now now = (.wait wait, l) →
    ∀ stages turns d', Schedule ⟨l, now, stages⟩ turns d' → permissions turns = [] →
      ∀ time, d'.clock ≤ time →
        (Grants d'.limiter time ↔ now + wait < time) ∧
        (AtEdge d'.limiter time ↔ time = now + wait)
  once : ∀ wake now, (∀ s, 0 < s → now + s < wake now s) → ¬ AtEdge d.limiter now →
    ∀ fuel, ∃ time sleeps,
      waitOn wake d.limiter now (fuel + 2) = ⟨(d.limiter.ask time time).2, time, sleeps⟩ ∧
      Grants d.limiter time ∧ sleeps.length ≤ 1 ∧ ∀ s ∈ sleeps, 0 < s
  spins : ∀ wake now, AtEdge d.limiter now →
    ∀ fuel, waitOn wake d.limiter now (fuel + 1) = ⟨d.limiter.cleaned now, now, []⟩
  prompt : ∀ wake now wait l, d.limiter.ask now now = (.wait wait, l) → 0 < wait →
    wake now wait = now + wait →
    ∀ fuel, waitOn wake d.limiter now (fuel + 2) =
      ⟨d.limiter.cleaned (now + wait), now + wait, [wait]⟩

theorem Sound.punctual {d : Shared τ} (hl : Sound d.limiter) : Punctual d where
  looked _ := hl.delay_eq_zero_iff
  apart _ := AtEdge.not_grants
  refused now wait l hask := by
    obtain ⟨hrefused, rfl, rfl⟩ := of_ask_eq_wait hask
    exact ⟨hl.delay_nonneg hrefused, hl.delay_eq_zero_iff.trans (or_iff_right hrefused)⟩
  later now wait l hask stages turns d' hrun hnone time htime := by
    obtain ⟨hrefused, rfl, rfl⟩ := of_ask_eq_wait hask
    have hlater : now ≤ time := hrun.clock_le.trans htime
    have hsame : d'.limiter.cleaned time = d.limiter.cleaned time :=
      (hrun.cleaned_eq hnone htime).trans (cleaned_cleaned hlater)
    obtain ⟨hgrants, hedge⟩ := hl.grants_iff_of_not_grants hrefused hlater
    exact ⟨(grants_congr hsame).1.trans hgrants, (grants_congr hsame).2.trans hedge⟩
  once wake now hwake hnot fuel := exists_waitOn_eq hl hwake hnot fuel
  spins wake now hedge fuel := waitOn_of_atEdge hl hedge fuel
  prompt wake now wait l hask hwait hwake fuel := by
    obtain ⟨hrefused, rfl, rfl⟩ := of_ask_eq_wait hask
    exact waitOn_of_exact hl hrefused hwait hwake fuel

/-- There is nothing to wait for exactly where a permission would be given at once, and at the edge.
What a refused task is told to wait ends at the edge, and a check is granted only behind it. So a
task that oversleeps sleeps at most once; one that asks at the edge, or sleeps exactly as long as it
is told to, asks in vain until time goes by. -/
theorem punctual_unless_at_edge (most : Int) (window start : τ) (hmost : 1 ≤ most) :
    ∃ l : Limiter τ, create most window = .ok l ∧
      ∀ past d, Schedule ⟨l, start, fun _ => .away⟩ past d → Punctual d := by
  refine ⟨⟨most.toNat, window, []⟩, if_neg (Int.not_lt.mpr hmost), ?_⟩
  intro past d hpast
  apply Sound.punctual
  induction hpast with
  | start => exact ⟨by change 0 < most.toNat; omega, Nat.zero_le _⟩
  | next _ hstep ih => exact ih.step hstep

/-- A limiter for one request in ten seconds. Ten seconds behind a request there is nothing left to
wait for, and still no permission. -/
theorem punctual_tenSeconds :
    ∃ d, Schedule ⟨⟨1, (10 : ℤ), []⟩, 0, fun _ => .away⟩ [.came 0, .granted 0 0] d ∧
      Punctual d ∧ (d.limiter.waitTime 10 10).1 = 0 ∧ ¬ Grants d.limiter 10 := by
  have hstart : Schedule (⟨⟨1, 10, []⟩, 0, fun _ => .away⟩ : Shared ℤ) [] _ := .start
  have hcame := hstart.next (.come 0 rfl)
  have hrun := hcame.next (.grant 0 0 0 rfl (by decide) (by decide) rfl)
  obtain ⟨l, hl, hpunctual⟩ := punctual_unless_at_edge 1 (10 : ℤ) 0 (by decide)
  cases hl
  have hd := hpunctual _ _ hrun
  have hedge : AtEdge (⟨1, 10, [0]⟩ : Limiter ℤ) 10 := ⟨by decide, 0, rfl, rfl⟩
  exact ⟨_, hrun, hd, (hd.looked 10).mpr (.inr hedge), hd.apart 10 hedge⟩

end ContractReview.Limiter
