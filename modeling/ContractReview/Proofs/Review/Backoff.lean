import ContractReview.Proofs.Review.Trail

/-!
Pauses that double from a delay that is a double itself. Such a delay, zero included, is multiplied
by a power of two, and only so many of these have a double. So a review comes to an end unless that
many attempts and one more meet passing failures in a row and yet another one is allowed: then the
pause behind the last of them is a fault.
-/

namespace ContractReview.Fallback

variable {σ : Type}

/-- So many pauses can be computed from a delay that is a double. -/
def pauseLimit : Nat := 1024

/-- Passing failures outlast the pauses: another attempt is due behind one that no pause can
follow. -/
structure Outlasts (r : Reviewer σ) (delay : Number) (contracts : List Contract) (s : σ)
    (maxAttempts : Int) : Prop where
  allowed : pauseLimit + 1 < maxAttempts
  passing : ∀ i ≤ pauseLimit, Passing r.platform (tried r delay contracts s i)

theorem ofInt?_two_pow_eq_none {i : Nat} (h : pauseLimit ≤ i) :
    Double.ofInt? ((2 ^ i : Nat) : Int) = none := by
  rw [Double.ofInt?_eq_none_iff, Int.natAbs_natCast]
  exact (Double.limit_lt_two_pow h).le

theorem delayAfter_float_of_le (x : Float) {i : Nat} (h : pauseLimit ≤ i) :
    delayAfter (.float x) (i + 1) = .error .wholeTooLarge := by
  unfold delayAfter
  simp only [Number.toFloat?, Nat.add_sub_cancel, Nat.pow_eq, ofInt?_two_pow_eq_none h]

theorem delayAfter_float_of_lt (x : Float) {i : Nat} (h : i < pauseLimit) :
    delayAfter (.float x) (i + 1) = .ok (backoff (.float x) i) := by
  refine delayAfter_of_not_outgrown (Nat.le_of_lt_succ h) ?_
  rintro ⟨d, hd, -⟩
  cases hd

/-- The pause behind an attempt is a fault just when it lies beyond the limit, however short the
delay. -/
theorem delayAfter_float_fails_iff (x : Float) (i : Nat) :
    (∃ fault, delayAfter (.float x) (i + 1) = .error fault) ↔ pauseLimit ≤ i := by
  constructor
  · rintro ⟨fault, hfault⟩
    by_contra hlt
    cases hfault.symm.trans (delayAfter_float_of_lt x (Nat.lt_of_not_le hlt))
  · exact fun h => ⟨_, delayAfter_float_of_le x h⟩

section Attempts

variable {r : Reviewer σ} {x : Float} {maxAttempts : Int} {contracts : List Contract} {s : σ}
variable {n : Nat}

theorem Made.le_pauseLimit (h : Made r (.float x) contracts s maxAttempts n) : n ≤ pauseLimit := by
  by_contra hlt
  have hpause := h.paused pauseLimit (Nat.lt_of_not_le hlt)
  cases hpause.symm.trans (delayAfter_float_of_le x le_rfl)

/-- Attempts that fail at a pause have been outlasted by the failures. -/
theorem Made.outlasts (h : Made r (.float x) contracts s maxAttempts n)
    (hmore : (n : Int) + 1 < max 1 maxAttempts)
    (hpass : Passing r.platform (tried r (.float x) contracts s n)) {fault : Fault}
    (hdelay : delayAfter (.float x) (n + 1) = .error fault) :
    n = pauseLimit ∧ fault = .wholeTooLarge ∧ Outlasts r (.float x) contracts s maxAttempts := by
  have hlimit := (delayAfter_float_fails_iff x n).mp ⟨fault, hdelay⟩
  obtain rfl := Nat.le_antisymm h.le_pauseLimit hlimit
  have hfault := hdelay.symm.trans (delayAfter_float_of_le x le_rfl)
  refine ⟨rfl, Except.error.inj hfault, by omega, fun i hi => ?_⟩
  rcases Nat.lt_or_eq_of_le hi with hlt | rfl
  · exact h.earlier i hlt
  · exact hpass

/-- Where failures outlast the pauses, no attempt is the last. -/
theorem Outlasts.not_last (h : Outlasts r (.float x) contracts s maxAttempts)
    (hn : n ≤ pauseLimit) :
    ¬ ((n : Int) + 1 = max 1 maxAttempts ∨
      ¬ Passing r.platform (tried r (.float x) contracts s n)) := by
  rintro (hend | hfinal)
  · have hallowed := h.allowed
    omega
  · exact hfinal (h.passing n hn)

end Attempts

/-- With a delay that is a double, a review fails just when passing failures outlast the pauses that
can be computed, and then at the pause behind the first attempt that is beyond them. Any other
review ends, settles on what its last attempt came to, and tells coherently of how it did. -/
theorem ends_unless_outlasted (r : Reviewer σ) (policy : FallbackPolicy) (x : Float)
    (hdelay : policy.retryDelay = .float x) (focusAreas : Option (List String))
    (contracts : List Contract) (s : σ) :
    (∀ i, (∃ fault, delayAfter policy.retryDelay (i + 1) = .error fault) ↔ pauseLimit ≤ i) ∧
    (∀ fault s', review r policy focusAreas contracts s = (.error fault, s') ↔
      fault = .wholeTooLarge ∧
        Outlasts r policy.retryDelay contracts s policy.maxAttempts ∧
        s' = after r policy.retryDelay contracts s pauseLimit) ∧
    (¬ Outlasts r policy.retryDelay contracts s policy.maxAttempts →
      ∃ n t events s', review r policy focusAreas contracts s = (.ok (t, events), s') ∧
        LastAttempt r policy.retryDelay contracts s policy.maxAttempts n ∧
        Settled r policy focusAreas contracts s n t s' ∧
        Told policy.retryDelay (madeBefore r policy.retryDelay contracts s (n + 1)) t events) := by
  obtain ⟨maxAttempts, _, useModels, useChecks⟩ := policy
  cases hdelay
  dsimp only
  refine ⟨delayAfter_float_fails_iff x, ?_⟩
  obtain ⟨n, hn, ⟨hlast, heq⟩ | ⟨fault, hmore, hpass, hfault, heq⟩⟩ :=
    exists_review_eq r ⟨maxAttempts, .float x, useModels, useChecks⟩ focusAreas contracts s
  · obtain ⟨t, events, s', hdone, hsettled⟩ :=
      exists_settled r ⟨maxAttempts, .float x, useModels, useChecks⟩ focusAreas contracts s n
    have hattempt := hn.made.lastAttempt hlast
    have htold := hattempt.told_concluded (congrArg Prod.fst hdone)
    rw [hdone] at heq
    rw [heq]
    refine ⟨fun fault s' => iff_of_false (by rintro ⟨⟩) ?_, fun _ =>
      ⟨n, t, events, s', rfl, hattempt, hsettled, htold⟩⟩
    rintro ⟨-, houtlasts, -⟩
    exact houtlasts.not_last hn.made.le_pauseLimit hlast
  · obtain ⟨rfl, rfl, houtlasts⟩ := hn.made.outlasts hmore hpass hfault
    rw [heq]
    refine ⟨fun fault s' => ?_, fun hnot => absurd houtlasts hnot⟩
    constructor
    · rintro ⟨⟩
      exact ⟨rfl, houtlasts, rfl⟩
    · rintro ⟨rfl, -, rfl⟩
      rfl

/-- No pause at all between as many attempts as are asked for. -/
def eager (maxAttempts : Int) : FallbackPolicy := { maxAttempts, retryDelay := .float 0.0 }

/-- A tool that is always too slow is tried again at once, but not for ever: with 1025 attempts the
review falls back to the checks, and with one more it fails. -/
theorem review_eager :
    (∃ t events s', review slowReviewer (eager 1025) none [] [] = (.ok (t, events), s') ∧
      t.strategy = .checksOnly) ∧
    ∃ s', review slowReviewer (eager 1026) none [] [] = (.error .wholeTooLarge, s') := by
  constructor
  · obtain ⟨-, -, hends⟩ :=
      ends_unless_outlasted slowReviewer (eager 1025) 0.0 rfl none [] []
    obtain ⟨n, t, events, s', heq, -, hsettled, -⟩ := hends fun h => absurd h.allowed (by decide)
    refine ⟨t, events, s', heq, ?_⟩
    cases hsettled with
    | full hreport => cases hreport
    | lesser _ hdegraded =>
        refine hdegraded.byChecks.mpr ⟨fun h => ?_, rfl, rfl⟩
        obtain ⟨found, s'', hrun, -⟩ := (hdegraded.byModels.mp h).2
        cases hrun
  · obtain ⟨-, hfails, -⟩ :=
      ends_unless_outlasted slowReviewer (eager 1026) 0.0 rfl none [] []
    exact ⟨_, (hfails _ _).mpr ⟨rfl,
      { allowed := by decide
        passing := fun i _ => ⟨slow, .raised (.own slow), rfl⟩ }, rfl⟩⟩

end ContractReview.Fallback
