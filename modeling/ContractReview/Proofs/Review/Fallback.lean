import ContractReview.Proofs.Number.Whole
import ContractReview.Proofs.Review.Act
import ContractReview.Review.Fallback

/-!
How a review that falls back ends. Its attempts at a full review are the members of one sequence,
each of which finds the surroundings that the one before it and the pause after that left behind.
The first member that settles the review ends the attempts, or else the last that is allowed; from
there on the lesser ways are gone through. Only a pause that no double holds breaks a review off.
-/

namespace ContractReview.Fallback

variable {σ : Type}

/-! ## Attempts -/

/-- The failure that an attempt meets: that of its report, or what it raises as the platform tells
it. -/
inductive Meets (platform : String) : Except Fault Report → Failure → Prop
  | reported {report : Report} {failure : Failure} : report.failure = some failure →
      Meets platform (.ok report) failure
  | raised {fault : Fault} {failure : Failure} : fault.Told platform failure →
      Meets platform (.error fault) failure

theorem judged_eq_ok_iff {platform : String} {ended : Except Fault Report} {report : Report} :
    judged platform ended = .ok report ↔ ended = .ok report ∧ report.failure = none := by
  unfold judged
  cases ended with
  | error fault => simp
  | ok found =>
      constructor
      · intro h
        dsimp only at h
        split at h
        next hnone =>
          cases h
          exact ⟨rfl, hnone⟩
        next => cases h
      · rintro ⟨⟨⟩, hnone⟩
        simp only [hnone]

theorem judged_eq_error_iff {platform : String} {ended : Except Fault Report} {cause : Failure} :
    judged platform ended = .error cause ↔ Meets platform ended cause := by
  unfold judged
  constructor
  · intro h
    cases ended with
    | error fault =>
        cases h
        exact .raised (Fault.told_iff.mpr rfl)
    | ok report =>
        dsimp only at h
        split at h
        next => cases h
        next hsome =>
          cases h
          exact .reported hsome
  · rintro (hsome | htold)
    · simp only [hsome]
    · simp only [Fault.told_iff.mp htold]

section Attempts

variable (r : Reviewer σ) (delay : Number) (contracts : List Contract) (s : σ)

/-- The pause behind the attempt at a place; places are counted from zero. -/
def backoff (delay : Number) (i : Nat) : Number := delay.mul (.int (2 ^ i : Nat))

/-- The surroundings that the attempt at a place finds. -/
def before : Nat → σ
  | 0 => s
  | i + 1 => r.pause (backoff delay i) ((r.analyze contracts).run (before i)).2

/-- What the attempt at a place ends with. -/
def tried (i : Nat) : Except Fault Report :=
  ((r.analyze contracts).run (before r delay contracts s i)).1

/-- The surroundings that the attempt at a place leaves. -/
def after (i : Nat) : σ := ((r.analyze contracts).run (before r delay contracts s i)).2

/-- What is noted of an attempt at a full review. -/
def attemptOf (number : Nat) : Except Failure Report → Attempt
  | .ok report => ⟨number, .full, report.success, none, none⟩
  | .error failure => ⟨number, .full, false, some failure, some "Primary analysis failed"⟩

/-- The trail behind an attempt of some number. -/
def Trail.noted (trail : Trail) (number : Nat) (ended : Except Failure Report) : Trail :=
  match ended with
  | .ok _ => trail.attempt (attemptOf number ended)
  | .error failure =>
      (trail.attempt (attemptOf number ended)).announce (.attemptFailed .full number failure)

/-- The trail before another attempt of some number, which follows a failed one after a pause. -/
def Trail.scheduled (trail : Trail) (number : Nat) (pause : Number) :
    Except Failure Report → Trail
  | .ok _ => trail
  | .error failure => trail.announce (.retryScheduled number pause failure.code)

/-- The trail that the attempt at a place finds. -/
def trailBefore : Nat → Trail
  | 0 => {}
  | i + 1 =>
      let ended := judged r.platform (tried r delay contracts s i)
      ((trailBefore i).noted (i + 1) ended).scheduled (i + 2) (backoff delay i) ended

/-- The trail that the attempt at a place leaves. -/
def trailAfter (i : Nat) : Trail :=
  (trailBefore r delay contracts s i).noted (i + 1)
    (judged r.platform (tried r delay contracts s i))

/-- An attempt that meets a failure which is worth another attempt. -/
def Passing (platform : String) (ended : Except Fault Report) : Prop :=
  ∃ failure, Meets platform ended failure ∧ failure.retryable = true

/-- A pause that has outgrown all doubles. A delay that is a double itself never comes to one. -/
def Outgrown (delay : Number) (i : Nat) : Prop :=
  ∃ d : Int, delay = .int d ∧ Double.limit ≤ d.natAbs * 2 ^ i

/-- The place of the last attempt: that of the first one without a passing failure, if there are
attempts enough. -/
structure LastAttempt (maxAttempts : Int) (n : Nat) : Prop where
  allowed : (n : Int) < max 1 maxAttempts
  earlier : ∀ i < n, Passing r.platform (tried r delay contracts s i)
  paused : ∀ i < n, ¬ Outgrown delay i
  last : (n : Int) + 1 = max 1 maxAttempts ∨ ¬ Passing r.platform (tried r delay contracts s n)

/-- The place where the attempts break off: the first that an outgrown pause should follow, when all
attempts up to there meet passing failures and another one is allowed. -/
structure BreaksOff (maxAttempts : Int) (n : Nat) : Prop where
  allowed : (n : Int) + 1 < max 1 maxAttempts
  passing : ∀ i ≤ n, Passing r.platform (tried r delay contracts s i)
  paused : ∀ i < n, ¬ Outgrown delay i
  outgrown : Outgrown delay n

/-- The attempt at a place is made: all before it meet passing failures, and a pause follows each of
them. -/
structure Made (maxAttempts : Int) (n : Nat) : Prop where
  allowed : (n : Int) < max 1 maxAttempts
  earlier : ∀ i < n, Passing r.platform (tried r delay contracts s i)
  paused : ∀ i < n, delayAfter delay (i + 1) = .ok (backoff delay i)

/-- The attempt at a place is made, and no other is made behind it. -/
structure LastMade (maxAttempts : Int) (n : Nat) : Prop where
  made : Made r delay contracts s maxAttempts n
  final : ¬ Made r delay contracts s maxAttempts (n + 1)

/-- What the attempts come to when no other is made behind the one at place `n`. -/
inductive Ends (maxAttempts : Int) (n : Nat) : Except Fault (Except Failure Report × Trail) → Prop
  | last : (n : Int) + 1 = max 1 maxAttempts ∨
        ¬ Passing r.platform (tried r delay contracts s n) →
      Ends maxAttempts n
        (.ok (judged r.platform (tried r delay contracts s n), trailAfter r delay contracts s n))
  | broken {fault : Fault} : (n : Int) + 1 < max 1 maxAttempts →
      Passing r.platform (tried r delay contracts s n) →
      delayAfter delay (n + 1) = .error fault →
      Ends maxAttempts n (.error fault)

end Attempts

theorem ofInt?_two_pow {k : Nat} (hk : k ≤ 1023) :
    ∃ x, Double.ofInt? ((2 ^ k : Nat) : Int) = some x := by
  have hlimit : 2 ^ k < Double.limit := by
    calc 2 ^ k ≤ 2 ^ 1023 := Nat.pow_le_pow_right (by decide) hk
      _ < Double.limit := by decide +kernel
  have hsome : Double.ofInt? ((2 ^ k : Nat) : Int) ≠ none := by
    rw [ne_eq, Double.ofInt?_eq_none_iff, Int.natAbs_natCast]
    exact Nat.not_le.mpr hlimit
  exact Option.ne_none_iff_exists'.mp hsome

theorem ofInt?_mul_two_pow_eq_none_iff (d : Int) (k : Nat) :
    Double.ofInt? (d * ((2 ^ k : Nat) : Int)) = none ↔ Double.limit ≤ d.natAbs * 2 ^ k := by
  rw [Double.ofInt?_eq_none_iff, Int.natAbs_mul, Int.natAbs_natCast]

theorem delayAfter_of_outgrown {delay : Number} {k : Nat} (h : Outgrown delay k) :
    delayAfter delay (k + 1) = .error .wholeTooLarge := by
  obtain ⟨d, rfl, hlarge⟩ := h
  have hnone := (ofInt?_mul_two_pow_eq_none_iff d k).mpr hlarge
  unfold delayAfter
  simp only [Number.toFloat?, Nat.add_sub_cancel, Nat.pow_eq, hnone]

theorem delayAfter_of_not_outgrown {delay : Number} {k : Nat} (hk : k ≤ 1023)
    (h : ¬ Outgrown delay k) : delayAfter delay (k + 1) = .ok (backoff delay k) := by
  unfold delayAfter backoff
  cases delay with
  | float x =>
      obtain ⟨y, hy⟩ := ofInt?_two_pow hk
      simp only [Number.toFloat?, Number.mul, Number.toFloat, Nat.add_sub_cancel, Nat.pow_eq, hy,
        Option.getD_some]
  | int d =>
      obtain ⟨y, hy⟩ := Option.ne_none_iff_exists'.mp fun hnone =>
        h ⟨d, rfl, (ofInt?_mul_two_pow_eq_none_iff d k).mp hnone⟩
      simp only [Number.toFloat?, Number.mul, Nat.add_sub_cancel, Nat.pow_eq, hy]

theorem eq_backoff_of_delayAfter {delay pause : Number} {k : Nat}
    (h : delayAfter delay (k + 1) = .ok pause) : pause = backoff delay k := by
  unfold delayAfter at h
  unfold backoff
  cases delay with
  | float x =>
      simp only [Number.toFloat?, Nat.add_sub_cancel, Nat.pow_eq] at h
      cases hfactor : Double.ofInt? ((2 ^ k : Nat) : Int) with
      | none =>
          rw [hfactor] at h
          cases h
      | some f =>
          rw [hfactor] at h
          cases h
          simp only [Number.mul, Number.toFloat, hfactor, Option.getD_some]
  | int d =>
      simp only [Nat.add_sub_cancel, Nat.pow_eq] at h
      split at h
      next =>
        cases h
        rfl
      next => cases h

section Attempts

variable (r : Reviewer σ) (delay : Number) {maxAttempts : Int} (contracts : List Contract) (s : σ)

/-- An attempt is the last one when none is left or its failure does not pass. -/
theorem tryFull_of_last (number left : Nat) (trail : Trail)
    (h : left = 0 ∨ ¬ Passing r.platform ((r.analyze contracts).run s).1) :
    tryFull r delay contracts left number trail s =
      (.ok (judged r.platform ((r.analyze contracts).run s).1,
          trail.noted number (judged r.platform ((r.analyze contracts).run s).1)),
        ((r.analyze contracts).run s).2) := by
  unfold tryFull
  dsimp only
  cases hend : judged r.platform ((r.analyze contracts).run s).1 with
  | ok report => rfl
  | error failure =>
      cases left with
      | zero => rfl
      | succ left =>
          have hfinal : ¬ failure.retryable = true := fun hpass =>
            h.resolve_left (Nat.succ_ne_zero left) ⟨failure, judged_eq_error_iff.mp hend, hpass⟩
          simp only [hfinal, Bool.false_eq_true, ↓reduceIte]
          rfl

/-- Behind an attempt with a passing failure comes the next one, if there is a pause before it. -/
theorem tryFull_of_passing (number left : Nat) (trail : Trail)
    (h : Passing r.platform ((r.analyze contracts).run s).1) :
    tryFull r delay contracts (left + 1) number trail s =
      match delayAfter delay number with
      | .error fault => (.error fault, ((r.analyze contracts).run s).2)
      | .ok pause => tryFull r delay contracts left (number + 1)
          ((trail.noted number (judged r.platform ((r.analyze contracts).run s).1)).scheduled
            (number + 1) pause (judged r.platform ((r.analyze contracts).run s).1))
          (r.pause pause ((r.analyze contracts).run s).2) := by
  obtain ⟨failure, hmeets, hpass⟩ := h
  rw [tryFull]
  simp only [judged_eq_error_iff.mpr hmeets, hpass, ↓reduceIte]
  rfl

/-- However many attempts have been made, there is a last one. -/
theorem exists_tryFull_eq (left i : Nat) (hleft : (left : Int) + i + 1 = max 1 maxAttempts)
    (hmade : Made r delay contracts s maxAttempts i) :
    ∃ n ended, Made r delay contracts s maxAttempts n ∧
      Ends r delay contracts s maxAttempts n ended ∧
      tryFull r delay contracts left (i + 1) (trailBefore r delay contracts s i)
        (before r delay contracts s i) = (ended, after r delay contracts s n) := by
  induction left generalizing i with
  | zero =>
      exact ⟨i, _, hmade, .last (.inl (by omega)),
        tryFull_of_last r delay contracts (before r delay contracts s i) (i + 1) 0
          (trailBefore r delay contracts s i) (.inl rfl)⟩
  | succ left ih =>
      push_cast at hleft
      by_cases hpass : Passing r.platform (tried r delay contracts s i)
      · have hstep := tryFull_of_passing r delay contracts (before r delay contracts s i) (i + 1)
          left (trailBefore r delay contracts s i) hpass
        cases hdelay : delayAfter delay (i + 1) with
        | error fault =>
            rw [hdelay] at hstep
            exact ⟨i, _, hmade, .broken (by omega) hpass hdelay, hstep⟩
        | ok pause =>
            obtain rfl := eq_backoff_of_delayAfter hdelay
            rw [hdelay] at hstep
            rw [hstep]
            exact ih (i + 1) (by push_cast; omega) {
              allowed := by push_cast; omega
              earlier := Nat.forall_lt_succ_right.mpr ⟨hmade.earlier, hpass⟩
              paused := Nat.forall_lt_succ_right.mpr ⟨hmade.paused, hdelay⟩ }
      · exact ⟨i, _, hmade, .last (.inr hpass),
          tryFull_of_last r delay contracts (before r delay contracts s i) (i + 1) (left + 1)
            (trailBefore r delay contracts s i) (.inr hpass)⟩

theorem made_zero : Made r delay contracts s maxAttempts 0 :=
  { allowed := by omega
    earlier := fun i hi => absurd hi (Nat.not_lt_zero i)
    paused := fun i hi => absurd hi (Nat.not_lt_zero i) }

variable {r delay contracts s} {m n : Nat}

theorem BreaksOff.eq (hm : BreaksOff r delay contracts s maxAttempts m)
    (hn : BreaksOff r delay contracts s maxAttempts n) : m = n := by
  rcases Nat.lt_trichotomy m n with hlt | heq | hgt
  · exact absurd hm.outgrown (hn.paused m hlt)
  · exact heq
  · exact absurd hn.outgrown (hm.paused n hgt)

/-- Attempts that break off do not reach the last one. -/
theorem BreaksOff.not_lastAttempt (hm : BreaksOff r delay contracts s maxAttempts m) :
    ¬ LastAttempt r delay contracts s maxAttempts n := by
  intro hn
  rcases Nat.lt_or_ge m n with hlt | hge
  · exact hn.paused m hlt hm.outgrown
  · have hallowed := hm.allowed
    have hend : (n : Int) + 1 = max 1 maxAttempts :=
      hn.last.resolve_right fun h => h (hm.passing n hge)
    omega

theorem Made.not_outgrown (h : Made r delay contracts s maxAttempts n) :
    ∀ i < n, ¬ Outgrown delay i := by
  intro i hi hout
  cases (h.paused i hi).symm.trans (delayAfter_of_outgrown hout)

theorem Made.lastAttempt (h : Made r delay contracts s maxAttempts n)
    (hlast : (n : Int) + 1 = max 1 maxAttempts ∨
      ¬ Passing r.platform (tried r delay contracts s n)) :
    LastAttempt r delay contracts s maxAttempts n :=
  ⟨h.allowed, h.earlier, h.not_outgrown, hlast⟩

/-- Among as many attempts as a double can count the pauses of, only an outgrown pause is a
fault. -/
theorem Made.breaksOff (hmax : maxAttempts ≤ 1024) (h : Made r delay contracts s maxAttempts n)
    (hmore : (n : Int) + 1 < max 1 maxAttempts)
    (hpass : Passing r.platform (tried r delay contracts s n)) {fault : Fault}
    (hdelay : delayAfter delay (n + 1) = .error fault) :
    fault = .wholeTooLarge ∧ BreaksOff r delay contracts s maxAttempts n := by
  by_cases hout : Outgrown delay n
  · rw [delayAfter_of_outgrown hout] at hdelay
    cases hdelay
    refine ⟨rfl, hmore, fun i hi => ?_, h.not_outgrown, hout⟩
    rcases Nat.lt_or_eq_of_le hi with hlt | rfl
    · exact h.earlier i hlt
    · exact hpass
  · rw [delayAfter_of_not_outgrown (by omega) hout] at hdelay
    cases hdelay

theorem Made.of_le (h : Made r delay contracts s maxAttempts n) (hle : m ≤ n) :
    Made r delay contracts s maxAttempts m :=
  { allowed := lt_of_le_of_lt (by exact_mod_cast hle) h.allowed
    earlier := fun i hi => h.earlier i (lt_of_lt_of_le hi hle)
    paused := fun i hi => h.paused i (lt_of_lt_of_le hi hle) }

theorem LastMade.eq (hm : LastMade r delay contracts s maxAttempts m)
    (hn : LastMade r delay contracts s maxAttempts n) : m = n := by
  rcases Nat.lt_trichotomy m n with hlt | heq | hgt
  · exact absurd (hn.made.of_le hlt) hm.final
  · exact heq
  · exact absurd (hm.made.of_le hgt) hn.final

/-- Where attempts end, no other is made. -/
theorem Ends.not_made {ended : Except Fault (Except Failure Report × Trail)}
    (h : Ends r delay contracts s maxAttempts n ended) :
    ¬ Made r delay contracts s maxAttempts (n + 1) := by
  intro hmade
  cases h with
  | last hlast =>
      rcases hlast with hnone | hnot
      · have hallowed := hmade.allowed
        push_cast at hallowed
        omega
      · exact hnot (hmade.earlier n (Nat.lt_succ_self n))
  | broken _ _ hdelay => cases (hmade.paused n (Nat.lt_succ_self n)).symm.trans hdelay

end Attempts

/-! ## Lesser ways -/

section Degrading

variable (r : Reviewer σ) (policy : FallbackPolicy) (focusAreas : Option (List String))
variable (contracts : List Contract)

/-- The models, when they are asked, come to a good report. -/
def ModelsReturn (s : σ) : Prop :=
  ∃ found s', (r.consult contracts focusAreas).run s = (.ok found, s') ∧ found.success = true

/-- The surroundings behind the models, who are asked only if the policy has it so. -/
def afterModels (s : σ) : σ :=
  if policy.useModels then ((r.consult contracts focusAreas).run s).2 else s

/-- Whether the checks of all contracts return, and what the last one that is made leaves. -/
def checked (r : Reviewer σ) : List Contract → σ → Bool × σ
  | [], s => (true, s)
  | c :: rest, s =>
      match (r.validate c).run s with
      | (.ok _, s) => checked r rest s
      | (.error _, s) => (false, s)

/-- What a review comes to that falls back for a cause. -/
structure Degraded (cause : Failure) (s : σ) (t : TracedReport) (s' : σ) : Prop where
  byModels : t.strategy = .modelsOnly ↔
    policy.useModels = true ∧ ModelsReturn r focusAreas contracts s
  byChecks : t.strategy = .checksOnly ↔ t.strategy ≠ .modelsOnly ∧ policy.useChecks = true ∧
    (checked r contracts (afterModels r policy focusAreas contracts s)).1 = true
  minimal : t.strategy = .minimal ↔ t.strategy ≠ .modelsOnly ∧ t.strategy ≠ .checksOnly
  caused : t.cause = some cause
  failure : t.report.failure = some cause
  success : t.report.success = true ↔ t.strategy = .modelsOnly
  surroundings : s' =
    if t.strategy ≠ .modelsOnly ∧ policy.useChecks = true then
      (checked r contracts (afterModels r policy focusAreas contracts s)).2
    else afterModels r policy focusAreas contracts s

variable {focusAreas contracts}

theorem exists_tryModels_eq_of_return (cause : Failure) (trail : Trail) {s : σ}
    (h : ModelsReturn r focusAreas contracts s) :
    ∃ report trail', report.success = true ∧
      tryModels r focusAreas contracts cause trail s =
        ((some report, trail'), ((r.consult contracts focusAreas).run s).2) := by
  obtain ⟨found, s', hrun, hgood⟩ := h
  unfold tryModels
  simp only [hrun, hgood, ↓reduceIte]
  exact ⟨modelsReport cause found, _, rfl, rfl⟩

theorem exists_tryModels_eq_of_not (cause : Failure) (trail : Trail) {s : σ}
    (h : ¬ ModelsReturn r focusAreas contracts s) :
    ∃ trail', tryModels r focusAreas contracts cause trail s =
      ((none, trail'), ((r.consult contracts focusAreas).run s).2) := by
  unfold tryModels
  rcases hrun : (r.consult contracts focusAreas).run s with ⟨fault | found, s'⟩
  · exact ⟨_, rfl⟩
  · have hbad : ¬ found.success = true := fun hgood => h ⟨found, s', hrun, hgood⟩
    simp only [hbad, Bool.false_eq_true, ↓reduceIte]
    exact ⟨_, rfl⟩

theorem checkAll_run (contracts : List Contract) (found : Validation) (s : σ) :
    (∃ found', (checkAll r contracts found).run s = (.ok found', (checked r contracts s).2) ∧
        (checked r contracts s).1 = true) ∨
      ∃ fault, (checkAll r contracts found).run s = (.error fault, (checked r contracts s).2) ∧
        (checked r contracts s).1 = false := by
  induction contracts generalizing found s with
  | nil => exact .inl ⟨found, rfl, rfl⟩
  | cons c rest ih =>
      unfold checkAll checked
      rw [Act.run_bind]
      rcases (r.validate c).run s with ⟨fault | v, s'⟩
      · exact .inr ⟨fault, rfl, rfl⟩
      · exact ih _ s'

theorem exists_tryChecks_eq_of_return (cause : Failure) (trail : Trail) {s : σ}
    (h : (checked r contracts s).1 = true) :
    ∃ report trail', report.success = false ∧
      tryChecks r contracts cause trail s = ((some report, trail'), (checked r contracts s).2) := by
  unfold tryChecks
  rcases checkAll_run r contracts {} s with ⟨found, hrun, -⟩ | ⟨fault, -, hnot⟩
  · rw [hrun]
    exact ⟨_, _, rfl, rfl⟩
  · cases h.symm.trans hnot

theorem exists_tryChecks_eq_of_not (cause : Failure) (trail : Trail) {s : σ}
    (h : ¬ (checked r contracts s).1 = true) :
    ∃ trail', tryChecks r contracts cause trail s =
      ((none, trail'), (checked r contracts s).2) := by
  unfold tryChecks
  rcases checkAll_run r contracts {} s with ⟨found, -, hdone⟩ | ⟨fault, hrun, -⟩
  · exact absurd hdone h
  · rw [hrun]
    exact ⟨_, rfl⟩

variable (focusAreas contracts)

/-- The ways that are left when the models have not come to a good report; `source` is the one that
was tried last. -/
def degradeFurther (r : Reviewer σ) (policy : FallbackPolicy) (contracts : List Contract)
    (cause : Failure) (source : Strategy) (trail : Trail) (s : σ) :
    (TracedReport × List Event) × σ :=
  match (if policy.useChecks then
      tryChecks r contracts cause
        (trail.announce (.fellBack source .checksOnly "Full analysis unavailable" cause.code)) s
    else ((none, trail), s)) with
  | ((some report, trail), s) => (finish report .checksOnly trail (some cause), s)
  | ((none, trail), s) =>
      let trail := trail.announce (.fellBack trail.lastStrategy .minimal
        "All other analysis methods failed" cause.code)
      let trail := trail.attempt ⟨trail.next, .minimal, true, none,
        some "All other analysis methods failed"⟩
      (finish (minimalReport contracts cause) .minimal trail (some cause), s)

/-- The way that is tried before the checks. -/
def beforeChecks (policy : FallbackPolicy) : Strategy :=
  if policy.useModels then .modelsOnly else .full

theorem degrade_of_models (cause : Failure) (trail : Trail) {s : σ}
    (h : policy.useModels = true ∧ ModelsReturn r focusAreas contracts s) :
    ∃ report trail', report.success = true ∧
      degrade r policy focusAreas contracts cause trail s =
        (finish report .modelsOnly trail' (some cause),
          afterModels r policy focusAreas contracts s) := by
  obtain ⟨report, trail', hgood, heq⟩ := exists_tryModels_eq_of_return r cause
    (trail.announce (.fellBack .full .modelsOnly "Primary analysis failed" cause.code)) h.2
  refine ⟨report, trail', hgood, ?_⟩
  unfold degrade afterModels
  simp only [h.1, ↓reduceIte, heq]

/-- Without a good report of the models the checks come next. -/
theorem degrade_of_not_models (cause : Failure) (trail : Trail) {s : σ}
    (h : ¬ (policy.useModels = true ∧ ModelsReturn r focusAreas contracts s)) :
    ∃ trail', degrade r policy focusAreas contracts cause trail s =
      degradeFurther r policy contracts cause (beforeChecks policy) trail'
        (afterModels r policy focusAreas contracts s) := by
  unfold degrade afterModels
  by_cases huse : policy.useModels = true
  · obtain ⟨trail', heq⟩ := exists_tryModels_eq_of_not r cause
      (trail.announce (.fellBack .full .modelsOnly "Primary analysis failed" cause.code))
      fun hreturn => h ⟨huse, hreturn⟩
    simp only [beforeChecks, huse, ↓reduceIte, heq]
    exact ⟨trail', rfl⟩
  · simp only [beforeChecks, huse, Bool.false_eq_true, ↓reduceIte]
    exact ⟨trail, rfl⟩

theorem degrade_of_checks (cause : Failure) (trail : Trail) {s : σ}
    (hmodels : ¬ (policy.useModels = true ∧ ModelsReturn r focusAreas contracts s))
    (hchecks : policy.useChecks = true ∧
      (checked r contracts (afterModels r policy focusAreas contracts s)).1 = true) :
    ∃ report trail', report.success = false ∧
      degrade r policy focusAreas contracts cause trail s =
        (finish report .checksOnly trail' (some cause),
          (checked r contracts (afterModels r policy focusAreas contracts s)).2) := by
  obtain ⟨next, hnext⟩ := degrade_of_not_models r policy focusAreas contracts cause trail hmodels
  obtain ⟨report, trail', hbad, heq⟩ := exists_tryChecks_eq_of_return r cause
    (next.announce (.fellBack (beforeChecks policy) .checksOnly "Full analysis unavailable"
      cause.code)) hchecks.2
  refine ⟨report, trail', hbad, ?_⟩
  rw [hnext, degradeFurther]
  simp only [hchecks.1, ↓reduceIte, heq]

theorem degrade_of_neither (cause : Failure) (trail : Trail) {s : σ}
    (hmodels : ¬ (policy.useModels = true ∧ ModelsReturn r focusAreas contracts s))
    (hchecks : ¬ (policy.useChecks = true ∧
      (checked r contracts (afterModels r policy focusAreas contracts s)).1 = true)) :
    ∃ trail', degrade r policy focusAreas contracts cause trail s =
      (finish (minimalReport contracts cause) .minimal trail' (some cause),
        if policy.useChecks then
          (checked r contracts (afterModels r policy focusAreas contracts s)).2
        else afterModels r policy focusAreas contracts s) := by
  obtain ⟨next, hnext⟩ := degrade_of_not_models r policy focusAreas contracts cause trail hmodels
  rw [hnext, degradeFurther]
  by_cases huse : policy.useChecks = true
  · obtain ⟨trail', heq⟩ := exists_tryChecks_eq_of_not r cause
      (next.announce (.fellBack (beforeChecks policy) .checksOnly "Full analysis unavailable"
        cause.code)) fun hdone => hchecks ⟨huse, hdone⟩
    simp only [huse, ↓reduceIte, heq]
    exact ⟨_, rfl⟩
  · simp only [huse, Bool.false_eq_true, ↓reduceIte]
    exact ⟨_, rfl⟩

theorem degraded_degrade (cause : Failure) (trail : Trail) (s : σ) :
    Degraded r policy focusAreas contracts cause s
      (degrade r policy focusAreas contracts cause trail s).1.1
      (degrade r policy focusAreas contracts cause trail s).2 := by
  by_cases hmodels : policy.useModels = true ∧ ModelsReturn r focusAreas contracts s
  · obtain ⟨report, trail', hgood, heq⟩ :=
      degrade_of_models r policy focusAreas contracts cause trail hmodels
    rw [heq]
    exact {
      byModels := iff_of_true rfl hmodels
      byChecks := by simp [finish]
      minimal := by simp [finish]
      caused := rfl
      failure := rfl
      success := iff_of_true hgood rfl
      surroundings := by simp [finish] }
  by_cases hchecks : policy.useChecks = true ∧
      (checked r contracts (afterModels r policy focusAreas contracts s)).1 = true
  · obtain ⟨report, trail', hbad, heq⟩ :=
      degrade_of_checks r policy focusAreas contracts cause trail hmodels hchecks
    rw [heq]
    exact {
      byModels := iff_of_false (by simp [finish]) hmodels
      byChecks := iff_of_true rfl ⟨by simp [finish], hchecks⟩
      minimal := by simp [finish]
      caused := rfl
      failure := rfl
      success := by simp [finish, hbad]
      surroundings := by simp [finish, hchecks.1] }
  · obtain ⟨trail', heq⟩ :=
      degrade_of_neither r policy focusAreas contracts cause trail hmodels hchecks
    rw [heq]
    exact {
      byModels := iff_of_false (by simp [finish]) hmodels
      byChecks := iff_of_false (by simp [finish]) fun h => hchecks h.2
      minimal := by simp [finish]
      caused := rfl
      failure := rfl
      success := by simp [finish, minimalReport]
      surroundings := by simp [finish] }

end Degrading

/-! ## Reviews -/

/-- What a review comes to that needs no lesser way: the report of the full one. -/
structure Full (report : Report) (t : TracedReport) : Prop where
  strategy : t.strategy = .full
  uncaused : t.cause = none
  unchanged : t.report = { report with executionTime := .float 0.0, details := t.report.details }
  details : t.report.details.getD [] = report.details.getD []

theorem full_finish (report : Report) (trail : Trail) :
    Full report (finish report .full trail none).1 := by
  refine ⟨rfl, rfl, rfl, ?_⟩
  change (if (report.details.getD []).isEmpty then none
    else some (report.details.getD [])).getD [] = report.details.getD []
  cases report.details.getD [] <;> rfl

/-- What a review comes to whose last attempt is the one at place `n`: to its report, or to what the
lesser ways make of the failure that it meets. -/
inductive Settled (r : Reviewer σ) (policy : FallbackPolicy) (focusAreas : Option (List String))
    (contracts : List Contract) (s : σ) (n : Nat) : TracedReport → σ → Prop
  | full {report : Report} {t : TracedReport} :
      tried r policy.retryDelay contracts s n = .ok report → report.failure = none →
      Full report t →
      Settled r policy focusAreas contracts s n t (after r policy.retryDelay contracts s n)
  | lesser {cause : Failure} {t : TracedReport} {s' : σ} :
      Meets r.platform (tried r policy.retryDelay contracts s n) cause →
      Degraded r policy focusAreas contracts cause (after r policy.retryDelay contracts s n) t s' →
      Settled r policy focusAreas contracts s n t s'

/-- What a review makes of the way in which its last attempt ends. -/
def concluded (r : Reviewer σ) (policy : FallbackPolicy) (focusAreas : Option (List String))
    (contracts : List Contract) (trail : Trail) (s : σ) :
    Except Failure Report → (TracedReport × List Event) × σ
  | .ok report => (finish report .full trail none, s)
  | .error cause => degrade r policy focusAreas contracts cause trail s

/-- A review concludes behind its last attempt, unless the pause that is due there is a fault. -/
theorem exists_review_eq (r : Reviewer σ) (policy : FallbackPolicy)
    (focusAreas : Option (List String)) (contracts : List Contract) (s : σ) :
    ∃ n, LastMade r policy.retryDelay contracts s policy.maxAttempts n ∧
      ((((n : Int) + 1 = max 1 policy.maxAttempts ∨
            ¬ Passing r.platform (tried r policy.retryDelay contracts s n)) ∧
          review r policy focusAreas contracts s =
            (.ok (concluded r policy focusAreas contracts
                (trailAfter r policy.retryDelay contracts s n)
                (after r policy.retryDelay contracts s n)
                (judged r.platform (tried r policy.retryDelay contracts s n))).1,
              (concluded r policy focusAreas contracts
                (trailAfter r policy.retryDelay contracts s n)
                (after r policy.retryDelay contracts s n)
                (judged r.platform (tried r policy.retryDelay contracts s n))).2)) ∨
        ∃ fault, (n : Int) + 1 < max 1 policy.maxAttempts ∧
          Passing r.platform (tried r policy.retryDelay contracts s n) ∧
          delayAfter policy.retryDelay (n + 1) = .error fault ∧
          review r policy focusAreas contracts s =
            (.error fault, after r policy.retryDelay contracts s n)) := by
  have hleft : ((policy.maxAttempts.toNat - 1 : Nat) : Int) + (0 : Nat) + 1 =
      max 1 policy.maxAttempts := by omega
  obtain ⟨n, ended, hmade, hends, heq⟩ := exists_tryFull_eq r policy.retryDelay contracts s
    (policy.maxAttempts.toNat - 1) 0 hleft (made_zero r policy.retryDelay contracts s)
  refine ⟨n, ⟨hmade, hends.not_made⟩, ?_⟩
  unfold review
  change tryFull r policy.retryDelay contracts _ 1 {} s = _ at heq
  rw [heq]
  cases hends with
  | last hlast =>
      refine .inl ⟨hlast, ?_⟩
      cases judged r.platform (tried r policy.retryDelay contracts s n) <;> rfl
  | broken hmore hpass hdelay => exact .inr ⟨_, hmore, hpass, hdelay, rfl⟩

/-- An attempt that is made and comes to a report without a failure ends the review. -/
theorem review_of_made {r : Reviewer σ} {policy : FallbackPolicy}
    (focusAreas : Option (List String)) {contracts : List Contract} {s : σ} {n : Nat}
    {report : Report} (hmade : Made r policy.retryDelay contracts s policy.maxAttempts n)
    (htried : tried r policy.retryDelay contracts s n = .ok report)
    (hnone : report.failure = none) :
    review r policy focusAreas contracts s =
      (.ok (finish report .full
          ((trailBefore r policy.retryDelay contracts s n).noted (n + 1) (.ok report)) none),
        after r policy.retryDelay contracts s n) := by
  have hjudged : judged r.platform (tried r policy.retryDelay contracts s n) = .ok report :=
    judged_eq_ok_iff.mpr ⟨htried, hnone⟩
  have hfinal : ¬ Passing r.platform (tried r policy.retryDelay contracts s n) := by
    rintro ⟨failure, hmeets, -⟩
    cases hjudged.symm.trans (judged_eq_error_iff.mpr hmeets)
  have hlast : LastMade r policy.retryDelay contracts s policy.maxAttempts n :=
    ⟨hmade, (Ends.last (.inr hfinal)).not_made⟩
  obtain ⟨m, hm, ⟨-, heq⟩ | ⟨fault, -, hpass, -⟩⟩ :=
    exists_review_eq r policy focusAreas contracts s
  · obtain rfl := hlast.eq hm
    rw [heq, hjudged, trailAfter, hjudged]
    rfl
  · obtain rfl := hlast.eq hm
    exact absurd hpass hfinal

/-- A first attempt that comes to a report without a failure is the whole review. -/
theorem review_of_first {r : Reviewer σ} (policy : FallbackPolicy)
    (focusAreas : Option (List String)) {contracts : List Contract} {s s' : σ} {report : Report}
    (hrun : (r.analyze contracts).run s = (.ok report, s')) (hnone : report.failure = none) :
    review r policy focusAreas contracts s =
      (.ok (finish report .full (Trail.noted {} 1 (.ok report)) none), s') := by
  rw [review_of_made focusAreas (made_zero r policy.retryDelay contracts s)
    (congrArg Prod.fst hrun) hnone]
  exact congrArg _ (congrArg Prod.snd hrun)

/-- A review comes to its last attempt, or breaks off. -/
theorem review_eq (r : Reviewer σ) (policy : FallbackPolicy) (hmax : policy.maxAttempts ≤ 1024)
    (focusAreas : Option (List String)) (contracts : List Contract) (s : σ) :
    (∃ n, LastAttempt r policy.retryDelay contracts s policy.maxAttempts n ∧
      review r policy focusAreas contracts s =
        (.ok (concluded r policy focusAreas contracts (trailAfter r policy.retryDelay contracts s n)
            (after r policy.retryDelay contracts s n)
            (judged r.platform (tried r policy.retryDelay contracts s n))).1,
          (concluded r policy focusAreas contracts (trailAfter r policy.retryDelay contracts s n)
            (after r policy.retryDelay contracts s n)
            (judged r.platform (tried r policy.retryDelay contracts s n))).2)) ∨
    ∃ n, BreaksOff r policy.retryDelay contracts s policy.maxAttempts n ∧
      review r policy focusAreas contracts s =
        (.error .wholeTooLarge, after r policy.retryDelay contracts s n) := by
  obtain ⟨n, hn, ⟨hlast, heq⟩ | ⟨fault, hmore, hpass, hdelay, heq⟩⟩ :=
    exists_review_eq r policy focusAreas contracts s
  · exact .inl ⟨n, hn.made.lastAttempt hlast, heq⟩
  · obtain ⟨rfl, hbreak⟩ := hn.made.breaksOff hmax hmore hpass hdelay
    exact .inr ⟨n, hbreak, heq⟩

/-- A review settles on what it concludes with behind its last attempt. -/
theorem exists_settled (r : Reviewer σ) (policy : FallbackPolicy)
    (focusAreas : Option (List String)) (contracts : List Contract) (s : σ) (n : Nat) :
    ∃ t events s',
      concluded r policy focusAreas contracts (trailAfter r policy.retryDelay contracts s n)
        (after r policy.retryDelay contracts s n)
        (judged r.platform (tried r policy.retryDelay contracts s n)) = ((t, events), s') ∧
      Settled r policy focusAreas contracts s n t s' := by
  cases hend : judged r.platform (tried r policy.retryDelay contracts s n) with
  | ok report =>
      obtain ⟨hreport, hnone⟩ := judged_eq_ok_iff.mp hend
      exact ⟨_, _, _, rfl, .full hreport hnone (full_finish report _)⟩
  | error cause =>
      exact ⟨_, _, _, rfl, .lesser (judged_eq_error_iff.mp hend)
        (degraded_degrade r policy focusAreas contracts cause _ _)⟩

theorem review_cases (r : Reviewer σ) (policy : FallbackPolicy) (hmax : policy.maxAttempts ≤ 1024)
    (focusAreas : Option (List String)) (contracts : List Contract) (s : σ) :
    (∃ n t events s', LastAttempt r policy.retryDelay contracts s policy.maxAttempts n ∧
      review r policy focusAreas contracts s = (.ok (t, events), s') ∧
      Settled r policy focusAreas contracts s n t s') ∨
    ∃ n, BreaksOff r policy.retryDelay contracts s policy.maxAttempts n ∧
      review r policy focusAreas contracts s =
        (.error .wholeTooLarge, after r policy.retryDelay contracts s n) := by
  rcases review_eq r policy hmax focusAreas contracts s with ⟨n, hlast, heq⟩ | hbreak
  · obtain ⟨t, events, s', hdone, hsettled⟩ := exists_settled r policy focusAreas contracts s n
    rw [hdone] at heq
    exact .inl ⟨n, t, events, s', hlast, heq, hsettled⟩
  · exact .inr hbreak

/-- A review breaks off only where a pause has outgrown all doubles. Any other review ends: it tries
the full review until an attempt meets no passing failure or no more are allowed, and comes to the
report of the last attempt, or to what the lesser ways make of its failure. -/
theorem settled_unless_outgrown (r : Reviewer σ) (policy : FallbackPolicy)
    (hmax : policy.maxAttempts ≤ 1024) (focusAreas : Option (List String))
    (contracts : List Contract) (s : σ) :
    (∀ fault s', review r policy focusAreas contracts s = (.error fault, s') ↔
      fault = .wholeTooLarge ∧
        ∃ n, BreaksOff r policy.retryDelay contracts s policy.maxAttempts n ∧
          s' = after r policy.retryDelay contracts s n) ∧
    ((∀ n, ¬ BreaksOff r policy.retryDelay contracts s policy.maxAttempts n) →
      ∃ n t events s', review r policy focusAreas contracts s = (.ok (t, events), s') ∧
        LastAttempt r policy.retryDelay contracts s policy.maxAttempts n ∧
        Settled r policy focusAreas contracts s n t s') := by
  rcases review_cases r policy hmax focusAreas contracts s with
    ⟨n, t, events, s₁, hlast, heq, hsettled⟩ | ⟨n, hbreak, heq⟩
  · refine ⟨?_, fun _ => ⟨n, t, events, s₁, heq, hlast, hsettled⟩⟩
    intro fault s'
    rw [heq]
    constructor
    · rintro ⟨⟩
    · rintro ⟨-, m, hm, -⟩
      exact absurd hlast hm.not_lastAttempt
  · refine ⟨?_, fun hnone => absurd hbreak (hnone n)⟩
    intro fault s'
    rw [heq]
    constructor
    · rintro ⟨⟩
      exact ⟨rfl, n, hbreak, rfl⟩
    · rintro ⟨rfl, m, hm, rfl⟩
      rw [hm.eq hbreak]

/-- The failure of a tool that is too slow. -/
def slow : Failure :=
  { code := .toolTimeout, message := "slither execution timed out", platform := "ethereum" }

/-- A reviewer whose tool is always too slow, in surroundings that note the pauses. -/
def slowReviewer : Reviewer (List Number) :=
  { platform := "ethereum"
    analyze := fun _ => throw (.platform slow)
    consult := fun _ _ => throw (.raised .connection "no network")
    validate := fun _ => pure {}
    pause := fun time pauses => pauses ++ [time] }

/-- The pause behind the first attempt is more than any double. -/
def hugeDelay : FallbackPolicy := { maxAttempts := 2, retryDelay := .int (Nat.pow 10 309) }

/-- With a huge delay the review breaks off. With the usual one there are three attempts, the pauses
between them, and the checks in place of a review. -/
theorem review_slowReviewer :
    review slowReviewer hugeDelay none [] [] = (.error .wholeTooLarge, []) ∧
    ∃ t events, review slowReviewer {} none [] [] = (.ok (t, events), [.float 1.0, .float 2.0]) ∧
      t.strategy = .checksOnly ∧ t.cause = some slow := by
  have hslow (delay : Number) (i : Nat) : tried slowReviewer delay [] [] i =
      .error (.platform slow) := rfl
  have hpassing (delay : Number) (i : Nat) :
      Passing slowReviewer.platform (tried slowReviewer delay [] [] i) :=
    ⟨slow, hslow delay i ▸ .raised (.own slow), rfl⟩
  constructor
  · obtain ⟨hbreaks, -⟩ := settled_unless_outgrown slowReviewer hugeDelay (by decide) none [] []
    have hlarge : Double.limit ≤ (Nat.pow 10 309 : Int).natAbs * 2 ^ 0 := by decide +kernel
    exact (hbreaks .wholeTooLarge []).mpr ⟨rfl, 0,
      { allowed := by decide
        passing := fun i _ => hpassing _ i
        paused := fun i hi => absurd hi (Nat.not_lt_zero i)
        outgrown := ⟨_, rfl, hlarge⟩ }, rfl⟩
  · obtain ⟨-, hends⟩ := settled_unless_outgrown slowReviewer {} (by decide) none [] []
    obtain ⟨n, t, events, s', heq, hlast, hsettled⟩ := hends fun m hm => by
      obtain ⟨d, hd, -⟩ := hm.outgrown
      cases hd
    have hn : n = 2 := by
      have hallowed : (n : Int) < 3 := hlast.allowed
      have hend : (n : Int) + 1 = 3 := hlast.last.resolve_right fun h => h (hpassing _ n)
      omega
    subst hn
    cases hsettled with
    | full hreport => cases hreport
    | lesser hmeets hdegraded =>
        cases hmeets with
        | raised htold =>
            obtain rfl := Fault.told_iff.mp htold
            have hmodels : t.strategy ≠ .modelsOnly := by
              intro h
              obtain ⟨found, s'', hrun, -⟩ := (hdegraded.byModels.mp h).2
              cases hrun
            have hpauses : after slowReviewer (.float 1.0) [] [] 2 = [.float 1.0, .float 2.0] := by
              decide +kernel
            refine ⟨t, events, ?_, hdegraded.byChecks.mpr ⟨hmodels, rfl, rfl⟩, hdegraded.caused⟩
            rw [heq, hdegraded.surroundings, if_pos ⟨hmodels, rfl⟩, ← hpauses]
            rfl

end ContractReview.Fallback
