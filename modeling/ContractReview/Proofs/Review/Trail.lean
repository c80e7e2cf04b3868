import ContractReview.Proofs.Review.Fallback
import ContractReview.Record.Review

/-!
What a review tells of how it came about. Its trail is coherent behind the attempts at a full
review, and every lesser way keeps it so: the attempts are counted through and none but the last
comes to anything, and the events tell of the full ones and then lead down, from one way to the
next, to the way of the report.
-/

namespace ContractReview

theorem Json.lookup_insert (name : String) (value : Json) (fields : List (String × Json)) :
    lookup name (insert name value fields) = some value := by
  unfold lookup
  induction fields with
  | nil => exact List.lookup_cons_self
  | cons field rest ih =>
      unfold insert
      by_cases heq : field.1 = name
      · rw [if_pos heq, heq]
        exact List.lookup_cons_self
      · rw [if_neg heq, List.lookup_cons, beq_false_of_ne (Ne.symm heq)]
        exact ih

/-- How far a way is from a full review. -/
def Strategy.rank : Strategy → Nat
  | .full => 0
  | .modelsOnly => 1
  | .checksOnly => 2
  | .minimal => 3

/-- What is announced of an attempt that met a failure. -/
def Attempt.failing (a : Attempt) : List Event :=
  match a.failure with
  | none => []
  | some failure => [.attemptFailed a.strategy a.number failure]

namespace Fallback

variable {σ : Type}

/-! ## Coherent trails -/

/-- The order in which ways are tried: only a full review is tried more than once. -/
def Precedes (a b : Strategy) : Prop := a.rank < b.rank ∨ (a = .full ∧ b = .full)

theorem Precedes.rank_le {a b : Strategy} (h : Precedes a b) : a.rank ≤ b.rank := by
  rcases h with hlt | ⟨rfl, rfl⟩
  · exact Nat.le_of_lt hlt
  · exact Nat.le_refl _

/-- What is announced when another attempt is to follow one that met a failure. -/
def retrying (delay : Number) (a : Attempt) : List Event :=
  match a.failure with
  | none => []
  | some failure =>
      [.retryScheduled (a.number + 1) (backoff delay (a.number - 1)) failure.code]

/-- What is announced of attempts at a full review: the failure of each, and behind it the next
attempt, if that is made. -/
def announced (delay : Number) (fulls : List Attempt) : List Event :=
  fulls.flatMap fun a =>
    a.failing ++ if ∃ next ∈ fulls, next.number = a.number + 1 then retrying delay a else []

/-- Events that lead from one way down to another, each from where the one before has led. -/
inductive Falls (source : Strategy) : Strategy → List Event → Prop
  | none : Falls source source []
  | fall {way target : Strategy} {falls : List Event} {reason : String} {code : FailureCode} :
      Falls source way falls → way.rank < target.rank →
      Falls source target (falls ++ [.fellBack way target reason code])

/-- A trail that has come down to a way, with the attempts at a full review that it tells of. -/
structure Coherent (delay : Number) (fulls : List Attempt) (trail : Trail) (way : Strategy) :
    Prop where
  full : trail.attempts.filter (·.strategy = .full) = fulls
  numbered : trail.attempts.map Attempt.number = List.range' 1 trail.attempts.length
  ordered : (trail.attempts.map Attempt.strategy).Pairwise Precedes
  failed : ∀ a ∈ trail.attempts.dropLast, a.success = false
  last : trail.attempts.getLast?.map Attempt.strategy = some way
  events : ∃ falls, trail.events = announced delay fulls ++ falls ∧ Falls .full way falls ∧
    (falls = [] ↔ way = .full)

/-- No attempt of the trail has come to anything. -/
def Trail.Failed (trail : Trail) : Prop := ∀ a ∈ trail.attempts, a.success = false

/-- A way that adds its attempt to a trail, a successful one if it comes to a report. -/
def Adds (way : Strategy) (trail : Trail) (done : Option Report) (next : Trail) : Prop :=
  ∃ a : Attempt, next = trail.attempt a ∧ a.number = trail.next ∧ a.strategy = way ∧
    a.success = done.isSome

section Coherent

variable {delay : Number} {fulls : List Attempt} {trail next : Trail} {way target : Strategy}

theorem Coherent.lastStrategy (h : Coherent delay fulls trail way) : trail.lastStrategy = way := by
  unfold Trail.lastStrategy
  rw [h.last, Option.getD_some]

theorem Coherent.rank_le (h : Coherent delay fulls trail way) :
    ∀ a ∈ trail.attempts, a.strategy.rank ≤ way.rank := by
  obtain ⟨final, hfinal, hway⟩ := Option.map_eq_some_iff.mp h.last
  obtain ⟨earlier, hattempts⟩ := List.getLast?_eq_some_iff.mp hfinal
  have hordered := h.ordered
  -- The last attempt is one of the way itself, and every other comes before it.
  rw [hattempts, List.map_append, List.pairwise_append] at hordered
  intro a ha
  rw [hattempts, List.mem_append] at ha
  rcases ha with hearlier | hlast
  · have hprecedes := hordered.2.2 a.strategy (List.mem_map_of_mem hearlier) final.strategy
      (List.mem_map_of_mem List.mem_cons_self)
    exact hway ▸ hprecedes.rank_le
  · rw [List.mem_singleton.mp hlast, hway]

theorem Adds.failed {e : Event} (h : Adds way (trail.announce e) none next)
    (hfailed : trail.Failed) : next.Failed := by
  obtain ⟨a, rfl, -, -, hbad⟩ := h
  intro b hb
  rcases List.mem_append.mp hb with hold | hnew
  · exact hfailed b hold
  · rw [List.mem_singleton.mp hnew]
    exact hbad

/-- A trail without success stays coherent with the attempt of a lesser way, when the event before
it leads there from the way that the trail had come to. -/
theorem Coherent.fall (h : Coherent delay fulls trail way) (hfailed : trail.Failed)
    (hlower : way.rank < target.rank) {reason : String} {code : FailureCode} {done : Option Report}
    (hadds : Adds target (trail.announce (.fellBack way target reason code)) done next) :
    Coherent delay fulls next target := by
  obtain ⟨a, rfl, hnumber, rfl, -⟩ := hadds
  have hlesser : a.strategy ≠ .full := by
    intro hfull
    rw [hfull] at hlower
    exact Nat.not_lt_zero _ hlower
  obtain ⟨falls, hevents, hfalls, -⟩ := h.events
  exact {
    full := by
      change (trail.attempts ++ [a]).filter _ = fulls
      rw [List.filter_append, h.full, List.filter_singleton]
      simp [hlesser]
    numbered := by
      change (trail.attempts ++ [a]).map _ = List.range' 1 (trail.attempts ++ [a]).length
      rw [List.map_append, h.numbered, List.length_append, List.length_singleton,
        List.range'_concat, List.map_singleton, hnumber, Nat.one_mul, Nat.add_comm 1]
      rfl
    ordered := by
      change ((trail.attempts ++ [a]).map _).Pairwise Precedes
      rw [List.map_append, List.pairwise_append]
      refine ⟨h.ordered, List.pairwise_singleton .., ?_⟩
      intro earlier hearlier last hlast
      obtain ⟨b, hb, rfl⟩ := List.mem_map.mp hearlier
      rw [List.mem_singleton.mp hlast]
      exact .inl (Nat.lt_of_le_of_lt (h.rank_le b hb) hlower)
    failed := by
      change ∀ b ∈ (trail.attempts ++ [a]).dropLast, _
      rw [List.dropLast_concat]
      exact hfailed
    last := by
      change (trail.attempts ++ [a]).getLast?.map _ = _
      rw [List.getLast?_concat, Option.map_some]
    events := by
      refine ⟨falls ++ [.fellBack way a.strategy reason code], ?_, .fall hfalls hlower,
        iff_of_false (by simp) hlesser⟩
      change trail.events ++ _ = _
      rw [hevents, List.append_assoc] }

end Coherent

/-! ## Attempts at a full review -/

section Attempts

variable (r : Reviewer σ) (delay : Number) (contracts : List Contract) (s : σ)

/-- The attempts at a full review before some place, as a trail notes them. -/
def madeBefore (n : Nat) : List Attempt :=
  (List.range n).map fun i => attemptOf (i + 1) (judged r.platform (tried r delay contracts s i))

theorem Trail.noted_attempts (trail : Trail) (number : Nat) (ended : Except Failure Report) :
    (trail.noted number ended).attempts = trail.attempts ++ [attemptOf number ended] := by
  cases ended <;> rfl

theorem Trail.noted_events (trail : Trail) (number : Nat) (ended : Except Failure Report) :
    (trail.noted number ended).events = trail.events ++ (attemptOf number ended).failing := by
  cases ended with
  | ok report => exact (List.append_nil _).symm
  | error failure => rfl

theorem Trail.scheduled_attempts (trail : Trail) (number : Nat) (pause : Number)
    (ended : Except Failure Report) :
    (trail.scheduled number pause ended).attempts = trail.attempts := by
  cases ended <;> rfl

theorem Trail.scheduled_events (trail : Trail) (i : Nat) (ended : Except Failure Report) :
    (trail.scheduled (i + 2) (backoff delay i) ended).events =
      trail.events ++ retrying delay (attemptOf (i + 1) ended) := by
  cases ended with
  | ok report => exact (List.append_nil _).symm
  | error failure => rfl

theorem attemptOf_number (number : Nat) (ended : Except Failure Report) :
    (attemptOf number ended).number = number := by
  cases ended <;> rfl

theorem attemptOf_strategy (number : Nat) (ended : Except Failure Report) :
    (attemptOf number ended).strategy = .full := by
  cases ended <;> rfl

theorem madeBefore_succ (n : Nat) :
    madeBefore r delay contracts s (n + 1) = madeBefore r delay contracts s n ++
      [attemptOf (n + 1) (judged r.platform (tried r delay contracts s n))] := by
  unfold madeBefore
  rw [List.range_succ, List.map_append, List.map_singleton]

theorem strategy_of_mem_madeBefore {n : Nat} {a : Attempt}
    (h : a ∈ madeBefore r delay contracts s n) : a.strategy = .full := by
  obtain ⟨i, -, rfl⟩ := List.mem_map.mp h
  exact attemptOf_strategy ..

theorem exists_number_iff (n number : Nat) :
    (∃ a ∈ madeBefore r delay contracts s n, a.number = number + 1) ↔ number < n := by
  unfold madeBefore
  simp only [List.mem_map, List.mem_range, exists_exists_and_eq_and, attemptOf_number,
    Nat.add_right_cancel_iff, exists_eq_right]

theorem attempts_trailBefore (n : Nat) :
    (trailBefore r delay contracts s n).attempts = madeBefore r delay contracts s n := by
  induction n with
  | zero => rfl
  | succ n ih =>
      rw [trailBefore, Trail.scheduled_attempts, Trail.noted_attempts, ih, madeBefore_succ]

theorem events_trailBefore (n : Nat) :
    (trailBefore r delay contracts s n).events =
      (madeBefore r delay contracts s n).flatMap fun a => a.failing ++ retrying delay a := by
  induction n with
  | zero => rfl
  | succ n ih =>
      rw [trailBefore, Trail.scheduled_events, Trail.noted_events, ih, madeBefore_succ,
        List.flatMap_append, List.flatMap_singleton, List.append_assoc]

/-- Of all attempts that are made the last one alone has no next attempt announced behind it. -/
theorem announced_madeBefore_succ (n : Nat) :
    announced delay (madeBefore r delay contracts s (n + 1)) =
      ((madeBefore r delay contracts s n).flatMap fun a => a.failing ++ retrying delay a) ++
        (attemptOf (n + 1) (judged r.platform (tried r delay contracts s n))).failing := by
  have hnext (number : Nat) := exists_number_iff r delay contracts s (n + 1) number
  unfold announced
  simp only [hnext]
  rw [madeBefore_succ, List.flatMap_append, List.flatMap_singleton, attemptOf_number]
  congr 1
  -- The attempt at place `i` has the number `i + 1`, so the next one is made unless `i` is `n`.
  · refine List.flatMap_congr fun a ha => ?_
    obtain ⟨i, hi, rfl⟩ := List.mem_map.mp ha
    rw [attemptOf_number, if_pos (Nat.succ_lt_succ (List.mem_range.mp hi))]
  · rw [if_neg (Nat.lt_irrefl _), List.append_nil]

theorem attempts_trailAfter (n : Nat) :
    (trailAfter r delay contracts s n).attempts = madeBefore r delay contracts s (n + 1) := by
  rw [trailAfter, Trail.noted_attempts, attempts_trailBefore, madeBefore_succ]

theorem events_trailAfter (n : Nat) :
    (trailAfter r delay contracts s n).events =
      announced delay (madeBefore r delay contracts s (n + 1)) := by
  rw [trailAfter, Trail.noted_events, events_trailBefore, announced_madeBefore_succ]

variable {r delay contracts s} {maxAttempts : Int} {n : Nat}

theorem LastAttempt.failed_earlier (h : LastAttempt r delay contracts s maxAttempts n) :
    ∀ a ∈ madeBefore r delay contracts s n, a.success = false := by
  intro a ha
  obtain ⟨i, hi, rfl⟩ := List.mem_map.mp ha
  obtain ⟨failure, hmeets, -⟩ := h.earlier i (List.mem_range.mp hi)
  rw [judged_eq_error_iff.mpr hmeets]
  rfl

/-- If the last attempt fails as well, the whole trail is one without success. -/
theorem LastAttempt.failed_trailAfter (h : LastAttempt r delay contracts s maxAttempts n)
    {cause : Failure} (hcause : judged r.platform (tried r delay contracts s n) = .error cause) :
    (trailAfter r delay contracts s n).Failed := by
  intro a ha
  rw [attempts_trailAfter, madeBefore_succ, hcause] at ha
  rcases List.mem_append.mp ha with hearlier | hlast
  · exact h.failed_earlier a hearlier
  · rw [List.mem_singleton.mp hlast]
    rfl

theorem LastAttempt.coherent_trailAfter (h : LastAttempt r delay contracts s maxAttempts n) :
    Coherent delay (madeBefore r delay contracts s (n + 1)) (trailAfter r delay contracts s n)
      .full where
  full := by
    rw [attempts_trailAfter, List.filter_eq_self]
    exact fun a ha => decide_eq_true (strategy_of_mem_madeBefore r delay contracts s ha)
  numbered := by
    rw [attempts_trailAfter]
    unfold madeBefore
    rw [List.map_map, List.length_map, List.length_range, List.range'_eq_map_range]
    refine List.map_congr_left fun i _ => ?_
    rw [Function.comp_apply, attemptOf_number, Nat.add_comm]
  ordered := by
    rw [attempts_trailAfter, List.pairwise_map]
    refine List.pairwise_of_forall_mem_list fun a ha b hb => .inr ⟨?_, ?_⟩
    · exact strategy_of_mem_madeBefore r delay contracts s ha
    · exact strategy_of_mem_madeBefore r delay contracts s hb
  failed := by
    rw [attempts_trailAfter, madeBefore_succ, List.dropLast_concat]
    exact h.failed_earlier
  last := by
    rw [attempts_trailAfter, madeBefore_succ, List.getLast?_concat, Option.map_some,
      attemptOf_strategy]
  events := by
    refine ⟨[], ?_, .none, iff_of_true rfl rfl⟩
    rw [events_trailAfter, List.append_nil]

end Attempts

/-! ## Reports -/

section Reports

variable {delay : Number} {fulls : List Attempt} {trail : Trail} {way : Strategy}

/-- Two records that hold the same value, each under a name of its own. -/
def SameField (fields : List (String × Json)) (name : String) (others : List (String × Json))
    (other : String) : Prop :=
  ∃ v, Json.lookup name fields = some v ∧ Json.lookup other others = some v

/-- An event that says of a traced report what the report says of itself. -/
structure Agrees (e : Event) (t : TracedReport) : Prop where
  strategy : SameField e.fields "strategy" t.fields "fallback_strategy"
  degradation : SameField e.fields "degradation_level" t.fields "degradation_level"
  success : SameField e.fields "success" t.fields "success"

/-- A traced report and the events behind it, with the attempts at a full review that they tell
of. -/
structure Told (delay : Number) (fulls : List Attempt) (t : TracedReport) (events : List Event) :
    Prop where
  coherent : ∃ earlier, events = earlier ++ [.completed t.strategy t.report.success] ∧
    Coherent delay fulls ⟨t.attempts, earlier⟩ t.strategy
  agrees : Agrees (.completed t.strategy t.report.success) t
  total : t.strategy ≠ .full → ∃ details analysis, t.report.details = some details ∧
    Json.lookup "fallback_analysis" details = some analysis ∧
    analysis.field "total_attempts" = .num (.int t.attempts.length)

theorem agrees_completed (t : TracedReport) :
    Agrees (.completed t.strategy t.report.success) t where
  strategy := ⟨_, rfl, rfl⟩
  degradation := ⟨_, rfl, rfl⟩
  success := ⟨_, rfl, rfl⟩

theorem Coherent.told_finish (h : Coherent delay fulls trail way) (report : Report)
    (cause : Option Failure) :
    Told delay fulls (finish report way trail cause).1 (finish report way trail cause).2 where
  coherent := ⟨trail.events, rfl, h⟩
  agrees := agrees_completed _
  total := by
    intro hlesser
    -- The analysis is found among the details, whatever the report itself has there.
    have hfound (analysis : Json) := Json.lookup_insert "fallback_analysis" analysis
      (report.details.getD [])
    have hfilled (analysis : Json) :
        Json.insert "fallback_analysis" analysis (report.details.getD []) ≠ [] := by
      intro hnil
      have hnone := hfound analysis
      rw [hnil] at hnone
      cases hnone
    cases way with
    | full => exact absurd rfl hlesser
    | modelsOnly | checksOnly | minimal =>
        refine ⟨_, _, if_neg ?_, hfound _, rfl⟩
        exact fun hempty => hfilled _ (List.isEmpty_iff.mp hempty)

end Reports

/-! ## Lesser ways -/

section Degrading

variable (r : Reviewer σ) (policy : FallbackPolicy) (focusAreas : Option (List String))
variable (contracts : List Contract) (cause : Failure)

theorem adds_tryModels (trail : Trail) (s : σ) :
    Adds .modelsOnly trail (tryModels r focusAreas contracts cause trail s).1.1
      (tryModels r focusAreas contracts cause trail s).1.2 := by
  unfold tryModels
  rcases (r.consult contracts focusAreas).run s with ⟨fault | found, s'⟩
  · exact ⟨_, rfl, rfl, rfl, rfl⟩
  · dsimp only
    split
    · exact ⟨_, rfl, rfl, rfl, rfl⟩
    · exact ⟨_, rfl, rfl, rfl, rfl⟩

theorem adds_tryChecks (trail : Trail) (s : σ) :
    Adds .checksOnly trail (tryChecks r contracts cause trail s).1.1
      (tryChecks r contracts cause trail s).1.2 := by
  unfold tryChecks
  rcases (checkAll r contracts {}).run s with ⟨fault | found, s'⟩
  · exact ⟨_, rfl, rfl, rfl, rfl⟩
  · exact ⟨_, rfl, rfl, rfl, rfl⟩

variable {delay : Number} {fulls : List Attempt} {trail : Trail} {way : Strategy}

/-- What can always be said ends a trail that has come to nothing else. -/
theorem Coherent.told_minimal (h : Coherent delay fulls trail way) (hfailed : trail.Failed)
    (hway : way.rank < Strategy.minimal.rank) (reason : String) :
    let last := trail.announce (.fellBack trail.lastStrategy .minimal reason cause.code)
    let done := finish (minimalReport contracts cause) .minimal
      (last.attempt ⟨last.next, .minimal, true, none, some reason⟩) (some cause)
    Told delay fulls done.1 done.2 := by
  intro last done
  have hadds : Adds .minimal (trail.announce (.fellBack way .minimal reason cause.code))
      (some (minimalReport contracts cause))
      (last.attempt ⟨last.next, .minimal, true, none, some reason⟩) := by
    rw [← h.lastStrategy]
    exact ⟨_, rfl, rfl, rfl, rfl⟩
  exact (h.fall hfailed hway hadds).told_finish _ _

theorem Coherent.told_degradeFurther (h : Coherent delay fulls trail way) (hfailed : trail.Failed)
    (hway : way.rank < Strategy.checksOnly.rank) (s : σ) :
    Told delay fulls (degradeFurther r policy contracts cause way trail s).1.1
      (degradeFurther r policy contracts cause way trail s).1.2 := by
  unfold degradeFurther
  by_cases huse : policy.useChecks = true
  · rw [if_pos huse]
    have hadds := adds_tryChecks r contracts cause
      (trail.announce (.fellBack way .checksOnly "Full analysis unavailable" cause.code)) s
    have hnext := h.fall hfailed hway hadds
    -- The trail with the attempt at the checks is coherent, whether they come to a report or not.
    rcases hdone : tryChecks r contracts cause _ s with ⟨⟨_ | report, next⟩, s'⟩ <;>
      rw [hdone] at hadds hnext
    · exact hnext.told_minimal contracts cause (hadds.failed hfailed) (by decide) _
    · exact hnext.told_finish report (some cause)
  · rw [if_neg huse]
    exact h.told_minimal contracts cause hfailed (hway.trans (by decide)) _

theorem Coherent.told_degrade (h : Coherent delay fulls trail .full) (hfailed : trail.Failed)
    (s : σ) :
    Told delay fulls (degrade r policy focusAreas contracts cause trail s).1.1
      (degrade r policy focusAreas contracts cause trail s).1.2 := by
  unfold degrade
  by_cases huse : policy.useModels = true
  · simp only [if_pos huse]
    have hadds := adds_tryModels r focusAreas contracts cause
      (trail.announce (.fellBack .full .modelsOnly "Primary analysis failed" cause.code)) s
    have hnext := h.fall hfailed (by decide) hadds
    rcases hdone : tryModels r focusAreas contracts cause _ s with ⟨⟨_ | report, next⟩, s'⟩ <;>
      rw [hdone] at hadds hnext
    · exact hnext.told_degradeFurther r policy contracts cause (hadds.failed hfailed) (by decide) s'
    · exact hnext.told_finish report (some cause)
  · simp only [if_neg huse]
    exact h.told_degradeFurther r policy contracts cause hfailed (by decide) s

end Degrading

/-! ## Reviews -/

/-- A review whose last attempt is the one at place `n` tells of that and the earlier ones. -/
theorem LastAttempt.told_concluded {r : Reviewer σ} {policy : FallbackPolicy}
    {contracts : List Contract} {s : σ} {n : Nat}
    (h : LastAttempt r policy.retryDelay contracts s policy.maxAttempts n)
    {focusAreas : Option (List String)} {t : TracedReport} {events : List Event}
    (hdone : (concluded r policy focusAreas contracts (trailAfter r policy.retryDelay contracts s n)
      (after r policy.retryDelay contracts s n)
      (judged r.platform (tried r policy.retryDelay contracts s n))).1 = (t, events)) :
    Told policy.retryDelay (madeBefore r policy.retryDelay contracts s (n + 1)) t events := by
  have hcoherent := h.coherent_trailAfter
  cases hend : judged r.platform (tried r policy.retryDelay contracts s n) with
  | ok report =>
      have htold := hcoherent.told_finish report none
      rw [hend] at hdone
      change finish report .full _ none = (t, events) at hdone
      rwa [hdone] at htold
  | error cause =>
      have htold := hcoherent.told_degrade r policy focusAreas contracts cause
        (h.failed_trailAfter hend) (after r policy.retryDelay contracts s n)
      rw [hend] at hdone
      change (degrade r policy focusAreas contracts cause _ _).1 = (t, events) at hdone
      rwa [hdone] at htold

/-- Every review that ends tells coherently of its attempts and of the ways that it fell back to,
and it ends unless it breaks off at a pause that has outgrown all doubles. -/
theorem told_unless_outgrown (r : Reviewer σ) (policy : FallbackPolicy)
    (hmax : policy.maxAttempts ≤ 1024) (focusAreas : Option (List String))
    (contracts : List Contract) (s : σ) :
    (∀ t events s', review r policy focusAreas contracts s = (.ok (t, events), s') →
      ∃ n, LastAttempt r policy.retryDelay contracts s policy.maxAttempts n ∧
        Told policy.retryDelay (madeBefore r policy.retryDelay contracts s (n + 1)) t events) ∧
    ((∃ t events s', review r policy focusAreas contracts s = (.ok (t, events), s')) ↔
      ∀ n, ¬ BreaksOff r policy.retryDelay contracts s policy.maxAttempts n) := by
  rcases review_eq r policy hmax focusAreas contracts s with ⟨n, hlast, heq⟩ | ⟨n, hbreak, heq⟩
  · rw [heq]
    refine ⟨?_, iff_of_true ⟨_, _, _, rfl⟩ fun m hm => hm.not_lastAttempt hlast⟩
    intro t events s' hends
    exact ⟨n, hlast, hlast.told_concluded (Except.ok.inj (congrArg Prod.fst hends))⟩
  · rw [heq]
    refine ⟨?_, iff_of_false ?_ fun hnone => hnone n hbreak⟩
    · rintro t events s' ⟨⟩
    · rintro ⟨t, events, s', ⟨⟩⟩

/-- With a huge delay the review of a tool that is always too slow has no end to tell of. With the
usual one its attempts are counted through, and the last event tells of its report. -/
theorem told_slowReviewer :
    (∀ t events s', review slowReviewer hugeDelay none [] [] ≠ (.ok (t, events), s')) ∧
    ∃ t events s', review slowReviewer {} none [] [] = (.ok (t, events), s') ∧
      t.attempts.map Attempt.number = List.range' 1 t.attempts.length ∧
      events.getLast? = some (.completed t.strategy t.report.success) := by
  constructor
  · obtain ⟨-, hends⟩ := told_unless_outgrown slowReviewer hugeDelay (by decide) none [] []
    have hlarge : Double.limit ≤ (Nat.pow 10 309 : Int).natAbs * 2 ^ 0 := by decide +kernel
    intro t events s' heq
    exact hends.mp ⟨t, events, s', heq⟩ 0 {
      allowed := by decide
      passing := fun i _ => ⟨slow, .raised (.own slow), rfl⟩
      paused := fun i hi => absurd hi (Nat.not_lt_zero i)
      outgrown := ⟨_, rfl, hlarge⟩ }
  · obtain ⟨htold, hends⟩ := told_unless_outgrown slowReviewer {} (by decide) none [] []
    obtain ⟨t, events, s', heq⟩ := hends.mpr fun m hm => by
      obtain ⟨d, hd, -⟩ := hm.outgrown
      cases hd
    obtain ⟨n, -, htold⟩ := htold t events s' heq
    obtain ⟨earlier, hevents, hcoherent⟩ := htold.coherent
    refine ⟨t, events, s', heq, hcoherent.numbered, ?_⟩
    rw [hevents, List.getLast?_concat]

end Fallback

end ContractReview
