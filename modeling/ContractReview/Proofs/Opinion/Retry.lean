import ContractReview.Opinion.Retry
import ContractReview.Proofs.Number.Whole

/-!
What a call with retries does, whatever its surroundings: which tries it makes, what it asks for
before them and between them, and what it comes to. Only a pause that has outgrown all doubles
breaks it off.
-/

namespace ContractReview

/-! ## Numbers beyond all doubles -/

namespace Number

/-- A whole number that no double can hold. -/
def Outgrown : Number → Prop
  | .int i => Double.limit ≤ i.natAbs
  | .float _ => False

theorem toFloat?_eq_none_iff (a : Number) : a.toFloat? = none ↔ a.Outgrown := by
  cases a with
  | int i => exact Double.ofInt?_eq_none_iff i
  | float x => simp [toFloat?, Outgrown]

theorem toFloat_eq_of_toFloat? {a : Number} {x : Float} (h : a.toFloat? = some x) :
    a.toFloat = x := by
  cases a with
  | int i =>
      change (Double.ofInt? i).getD _ = x
      rw [show Double.ofInt? i = some x from h]
      rfl
  | float y => exact Option.some.inj h

/-- A number within the doubles grows, unless it is a double and its factor is none. -/
theorem mul?_eq_some_mul {a b : Number} (ha : ¬ a.Outgrown)
    (hb : (∃ x, a = .float x) → ¬ b.Outgrown) : a.mul? b = some (a.mul b) := by
  have hdoubles (hb : ¬ b.Outgrown) :
      ∃ x y, a.toFloat? = some x ∧ b.toFloat? = some y ∧ a.toFloat = x ∧ b.toFloat = y := by
    rw [← toFloat?_eq_none_iff] at ha hb
    obtain ⟨x, hx⟩ := Option.ne_none_iff_exists'.mp ha
    obtain ⟨y, hy⟩ := Option.ne_none_iff_exists'.mp hb
    exact ⟨x, y, hx, hy, toFloat_eq_of_toFloat? hx, toFloat_eq_of_toFloat? hy⟩
  cases a with
  | float x =>
      obtain ⟨x', y, hx, hy, hx', hy'⟩ := hdoubles (hb ⟨x, rfl⟩)
      simp only [mul?, mul, hx, hy, hx', hy']
  | int i =>
      cases b with
      | int j => rfl
      | float y =>
          obtain ⟨x, y', hx, hy, hx', hy'⟩ := hdoubles not_false
          simp only [mul?, mul, hx, hy, hx', hy']

theorem mul?_eq_none_of_outgrown (x : Float) {b : Number} (hb : b.Outgrown) :
    (Number.float x).mul? b = none := by
  have hnone := (toFloat?_eq_none_iff b).mpr hb
  simp only [mul?, hnone]
  rfl

end Number

namespace RetryPolicy

/-! ## Deeds -/

/-- What a run asks of its surroundings. -/
inductive Deed
  | permit | call | pause (time : Number)
deriving DecidableEq

variable {σ α : Type}

/-- What is left of the surroundings after some deeds. -/
def play (around : Surroundings σ α) : List Deed → σ → σ
  | [], s => s
  | .permit :: rest, s => play around rest (around.permit s)
  | .call :: rest, s => play around rest (around.call s).2
  | .pause time :: rest, s => play around rest (around.pause time s)

theorem play_append (around : Surroundings σ α) (first second : List Deed) (s : σ) :
    play around (first ++ second) s = play around second (play around first s) := by
  induction first generalizing s with
  | nil => rfl
  | cons deed rest ih =>
      cases deed with
      | permit | call | pause time => exact ih _

/-- The pause behind the try at a place, which grows from one to the next. -/
def pauseAt (policy : RetryPolicy) : Nat → Number
  | 0 => policy.initialBackoff
  | i + 1 => (policy.pauseAt i).mul policy.factor

/-- Whole numbers grow exactly. -/
theorem pauseAt_whole {policy : RetryPolicy} {d f : Int} (hinitial : policy.initialBackoff = .int d)
    (hfactor : policy.factor = .int f) (i : Nat) : policy.pauseAt i = .int (d * f ^ i) := by
  induction i with
  | zero => rw [pow_zero, mul_one, pauseAt, hinitial]
  | succ i ih => rw [pauseAt, ih, hfactor, Number.mul, pow_succ, mul_assoc]

/-- The tries before a place, with a pause behind each of them. -/
def rounds (policy : RetryPolicy) (n : Nat) : List Deed :=
  (List.range n).flatMap fun i => [.permit, .call, .pause (policy.pauseAt i)]

/-- The tries up to a place, with the pauses between them. -/
def tries (policy : RetryPolicy) (n : Nat) : List Deed := policy.rounds n ++ [.permit, .call]

theorem rounds_succ (policy : RetryPolicy) (n : Nat) :
    policy.rounds (n + 1) = policy.tries n ++ [.pause (policy.pauseAt n)] := by
  unfold tries rounds
  rw [List.range_succ, List.flatMap_append, List.append_assoc]
  rfl

/-! ## Single tries -/

/-- An outcome that may be better next time. -/
def Passing : Except Fault α → Prop
  | .ok _ => False
  | .error fault => fault.mayPass = true

/-- What the last outcome comes to. -/
def concluded (policy : RetryPolicy) : Except Fault α → Except Fault α
  | .ok a => .ok a
  | .error fault =>
      .error (if fault.mayPass then .retriesExceeded policy.maxRetries fault else fault)

theorem concluded_of_not_passing (policy : RetryPolicy) {ended : Except Fault α}
    (h : ¬ Passing ended) : policy.concluded ended = ended := by
  cases ended with
  | ok a => rfl
  | error fault => exact congrArg Except.error (if_neg h)

/-- A fault is told as the last one exactly when it may pass. -/
theorem concluded_eq_exceeded_iff (policy : RetryPolicy) (ended : Except Fault α) :
    (∃ last, ended = .error last ∧
      policy.concluded ended = .error (.retriesExceeded policy.maxRetries last)) ↔
      Passing ended := by
  constructor
  · rintro ⟨last, rfl, hconcluded⟩
    by_contra hnot
    rw [concluded_of_not_passing policy hnot] at hconcluded
    -- A fault that tells of itself as the last one would be smaller than itself.
    have hsize := congrArg sizeOf (Except.error.inj hconcluded)
    rw [Fault.retriesExceeded.sizeOf_spec] at hsize
    omega
  · intro hpassing
    cases ended with
    | ok a => exact hpassing.elim
    | error fault => exact ⟨fault, rfl, congrArg Except.error (if_pos hpassing)⟩

section Tries

variable (policy : RetryPolicy) (around : Surroundings σ α) (backoff : Number) (s : σ)

theorem attempts_zero :
    policy.attempts around 0 backoff s =
      (policy.concluded (around.call (around.permit s)).1,
        (around.call (around.permit s)).2) := by
  unfold attempts concluded
  rcases around.call (around.permit s) with ⟨fault | a, s'⟩
  · dsimp only
    split <;> rfl
  · rfl

theorem attempts_of_not_passing (left : Nat)
    (h : ¬ Passing (around.call (around.permit s)).1) :
    policy.attempts around left backoff s = around.call (around.permit s) := by
  unfold attempts
  rcases hcall : around.call (around.permit s) with ⟨fault | a, s'⟩
  · rw [hcall] at h
    exact if_neg h
  · rfl

/-- Behind a try that may be better next time there is a pause, and the next try. -/
theorem attempts_of_passing (left : Nat)
    (h : Passing (around.call (around.permit s)).1) :
    policy.attempts around (left + 1) backoff s =
      match backoff.toFloat?, backoff.mul? policy.factor with
      | none, _ => (.error .wholeTooLarge, (around.call (around.permit s)).2)
      | some _, none =>
          (.error .wholeTooLarge, around.pause backoff (around.call (around.permit s)).2)
      | some _, some grown =>
          policy.attempts around left grown
            (around.pause backoff (around.call (around.permit s)).2) := by
  rw [attempts]
  rcases hcall : around.call (around.permit s) with ⟨fault | a, s'⟩
  · rw [hcall] at h
    have hpass : fault.mayPass = true := h
    simp only [hpass, ↓reduceIte]
    cases backoff.toFloat? with
    | none => rfl
    | some x => cases backoff.mul? policy.factor <;> rfl
  · rw [hcall] at h
    exact h.elim

end Tries

/-- However often a call is tried again, it ends as one of its tries did, or tells of the last. Only
a pause that cannot be kept or cannot grow breaks it off behind a try. -/
theorem attempts_induction (policy : RetryPolicy) (around : Surroundings σ α)
    {P : Except Fault α → Prop} (hcall : ∀ s, P (around.call s).1)
    (hlast : ∀ s last, (around.call s).1 = .error last →
      P (.error (.retriesExceeded policy.maxRetries last)))
    (hbroken : ∀ s last, (around.call s).1 = .error last → P (.error .wholeTooLarge))
    (left : Nat) (backoff : Number) (s : σ) : P (policy.attempts around left backoff s).1 := by
  induction left generalizing backoff s with
  | zero =>
      rw [attempts_zero]
      by_cases hpassing : Passing (around.call (around.permit s)).1
      · obtain ⟨last, hended, hconcluded⟩ := (concluded_eq_exceeded_iff policy _).mpr hpassing
        rw [hconcluded]
        exact hlast _ last hended
      · rw [concluded_of_not_passing policy hpassing]
        exact hcall _
  | succ left ih =>
      by_cases hpassing : Passing (around.call (around.permit s)).1
      · obtain ⟨last, hended, -⟩ := (concluded_eq_exceeded_iff policy _).mpr hpassing
        rw [attempts_of_passing _ _ _ _ _ hpassing]
        cases backoff.toFloat? with
        | none => exact hbroken _ last hended
        | some x =>
            cases backoff.mul? policy.factor with
            | none => exact hbroken _ last hended
            | some grown => exact ih _ _
      · rw [attempts_of_not_passing _ _ _ _ _ hpassing]
        exact hcall _

/-- Calls that come to the same in all surroundings are tried to the same end. -/
theorem attempts_congr (policy : RetryPolicy) {around : Surroundings σ α}
    (h : ∀ s s', (around.call s).1 = (around.call s').1) (left : Nat) (backoff : Number)
    (s s' : σ) :
    (policy.attempts around left backoff s).1 = (policy.attempts around left backoff s').1 := by
  have hsame := h (around.permit s) (around.permit s')
  induction left generalizing backoff s s' with
  | zero =>
      rw [attempts_zero, attempts_zero]
      exact congrArg policy.concluded hsame
  | succ left ih =>
      by_cases hpassing : Passing (around.call (around.permit s)).1
      · rw [attempts_of_passing _ _ _ _ _ hpassing,
          attempts_of_passing _ _ _ _ _ (hsame ▸ hpassing)]
        cases backoff.toFloat? with
        | none => rfl
        | some x =>
            cases backoff.mul? policy.factor with
            | none => rfl
            | some grown => exact ih _ _ _ (h _ _)
      · rw [attempts_of_not_passing _ _ _ _ _ hpassing,
          attempts_of_not_passing _ _ _ _ _ (hsame ▸ hpassing)]
        exact hsame

/-! ## Runs -/

section Runs

variable (policy : RetryPolicy) (around : Surroundings σ α) (s : σ)

/-- What the call at a place comes back with, when all before it are tried again. -/
def outcomeAt (i : Nat) : Except Fault α :=
  (around.call (around.permit (play around (policy.rounds i) s))).1

/-- The pause behind a try cannot be kept, or cannot grow. -/
def Stuck (i : Nat) : Prop :=
  (policy.pauseAt i).Outgrown ∨ ((∃ x, policy.pauseAt i = .float x) ∧ policy.factor.Outgrown)

/-- The try at a place is made: all before it may be better next time, and the pauses go on. -/
structure Reached (n : Nat) : Prop where
  allowed : (n : Int) ≤ policy.maxRetries
  passing : ∀ i < n, Passing (policy.outcomeAt around s i)
  paused : ∀ i < n, ¬ policy.Stuck i

/-- The place of the last try: the first outcome that is not worth another try, if there are tries
enough. -/
structure LastTry (n : Nat) : Prop extends Reached policy around s n where
  last : (n : Int) = policy.maxRetries ∨ ¬ Passing (policy.outcomeAt around s n)

/-- Another try is due behind the one at a place, and the pause before it breaks the run off: before
it begins, or behind it. -/
inductive BreaksOff (n : Nat) : List Deed → Prop
  | before : Reached policy around s n → (n : Int) < policy.maxRetries →
      Passing (policy.outcomeAt around s n) → (policy.pauseAt n).Outgrown →
      BreaksOff n (policy.tries n)
  | behind {x : Float} : Reached policy around s n → (n : Int) < policy.maxRetries →
      Passing (policy.outcomeAt around s n) → policy.pauseAt n = .float x →
      policy.factor.Outgrown → BreaksOff n (policy.tries n ++ [.pause (policy.pauseAt n)])

variable {policy around s} {m n : Nat} {deeds : List Deed}

theorem Reached.of_le (h : Reached policy around s n) (hm : m ≤ n) : Reached policy around s m where
  allowed := (Int.ofNat_le.mpr hm).trans h.allowed
  passing i hi := h.passing i (hi.trans_le hm)
  paused i hi := h.paused i (hi.trans_le hm)

theorem reached_zero (hretries : 0 ≤ policy.maxRetries) : Reached policy around s 0 where
  allowed := hretries
  passing i hi := absurd hi i.not_lt_zero
  paused i hi := absurd hi i.not_lt_zero

theorem LastTry.not_reached (h : LastTry policy around s n) :
    ¬ Reached policy around s (n + 1) := by
  intro hnext
  have hallowed := hnext.allowed
  rcases h.last with hlast | hlast
  · omega
  · exact hlast (hnext.passing n (Nat.lt_succ_self n))

theorem BreaksOff.reached (h : BreaksOff policy around s n deeds) : Reached policy around s n := by
  cases h with
  | before hreached => exact hreached
  | behind hreached => exact hreached

theorem BreaksOff.stuck (h : BreaksOff policy around s n deeds) : policy.Stuck n := by
  cases h with
  | before _ _ _ hpause => exact .inl hpause
  | behind _ _ _ hpause hfactor => exact .inr ⟨⟨_, hpause⟩, hfactor⟩

theorem BreaksOff.not_lastTry (h : BreaksOff policy around s n deeds) :
    ¬ LastTry policy around s m := by
  intro hlast
  rcases Nat.lt_trichotomy m n with hlt | rfl | hgt
  · exact hlast.not_reached (h.reached.of_le hlt)
  · cases h with
    | before _ hmore hpassing | behind _ hmore hpassing =>
        rcases hlast.last with heq | hnot
        · omega
        · exact hnot hpassing
  · exact hlast.paused n hgt h.stuck

theorem LastTry.eq (hm : LastTry policy around s m) (hn : LastTry policy around s n) : m = n := by
  rcases Nat.lt_trichotomy m n with hlt | heq | hgt
  · exact absurd (hn.toReached.of_le hlt) hm.not_reached
  · exact heq
  · exact absurd (hm.toReached.of_le hgt) hn.not_reached

theorem exists_breaksOff (hreached : Reached policy around s n)
    (hmore : (n : Int) < policy.maxRetries) (hpassing : Passing (policy.outcomeAt around s n))
    (hstuck : policy.Stuck n) : ∃ deeds, BreaksOff policy around s n deeds := by
  rcases hstuck with hpause | ⟨⟨x, hpause⟩, hfactor⟩
  · exact ⟨_, .before hreached hmore hpassing hpause⟩
  · exact ⟨_, .behind hreached hmore hpassing hpause hfactor⟩

/-- A run that does not break off has a last try: the tries do not go on for ever. -/
theorem exists_lastTry (hretries : 0 ≤ policy.maxRetries)
    (hnone : ∀ n deeds, ¬ BreaksOff policy around s n deeds) : ∃ n, LastTry policy around s n := by
  by_contra hnot
  -- Each try would lead on to the next one, past the number of retries.
  have hall (n : Nat) : Reached policy around s n := by
    induction n with
    | zero => exact reached_zero hretries
    | succ n ih =>
        have hgoes : (n : Int) ≠ policy.maxRetries ∧ Passing (policy.outcomeAt around s n) := by
          by_contra hstop
          rw [not_and_or, not_not] at hstop
          exact hnot ⟨n, ih, hstop⟩
        obtain ⟨hmore, hpassing⟩ := hgoes
        have hmore : (n : Int) < policy.maxRetries := lt_of_le_of_ne ih.allowed hmore
        have hpaused : ¬ policy.Stuck n := by
          intro hstuck
          obtain ⟨deeds, hbreaks⟩ := exists_breaksOff ih hmore hpassing hstuck
          exact hnone n deeds hbreaks
        refine ⟨by omega, fun i hi => ?_, fun i hi => ?_⟩
        · rcases Nat.lt_succ_iff_lt_or_eq.mp hi with hi | rfl
          · exact ih.passing i hi
          · exact hpassing
        · rcases Nat.lt_succ_iff_lt_or_eq.mp hi with hi | rfl
          · exact ih.paused i hi
          · exact hpaused
  have hover := (hall (policy.maxRetries.toNat + 1)).allowed
  omega

/-- A try that is made finds the surroundings as the rounds before it leave them. -/
theorem run_of_reached (h : Reached policy around s n) :
    policy.run around s = policy.attempts around (policy.maxRetries.toNat - n) (policy.pauseAt n)
      (play around (policy.rounds n) s) := by
  induction n with
  | zero =>
      have hnonneg : ¬ policy.maxRetries < 0 := Int.not_lt.mpr h.allowed
      unfold run
      rw [if_neg hnonneg]
      rfl
  | succ n ih =>
      have hallowed := h.allowed
      have hleft : policy.maxRetries.toNat - n = (policy.maxRetries.toNat - (n + 1)) + 1 := by omega
      have hpaused := not_or.mp (h.paused n (Nat.lt_succ_self n))
      obtain ⟨x, hx⟩ := Option.ne_none_iff_exists'.mp
        (hpaused.1 ∘ (Number.toFloat?_eq_none_iff _).mp)
      have hgrown : (policy.pauseAt n).mul? policy.factor = some (policy.pauseAt (n + 1)) :=
        Number.mul?_eq_some_mul hpaused.1 fun hfloat hfactor => hpaused.2 ⟨hfloat, hfactor⟩
      rw [ih (h.of_le n.le_succ), hleft,
        attempts_of_passing _ _ _ _ _ (h.passing n (Nat.lt_succ_self n)), hx, hgrown, rounds_succ,
        tries, play_append, play_append]
      rfl

theorem play_tries (policy : RetryPolicy) (around : Surroundings σ α) (s : σ) (n : Nat) :
    play around (policy.tries n) s =
      (around.call (around.permit (play around (policy.rounds n) s))).2 :=
  play_append around _ _ s

theorem run_of_lastTry (h : LastTry policy around s n) :
    policy.run around s =
      (policy.concluded (policy.outcomeAt around s n), play around (policy.tries n) s) := by
  rw [run_of_reached h.toReached, play_tries]
  by_cases hpassing : Passing (policy.outcomeAt around s n)
  · have hlast := h.last.resolve_right (not_not.mpr hpassing)
    have hleft : policy.maxRetries.toNat - n = 0 := by omega
    rw [hleft]
    exact attempts_zero policy around _ _
  · rw [concluded_of_not_passing policy hpassing]
    exact attempts_of_not_passing policy around _ _ _ hpassing

theorem run_of_breaksOff (h : BreaksOff policy around s n deeds) :
    policy.run around s = (.error .wholeTooLarge, play around deeds s) := by
  rw [run_of_reached h.reached]
  cases h with
  | before hreached hmore hpassing hpause =>
      have hleft : policy.maxRetries.toNat - n = (policy.maxRetries.toNat - (n + 1)) + 1 := by omega
      rw [hleft, attempts_of_passing _ _ _ _ _ hpassing,
        (Number.toFloat?_eq_none_iff _).mpr hpause, play_tries]
  | behind hreached hmore hpassing hpause hfactor =>
      have hleft : policy.maxRetries.toNat - n = (policy.maxRetries.toNat - (n + 1)) + 1 := by omega
      rw [hleft, attempts_of_passing _ _ _ _ _ hpassing, play_append, play_tries, hpause,
        Number.mul?_eq_none_of_outgrown _ hfactor]
      rfl

/-- A pause that begins as a double stays one. -/
theorem pauseAt_of_float {x : Float} (h : policy.initialBackoff = .float x) (i : Nat) :
    ∃ y, policy.pauseAt i = .float y := by
  induction i with
  | zero => exact ⟨x, h⟩
  | succ i ih =>
      obtain ⟨y, hy⟩ := ih
      refine ⟨y * policy.factor.toFloat, ?_⟩
      rw [pauseAt, hy]
      cases policy.factor <;> rfl

theorem not_breaksOff_of_float {x : Float} (h : policy.initialBackoff = .float x)
    (hfactor : ¬ policy.factor.Outgrown) : ¬ BreaksOff policy around s n deeds := by
  intro hbreaks
  obtain ⟨y, hy⟩ := pauseAt_of_float h n
  rcases hbreaks.stuck with hpause | ⟨-, hlarge⟩
  · rw [hy] at hpause
    exact hpause
  · exact hfactor hlarge

/-- What a call with retries does. -/
structure Retried (policy : RetryPolicy) (around : Surroundings σ α) (s : σ) : Prop where
  settled : ∀ n, LastTry policy around s n → policy.run around s =
    (policy.concluded (policy.outcomeAt around s n), play around (policy.tries n) s)
  exceeded : ∀ n, LastTry policy around s n →
    ((∃ last, policy.outcomeAt around s n = .error last ∧
        (policy.run around s).1 = .error (.retriesExceeded policy.maxRetries last)) ↔
      (n : Int) = policy.maxRetries ∧ ∀ i ≤ n, Passing (policy.outcomeAt around s i))
  broken : ∀ n deeds, BreaksOff policy around s n deeds →
    policy.run around s = (.error .wholeTooLarge, play around deeds s)
  ends : (∀ n deeds, ¬ BreaksOff policy around s n deeds) → ∃! n, LastTry policy around s n
  apart : ∀ m n deeds, BreaksOff policy around s n deeds → ¬ LastTry policy around s m
  steady : ∀ x, policy.initialBackoff = .float x → ¬ policy.factor.Outgrown →
    ∀ n deeds, ¬ BreaksOff policy around s n deeds
  whole : ∀ d f, policy.initialBackoff = .int d → policy.factor = .int f →
    ∀ i, policy.pauseAt i = .int (d * f ^ i)

/-- A call is tried up to the first outcome that is not worth another try, or as often as there are
retries and once more. Each try asks for one permission, and the pauses stand between the tries. The
last outcome is what it comes to, a fault that may pass told as the last of too many. Only a pause
that has outgrown all doubles, or has to grow by a number that has, breaks it off. -/
theorem retried_unless_outgrown (policy : RetryPolicy) (hretries : 0 ≤ policy.maxRetries)
    (around : Surroundings σ α) (s : σ) : Retried policy around s where
  settled n hlast := run_of_lastTry hlast
  exceeded n hlast := by
    rw [run_of_lastTry hlast, concluded_eq_exceeded_iff]
    constructor
    · intro hpassing
      refine ⟨hlast.last.resolve_right (not_not.mpr hpassing), fun i hi => ?_⟩
      rcases hi.lt_or_eq with hi | rfl
      · exact hlast.passing i hi
      · exact hpassing
    · rintro ⟨-, hall⟩
      exact hall n le_rfl
  broken n deeds hbreaks := run_of_breaksOff hbreaks
  ends hnone := by
    obtain ⟨n, hlast⟩ := exists_lastTry hretries hnone
    exact ⟨n, hlast, fun m hm => hm.eq hlast⟩
  apart m n deeds hbreaks := hbreaks.not_lastTry
  steady x hfloat hfactor n deeds := not_breaksOff_of_float hfloat hfactor
  whole d f hinitial hfactor := pauseAt_whole hinitial hfactor

end Runs

/-! ## Scripts -/

/-- Calls that come back with one outcome after the other, and a list of all that is done. -/
def scripted (outcomes : Nat → Except Fault α) : Surroundings (List Deed) α where
  permit done := done ++ [.permit]
  call done := (outcomes (done.count .call), done ++ [.call])
  pause time done := done ++ [.pause time]

theorem play_scripted (outcomes : Nat → Except Fault α) (deeds done : List Deed) :
    play (scripted outcomes) deeds done = done ++ deeds := by
  induction deeds generalizing done with
  | nil => exact (List.append_nil done).symm
  | cons deed rest ih =>
      rw [← List.singleton_append, ← List.append_assoc]
      cases deed with
      | permit | call | pause time => exact ih _

theorem count_call_rounds (policy : RetryPolicy) (n : Nat) :
    (policy.rounds n).count .call = n := by
  induction n with
  | zero => rfl
  | succ n ih => simp [rounds_succ, tries, ih]

/-- Any sequence of outcomes can be met. -/
theorem outcomeAt_scripted (policy : RetryPolicy) (outcomes : Nat → Except Fault α) (i : Nat) :
    policy.outcomeAt (scripted outcomes) [] i = outcomes i := by
  unfold outcomeAt
  rw [play_scripted, List.nil_append]
  change outcomes ((policy.rounds i ++ [Deed.permit]).count Deed.call) = outcomes i
  rw [List.count_append, count_call_rounds]
  rfl

/-- A provider that is busy once. -/
def busyOnce : Nat → Except Fault Nat
  | 0 => .error (.provider .rateLimit "too many requests")
  | _ + 1 => .ok 1

def hugeBackoff : RetryPolicy := { maxRetries := 1, initialBackoff := .int (Nat.pow 10 309) }

/-- A whole number of seconds that no double can hold ends a run before its first pause. -/
theorem retried_busyOnce :
    hugeBackoff.run (scripted busyOnce) [] = (.error .wholeTooLarge, [.permit, .call]) ∧
      ({} : RetryPolicy).run (scripted busyOnce) [] =
        (.ok 1, [.permit, .call, .pause (.float 1.0), .permit, .call]) := by
  constructor
  · have hlarge : Double.limit ≤ (Nat.pow 10 309 : Int).natAbs := by decide +kernel
    have hbreaks : BreaksOff hugeBackoff (scripted busyOnce) [] 0 [.permit, .call] :=
      .before (reached_zero (by decide)) (by decide) rfl hlarge
    have hretried := retried_unless_outgrown hugeBackoff (by decide) (scripted busyOnce) []
    exact hretried.broken 0 _ hbreaks
  · have hlast : LastTry {} (scripted busyOnce) [] 1 :=
      { allowed := by decide
        passing := by
          intro i hi
          obtain rfl := Nat.lt_one_iff.mp hi
          rfl
        paused := by
          intro i hi
          obtain rfl := Nat.lt_one_iff.mp hi
          exact not_or.mpr ⟨not_false, fun h => h.2⟩
        last := .inr not_false }
    have hretried := retried_unless_outgrown {} (by decide) (scripted busyOnce) []
    exact hretried.settled 1 hlast

end RetryPolicy

end ContractReview
