import ContractReview.Proofs.Review.Fallback
import ContractReview.Proofs.Review.Kept

/-!
Requests that one pipeline answers one after the other. Each is a review that falls back, and what
the pipeline keeps for another try outlives the review when no other attempt is made. So a request
is answered as by a pipeline that has kept nothing, unless the last accepted one before it was about
the same contracts and ended with a passing failure of its static stage.
-/

namespace ContractReview

variable {σ : Type}

/-! ## How a review leaves its surroundings -/

namespace Fallback

variable (r : Reviewer σ) (policy : FallbackPolicy) (focusAreas : Option (List String))
  (contracts : List Contract)

theorem checked_preserves {Q : σ → Prop} (hvalidate : ∀ c s, Q s → Q ((r.validate c).run s).2)
    {s : σ} (h : Q s) : Q (checked r contracts s).2 := by
  induction contracts generalizing s with
  | nil => exact h
  | cons c rest ih =>
      have hstep := hvalidate c s h
      unfold checked
      rcases hrun : (r.validate c).run s with ⟨fault | v, s'⟩
      · rw [hrun] at hstep
        exact hstep
      · rw [hrun] at hstep
        exact ih hstep

/-- What neither the models nor the checks change is the same behind a review as behind its last
attempt. -/
theorem concluded_preserves {Q : σ → Prop}
    (hconsult : ∀ s, Q s → Q ((r.consult contracts focusAreas).run s).2)
    (hvalidate : ∀ c s, Q s → Q ((r.validate c).run s).2) (trail : Trail)
    (ended : Except Failure Report) {s : σ} (h : Q s) :
    Q (concluded r policy focusAreas contracts trail s ended).2 := by
  cases ended with
  | ok report => exact h
  | error cause =>
      have hmodels : Q (afterModels r policy focusAreas contracts s) := by
        unfold afterModels
        split
        · exact hconsult s h
        · exact h
      change Q (degrade r policy focusAreas contracts cause trail s).2
      rw [(degraded_degrade r policy focusAreas contracts cause trail s).surroundings]
      split
      · exact checked_preserves r contracts hvalidate hmodels
      · exact hmodels

theorem review_preserves {Q : σ → Prop}
    (hconsult : ∀ s, Q s → Q ((r.consult contracts focusAreas).run s).2)
    (hvalidate : ∀ c s, Q s → Q ((r.validate c).run s).2) {s : σ} {n : Nat}
    (hlast : LastMade r policy.retryDelay contracts s policy.maxAttempts n)
    (h : Q (after r policy.retryDelay contracts s n)) :
    Q (review r policy focusAreas contracts s).2 := by
  obtain ⟨m, hm, ⟨-, heq⟩ | ⟨fault, -, -, -, heq⟩⟩ :=
    exists_review_eq r policy focusAreas contracts s
  · obtain rfl := hlast.eq hm
    rw [heq]
    exact concluded_preserves r policy focusAreas contracts hconsult hvalidate _ _ h
  · obtain rfl := hlast.eq hm
    rw [heq]
    exact h

/-- Surroundings that the first attempt cannot tell apart give the same review. -/
theorem review_congr {s s' : σ} (h : (r.analyze contracts).run s = (r.analyze contracts).run s') :
    review r policy focusAreas contracts s = review r policy focusAreas contracts s' := by
  unfold review tryFull
  rw [h]

end Fallback

/-! ## Requests -/

/-- What is asked for in one request. -/
structure Commission where
  policy : FallbackPolicy
  focusAreas : Option (List String)
  contracts : List Contract

/-- The answer to a request. -/
def Commission.review (q : Commission) (r : Reviewer σ) (s : σ) :
    Except Fault (TracedReport × List Event) × σ :=
  Fallback.review r q.policy q.focusAreas q.contracts s

/-- What some requests, one after the other, leave behind. -/
def Reviewer.serve (r : Reviewer σ) (requests : List Commission) (s : σ) : σ :=
  requests.foldl (fun s q => (q.review r s).2) s

theorem Reviewer.serve_concat (r : Reviewer σ) (requests : List Commission) (q : Commission)
    (s : σ) : r.serve (requests ++ [q]) s = (q.review r (r.serve requests s)).2 := by
  unfold serve
  rw [List.foldl_append, List.foldl_cons, List.foldl_nil]

namespace Pipeline

open Fallback

variable (p : Pipeline σ) (pause : Number → σ → σ)

/-- What the two stages of a call come to that finds such surroundings. -/
def stagesIn (contracts : List Contract) (now : Kept × σ) : Report × Option Report :=
  (p.runStages contracts (take (keyOf contracts) now.1) now.2).1

/-- A request leaves a report of the models behind: no other attempt is made after one whose static
stage fails in passing while the models' report is good. -/
def LeavesBehind (q : Commission) (now : Kept × σ) (report : Report) : Prop :=
  p.Accepts q.contracts ∧ report.success = true ∧
    ∃ n static,
      LastMade (p.reviewer pause) q.policy.retryDelay q.contracts now q.policy.maxAttempts n ∧
      p.stagesIn q.contracts (before (p.reviewer pause) q.policy.retryDelay q.contracts now n) =
        (static, some report) ∧
      static.FailsInPassing

/-- A report is left over from some requests to a new pipeline: the last one that was accepted was
about the contracts, and left the report behind. -/
def LeftOver (requests : List Commission) (s : σ) (key : ContractsKey) (report : Report) : Prop :=
  Latest (fun q => ¬ p.Accepts q.contracts)
    (fun earlier q => keyOf q.contracts = key ∧
      p.LeavesBehind pause q ((p.reviewer pause).serve earlier (none, s)) report)
    requests

section Request

variable {p pause} {q : Commission}

theorem reviewer_analyze_run (contracts : List Contract) (now : Kept × σ) :
    ((p.reviewer pause).analyze contracts).run now =
      (.ok (p.analyze contracts now.1 now.2).1, (p.analyze contracts now.1 now.2).2) := rfl

/-- The answer about contracts that are turned away is always the same, and nothing changes. -/
theorem exists_review_of_not_accepts (pause : Number → σ → σ) (h : ¬ p.Accepts q.contracts) :
    ∃ answer, ∀ now, q.review (p.reviewer pause) now = (.ok answer, now) := by
  have hrun (now : Kept × σ) : ((p.reviewer pause).analyze q.contracts).run now =
      (.ok {
        success := false
        errors := p.inputErrors q.contracts
        warnings := (p.inputMessages q.contracts).2 }, now) := by
    rw [reviewer_analyze_run, p.analyze_of_not_accepts q.contracts now.1 now.2 h]
  exact ⟨_, fun now => review_of_first q.policy q.focusAreas (hrun now) rfl⟩

/-- What is kept behind a request is what its last attempt keeps. -/
theorem kept_review_eq (now : Kept × σ) {n : Nat}
    (hlast : LastMade (p.reviewer pause) q.policy.retryDelay q.contracts now q.policy.maxAttempts
      n) :
    (q.review (p.reviewer pause) now).2.1 =
      (after (p.reviewer pause) q.policy.retryDelay q.contracts now n).1 := by
  refine review_preserves (p.reviewer pause) q.policy q.focusAreas q.contracts
    (Q := fun behind => behind.1 =
      (after (p.reviewer pause) q.policy.retryDelay q.contracts now n).1) ?_ ?_ hlast rfl
  · intro behind h
    exact h
  · intro c behind h
    exact h

/-- A request leaves a report waiting for its contracts, or it was turned away and leaves what it
found. -/
theorem kept_review_iff (now : Kept × σ) (key : ContractsKey) (report : Report) :
    (q.review (p.reviewer pause) now).2.1 = some (key, report) ↔
      (keyOf q.contracts = key ∧ p.LeavesBehind pause q now report) ∨
        (¬ p.Accepts q.contracts ∧ now.1 = some (key, report)) := by
  by_cases h : p.Accepts q.contracts
  · obtain ⟨n, hlast, -⟩ := exists_review_eq (p.reviewer pause) q.policy none q.contracts now
    set found := before (p.reviewer pause) q.policy.retryDelay q.contracts now n
    -- neither the lesser ways nor the pauses touch the slot, so the last attempt decides
    have hleft : (q.review (p.reviewer pause) now).2.1 = _ := kept_review_eq now hlast
    have hkept : (after (p.reviewer pause) q.policy.retryDelay q.contracts now n).1 =
        keep (keyOf q.contracts) (p.stagesIn q.contracts found).1
          (p.stagesIn q.contracts found).2 :=
      congrArg (fun done => done.2.1) (p.analyze_of_accepts q.contracts found.1 found.2 h)
    rw [hleft, hkept, keep_eq_some_iff]
    constructor
    · rintro ⟨hkey, hmodels, hgood, hfails⟩
      exact .inl ⟨hkey, h, hgood, n, _, hlast, Prod.ext rfl hmodels, hfails⟩
    · rintro (⟨hkey, -, hgood, m, static, hm, hstages, hfails⟩ | ⟨hnot, -⟩)
      · obtain rfl := hm.eq hlast
        rw [hstages]
        exact ⟨hkey, rfl, hgood, hfails⟩
      · exact absurd h hnot
  · obtain ⟨answer, hanswer⟩ := exists_review_of_not_accepts pause h
    rw [hanswer]
    constructor
    · exact fun hkept => .inr ⟨h, hkept⟩
    · rintro (⟨-, haccepts, -⟩ | ⟨-, hkept⟩)
      · exact absurd haccepts h
      · exact hkept

/-- What is kept between requests is what is left over from them. -/
theorem kept_serve_iff (requests : List Commission) (s : σ) (key : ContractsKey)
    (report : Report) :
    ((p.reviewer pause).serve requests (none, s)).1 = some (key, report) ↔
      p.LeftOver pause requests s key report := by
  refine iff_latest (Q := fun requests =>
    ((p.reviewer pause).serve requests (none, s)).1 = some (key, report)) ?_ ?_ requests
  · rintro ⟨⟩
  · intro earlier q
    rw [Reviewer.serve_concat]
    exact kept_review_iff _ key report

/-- When nothing is kept for its contracts, a request is answered as by a new pipeline. -/
theorem review_eq_of_not_kept (now : Kept × σ)
    (h : ∀ report, now.1 ≠ some (keyOf q.contracts, report)) (haccepts : p.Accepts q.contracts) :
    q.review (p.reviewer pause) now = q.review (p.reviewer pause) (none, now.2) := by
  have hnone : take (keyOf q.contracts) now.1 = none :=
    Option.eq_none_iff_forall_ne_some.mpr fun report htake => h report (take_eq_some_iff.mp htake)
  refine review_congr (p.reviewer pause) q.policy q.focusAreas q.contracts ?_
  rw [reviewer_analyze_run, reviewer_analyze_run,
    p.analyze_of_accepts q.contracts now.1 now.2 haccepts,
    p.analyze_of_accepts q.contracts none now.2 haccepts, hnone]
  rfl

/-- A report that is kept for its contracts stands in for the models in the first attempt. -/
theorem analyze_of_kept {contracts : List Contract} {now : Kept × σ} {report : Report}
    (haccepts : p.Accepts contracts) (h : now.1 = some (keyOf contracts, report)) :
    p.analyze contracts now.1 now.2 =
      (p.conclude contracts (p.staticStage contracts now.2).1 (some report),
        keep (keyOf contracts) (p.staticStage contracts now.2).1 (some report),
        (p.staticStage contracts now.2).2) := by
  rw [p.analyze_of_accepts contracts now.1 now.2 haccepts, take_eq_some_iff.mpr h]
  rfl

end Request

/-- A request is answered with an old report of the models. Its first attempt runs the static stage
and asks no model, and when the static stage goes through, that is all there is to the answer. -/
structure AnsweredWith (q : Commission) (now : Kept × σ) (report : Report) : Prop where
  first : ((p.reviewer pause).analyze q.contracts).run now =
    (.ok (p.conclude q.contracts (p.staticStage q.contracts now.2).1 (some report)),
      keep (keyOf q.contracts) (p.staticStage q.contracts now.2).1 (some report),
      (p.staticStage q.contracts now.2).2)
  answer : (p.staticStage q.contracts now.2).1.failure = none →
    ∃ t events, q.review (p.reviewer pause) now =
        (.ok (t, events), none, (p.staticStage q.contracts now.2).2) ∧
      Full (p.conclude q.contracts (p.staticStage q.contracts now.2).1 (some report)) t

theorem answeredWith_of_kept (q : Commission) (now : Kept × σ) (report : Report)
    (haccepts : p.Accepts q.contracts) (h : now.1 = some (keyOf q.contracts, report)) :
    p.AnsweredWith pause q now report := by
  have hfirst := congrArg (fun done => ((.ok done.1 : Except Fault Report), done.2))
    (analyze_of_kept haccepts h)
  refine ⟨hfirst, fun hnone => ?_⟩
  have hkeep : keep (keyOf q.contracts) (p.staticStage q.contracts now.2).1 (some report) =
      none := by
    simp only [keep, hnone]
  rw [hkeep] at hfirst
  exact ⟨_, _, review_of_first q.policy q.focusAreas hfirst hnone, full_finish _ _⟩

/-- A request is answered as by a new pipeline, from what the tool and the models do from then
on. -/
structure AnsweredAfresh (q : Commission) (now : Kept × σ) : Prop where
  answer : (q.review (p.reviewer pause) now).1 = (q.review (p.reviewer pause) (none, now.2)).1
  surroundings :
    (q.review (p.reviewer pause) now).2.2 = (q.review (p.reviewer pause) (none, now.2)).2.2

theorem answeredAfresh_of_not_kept (q : Commission) (now : Kept × σ)
    (h : p.Accepts q.contracts → ∀ report, now.1 ≠ some (keyOf q.contracts, report)) :
    p.AnsweredAfresh pause q now := by
  by_cases haccepts : p.Accepts q.contracts
  · have heq : q.review (p.reviewer pause) now = q.review (p.reviewer pause) (none, now.2) :=
      review_eq_of_not_kept now (h haccepts) haccepts
    exact ⟨congrArg Prod.fst heq, congrArg (fun done => done.2.2) heq⟩
  · obtain ⟨answer, hanswer⟩ := exists_review_of_not_accepts pause haccepts
    constructor
    · rw [hanswer, hanswer]
    · rw [hanswer, hanswer]

/-- Whatever requests came before it, a request is answered afresh unless its contracts are accepted
and a report of the models is left over for them; then that report is used again. -/
theorem separate_unless_left_over (requests : List Commission) (q : Commission) (s : σ) :
    ((p.Accepts q.contracts →
        ∀ report, ¬ p.LeftOver pause requests s (keyOf q.contracts) report) →
      p.AnsweredAfresh pause q ((p.reviewer pause).serve requests (none, s))) ∧
    ∀ report, p.Accepts q.contracts → p.LeftOver pause requests s (keyOf q.contracts) report →
      p.AnsweredWith pause q ((p.reviewer pause).serve requests (none, s)) report := by
  constructor
  · intro h
    refine p.answeredAfresh_of_not_kept pause q _ fun haccepts report hsome => ?_
    exact h haccepts report ((kept_serve_iff requests s _ report).mp hsome)
  · intro report haccepts hleft
    exact p.answeredWith_of_kept pause q _ report haccepts
      ((kept_serve_iff requests s _ report).mpr hleft)

/-- Tools of which the first call is too slow; the others end at once. -/
def wakingTools : Tools (Nat × Nat) :=
  { run := fun call s =>
      if s.1 = 0 then
        (.error (.platform {
          code := .toolTimeout
          message := call.command ++ " execution timed out"
          platform := call.platform }), (1, s.2))
      else (.ok {}, s)
    available := fun _ _ => true
    scratch := { path := "/tmp/review", name := "review" } }

/-- Models that answer once. -/
def fadingModels : Models (Nat × Nat) :=
  { ask := fun _ _ s => if s.2 = 0 then (.content .null, (s.1, 1)) else (.silence, s)
    permit := fun _ s => s
    pause := fun _ s => s }

def wakingPipeline : Pipeline (Nat × Nat) :=
  Family.evm.pipeline wakingTools fadingModels "ethereum" { ensemble := some loneModel }

/-- One attempt, and no lesser way behind it. -/
def singleTry : Commission :=
  { policy := { maxAttempts := 1, useModels := false, useChecks := false }
    focusAreas := none
    contracts := [plainContract] }

/-- The surroundings behind one request that was made while the tool was too slow. -/
def wakened : Kept × (Nat × Nat) :=
  (wakingPipeline.reviewer fun _ s => s).serve [singleTry] (none, (0, 0))

/-- What the answer to a request warns of, if there is one. -/
def warnings? (p : Pipeline σ) (q : Commission) (now : Kept × σ) : Option (List String) :=
  (q.review (p.reviewer fun _ s => s) now).1.toOption.map fun answer => answer.1.report.warnings

/-- The same request made again is answered with the report that is left over, and a new pipeline
would say that the models have gone silent. -/
theorem answers_wakingPipeline :
    (∃ report, wakingPipeline.LeftOver (fun _ s => s) [singleTry] (0, 0) (keyOf [plainContract])
        report ∧
      wakingPipeline.AnsweredWith (fun _ s => s) singleTry wakened report) ∧
    wakingPipeline.warnings? singleTry wakened = some [] ∧
    wakingPipeline.warnings? singleTry (none, wakened.2) =
      some ["AI: All AI models failed to analyze the contract", modelsUnavailable] := by
  have haccepts : wakingPipeline.Accepts [plainContract] := by decide +kernel
  have hfinal : LastMade (wakingPipeline.reviewer fun _ s => s) singleTry.policy.retryDelay
      [plainContract] (none, (0, 0)) singleTry.policy.maxAttempts 0 :=
    { made := made_zero _ _ _ _
      final := fun hmade => absurd hmade.allowed (by decide) }
  -- the tool wakes up too late for the only attempt, while the model has answered
  have hleaves : ∃ report,
      wakingPipeline.LeavesBehind (fun _ s => s) singleTry (none, (0, 0)) report :=
    ⟨_, haccepts, rfl, 0, _, hfinal, rfl, _, rfl, rfl⟩
  obtain ⟨report, hreport⟩ := hleaves
  have hleft : wakingPipeline.LeftOver (fun _ s => s) [singleTry] (0, 0) (keyOf [plainContract])
      report := ⟨[], singleTry, [], rfl, by simp, rfl, hreport⟩
  obtain ⟨-, hanswered⟩ :=
    separate_unless_left_over wakingPipeline (fun _ s => s) [singleTry] singleTry (0, 0)
  exact ⟨⟨report, hleft, hanswered report haccepts hleft⟩, by decide +kernel, by decide +kernel⟩

end Pipeline

end ContractReview
