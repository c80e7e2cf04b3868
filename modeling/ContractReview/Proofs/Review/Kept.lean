import ContractReview.Proofs.Latest
import ContractReview.Proofs.Review.Pipeline

/-!
What a pipeline keeps from one call to the next. The slot is emptied by every call that is accepted,
and filled by one whose static stage fails in passing while the models' report is good. So what a
call finds there is told by the last accepted call before it, and the models are consulted unless
that call left them something to say on the same contracts.
-/

namespace ContractReview

/-- A report whose failure may pass. -/
def Report.FailsInPassing (report : Report) : Prop :=
  ∃ failure, report.failure = some failure ∧ failure.retryable = true

namespace Pipeline

variable {σ : Type}

theorem keep_eq_some_iff {key about : ContractsKey} {static report : Report}
    {models : Option Report} :
    keep key static models = some (about, report) ↔
      key = about ∧ models = some report ∧ report.success = true ∧ static.FailsInPassing := by
  unfold keep Report.FailsInPassing
  cases hfailure : static.failure with
  | none => simp
  | some failure =>
      cases models with
      | none => simp
      | some found =>
          by_cases hgood : failure.retryable = true ∧ found.success = true
          · simp only [hgood.1, hgood.2, Bool.and_self, ↓reduceIte, Option.some.injEq,
              Prod.mk.injEq, exists_eq_left', and_true]
            constructor
            · rintro ⟨rfl, rfl⟩
              exact ⟨rfl, rfl, hgood.2⟩
            · rintro ⟨rfl, rfl, -⟩
              exact ⟨rfl, rfl⟩
          · have hbad : ¬ (failure.retryable && found.success) = true := by
              rwa [Bool.and_eq_true]
            simp only [hbad, Bool.false_eq_true, ↓reduceIte, reduceCtorEq, Option.some.injEq,
              exists_eq_left', false_iff, not_and]
            rintro rfl rfl hsuccess hretryable
            exact hgood ⟨hretryable, hsuccess⟩

theorem take_eq_some_iff {key : ContractsKey} {kept : Kept} {report : Report} :
    take key kept = some report ↔ kept = some (key, report) := by
  unfold take
  rcases kept with _ | ⟨about, found⟩
  · simp
  · by_cases h : about = key
    · simp [h]
    · simp [h]

/-! ## One call -/

/-- How a call goes. Its contracts are turned away, or its static stage comes to a report and the
models do: when they are consulted, or when an earlier report of theirs is used again. -/
inductive Course
  | rejected
  | consulted (static models : Report)
  | reused (static models : Report)

/-- What happens in a call that goes some way: the report that it returns, and the surroundings that
it leaves. The models are asked about its contracts in a call that consults them, and in no
other. -/
inductive Goes (p : Pipeline σ) (ensemble : Ensemble) (contracts : List Contract) (s : σ) :
    Course → Report → σ → Prop
  | rejected : ¬ p.Accepts contracts →
      Goes p ensemble contracts s .rejected
        { success := false
          errors := p.inputErrors contracts
          warnings := (p.inputMessages contracts).2 } s
  | consulted {static : Report} {gathered : Gathered} {s₁ s₂ : σ} : p.Accepts contracts →
      p.staticStage contracts s = (static, s₁) →
      p.gather ensemble [] contracts {} s₁ = (gathered, s₂) →
      Goes p ensemble contracts s (.consulted static (gathered.report ensemble))
        (p.conclude contracts static (some (gathered.report ensemble))) s₂
  | reused {static models : Report} {s₁ : σ} : p.Accepts contracts →
      p.staticStage contracts s = (static, s₁) →
      Goes p ensemble contracts s (.reused static models)
        (p.conclude contracts static (some models)) s₁

namespace Course

/-- The static stage failed in a way that may pass. -/
def FailsInPassing : Course → Prop
  | .rejected => False
  | .consulted static _ | .reused static _ => static.FailsInPassing

/-- The call leaves a good report of the models for the next one. -/
def Leaves (report : Report) : Course → Prop
  | .rejected => False
  | .consulted static models | .reused static models =>
      models = report ∧ report.success = true ∧ static.FailsInPassing

/-- What is kept behind the call. -/
def kept (key : ContractsKey) (before : Kept) : Course → Kept
  | .rejected => before
  | .consulted static models | .reused static models => keep key static (some models)

end Course

variable (p : Pipeline σ) (ensemble : Ensemble)

/-- How the next call goes. -/
def course (contracts : List Contract) (now : Kept × σ) : Course :=
  if p.Accepts contracts then
    let static := p.staticStage contracts now.2
    match take (keyOf contracts) now.1 with
    | some models => .reused static.1 models
    | none => .consulted static.1 ((p.gather ensemble [] contracts {} static.2).1.report ensemble)
  else .rejected

section Course

variable {p ensemble} {contracts : List Contract} {now : Kept × σ} {report : Report}

theorem course_of_not_accepts (h : ¬ p.Accepts contracts) :
    p.course ensemble contracts now = .rejected := if_neg h

theorem course_of_kept (h : p.Accepts contracts) (hkept : now.1 = some (keyOf contracts, report)) :
    p.course ensemble contracts now = .reused (p.staticStage contracts now.2).1 report := by
  unfold course
  rw [if_pos h, take_eq_some_iff.mpr hkept]

theorem course_of_not_kept (h : p.Accepts contracts)
    (hkept : ∀ report, now.1 ≠ some (keyOf contracts, report)) :
    p.course ensemble contracts now = .consulted (p.staticStage contracts now.2).1
      ((p.gather ensemble [] contracts {} (p.staticStage contracts now.2).2).1.report
        ensemble) := by
  have hnone : take (keyOf contracts) now.1 = none :=
    Option.eq_none_iff_forall_ne_some.mpr fun report htake =>
      hkept report (take_eq_some_iff.mp htake)
  unfold course
  rw [if_pos h, hnone]

variable (hensemble : p.options.ensemble = some ensemble)
  (henabled : p.options.modelsEnabled = true)

include hensemble henabled

/-- Models that are there and switched on are consulted by their stage. -/
theorem modelStage_eq (contracts : List Contract) (s : σ) :
    p.modelStage contracts s =
      (some ((p.gather ensemble [] contracts {} s).1.report ensemble),
        (p.gather ensemble [] contracts {} s).2) := by
  unfold modelStage consult
  simp only [henabled, hensemble, Bool.not_true, Option.isNone_some, Bool.or_self,
    Bool.false_eq_true, ↓reduceIte]
  rfl

/-- A call goes the way that its course says, and keeps what that leaves. -/
theorem goes_course (contracts : List Contract) (now : Kept × σ) :
    p.Goes ensemble contracts now.2 (p.course ensemble contracts now)
        (p.analyze contracts now.1 now.2).1 (p.analyze contracts now.1 now.2).2.2 ∧
      (p.analyze contracts now.1 now.2).2.1 =
        (p.course ensemble contracts now).kept (keyOf contracts) now.1 := by
  by_cases h : p.Accepts contracts
  · rw [p.analyze_of_accepts contracts now.1 now.2 h]
    cases htake : take (keyOf contracts) now.1 with
    | some report =>
        rw [course_of_kept h (take_eq_some_iff.mp htake)]
        exact ⟨.reused h rfl, rfl⟩
    | none =>
        rw [course_of_not_kept h fun report hkept => by
          cases htake.symm.trans (take_eq_some_iff.mpr hkept)]
        simp only [runStages, modelStage_eq hensemble henabled]
        exact ⟨.consulted h rfl rfl, rfl⟩
  · rw [course_of_not_accepts h, p.analyze_of_not_accepts contracts now.1 now.2 h]
    exact ⟨.rejected h, rfl⟩

end Course

/-! ## Calls in a row -/

/-- What is left behind some calls, one after the other. -/
def following (calls : List (List Contract)) (now : Kept × σ) : Kept × σ :=
  calls.foldl (fun now contracts => (p.analyze contracts now.1 now.2).2) now

/-- Some calls, each with the way that it goes. -/
def log : List (List Contract) → Kept × σ → List (List Contract × Course)
  | [], _ => []
  | contracts :: rest, now =>
      (contracts, p.course ensemble contracts now) ::
        log rest (p.analyze contracts now.1 now.2).2

/-- A report waits behind some calls: the last one that was accepted was about the contracts, and
left the report. -/
def Waits (calls : List (List Contract × Course)) (key : ContractsKey) (report : Report) : Prop :=
  Latest (fun call => call.2 = .rejected)
    (fun _ call => keyOf call.1 = key ∧ call.2.Leaves report) calls

/-- The models are consulted until they come to a good report, which serves all calls from then
on. -/
inductive UntilGood : List Course → Prop
  | none : UntilGood []
  | failed {static models : Report} {rest : List Course} : models.success = false →
      UntilGood rest → UntilGood (.consulted static models :: rest)
  | good {static models : Report} {later : List Course} : models.success = true →
      (∀ c ∈ later, ∃ static, c = .reused static models) →
      UntilGood (.consulted static models :: later)

theorem following_concat (calls : List (List Contract)) (contracts : List Contract)
    (now : Kept × σ) :
    p.following (calls ++ [contracts]) now =
      (p.analyze contracts (p.following calls now).1 (p.following calls now).2).2 := by
  unfold following
  rw [List.foldl_append, List.foldl_cons, List.foldl_nil]

theorem log_concat (calls : List (List Contract)) (contracts : List Contract) (now : Kept × σ) :
    p.log ensemble (calls ++ [contracts]) now =
      p.log ensemble calls now ++
        [(contracts, p.course ensemble contracts (p.following calls now))] := by
  induction calls generalizing now with
  | nil => rfl
  | cons first rest ih => exact congrArg (_ :: ·) (ih _)

theorem Course.kept_eq_some_iff (course : Course) (about key : ContractsKey) (before : Kept)
    (report : Report) :
    course.kept about before = some (key, report) ↔
      (about = key ∧ course.Leaves report) ∨
        (course = .rejected ∧ before = some (key, report)) := by
  cases course with
  | rejected => simp [kept, Leaves]
  | consulted static models => simp [kept, Leaves, keep_eq_some_iff]
  | reused static models => simp [kept, Leaves, keep_eq_some_iff]

section Row

variable {p ensemble}
variable (hensemble : p.options.ensemble = some ensemble)
  (henabled : p.options.modelsEnabled = true)

include hensemble henabled

/-- What is kept behind some calls is the report that waits behind them. -/
theorem kept_following_iff (calls : List (List Contract)) (s : σ) (key : ContractsKey)
    (report : Report) :
    (p.following calls (none, s)).1 = some (key, report) ↔
      Waits (p.log ensemble calls (none, s)) key report := by
  induction calls using List.reverseRecOn with
  | nil => exact iff_of_false (by simp [following]) not_latest_nil
  | append_singleton calls contracts ih =>
      rw [following_concat, log_concat, Waits, latest_concat_iff, ← Waits, ← ih,
        (goes_course hensemble henabled contracts (p.following calls (none, s))).2]
      exact Course.kept_eq_some_iff ..

/-- A good report that is kept serves all calls about its contracts while the static stage fails in
passing. -/
theorem reused_log {key : ContractsKey} {report : Report} (hgood : report.success = true)
    (tries : List (List Contract)) (now : Kept × σ) (hkept : now.1 = some (key, report))
    (htries : ∀ contracts ∈ tries, p.Accepts contracts ∧ keyOf contracts = key)
    (hpassing : ∀ call ∈ (p.log ensemble tries now).dropLast, call.2.FailsInPassing) :
    ∀ call ∈ p.log ensemble tries now, ∃ static, call.2 = .reused static report := by
  induction tries generalizing now with
  | nil => simp [log]
  | cons contracts rest ih =>
      obtain ⟨⟨haccepts, rfl⟩, hrest⟩ := List.forall_mem_cons.mp htries
      have hcourse : p.course ensemble contracts now = .reused _ report :=
        course_of_kept haccepts hkept
      have hleft := (goes_course hensemble henabled contracts now).2
      rw [hcourse] at hleft
      rw [log] at hpassing ⊢
      refine List.forall_mem_cons.mpr ⟨⟨_, hcourse⟩, ?_⟩
      cases rest with
      | nil => simp [log]
      | cons next rest =>
          rw [log, List.dropLast_cons_cons, List.forall_mem_cons, hcourse] at hpassing
          exact ih _ (hleft.trans (keep_eq_some_iff.mpr ⟨rfl, rfl, hgood, hpassing.1⟩)) hrest
            hpassing.2

/-- Calls about contracts for which nothing is kept consult the models until they come to a good
report. -/
theorem untilGood_log {key : ContractsKey} (tries : List (List Contract)) (now : Kept × σ)
    (hkept : ∀ report, now.1 ≠ some (key, report))
    (htries : ∀ contracts ∈ tries, p.Accepts contracts ∧ keyOf contracts = key)
    (hpassing : ∀ call ∈ (p.log ensemble tries now).dropLast, call.2.FailsInPassing) :
    UntilGood ((p.log ensemble tries now).map Prod.snd) := by
  induction tries generalizing now with
  | nil => exact .none
  | cons contracts rest ih =>
      obtain ⟨⟨haccepts, rfl⟩, hrest⟩ := List.forall_mem_cons.mp htries
      have hcourse : p.course ensemble contracts now = .consulted _ _ :=
        course_of_not_kept haccepts hkept
      have hleft := (goes_course hensemble henabled contracts now).2
      rw [hcourse] at hleft
      rw [log] at hpassing ⊢
      rw [List.map_cons, hcourse]
      cases hsuccess : ((p.gather ensemble [] contracts {}
        (p.staticStage contracts now.2).2).1.report ensemble).success with
      | true =>
          refine .good hsuccess ?_
          cases rest with
          | nil => simp [log]
          | cons next rest =>
              rw [log, List.dropLast_cons_cons, List.forall_mem_cons, hcourse] at hpassing
              have hreused := reused_log hensemble henabled hsuccess (next :: rest) _
                (hleft.trans (keep_eq_some_iff.mpr ⟨rfl, rfl, hsuccess, hpassing.1⟩)) hrest
                hpassing.2
              intro course hmem
              obtain ⟨call, hcall, rfl⟩ := List.mem_map.mp hmem
              exact hreused call hcall
      | false =>
          have hnone (report : Report) :
              (p.analyze contracts now.1 now.2).2.1 ≠ some (keyOf contracts, report) := by
            intro hsome
            obtain ⟨-, hmodels, hgood, -⟩ := keep_eq_some_iff.mp (hleft.symm.trans hsome)
            cases hmodels
            cases hgood.symm.trans hsuccess
          refine .failed hsuccess (ih _ hnone hrest ?_)
          cases rest with
          | nil => simp [log]
          | cons next rest =>
              rw [log, List.dropLast_cons_cons, List.forall_mem_cons] at hpassing
              exact hpassing.2

end Row

/-- What can be said of a call behind some others. -/
structure Foretold (calls : List (List Contract)) (s : σ) (contracts : List Contract) : Prop where
  goes : p.Goes ensemble contracts (p.following calls (none, s)).2
    (p.course ensemble contracts (p.following calls (none, s)))
    (p.analyze contracts (p.following calls (none, s)).1 (p.following calls (none, s)).2).1
    (p.following (calls ++ [contracts]) (none, s)).2
  rejected : ¬ p.Accepts contracts →
    p.course ensemble contracts (p.following calls (none, s)) = .rejected ∧
      p.following (calls ++ [contracts]) (none, s) = p.following calls (none, s)
  reused : p.Accepts contracts → ∀ report,
    Waits (p.log ensemble calls (none, s)) (keyOf contracts) report →
    ∃ static, p.course ensemble contracts (p.following calls (none, s)) = .reused static report
  consulted : p.Accepts contracts →
    (∀ report, ¬ Waits (p.log ensemble calls (none, s)) (keyOf contracts) report) →
    ∃ static models,
      p.course ensemble contracts (p.following calls (none, s)) = .consulted static models

/-- A call consults the models unless the last accepted one before it was about the same contracts,
failed in passing and had a good report of theirs, which is then used again. Calls that are turned
away change nothing. So a row of calls about the same contracts, all but the last of which fail in
passing, consults the models until they come to a good report, and not again. -/
theorem consults_unless_waiting (p : Pipeline σ) {ensemble : Ensemble}
    (hensemble : p.options.ensemble = some ensemble) (henabled : p.options.modelsEnabled = true)
    (calls : List (List Contract)) (s : σ) :
    (∀ contracts, Foretold p ensemble calls s contracts) ∧
    ∀ key tries, (∀ report, ¬ Waits (p.log ensemble calls (none, s)) key report) →
      (∀ contracts ∈ tries, p.Accepts contracts ∧ keyOf contracts = key) →
      (∀ call ∈ (p.log ensemble tries (p.following calls (none, s))).dropLast,
        call.2.FailsInPassing) →
      UntilGood ((p.log ensemble tries (p.following calls (none, s))).map Prod.snd) := by
  have hkept := kept_following_iff hensemble henabled calls s
  constructor
  · intro contracts
    exact {
      goes := by
        rw [following_concat]
        exact (goes_course hensemble henabled contracts _).1
      rejected := by
        intro h
        refine ⟨course_of_not_accepts h, ?_⟩
        rw [following_concat, p.analyze_of_not_accepts contracts _ _ h]
      reused := by
        intro h report hwaits
        exact ⟨_, course_of_kept h ((hkept _ report).mpr hwaits)⟩
      consulted := by
        intro h hnone
        exact ⟨_, _, course_of_not_kept h fun report hsome =>
          hnone report ((hkept _ report).mp hsome)⟩ }
  · intro key tries hnone htries hpassing
    exact untilGood_log hensemble henabled tries _
      (fun report hsome => hnone report ((hkept key report).mp hsome)) htries hpassing

/-- Tools that are always too slow. -/
def slowTools : Tools Unit :=
  { run := fun call => throw (.platform {
      code := .toolTimeout
      message := call.command ++ " execution timed out"
      platform := call.platform })
    available := fun _ _ => true
    scratch := { path := "/tmp/review", name := "review" } }

/-- Models that answer and have nothing to say. -/
def terseModels : Models Unit :=
  { ask := fun _ _ s => (.content .null, s)
    permit := fun _ s => s
    pause := fun _ s => s }

def loneModel : Ensemble := { members := [{ model := "m" }] }

def plainContract : Contract :=
  { filename := "C.sol", code := "contract C \x7b\x7d", platform := "ethereum" }

/-- A review of Solidity contracts whose tool never finishes. -/
def slowPipeline : Pipeline Unit :=
  Family.evm.pipeline slowTools terseModels "ethereum" { ensemble := some loneModel }

/-- Behind a call that was too slow and one without contracts, the models' report is used again. -/
theorem reuses_slowPipeline :
    slowPipeline.Accepts [plainContract] ∧ ¬ slowPipeline.Accepts [] ∧
    ∃ static models, slowPipeline.course loneModel [plainContract]
      (slowPipeline.following [[plainContract], []] (none, ())) = .reused static models := by
  have haccepts : slowPipeline.Accepts [plainContract] := by decide +kernel
  have hrejects : ¬ slowPipeline.Accepts [] := fun h => h.1 rfl
  have hensemble : slowPipeline.options.ensemble = some loneModel := rfl
  obtain ⟨hforetold, -⟩ := consults_unless_waiting slowPipeline hensemble rfl
    [[plainContract], []] ()
  have hfails : (slowPipeline.staticStage [plainContract] ()).1.FailsInPassing := ⟨_, rfl, rfl⟩
  have hleaves : ∃ report, (slowPipeline.course loneModel [plainContract] (none, ())).Leaves
      report := by
    rw [course_of_not_kept haccepts (by simp)]
    exact ⟨_, rfl, rfl, hfails⟩
  obtain ⟨report, hreport⟩ := hleaves
  obtain ⟨static, hreused⟩ := (hforetold [plainContract]).reused haccepts report
    ⟨[], _, [([], .rejected)], rfl, by simp, rfl, hreport⟩
  exact ⟨haccepts, hrejects, static, report, hreused⟩

end Pipeline

end ContractReview
