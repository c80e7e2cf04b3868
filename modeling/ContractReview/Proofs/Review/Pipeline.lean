import ContractReview.Platform.Family
import ContractReview.Proofs.Review.Act

/-!
What decides the outcome of a review: the contracts' input, and then the static stage alone.
-/

namespace ContractReview

variable {σ : Type}

open Act

/-- A report of a stage that went through. -/
structure Report.Clean (r : Report) : Prop where
  success : r.success = true
  errors : r.errors = []
  failure : r.failure = none

theorem Evm.returns_clean (tools : Tools σ) (platform : String) (review : ReviewOptions)
    (options : Evm.Options) (contracts : List Contract) :
    Returns (Evm.static tools platform review options contracts) Report.Clean := by
  unfold Evm.static
  exact .bind fun parts => .pure ⟨rfl, rfl, rfl⟩

theorem Solana.returns_clean (tools : Tools σ) (platform : String) (review : ReviewOptions)
    (contracts : List Contract) :
    Returns (Solana.static tools platform review contracts) Report.Clean := by
  unfold Solana.static
  exact .bind fun found => .guard fun _ => .guard fun _ => .bind fun parts => .pure ⟨rfl, rfl, rfl⟩

theorem Cardano.returns_clean (tools : Tools σ) (platform : String) (review : ReviewOptions)
    (contracts : List Contract) :
    Returns (Cardano.static tools platform review contracts) Report.Clean := by
  unfold Cardano.static
  exact .bind fun found => .guard fun _ => .guard fun _ => .bind fun parts => .pure ⟨rfl, rfl, rfl⟩

theorem Move.returns_clean (tools : Tools σ) (dialect : Move.Dialect) (platform : String)
    (review : ReviewOptions) (contracts : List Contract) :
    Returns (Move.static tools dialect platform review contracts) Report.Clean := by
  unfold Move.static
  exact .bind fun found => .guard fun _ => .pure ⟨rfl, rfl, rfl⟩

/-- What the static stage of every family returns is a report of a stage that went through. -/
theorem Family.returns_clean (f : Family) (tools : Tools σ) (platform : String)
    (review : ReviewOptions) (evm : Evm.Options) (contracts : List Contract) :
    Returns ((f.stages tools platform review evm).static contracts) Report.Clean := by
  cases f with
  | evm => exact Evm.returns_clean tools platform review evm contracts
  | solana => exact Solana.returns_clean tools platform review contracts
  | cardano => exact Cardano.returns_clean tools platform review contracts
  | aptos => exact Move.returns_clean tools .aptos platform review contracts
  | sui => exact Move.returns_clean tools .sui platform review contracts

/-- The static stage does not know of the models. -/
theorem Family.staticStage_eq (f : Family) (tools : Tools σ) (models models' : Models σ)
    (platform : String) (options : ReviewOptions) (evm : Evm.Options) (ensemble : Option Ensemble)
    (enabled : Bool) (focusAreas : List String) (contracts : List Contract) (s : σ) :
    (f.pipeline tools models' platform
      { options with ensemble, modelsEnabled := enabled, focusAreas } evm).staticStage contracts s =
        (f.pipeline tools models platform options evm).staticStage contracts s := by
  cases f <;> rfl

namespace Pipeline

/-- Contracts that are reviewed: there are some, and the input of each passes its checks. -/
def Accepts (p : Pipeline σ) (contracts : List Contract) : Prop :=
  contracts ≠ [] ∧ ∀ c ∈ contracts, (p.checkInput c).isValid = true

instance (p : Pipeline σ) (contracts : List Contract) : Decidable (p.Accepts contracts) :=
  inferInstanceAs (Decidable (_ ∧ _))

/-- What is said of contracts that are not reviewed. -/
def inputErrors (p : Pipeline σ) : List Contract → List String
  | [] => [noContracts]
  | c :: rest => (c :: rest).flatMap fun c => inFile c (p.checkInput c).errors

/-- What the static stage's end makes of a report. -/
structure Decided (platform : String) (ended : Except Fault Report) (report : Report) : Prop where
  failed : ∀ failure, report.failure = some failure ↔
    ∃ fault, ended = .error fault ∧ fault.Told platform failure
  returned : report.failure = none ↔ ∃ static, ended = .ok static
  success : report.success = true ↔ report.failure = none
  errors : report.errors = [] ↔ report.failure = none

/-- Reports of one outcome. -/
structure Agree (a b : Report) : Prop where
  success : a.success = b.success
  errors : a.errors = b.errors
  failure : a.failure = b.failure

/-- The report on contracts whose stages came to these two: what their input is warned of stands
before the stages' own warnings. -/
def conclude (p : Pipeline σ) (contracts : List Contract) (static : Report)
    (models : Option Report) : Report :=
  { merge static models with
    warnings := (p.inputMessages contracts).2 ++ (merge static models).warnings }

namespace Agree

variable {a b c : Report}

theorem symm (h : Agree a b) : Agree b a := ⟨h.success.symm, h.errors.symm, h.failure.symm⟩

theorem trans (hab : Agree a b) (hbc : Agree b c) : Agree a c :=
  ⟨hab.success.trans hbc.success, hab.errors.trans hbc.errors, hab.failure.trans hbc.failure⟩

end Agree

section

variable (p : Pipeline σ) (contracts : List Contract) (kept : Kept) (s : σ)

theorem inFile_eq_nil_iff (c : Contract) (messages : List String) :
    inFile c messages = [] ↔ messages = [] := List.map_eq_nil_iff

theorem inputMessages_eq_nil_iff :
    (p.inputMessages contracts).1 = [] ↔ ∀ c ∈ contracts, (p.checkInput c).isValid = true := by
  unfold inputMessages Validation.isValid
  simp only [List.flatMap_eq_nil_iff, inFile_eq_nil_iff, List.isEmpty_iff]

theorem agree_merge (static : Report) (models : Option Report) :
    Agree (merge static models) static := by
  cases models <;> exact ⟨rfl, rfl, rfl⟩

theorem runStages_static (kept : Option Report) :
    (p.runStages contracts kept s).1.1 = (p.staticStage contracts s).1 := by
  cases kept <;> rfl

/-- Without contracts to review, nothing is asked and nothing changes. -/
theorem analyze_of_not_accepts (h : ¬ p.Accepts contracts) :
    p.analyze contracts kept s =
      ({ success := false
         errors := p.inputErrors contracts
         warnings := (p.inputMessages contracts).2 }, kept, s) := by
  cases contracts with
  | nil => rfl
  | cons c rest =>
      have hmessages : (p.inputMessages (c :: rest)).1 ≠ [] := fun hnil =>
        h ⟨List.cons_ne_nil c rest, (inputMessages_eq_nil_iff p _).mp hnil⟩
      unfold analyze
      simp only [hmessages, ne_eq, not_false_eq_true, ↓reduceIte]
      rfl

/-- What a review of accepted contracts comes to: both stages, with what is kept for them in place
of the models' work. -/
theorem analyze_of_accepts (h : p.Accepts contracts) :
    p.analyze contracts kept s =
      (p.conclude contracts (p.runStages contracts (take (keyOf contracts) kept) s).1.1
          (p.runStages contracts (take (keyOf contracts) kept) s).1.2,
        keep (keyOf contracts) (p.runStages contracts (take (keyOf contracts) kept) s).1.1
          (p.runStages contracts (take (keyOf contracts) kept) s).1.2,
        (p.runStages contracts (take (keyOf contracts) kept) s).2) := by
  obtain ⟨hsome, hvalid⟩ := h
  cases contracts with
  | nil => exact absurd rfl hsome
  | cons c rest =>
      have hmessages := (inputMessages_eq_nil_iff p _).mpr hvalid
      unfold analyze
      simp only [hmessages, ne_eq, not_true_eq_false, ↓reduceIte]
      rfl

theorem agree_analyze (h : p.Accepts contracts) :
    Agree (p.analyze contracts kept s).1 (p.staticStage contracts s).1 := by
  have hmerge := agree_merge (p.runStages contracts (take (keyOf contracts) kept) s).1.1
    (p.runStages contracts (take (keyOf contracts) kept) s).1.2
  rw [p.analyze_of_accepts contracts kept s h,
    ← runStages_static p contracts s (take (keyOf contracts) kept)]
  exact ⟨hmerge.success, hmerge.errors, hmerge.failure⟩

theorem decided_staticStage (hclean : Returns (p.stages.static contracts) Report.Clean) :
    Decided p.platform ((p.stages.static contracts).run s).1 (p.staticStage contracts s).1 := by
  unfold staticStage
  rcases hrun : (p.stages.static contracts).run s with ⟨fault | static, s'⟩
  · exact {
      failed := by simp [Fault.told_iff]
      returned := by simp
      success := by simp
      errors := by simp }
  · have h := hclean s static s' hrun
    exact {
      failed := by simp [h.failure]
      returned := by simp [h.failure]
      success := by simp [h.success, h.failure]
      errors := by simp [h.errors, h.failure] }

end

end Pipeline

/-- The outcome of a review by any family. Contracts that are not accepted are told what is wrong
with them, and nothing else happens. For others the end of the static stage decides, and whatever
the models are and do, the outcome is the same. -/
theorem Family.analyze_outcome (f : Family) (tools : Tools σ) (models : Models σ)
    (platform : String) (options : ReviewOptions) (evm : Evm.Options) (contracts : List Contract)
    (kept : Kept) (s : σ) :
    (¬ (f.pipeline tools models platform options evm).Accepts contracts →
      (f.pipeline tools models platform options evm).analyze contracts kept s =
        ({ success := false
           errors := (f.pipeline tools models platform options evm).inputErrors contracts
           warnings := ((f.pipeline tools models platform options evm).inputMessages contracts).2 },
          kept, s)) ∧
    ((f.pipeline tools models platform options evm).Accepts contracts →
      Pipeline.Decided platform
        (((f.stages tools platform options evm).static contracts).run s).1
        ((f.pipeline tools models platform options evm).analyze contracts kept s).1) ∧
    ∀ models' ensemble enabled focusAreas kept',
      Pipeline.Agree
        ((f.pipeline tools models' platform
          { options with ensemble, modelsEnabled := enabled, focusAreas } evm).analyze
            contracts kept' s).1
        ((f.pipeline tools models platform options evm).analyze contracts kept s).1 := by
  refine ⟨fun h => Pipeline.analyze_of_not_accepts _ contracts kept s h, ?_, ?_⟩
  · intro h
    have hdecided := Pipeline.decided_staticStage (f.pipeline tools models platform options evm)
      contracts s (f.returns_clean tools platform options evm contracts)
    obtain ⟨hsuccess, herrors, hfailure⟩ := Pipeline.agree_analyze _ contracts kept s h
    exact {
      failed := by rw [hfailure]; exact hdecided.failed
      returned := by rw [hfailure]; exact hdecided.returned
      success := by rw [hfailure, hsuccess]; exact hdecided.success
      errors := by rw [hfailure, herrors]; exact hdecided.errors }
  · intro models' ensemble enabled focusAreas kept'
    by_cases h : (f.pipeline tools models platform options evm).Accepts contracts
    · have hsame := Pipeline.agree_analyze _ contracts kept s h
      have hother := Pipeline.agree_analyze (f.pipeline tools models' platform
        { options with ensemble, modelsEnabled := enabled, focusAreas } evm) contracts kept' s h
      rw [f.staticStage_eq tools models models'] at hother
      exact hother.trans hsame.symm
    · rw [Pipeline.analyze_of_not_accepts _ contracts kept s h,
        Pipeline.analyze_of_not_accepts (f.pipeline tools models' platform
          { options with ensemble, modelsEnabled := enabled, focusAreas } evm) contracts kept' s h]
      exact ⟨rfl, rfl, rfl⟩

/-- Tools none of which can be run. -/
def brokenTools : Tools Unit :=
  { run := fun call => throw (.raised .os call.command)
    available := fun _ _ => false
    scratch := { path := "/tmp/review", name := "review" } }

def silentModels : Models Unit :=
  { ask := fun _ _ s => (.silence, s)
    permit := fun _ s => s
    pause := fun _ s => s }

def plainModule : Contract :=
  { filename := "m.move", code := "module m::m", platform := "aptos" }

/-- A module whose tool cannot be run, and no module at all. -/
theorem Family.analyze_brokenTools :
    ((Family.aptos.pipeline brokenTools silentModels "aptos" {}).analyze
        [plainModule] none ()).1.failure = some
      { code := .unavailable, message := "aptos", platform := "aptos"
        context := [("error_type", .str "OSError")] } ∧
    ((Family.aptos.pipeline brokenTools silentModels "aptos" {}).analyze [] none ()).1.errors =
      ["No contracts provided for analysis"] := by
  obtain ⟨-, hdecided, -⟩ :=
    Family.analyze_outcome .aptos brokenTools silentModels "aptos" {} {} [plainModule] none ()
  obtain ⟨hrejected, -, -⟩ :=
    Family.analyze_outcome .aptos brokenTools silentModels "aptos" {} {} [] none ()
  have haccepts : (Family.aptos.pipeline brokenTools silentModels "aptos" {}).Accepts
      [plainModule] := by decide +kernel
  constructor
  · refine ((hdecided haccepts).failed _).mpr ⟨.raised .os "aptos", rfl, ?_⟩
    exact Fault.told_iff.mpr rfl
  · rw [hrejected fun h => h.1 rfl]
    rfl

end ContractReview
