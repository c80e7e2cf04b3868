import ContractReview.Platform.Family

/-!
Checks of one contract. What a platform finds wrong with a contract is settled by the contract and
the platform's options. The tools can add one warning, and a probe that breaks off takes back
nothing that was found before it.
-/

namespace ContractReview

namespace Validation

variable (v : Validation)

theorem isValid_iff : v.isValid = true ↔ v.errors = [] := List.isEmpty_iff

/-- The same with a remark among the warnings, if there is one. -/
def remarked (remark? : Option String) : Validation :=
  { v with warnings := v.warnings ++ remark?.toList }

theorem remarked_none : v.remarked none = v := by
  unfold remarked
  rw [Option.toList_none, List.append_nil]

@[simp] theorem errors_warnIf (condition : Bool) (message : String) :
    (v.warnIf condition message).errors = v.errors := by
  cases condition <;> rfl

theorem warnIf_eq_remarked (condition : Bool) (message : String) :
    v.warnIf condition message = v.remarked (if condition then some message else none) := by
  cases condition
  · exact v.remarked_none.symm
  · rfl

/-- Two checks of one contract that find the same errors, and so come to the same verdict. Beyond
the common warnings each of them makes one remark at most. -/
structure Agree (errors common : List String) (v v' : Validation) : Prop where
  errors : v.errors = errors ∧ v'.errors = errors
  isValid : v.isValid = v'.isValid
  isValid_iff : v.isValid = true ↔ v.errors = []
  warnings : ∃ remark? remark'? : Option String,
    v.warnings = common ++ remark?.toList ∧ v'.warnings = common ++ remark'?.toList

theorem agree_remarked (remark? remark'? : Option String) :
    Agree v.errors v.warnings (v.remarked remark?) (v.remarked remark'?) where
  errors := ⟨rfl, rfl⟩
  isValid := rfl
  isValid_iff := isValid_iff _
  warnings := ⟨remark?, remark'?, rfl, rfl⟩

end Validation

namespace Family

/-- The errors that a family finds in the structure of some code. -/
def structureErrors (f : Family) (code : String) : List String :=
  match f with
  | .evm => Code.delimiterErrors code [Code.braces, Code.parentheses] .texts
  | .solana => Code.delimiterErrors code
  | .cardano => []
  | .aptos | .sui => Code.delimiterErrors code [Code.braces]

/-- What a family checks a contract for without a tool. -/
def structureCheck (f : Family) (c : Contract) (v : Validation) : Validation :=
  match f with
  | .evm => Evm.structureCheck c v
  | .solana => Solana.structureCheck c v
  | .cardano => Cardano.structureCheck c v
  | .aptos => v.append (Move.Dialect.aptos.check c.code)
  | .sui => v.append (Move.Dialect.sui.check c.code)

theorem errors_structureCheck (f : Family) (c : Contract) (v : Validation) :
    (f.structureCheck c v).errors = v.errors ++ f.structureErrors c.code := by
  cases f with
  | evm => simp [structureCheck, structureErrors, Evm.structureCheck]
  | solana => simp [structureCheck, structureErrors, Solana.structureCheck]
  | cardano => simp [structureCheck, structureErrors, Cardano.structureCheck]
  | aptos =>
      simp [structureCheck, structureErrors, Validation.append, Move.Dialect.check, Move.aptosCheck,
        Move.check]
  | sui =>
      simp [structureCheck, structureErrors, Validation.append, Move.Dialect.check, Move.suiCheck,
        Move.check]

/-- All errors of a contract: those of its size and text, and those of its structure. -/
def errorsOf (f : Family) (options : ReviewOptions) (c : Contract) : List String :=
  (if Text.allBlank c.code then [Pipeline.emptyCode] else []) ++
  (if options.maxContractSize.ltb (.int c.sizeBytes) then
    ["Contract size exceeds maximum limit of " ++ options.maxContractSize.text ++ " bytes"]
  else []) ++
  (if Text.allBlank c.code then [] else f.structureErrors c.code)

end Family

/-- The syntax probe of a contract. -/
def Evm.syntaxProbe {σ : Type} (tools : Tools σ) (platform : String) (review : ReviewOptions)
    (options : Evm.Options) (c : Contract) : Act σ ToolOutput :=
  runOn tools platform c (fun path => [path, "--print", "human-summary", "--disable-color"])
    (if options.probeTimeout.ltb review.timeout then options.probeTimeout else review.timeout)
    [c.filename]

/-- What is said of a syntax probe that was made. -/
def Evm.probeRemark? : Except Fault ToolOutput → Option String
  | .ok output =>
      if output.exitCode = 0 then none
      else some ("Slither syntax probe reported a problem: " ++ lastWord output)
  | .error (.platform failure) => some ("Syntax probe unavailable: " ++ failure.message)
  | .error fault => some ("Syntax probe failed: " ++ fault.text)

/-- A probe that ends is remarked on at once; one that breaks off leaves its fault. -/
theorem Evm.syntaxCheck_eq {σ : Type} (tools : Tools σ) (platform : String)
    (review : ReviewOptions) (options : Evm.Options) (c : Contract) (v : Validation) (s : σ) :
    syntaxCheck tools platform review options c v s =
      if tools.available Slither.tool s then
        match (syntaxProbe tools platform review options c).run s with
        | (.ok output, t) =>
            (((structureCheck c v).remarked (probeRemark? (.ok output)), none), t)
        | (.error fault, t) => ((structureCheck c v, some fault), t)
      else (((structureCheck c v).remarked (some "Slither not installed; syntax probe skipped"),
        none), s) := by
  unfold syntaxCheck syntaxProbe
  cases tools.available Slither.tool s with
  | false => rfl
  | true =>
      simp only [Bool.not_true, Bool.false_eq_true, if_false, if_true]
      rcases (runOn tools platform c
        (fun path => [path, "--print", "human-summary", "--disable-color"])
        (if options.probeTimeout.ltb review.timeout then options.probeTimeout else review.timeout)
        [c.filename]).run s with ⟨fault | output, t⟩
      · rfl
      · by_cases hcode : output.exitCode = 0 <;>
          simp [Validation.warnIf_eq_remarked, probeRemark?, hcode]

namespace Pipeline

variable {σ σ' : Type}

/-- What a contract comes to by the checks that need no tool. -/
def untooled (p : Pipeline σ) (f : Family) (c : Contract) : Validation :=
  if Text.allBlank c.code then p.checkInput c else f.structureCheck c (p.checkInput c)

/-- How two analyzers judge a contract whose tools have no say in it: they agree about the errors,
and a syntax check that breaks off leaves those it has found by then. -/
structure JudgesAlike (p : Pipeline σ) (p' : Pipeline σ') (errors common : List String)
    (c : Contract) (s : σ) (s' : σ') : Prop where
  agree : Validation.Agree errors common (p.validate c s).1 (p'.validate c s').1
  kept : Text.allBlank c.code = false → ∀ found fault t,
    p.stages.syntaxCheck c (p.checkInput c) s = ((found, some fault), t) →
      (p.validate c s).1.errors = found.errors

/-- Whatever goes wrong in a syntax check, the errors are those it has found by then. -/
theorem errors_validate (p : Pipeline σ) (c : Contract) (s : σ)
    (hblank : Text.allBlank c.code = false) :
    (p.validate c s).1.errors = (p.stages.syntaxCheck c (p.checkInput c) s).1.1.errors := by
  unfold validate
  rw [if_neg (by simp [hblank])]
  rcases p.stages.syntaxCheck c (p.checkInput c) s with ⟨⟨found, _ | fault⟩, t⟩
  · rfl
  · cases fault <;> rfl

section

variable (f : Family) (tools : Tools σ) (models : Models σ) (platform : String)
  (options : ReviewOptions) (evm : Evm.Options) (c : Contract)

theorem errors_untooled :
    ((f.pipeline tools models platform options evm).untooled f c).errors =
      f.errorsOf options c := by
  have hinput : ((f.pipeline tools models platform options evm).checkInput c).errors =
      (if Text.allBlank c.code then [emptyCode] else []) ++
      (if options.maxContractSize.ltb (.int c.sizeBytes) then
        ["Contract size exceeds maximum limit of " ++ options.maxContractSize.text ++ " bytes"]
      else []) := rfl
  unfold untooled Family.errorsOf
  rw [← hinput]
  split
  · rw [List.append_nil]
  · exact f.errors_structureCheck c _

/-- Families without a probe leave the surroundings alone. -/
theorem validate_of_unprobed (h : f ≠ .evm) (s : σ) :
    (f.pipeline tools models platform options evm).validate c s =
      ((f.pipeline tools models platform options evm).untooled f c, s) := by
  unfold validate untooled
  cases f with
  | evm => exact absurd rfl h
  | solana | cardano | aptos | sui => split <;> rfl

/-- Solidity's check probes the syntax of a contract that is not blank where Slither is there. -/
theorem validate_evm (s : σ) :
    (Family.evm.pipeline tools models platform options evm).validate c s =
      if Text.allBlank c.code then
        ((Family.evm.pipeline tools models platform options evm).untooled .evm c, s)
      else if tools.available Slither.tool s then
        (((Family.evm.pipeline tools models platform options evm).untooled .evm c).remarked
            (Evm.probeRemark? ((Evm.syntaxProbe tools platform options evm c).run s).1),
          ((Evm.syntaxProbe tools platform options evm c).run s).2)
      else
        (((Family.evm.pipeline tools models platform options evm).untooled .evm c).remarked
          (some "Slither not installed; syntax probe skipped"), s) := by
  unfold validate untooled
  cases hblank : Text.allBlank c.code with
  | true => rfl
  | false =>
      have hcheck := Evm.syntaxCheck_eq tools platform options evm c
        ((Family.evm.pipeline tools models platform options evm).checkInput c) s
      have hstage : (Family.evm.pipeline tools models platform options evm).stages.syntaxCheck =
        Evm.syntaxCheck tools platform options evm := rfl
      simp only [hstage, hcheck, Bool.false_eq_true, if_false]
      cases tools.available Slither.tool s with
      | false => rfl
      | true =>
          simp only [if_true]
          rcases (Evm.syntaxProbe tools platform options evm c).run s with ⟨fault | output, t⟩
          · cases fault <;> rfl
          · rfl

/-- A check comes to what it comes to without tools, with one remark at most. -/
theorem exists_validate_eq (s : σ) :
    ∃ remark? t, (f.pipeline tools models platform options evm).validate c s =
      (((f.pipeline tools models platform options evm).untooled f c).remarked remark?, t) := by
  by_cases hf : f = .evm
  · subst hf
    rw [validate_evm]
    split
    · exact ⟨none, s, by rw [Validation.remarked_none]⟩
    · split
      · exact ⟨_, _, rfl⟩
      · exact ⟨_, _, rfl⟩
  · rw [validate_of_unprobed f tools models platform options evm c hf]
    exact ⟨none, s, by rw [Validation.remarked_none]⟩

/-- Two checks of a contract by analyzers of one platform, whose tools and models may differ in
everything, find the same errors, which are those of `Family.errorsOf`, and give the warnings that
need no tool. A fault of a probe is no exception: the errors do not depend on how the probe ends. -/
theorem judgesAlike_pipeline (tools' : Tools σ') (models' : Models σ') (s : σ) (s' : σ') :
    (f.pipeline tools models platform options evm).JudgesAlike
      (f.pipeline tools' models' platform options evm) (f.errorsOf options c)
      ((f.pipeline tools models platform options evm).untooled f c).warnings c s s' := by
  obtain ⟨remark?, t, heq⟩ := exists_validate_eq f tools models platform options evm c s
  obtain ⟨remark'?, t', heq'⟩ := exists_validate_eq f tools' models' platform options evm c s'
  have hsame : (f.pipeline tools' models' platform options evm).untooled f c =
      (f.pipeline tools models platform options evm).untooled f c := rfl
  refine ⟨?_, fun hblank found fault t hbroken => ?_⟩
  · rw [heq, heq', hsame, ← errors_untooled f tools models platform options evm c]
    exact Validation.agree_remarked _ remark? remark'?
  · rw [errors_validate _ c s hblank, hbroken]

end

end Pipeline

end ContractReview
