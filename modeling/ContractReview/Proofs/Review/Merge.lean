import ContractReview.Proofs.Finding
import ContractReview.Proofs.Review.Pipeline

/-!
What the static report and the models' report come to together. The static report decides the
outcome and keeps its findings; what the models found follows where it is new, and what went wrong
with them is only warned of.
-/

namespace ContractReview.Pipeline

open Finding (fresh newcomers)

/-- A part of the models' report, if there is one. -/
def reported {α : Type} (part : Report → List α) (models : Option Report) : List α :=
  models.elim [] part

/-- The warnings that are added to those of both reports: one for each error of the models, and a
notice behind them when the models could not be used. -/
structure Remarks (models : Option Report) (added : List String) : Prop where
  errors : ∃ notice, added = (reported Report.errors models).map ("AI: " ++ ·) ++ notice ∧
    notice <+: [modelsUnavailable]
  unavailable : modelsUnavailable ∈ added ↔ ∃ report, models = some report ∧ report.success = false

/-- What both reports come to. -/
structure Joined (static : Report) (models : Option Report) (merged : Report) : Prop where
  outcome : Agree merged static
  distinct : (merged.findings.map Finding.key).Nodup
  findings : merged.findings =
    newcomers [] static.findings ++ newcomers static.findings (reported Report.findings models)
  undisplaced : ∀ f ∈ static.findings,
    merged.findings.find? (·.key = f.key) = static.findings.find? (·.key = f.key)
  warnings : ∃ added, Remarks models added ∧
    merged.warnings = static.warnings ++ reported Report.warnings models ++ added

theorem findings_merge (static : Report) (models : Option Report) :
    (merge static models).findings =
      fresh (static.findings ++ reported Report.findings models) := by
  cases models with
  | none => exact congrArg fresh (List.append_nil static.findings).symm
  | some report => rfl

/-- What the models found displaces no static finding. -/
theorem find?_merge {static : Report} {f : Finding} (hf : f ∈ static.findings)
    (models : Option Report) :
    (merge static models).findings.find? (·.key = f.key) =
      static.findings.find? (·.key = f.key) := by
  have hsome : (static.findings.find? (·.key = f.key)).isSome := by
    rw [List.find?_isSome]
    exact ⟨f, hf, by simp⟩
  rw [findings_merge, Finding.find?_fresh, List.find?_append]
  exact Option.or_of_isSome hsome

/-- No error of the models reads like the notice. -/
theorem modelsUnavailable_notMem_errors (errors : List String) :
    modelsUnavailable ∉ errors.map ("AI: " ++ ·) := by
  intro hmem
  obtain ⟨message, -, heq⟩ := List.mem_map.mp hmem
  have hchars := congrArg (fun text => text.toList[2]?) heq
  simp [modelsUnavailable] at hchars

theorem exists_remarks_merge (static : Report) (models : Option Report) :
    ∃ added, Remarks models added ∧
      (merge static models).warnings =
        static.warnings ++ reported Report.warnings models ++ added := by
  cases models with
  | none =>
      refine ⟨[], ⟨⟨[], rfl, List.nil_prefix⟩, by simp⟩, ?_⟩
      simp [merge, reported]
  | some report =>
      have hnone := modelsUnavailable_notMem_errors report.errors
      refine ⟨report.errors.map ("AI: " ++ ·) ++
        (if report.success then [] else [modelsUnavailable]), ⟨⟨_, rfl, ?_⟩, ?_⟩, ?_⟩
      · split
        · exact List.nil_prefix
        · exact List.prefix_rfl
      · rw [List.mem_append]
        cases hsuccess : report.success <;> simp [hnone, hsuccess]
      · simp [merge, reported]

/-- The static report decides, and its findings come first. Sifting findings twice changes nothing,
nor does sifting them before others follow. -/
theorem joined_merge (static : Report) (models : Option Report) :
    Joined static models (merge static models) ∧
      (∀ xs, fresh (fresh xs) = fresh xs) ∧
      ∀ xs ys, fresh (xs ++ ys) = fresh (fresh xs ++ ys) := by
  refine ⟨?_, Finding.fresh_fresh, fun xs ys => (Finding.fresh_append_fresh xs ys).symm⟩
  have hfindings := findings_merge static models
  exact {
    outcome := agree_merge static models
    distinct := by
      rw [hfindings]
      exact Finding.nodup_keys_fresh _
    findings := by
      rw [hfindings, Finding.fresh_append, Finding.fresh_eq_newcomers]
    undisplaced := fun f hf => find?_merge hf models
    warnings := exists_remarks_merge static models }

end ContractReview.Pipeline
