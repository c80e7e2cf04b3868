import ContractReview.Proofs.Platform.Builds
import ContractReview.Record.Platform

/-!
The health summary as a whole. It has one line for each registered platform, its counters add up to
the number of lines, and each line is drawn from what is assigned to its own platform: registration,
builder, kept analyzer and health check of the other platforms do not show in it.
-/

namespace ContractReview

namespace HealthSummary

variable (h : HealthSummary)

/-- The line of a platform. -/
def line? (id : String) : Option PlatformHealth := h.platforms.find? (·.id = id)

theorem count_eq (status : HealthStatus) :
    h.count status = (h.platforms.filter (·.status = status)).length :=
  List.countP_eq_length_filter

/-- Every line has one of the four statuses. -/
theorem length_eq_counts :
    h.platforms.length =
      h.count .healthy + h.count .degraded + h.count .unhealthy + h.count .unknown := by
  unfold count
  induction h.platforms with
  | nil => rfl
  | cons entry rest ih =>
      rw [List.length_cons, ih]
      cases hstatus : entry.status <;> simp [hstatus] <;> omega

theorem field_total : h.toJson.field "total" = (h.platforms.length : Nat) := rfl

theorem field_name (status : HealthStatus) :
    h.toJson.field status.name = (h.count status : Nat) := by
  cases status <;> rfl

end HealthSummary

namespace Workshop

variable {σ σ' α α' : Type}

/-- Two analyzers whose health checks always come to the same. -/
def SameHealth (w : Workshop σ α) (w' : Workshop σ' α') (a : α) (a' : α') : Prop :=
  ∀ t t', ((w.health a).run t).1 = ((w'.health a').run t').1

/-- Two tries to build that come to the same: both fail, or the analyzers have the same health. -/
inductive SameMake (w : Workshop σ α) (w' : Workshop σ' α') :
    Except Fault α → Except Fault α' → Prop
  | failed (fault fault' : Fault) : SameMake w w' (.error fault) (.error fault')
  | built {a : α} {a' : α'} : SameHealth w w' a a' → SameMake w w' (.ok a) (.ok a')

/-- The same is assigned to a platform in two workshops with their stocks: how it is registered,
what becomes of a try to build its analyzer, and what a health check of it comes to. None of it
depends on the surroundings. -/
structure SameLot (w : Workshop σ α) (stock : Stock α) (w' : Workshop σ' α') (stock' : Stock α')
    (id : String) : Prop where
  registered : stock.registry.find? id = stock'.registry.find? id
  kept : Option.Rel (SameHealth w w') (stock.kept.lookup id) (stock'.kept.lookup id)
  builder : Option.Rel
    (fun build build' => ∀ platform s s',
      SameMake w w' ((build platform).run s).1 ((build' platform).run s').1)
    (w.builders.lookup id) (w'.builders.lookup id)

namespace SameLot

variable {w : Workshop σ α} {w' : Workshop σ' α'} {stock : Stock α} {stock' : Stock α'}
  {id : String}

theorem implements (h : SameLot w stock w' stock' id) : w.implements id = w'.implements id := by
  have hbuilder := h.builder
  unfold Workshop.implements
  generalize w.builders.lookup id = build at hbuilder ⊢
  generalize w'.builders.lookup id = build' at hbuilder ⊢
  cases hbuilder <;> rfl

theorem isActive (h : SameLot w stock w' stock' id) :
    stock.registry.isActive id = stock'.registry.isActive id := by
  unfold Registry.isActive
  rw [h.registered]

/-- Asking for the platform's analyzer comes to the same. -/
theorem analyzer? (h : SameLot w stock w' stock' id) (s : σ) (s' : σ') :
    Option.Rel (SameHealth w w') (w.analyzer? stock id s).1.1 (w'.analyzer? stock' id s').1.1 := by
  obtain ⟨hregistered, hkept, hbuilder⟩ := h
  unfold Workshop.analyzer?
  rw [hregistered]
  generalize stock.kept.lookup id = kept at hkept ⊢
  generalize stock'.kept.lookup id = kept' at hkept ⊢
  cases hkept with
  | some hhealth => exact .some hhealth
  | none =>
      generalize w.builders.lookup id = build at hbuilder ⊢
      generalize w'.builders.lookup id = build' at hbuilder ⊢
      cases stock'.registry.find? id with
      | none => exact .none
      | some platform =>
          cases hbuilder with
          | none => exact .none
          | @some build build' hsame =>
              cases hactive : platform.isActive with
              | false => simp [hactive]
              | true =>
                  have hmake := hsame platform s s'
                  simp only [hactive, if_true]
                  generalize (build platform).run s = done at hmake ⊢
                  generalize (build' platform).run s' = done' at hmake ⊢
                  obtain ⟨made, t⟩ := done
                  obtain ⟨made', t'⟩ := done'
                  cases hmake with
                  | failed => exact .none
                  | built hhealth => exact .some hhealth

end SameLot

/-- What is found of a platform's analyzer among those of different platforms: what asking for it
comes to, from a stock that agrees about the platform. -/
theorem lookup_analyzersOf_of_nodup (w : Workshop σ α) {ids : List String} (hids : ids.Nodup)
    (stock : Stock α) (s : σ) (id : String) :
    (id ∉ ids ∧ (w.analyzersOf ids stock s).1.1.lookup id = none) ∨
    (id ∈ ids ∧ ∃ stock' s', stock'.registry = stock.registry ∧
      stock'.kept.lookup id = stock.kept.lookup id ∧
      (w.analyzersOf ids stock s).1.1.lookup id = (w.analyzer? stock' id s').1.1) := by
  induction ids generalizing stock s with
  | nil => exact .inl ⟨List.not_mem_nil, rfl⟩
  | cons first rest ih =>
      obtain ⟨hfirst, hrest⟩ := List.nodup_cons.mp hids
      rw [lookup_analyzersOf_cons]
      have hothers := ih hrest (w.analyzer? stock first s).1.2 (w.analyzer? stock first s).2
      by_cases hid : id = first
      · subst hid
        rw [if_pos rfl]
        rcases hothers with ⟨-, hnone⟩ | ⟨hmem, -⟩
        · rw [hnone, Option.or_none]
          exact .inr ⟨List.mem_cons_self, stock, s, rfl, rfl, rfl⟩
        · exact absurd hmem hfirst
      · rw [if_neg hid, Option.none_or]
        rcases hothers with ⟨hnot, hnone⟩ | ⟨hmem, stock', s', hregistry, hkept, hlookup⟩
        · exact .inl ⟨List.not_mem_cons_of_ne_of_not_mem hid hnot, hnone⟩
        · refine .inr ⟨List.mem_cons_of_mem _ hmem, stock', s', ?_, ?_, hlookup⟩
          · rw [hregistry, (w.grown_analyzer? stock first s).registry]
          · rw [hkept, w.lookup_analyzer?_of_ne fun h => hid h.symm]

theorem map_id_take (w : Workshop σ α) (stock : Stock α) (s : σ) :
    (HealthSummary.take w stock s).1.1.platforms.map (·.id) =
      stock.registry.platforms.map (·.id) := by
  unfold HealthSummary.take
  dsimp only
  rw [List.map_map]
  congr 1
  funext p
  exact PlatformHealth.id_ofEntry ..

/-- A platform's line is drawn from its registration and its check. -/
theorem line?_take (w : Workshop σ α) (stock : Stock α) (s : σ) (id : String) :
    (HealthSummary.take w stock s).1.1.line? id =
      (stock.registry.find? id).map fun p =>
        PlatformHealth.ofEntry (w.implements id) p
          (((w.checkAll stock s).1.1.lookup id).map HealthEntry.ofCheck) := by
  unfold HealthSummary.take HealthSummary.line? Registry.find?
  dsimp only
  rw [List.find?_map]
  simp only [Function.comp_def, PlatformHealth.id_ofEntry]
  cases hfind : stock.registry.platforms.find? (·.id = id) with
  | none => rfl
  | some p =>
      obtain rfl : p.id = id := by simpa using List.find?_some hfind
      rfl

namespace SameLot

variable {w : Workshop σ α} {w' : Workshop σ' α'} {stock : Stock α} {stock' : Stock α'}
  {id : String}

/-- The check of all platforms says the same of the platform. -/
theorem lookup_checkAll (h : SameLot w stock w' stock' id) (hids : stock.registry.Distinct)
    (hids' : stock'.registry.Distinct) (s : σ) (s' : σ') :
    (w.checkAll stock s).1.1.lookup id = (w'.checkAll stock' s').1.1.lookup id := by
  have hmem : id ∈ stock.registry.active.map (·.id) ↔ id ∈ stock'.registry.active.map (·.id) := by
    rw [← hids.isActive_iff, ← hids'.isActive_iff, h.isActive]
  have hfound : Option.Rel (SameHealth w w') ((w.analyzers stock s).1.1.lookup id)
      ((w'.analyzers stock' s').1.1.lookup id) := by
    unfold analyzers
    rcases w.lookup_analyzersOf_of_nodup hids.nodup_active stock s id with
      ⟨hnot, hnone⟩ | ⟨hasked, one, t, hregistry, hkept, hlookup⟩ <;>
      rcases w'.lookup_analyzersOf_of_nodup hids'.nodup_active stock' s' id with
        ⟨hnot', hnone'⟩ | ⟨hasked', one', t', hregistry', hkept', hlookup'⟩
    · rw [hnone, hnone']
      exact .none
    · exact absurd (hmem.mpr hasked') hnot
    · exact absurd (hmem.mp hasked) hnot'
    · rw [hlookup, hlookup']
      refine SameLot.analyzer? ⟨?_, ?_, h.builder⟩ t t'
      · rw [hregistry, hregistry']
        exact h.registered
      · rw [hkept, hkept']
        exact h.kept
  rw [lookup_checkAll_eq, lookup_checkAll_eq]
  generalize (w.analyzers stock s).1.1.lookup id = found at hfound ⊢
  generalize (w'.analyzers stock' s').1.1.lookup id = found' at hfound ⊢
  cases hfound with
  | none => rfl
  | some hhealth => exact congrArg some (hhealth _ _)

/-- The line of the platform is the same. -/
theorem line?_eq (h : SameLot w stock w' stock' id) (hids : stock.registry.Distinct)
    (hids' : stock'.registry.Distinct) (s : σ) (s' : σ') :
    (HealthSummary.take w stock s).1.1.line? id =
      (HealthSummary.take w' stock' s').1.1.line? id := by
  rw [line?_take, line?_take, h.registered, h.implements, h.lookup_checkAll hids hids' s s']

end SameLot

variable (w : Workshop σ α)

/-- What a health summary tells. It lists every registered platform once, in the order of their
registration. Each counter counts the lines of its status, and the total is the sum of the counters.
In any other workshop with any other stock, a platform to which the same is assigned has the same
line, whatever is assigned to the others. -/
structure Summarized (stock : Stock α) (s : σ) : Prop where
  listed : (HealthSummary.take w stock s).1.1.platforms.map (·.id) =
    stock.registry.platforms.map (·.id)
  once : ((HealthSummary.take w stock s).1.1.platforms.map (·.id)).Nodup
  counted : ∀ status : HealthStatus,
    (HealthSummary.take w stock s).1.1.toJson.field status.name =
      (((HealthSummary.take w stock s).1.1.platforms.filter (·.status = status)).length : Nat)
  total : (HealthSummary.take w stock s).1.1.toJson.field "total" =
      (stock.registry.platforms.length : Nat) ∧
    stock.registry.platforms.length =
      (HealthSummary.take w stock s).1.1.count .healthy +
        (HealthSummary.take w stock s).1.1.count .degraded +
        (HealthSummary.take w stock s).1.1.count .unhealthy +
        (HealthSummary.take w stock s).1.1.count .unknown
  isolated : ∀ (σ' α' : Type) (w' : Workshop σ' α') (stock' : Stock α') (s' : σ') (id : String),
    stock'.registry.Distinct → SameLot w stock w' stock' id →
      (HealthSummary.take w stock s).1.1.line? id =
        (HealthSummary.take w' stock' s').1.1.line? id

theorem summarized_take (stock : Stock α) (hids : stock.registry.Distinct) (s : σ) :
    w.Summarized stock s := by
  have hlisted := w.map_id_take stock s
  have hlength : (HealthSummary.take w stock s).1.1.platforms.length =
      stock.registry.platforms.length := List.length_map ..
  refine ⟨hlisted, ?_, fun status => ?_, ⟨?_, ?_⟩, ?_⟩
  · rw [hlisted]
    exact hids
  · rw [HealthSummary.field_name, HealthSummary.count_eq]
  · rw [HealthSummary.field_total, hlength]
  · rw [← hlength, HealthSummary.length_eq_counts]
  · exact fun _ _ w' stock' s' id hids' hsame => hsame.line?_eq hids hids' s s'

/-- Ethereum's analyzer is as in the counted workshop. Solana's can be built, its check fails. -/
def restoredWorkshop : Workshop Unit Bool where
  builders := [("solana", fun _ => return false), ("ethereum", fun _ => return true)]
  health sound :=
    if sound then return { installed := true, error := some "solc is old" }
    else throw (.raised .os "no such device")

theorem sameLot_restoredWorkshop :
    SameLot countedWorkshop { registry := .standard } restoredWorkshop { registry := .standard }
      "ethereum" where
  registered := rfl
  kept := .none
  builder := .some fun _ _ _ => .built fun _ _ => rfl

/-- What becomes of Solana does not show in Ethereum's line. -/
theorem summarized_countedWorkshop :
    Registry.standard.Distinct ∧
    SameLot countedWorkshop { registry := .standard } restoredWorkshop { registry := .standard }
      "ethereum" ∧
    (HealthSummary.take countedWorkshop { registry := .standard } 0).1.1.line? "ethereum" =
      (HealthSummary.take restoredWorkshop { registry := .standard } ()).1.1.line? "ethereum" ∧
    (HealthSummary.take countedWorkshop { registry := .standard } 0).1.1.line? "solana" ≠
      (HealthSummary.take restoredWorkshop { registry := .standard } ()).1.1.line? "solana" := by
  have hids : Registry.standard.Distinct := Registry.distinct_ofList _
  have hsummarized := summarized_take countedWorkshop { registry := .standard } hids 0
  exact ⟨hids, sameLot_restoredWorkshop,
    hsummarized.isolated _ _ restoredWorkshop _ () "ethereum" hids sameLot_restoredWorkshop,
    by decide +kernel⟩

end Workshop

end ContractReview
