import ContractReview.Finding
import Mathlib

/-!
Findings that are the first of their key. What stays of a list of findings depends on the keys that
came before, and on those only.
-/

namespace ContractReview.Finding

/-- The findings with a key that no earlier finding has, be it one of `before` or one of their
own. -/
def newcomers (before findings : List Finding) : List Finding :=
  (findings.zipIdx.filter fun (f, i) => f.key ∉ (before ++ findings.take i).map key).map Prod.fst

theorem newcomers_cons (before : List Finding) (f : Finding) (rest : List Finding) :
    newcomers before (f :: rest) =
      if f.key ∈ before.map key then newcomers (before ++ [f]) rest
      else f :: newcomers (before ++ [f]) rest := by
  have hrest : (((f :: rest).zipIdx.drop 1).filter fun (g, i) =>
      g.key ∉ (before ++ (f :: rest).take i).map key).map Prod.fst =
        newcomers (before ++ [f]) rest := by
    rw [List.zipIdx_cons, List.drop_one, List.tail_cons, List.zipIdx_succ, List.filter_map,
      List.map_map]
    unfold newcomers
    congr 1
    refine List.filter_congr ?_
    rintro ⟨g, i⟩ -
    simp
  unfold newcomers at hrest ⊢
  by_cases h : f.key ∈ before.map key
  · rw [if_pos h, ← hrest, List.zipIdx_cons, List.drop_one, List.tail_cons,
      List.filter_cons_of_neg (by simpa using h)]
  · rw [if_neg h, ← hrest, List.zipIdx_cons, List.drop_one, List.tail_cons,
      List.filter_cons_of_pos (by simpa using h), List.map_cons]

/-- Only the keys of the earlier findings count. -/
theorem newcomers_congr {before before' : List Finding}
    (h : ∀ k, k ∈ before.map key ↔ k ∈ before'.map key) (findings : List Finding) :
    newcomers before findings = newcomers before' findings := by
  unfold newcomers
  congr 1
  refine List.filter_congr ?_
  rintro ⟨f, i⟩ -
  simp only [List.map_append, List.mem_append, h]

theorem newcomers_append (before xs ys : List Finding) :
    newcomers before (xs ++ ys) = newcomers before xs ++ newcomers (before ++ xs) ys := by
  induction xs generalizing before with
  | nil => simp [newcomers]
  | cons f rest ih =>
      rw [List.cons_append, newcomers_cons, newcomers_cons, ih, List.append_assoc,
        List.singleton_append]
      split <;> rfl

theorem mem_keys_newcomers_iff (before findings : List Finding) (k : Key) :
    k ∈ (newcomers before findings).map key ↔
      k ∈ findings.map key ∧ k ∉ before.map key := by
  induction findings generalizing before with
  | nil => simp [newcomers]
  | cons f rest ih =>
      have hrest := ih (before ++ [f])
      rw [List.map_append, List.mem_append, List.map_singleton, List.mem_singleton] at hrest
      rw [newcomers_cons, List.map_cons, List.mem_cons]
      by_cases h : f.key ∈ before.map key
      · rw [if_pos h, hrest]
        constructor
        · rintro ⟨hmem, hnew⟩
          exact ⟨.inr hmem, fun hold => hnew (.inl hold)⟩
        · rintro ⟨rfl | hmem, hnew⟩
          · exact absurd h hnew
          · exact ⟨hmem, not_or.mpr ⟨hnew, fun heq => hnew (heq ▸ h)⟩⟩
      · rw [if_neg h, List.map_cons, List.mem_cons, hrest]
        constructor
        · rintro (rfl | ⟨hmem, hnew⟩)
          · exact ⟨.inl rfl, h⟩
          · exact ⟨.inr hmem, fun hold => hnew (.inl hold)⟩
        · rintro ⟨rfl | hmem, hnew⟩
          · exact .inl rfl
          · by_cases heq : k = f.key
            · exact .inl heq
            · exact .inr ⟨hmem, not_or.mpr ⟨hnew, heq⟩⟩

theorem nodup_keys_newcomers (before findings : List Finding) :
    ((newcomers before findings).map key).Nodup := by
  induction findings generalizing before with
  | nil => simp [newcomers]
  | cons f rest ih =>
      rw [newcomers_cons]
      split
      · exact ih _
      · refine List.nodup_cons.mpr ⟨fun hmem => ?_, ih _⟩
        obtain ⟨-, hnew⟩ := (mem_keys_newcomers_iff _ _ _).mp hmem
        exact hnew (by simp)

/-- Findings whose keys are their own, and new, all stay. -/
theorem newcomers_eq_self {before findings : List Finding} (hnodup : (findings.map key).Nodup)
    (hnew : ∀ k ∈ findings.map key, k ∉ before.map key) : newcomers before findings = findings := by
  induction findings generalizing before with
  | nil => rfl
  | cons f rest ih =>
      obtain ⟨hfresh, hrest⟩ := List.nodup_cons.mp hnodup
      rw [newcomers_cons, if_neg (hnew f.key List.mem_cons_self), ih hrest]
      intro k hk hold
      rw [List.map_append, List.mem_append, List.map_singleton, List.mem_singleton] at hold
      rcases hold with hold | rfl
      · exact hnew k (List.mem_cons_of_mem _ hk) hold
      · exact hfresh hk

/-- The first finding of a key that is new is still the first. -/
theorem find?_newcomers (before findings : List Finding) {k : Key} (hk : k ∉ before.map key) :
    (newcomers before findings).find? (·.key = k) = findings.find? (·.key = k) := by
  induction findings generalizing before with
  | nil => rfl
  | cons f rest ih =>
      rw [newcomers_cons]
      by_cases heq : f.key = k
      · subst heq
        simp [hk]
      · have hnew : k ∉ (before ++ [f]).map key := by
          rw [List.map_append, List.mem_append, List.map_singleton, List.mem_singleton]
          exact not_or.mpr ⟨hk, fun h => heq h.symm⟩
        have hrest := ih (before ++ [f]) hnew
        split
        · simpa [heq] using hrest
        · simpa [heq] using hrest

theorem freshFrom_eq_newcomers {seen : List Key} {before : List Finding}
    (hseen : ∀ k, k ∈ seen ↔ k ∈ before.map key) (findings : List Finding) :
    freshFrom seen findings = newcomers before findings := by
  induction findings generalizing seen before with
  | nil => rfl
  | cons f rest ih =>
      have hmore : ∀ k, k ∈ f.key :: seen ↔ k ∈ (before ++ [f]).map key := by
        intro k
        simp [hseen, or_comm]
      rw [freshFrom, newcomers_cons]
      by_cases hold : f.key ∈ seen
      · rw [if_pos hold, if_pos ((hseen _).mp hold)]
        refine ih fun k => ?_
        rw [← hmore, List.mem_cons]
        constructor
        · exact .inr
        · rintro (rfl | h)
          · exact hold
          · exact h
      · rw [if_neg hold, if_neg fun h => hold ((hseen _).mpr h), ih hmore]

theorem fresh_eq_newcomers (findings : List Finding) : fresh findings = newcomers [] findings :=
  freshFrom_eq_newcomers (by simp) findings

/-- Behind other findings, those stay whose keys are new there. -/
theorem fresh_append (xs ys : List Finding) : fresh (xs ++ ys) = fresh xs ++ newcomers xs ys := by
  rw [fresh_eq_newcomers, fresh_eq_newcomers, newcomers_append, List.nil_append]

theorem mem_keys_fresh_iff (findings : List Finding) (k : Key) :
    k ∈ (fresh findings).map key ↔ k ∈ findings.map key := by
  rw [fresh_eq_newcomers, mem_keys_newcomers_iff]
  simp

theorem nodup_keys_fresh (findings : List Finding) : ((fresh findings).map key).Nodup := by
  rw [fresh_eq_newcomers]
  exact nodup_keys_newcomers [] findings

theorem fresh_subset (findings : List Finding) : fresh findings ⊆ findings := by
  intro f hf
  rw [fresh_eq_newcomers] at hf
  obtain ⟨⟨g, i⟩, hg, rfl⟩ := List.mem_map.mp hf
  exact List.fst_mem_of_mem_zipIdx (List.mem_of_mem_filter hg)

theorem fresh_fresh (findings : List Finding) : fresh (fresh findings) = fresh findings := by
  rw [fresh_eq_newcomers (fresh findings)]
  exact newcomers_eq_self (nodup_keys_fresh findings) (by simp)

/-- Findings may be sifted before others follow. -/
theorem fresh_append_fresh (xs ys : List Finding) :
    fresh (fresh xs ++ ys) = fresh (xs ++ ys) := by
  rw [fresh_append, fresh_append, fresh_fresh, newcomers_congr (mem_keys_fresh_iff xs)]

theorem find?_fresh (findings : List Finding) (k : Key) :
    (fresh findings).find? (·.key = k) = findings.find? (·.key = k) := by
  rw [fresh_eq_newcomers]
  exact find?_newcomers [] findings (by simp)

end ContractReview.Finding
