import Mathlib.Data.List.Induction

/-!
Histories whose entries are told with what comes before them: facts that hold throughout, and facts
that the latest entry decides, which an entry may bring about, some entries leave as they are, and
any other ends.
-/

namespace ContractReview

variable {α : Type}

/-- The latest entry that is not passed over has a property, told with what comes before it. -/
def Latest (passed : α → Prop) (P : List α → α → Prop) (entries : List α) : Prop :=
  ∃ before entry after, entries = before ++ entry :: after ∧ (∀ later ∈ after, passed later) ∧
    P before entry

variable {passed : α → Prop} {P : List α → α → Prop}

theorem not_latest_nil : ¬ Latest passed P [] := by
  rintro ⟨before, entry, after, heq, -⟩
  simp at heq

theorem latest_concat_iff {entries : List α} {last : α} :
    Latest passed P (entries ++ [last]) ↔
      P entries last ∨ (passed last ∧ Latest passed P entries) := by
  constructor
  · rintro ⟨before, entry, after, heq, hafter, hentry⟩
    rcases List.eq_nil_or_concat after with rfl | ⟨after, final, rfl⟩
    · obtain ⟨rfl, hlast⟩ := List.append_inj' heq rfl
      obtain rfl := List.singleton_inj.mp hlast
      exact .inl hentry
    · rw [List.concat_eq_append] at heq hafter
      rw [← List.cons_append, ← List.append_assoc] at heq
      obtain ⟨rfl, hlast⟩ := List.append_inj' heq rfl
      obtain rfl := List.singleton_inj.mp hlast
      exact .inr ⟨hafter last (List.mem_append_right _ (List.mem_singleton_self last)),
        before, entry, after, rfl, fun later h => hafter later (List.mem_append_left _ h), hentry⟩
  · rintro (hlast | ⟨hpassed, before, entry, after, rfl, hafter, hentry⟩)
    · exact ⟨entries, last, [], rfl, by simp, hlast⟩
    · refine ⟨before, entry, after ++ [last], by simp, ?_, hentry⟩
      intro later hlater
      rcases List.mem_append.mp hlater with hold | hnew
      · exact hafter later hold
      · exact List.mem_singleton.mp hnew ▸ hpassed

/-- What starts out false, and holds behind an entry that brings it about or leaves it, is decided
by the latest entry. -/
theorem iff_latest {Q : List α → Prop} (hnil : ¬ Q [])
    (hconcat : ∀ entries last, Q (entries ++ [last]) ↔ P entries last ∨ (passed last ∧ Q entries))
    (entries : List α) : Q entries ↔ Latest passed P entries := by
  induction entries using List.reverseRecOn with
  | nil => exact iff_of_false hnil not_latest_nil
  | append_singleton entries last ih => rw [hconcat, latest_concat_iff, ih]

/-- Every entry has a property, told with what comes before it. -/
def Throughout (P : List α → α → Prop) (entries : List α) : Prop :=
  ∀ before entry after, entries = before ++ entry :: after → P before entry

theorem throughout_nil : Throughout P [] := by
  intro before entry after heq
  simp at heq

theorem Throughout.concat {entries : List α} {last : α} (h : Throughout P entries)
    (hlast : P entries last) : Throughout P (entries ++ [last]) := by
  intro before entry after heq
  by_contra hnot
  -- an exception would be the latest one among all entries, none of which counts as passed over
  have hlatest : Latest (fun _ => True) (fun before entry => ¬ P before entry)
      (entries ++ [last]) := ⟨before, entry, after, heq, fun _ _ => trivial, hnot⟩
  rcases latest_concat_iff.mp hlatest with hbad | ⟨-, before', entry', after', hsplit, -, hbad⟩
  · exact hbad hlast
  · exact hbad (h before' entry' after' hsplit)

end ContractReview
