import ContractReview.Text.CaseMapping
import Mathlib

/-!
Which texts have a word of plain letters as their lower case. Of the letters beyond ASCII only two
have a plain letter in their lower case, and those are `i` and `k`. So a word without these is the
lower case of its own spellings in small and capital letters, and of nothing else.
-/

namespace ContractReview.Text

/-- A run holds what it shifts, and the letter that comes out lies as far behind. -/
theorem exists_run_of_shiftIn {n m : Nat} {runs : List (Nat × Nat × Nat × Int)}
    (h : shiftIn n runs = some m) :
    ∃ run ∈ runs, run.1 ≤ n ∧ n ≤ run.2.1 ∧ m = Int.toNat (n + run.2.2.2) := by
  induction runs with
  | nil => cases h
  | cons run rest ih =>
      obtain ⟨first, last, step, delta⟩ := run
      unfold shiftIn at h
      split at h
      next hin =>
        cases h
        exact ⟨_, List.mem_cons_self, hin.1, hin.2.1, rfl⟩
      next =>
        obtain ⟨run, hrun, hshift⟩ := ih h
        exact ⟨run, List.mem_cons_of_mem _ hrun, hshift⟩

/-- All runs but that of the Kelvin sign lead to letters beyond ASCII. -/
theorem lowerRuns_beyond : ∀ run ∈ lowerRuns, run = (0x212A, 0x212A, 1, -8383) ∨
    (128 ≤ run.1 + run.2.2.2 ∧
      (run.2.1 + run.2.2.2 < 0xD800 ∨
        (0xDFFF < run.1 + run.2.2.2 ∧ run.2.1 + run.2.2.2 < 0x110000))) := by
  decide +kernel

/-- The lower case of a letter beyond ASCII stays there, but for two letters. -/
theorem le_toNat_of_mem_lowerChar {c d : Char} (hc : 128 ≤ c.toNat) (hd : d ∈ lowerChar c) :
    128 ≤ d.toNat ∨ d = 'i' ∨ d = 'k' := by
  unfold lowerChar at hd
  rw [if_neg (Nat.not_lt.mpr hc)] at hd
  unfold mapCase at hd
  split at hd
  next letters hletters =>
    rw [List.lookup_cons] at hletters
    split at hletters
    · cases hletters
      simp only [List.map_cons, List.map_nil, List.mem_cons, List.not_mem_nil, or_false] at hd
      rcases hd with rfl | rfl
      · exact .inr (.inl rfl)
      · exact .inl (by decide)
    · cases hletters
  next =>
    rw [List.mem_singleton] at hd
    cases hshift : shiftIn c.toNat lowerRuns with
    | none =>
        rw [hshift] at hd
        exact .inl (hd ▸ hc)
    | some m =>
        rw [hshift, Option.map_some, Option.getD_some] at hd
        obtain ⟨run, hrun, hfirst, hlast, rfl⟩ := exists_run_of_shiftIn hshift
        rcases lowerRuns_beyond run hrun with rfl | ⟨hbeyond, hvalid⟩
        · obtain hkelvin := Nat.le_antisymm hlast hfirst
          rw [hkelvin] at hd
          exact .inr (.inr hd)
        · rw [hd, Char.toNat_ofNat, if_pos (by unfold Nat.isValidChar; omega)]
          omega

theorem lowerChar_ne_nil (c : Char) : lowerChar c ≠ [] := by
  unfold lowerChar
  split
  next => exact List.cons_ne_nil _ _
  next =>
    unfold mapCase
    split
    next letters hletters =>
      rw [List.lookup_cons] at hletters
      split at hletters
      · cases hletters
        exact List.cons_ne_nil _ _
      · cases hletters
    next => exact List.cons_ne_nil _ _

/-- A word of ASCII that has no `i` and no `k` in it. -/
def Unambiguous (word : List Char) : Prop := ∀ d ∈ word, d.toNat < 128 ∧ d ≠ 'i' ∧ d ≠ 'k'

theorem lowerIn_of_lt {c : Char} (hc : c.toNat < 128) (before after : List Char) :
    lowerIn before c after = [c.toLower] := by
  have hsigma : c ≠ 'Σ' := by
    rintro rfl
    exact absurd hc (by decide)
  rw [lowerIn, if_neg (by simpa using hsigma), lowerChar, if_pos hc]

theorem lowerFrom_of_ascii {cs : List Char} (h : ∀ c ∈ cs, c.toNat < 128) (before : List Char) :
    lowerFrom before cs = cs.map Char.toLower := by
  induction cs generalizing before with
  | nil => rfl
  | cons c rest ih =>
      obtain ⟨hc, hrest⟩ := List.forall_mem_cons.mp h
      rw [lowerFrom, lowerIn_of_lt hc, ih hrest, List.map_cons, List.singleton_append]

/-- Some letter of the lower case betrays a letter beyond ASCII. -/
theorem exists_mem_lowerIn {c : Char} (hc : 128 ≤ c.toNat) (before after : List Char) :
    ∃ d ∈ lowerIn before c after, 128 ≤ d.toNat ∨ d = 'i' ∨ d = 'k' := by
  unfold lowerIn
  split
  next =>
    refine ⟨_, List.mem_singleton_self _, .inl ?_⟩
    unfold lowerSigma
    split
    · decide
    · decide
  next =>
    obtain ⟨d, hd⟩ := List.exists_mem_of_ne_nil _ (lowerChar_ne_nil c)
    exact ⟨d, hd, le_toNat_of_mem_lowerChar hc hd⟩

theorem toLower_of_le {c : Char} (hc : 128 ≤ c.toNat) : c.toLower = c := by
  refine Char.toLower_eq_of_not_isUpper fun hupper => ?_
  simp only [Char.isUpper, decide_eq_true_eq] at hupper
  have hlow : c.toNat ≤ 90 := UInt32.le_iff_toNat_le.mp hupper.2
  omega

/-- A text has such a word as its lower case just if it spells it in small and capital letters. -/
theorem lowerFrom_eq_iff {word : List Char} (hword : Unambiguous word) (before cs : List Char) :
    lowerFrom before cs = word ↔ cs.map Char.toLower = word := by
  induction cs generalizing before word with
  | nil => rfl
  | cons c rest ih =>
      rw [lowerFrom, List.map_cons]
      by_cases hc : c.toNat < 128
      · rw [lowerIn_of_lt hc, List.singleton_append]
        cases word with
        | nil => simp
        | cons d word =>
            rw [List.cons.injEq, List.cons.injEq, ih (List.forall_mem_cons.mp hword).2]
      · have hbeyond := Nat.le_of_not_lt hc
        refine iff_of_false ?_ ?_
        · rintro rfl
          obtain ⟨d, hd, hstrange⟩ := exists_mem_lowerIn hbeyond before rest
          obtain ⟨hlow, hi, hk⟩ := hword d (List.mem_append_left _ hd)
          exact hstrange.elim (Nat.not_le.mpr hlow) fun h => h.elim hi hk
        · rintro rfl
          have hlow := (hword _ List.mem_cons_self).1
          rw [toLower_of_le hbeyond] at hlow
          exact hc hlow

end ContractReview.Text
