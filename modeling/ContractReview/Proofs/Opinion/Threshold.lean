import ContractReview.Proofs.Opinion.Votes

/-!
What the threshold decides. A higher one asks for more opinions, though never for more than there
are, and keeps no concern that a lower one would not keep. So what every opinion reports is kept in
any case, and under the lowest threshold whatever is reported.
-/

namespace ContractReview

/-! ## Rounding -/

theorem roundEven_bounds (x : ℚ) : ⌊x⌋ ≤ roundEven x ∧ roundEven x ≤ ⌊x⌋ + 1 := by
  unfold roundEven
  split
  · exact ⟨le_rfl, Int.le_add_one le_rfl⟩
  · exact ⟨Int.le_add_one le_rfl, le_rfl⟩

theorem roundEven_intCast (n : ℤ) : roundEven n = n := by
  unfold roundEven
  rw [Int.floor_intCast, sub_self]
  exact if_pos (.inl one_half_pos)

/-- Of two numbers with one whole part, the greater is rounded up when the other one is. -/
theorem roundEven_le_of_floor_eq {x y : ℚ} (h : x ≤ y) (hfloor : ⌊x⌋ = ⌊y⌋) :
    roundEven x ≤ roundEven y := by
  by_cases hup : roundEven y = ⌊y⌋ + 1
  · rw [hup, ← hfloor]
    exact (roundEven_bounds x).2
  · have hdown : y - ⌊y⌋ < 1 / 2 ∨ (y - ⌊y⌋ = 1 / 2 ∧ ⌊y⌋ % 2 = 0) := by
      by_contra hnot
      exact hup (if_neg hnot)
    have hsame : x - ⌊x⌋ < 1 / 2 ∨ (x - ⌊x⌋ = 1 / 2 ∧ ⌊x⌋ % 2 = 0) := by
      rw [hfloor]
      have hle : x - ⌊y⌋ ≤ y - ⌊y⌋ := sub_le_sub_right h _
      rcases hdown with hlt | ⟨heq, heven⟩
      · exact .inl (hle.trans_lt hlt)
      · rcases hle.lt_or_eq with hlt | hle
        · exact .inl (hlt.trans_eq heq)
        · exact .inr ⟨hle.trans heq, heven⟩
    have hx : roundEven x = ⌊x⌋ := if_pos hsame
    rw [hx, hfloor]
    exact (roundEven_bounds y).1

theorem roundEven_mono : Monotone roundEven := by
  intro x y h
  rcases (Int.floor_le_floor h).lt_or_eq with hlt | heq
  · calc roundEven x ≤ ⌊x⌋ + 1 := (roundEven_bounds x).2
      _ ≤ ⌊y⌋ := hlt
      _ ≤ roundEven y := (roundEven_bounds y).1
  · exact roundEven_le_of_floor_eq h heq

namespace Consensus

/-! ## How many opinions are asked for -/

theorem quota_mono {s t : ℚ} (h : s ≤ t) (count : ℕ) :
    Measure.quota s count ≤ Measure.quota t count := by
  have hproduct : (count : ℚ) * s * 10 ^ 9 ≤ count * t * 10 ^ 9 := by gcongr
  have hrounded : (roundEven (count * s * 10 ^ 9) : ℚ) ≤ roundEven (count * t * 10 ^ 9) := by
    exact_mod_cast roundEven_mono hproduct
  change ⌈_⌉ ≤ ⌈_⌉
  gcongr

/-- A share that is a whole number of opinions is not changed by rounding. -/
theorem quota_of_whole {t : ℚ} {count : ℕ} {whole : ℤ} (h : count * t = whole) :
    Measure.quota t count = whole := by
  have hscaled : (count : ℚ) * t * 10 ^ 9 = ((whole * 10 ^ 9 : ℤ) : ℚ) := by
    rw [h]
    push_cast
    rfl
  change ⌈(roundEven (count * t * 10 ^ 9) : ℚ) / 10 ^ 9⌉ = whole
  rw [hscaled, roundEven_intCast, Int.cast_mul, Int.cast_pow, Int.cast_ofNat,
    mul_div_cancel_right₀ _ (by norm_num)]
  exact Int.ceil_intCast whole

theorem required_mono {s t : ℚ} (h : s ≤ t) (count : ℕ) : required s count ≤ required t count :=
  max_le_max_left 1 (quota_mono h count)

theorem one_le_required (t : ℚ) (count : ℕ) : 1 ≤ required t count := le_max_left 1 _

theorem required_le {t : ℚ} (ht : t ≤ 1) {count : ℕ} (hcount : 1 ≤ count) :
    required t count ≤ count := by
  apply max_le
  · exact_mod_cast hcount
  · exact (quota_mono ht count).trans_eq (quota_of_whole (mul_one _))

theorem required_zero (count : ℕ) : required (0 : ℚ) count = 1 := by
  have hnone : (count : ℚ) * 0 = ((0 : ℤ) : ℚ) := by simp
  unfold required
  rw [quota_of_whole hnone]
  rfl

/-! ## What is kept -/

section

variable {ν : Type}

/-- A key that all opinions report has as many concerns as there are opinions. -/
theorem length_le_count_of_shared {key : Key} {opinions : List (Opinion ν)}
    (h : ∀ o ∈ opinions, key ∈ o.concerns.map keyOf) :
    opinions.length ≤ ((opinions.flatMap (·.concerns)).map keyOf).count key := by
  have hvoters : voters key opinions = opinions.length := by
    unfold voters
    rw [List.countP_eq_length]
    intro o ho
    exact decide_eq_true (h o ho)
  rw [count_eq_voters_add_repeats, hvoters]
  exact Nat.le_add_right _ _

variable [Measure ν]

theorem keeps_of_le {low high : ℤ} (h : low ≤ high) (g : Group ν) (hkeeps : keeps high g = true) :
    keeps low g = true := by
  unfold keeps at hkeeps ⊢
  rw [Bool.or_eq_true, decide_eq_true_iff] at hkeeps ⊢
  exact hkeeps.imp_left h.trans

theorem keptConcerns_sublist {low high : ℤ} (h : low ≤ high) (reported : List (Concern ν)) :
    (keptConcerns high reported).Sublist (keptConcerns low reported) :=
  (List.monotone_filter_right _ (keeps_of_le h)).map Group.spokesman

end

/-- What a threshold keeps of the concerns in two opinions or more. -/
structure Graded (opinions : List (Opinion ℚ)) (kept : ℚ → List (Concern ℚ)) : Prop where
  required : ∀ t ∈ Set.Icc (0 : ℚ) 1,
    1 ≤ required t opinions.length ∧ required t opinions.length ≤ opinions.length
  sublist : ∀ s ∈ Set.Icc (0 : ℚ) 1, ∀ t ∈ Set.Icc (0 : ℚ) 1, s ≤ t → (kept t).Sublist (kept s)
  shared : ∀ t ∈ Set.Icc (0 : ℚ) 1, ∀ key, (∀ o ∈ opinions, key ∈ o.concerns.map keyOf) →
    key ∈ (kept t).map keyOf
  lowest : ∀ o ∈ opinions, ∀ c ∈ o.concerns, keyOf c ∈ (kept 0).map keyOf

/-- A threshold never asks for more opinions than there are, and a higher one keeps some of the
concerns that a lower one keeps, in the same order and told by the same members. Concerns that all
opinions report are kept under every threshold, and all concerns under the lowest. -/
theorem graded_combine (first second : Opinion ℚ) (others : List (Opinion ℚ)) :
    Graded (first :: second :: others)
      fun threshold => (combine threshold first (second :: others)).concerns := by
  have hcount : 1 ≤ (first :: second :: others).length := Nat.succ_pos _
  have hkept (t : ℚ) (key : Key) := mem_keys_keptConcerns_iff
    (one_le_required t (first :: second :: others).length)
    ((first :: second :: others).flatMap (·.concerns)) key
  exact {
    required := fun t ht => ⟨one_le_required t _, required_le ht.2 hcount⟩
    sublist := fun s _ t _ hst => keptConcerns_sublist (required_mono hst _) _
    shared := by
      intro t ht key hshared
      have henough : (first :: second :: others).length ≤
          (((first :: second :: others).flatMap (·.concerns)).map keyOf).count key :=
        length_le_count_of_shared hshared
      refine (hkept t key).mpr (.inl ((required_le ht.2 hcount).trans ?_))
      exact_mod_cast henough
    lowest := by
      intro o ho c hc
      have hreported : keyOf c ∈ ((first :: second :: others).flatMap (·.concerns)).map keyOf :=
        List.mem_map_of_mem (List.mem_flatMap.mpr ⟨o, ho, hc⟩)
      refine (hkept 0 (keyOf c)).mpr (.inl ?_)
      rw [required_zero]
      exact_mod_cast List.count_pos_iff.mpr hreported }

example : required (3 / 5 : ℚ) 3 = 2 := by decide +kernel

end Consensus

end ContractReview
