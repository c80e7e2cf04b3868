import ContractReview.Proofs.Opinion.Consensus

/-!
How many opinions stand behind what is kept. A group counts its concerns and not the opinions that
report them, so one opinion that reports a key again and again can stand in for others.
-/

namespace ContractReview.Consensus

section

variable {ν : Type}

/-- How many opinions report a key. -/
def voters (key : Key) (opinions : List (Opinion ν)) : Nat :=
  opinions.countP fun o => key ∈ o.concerns.map keyOf

/-- How often opinions report a key that they have reported before. -/
def repeats (key : Key) (opinions : List (Opinion ν)) : Nat :=
  (opinions.map fun o => (o.concerns.map keyOf).count key - 1).sum

/-- The concerns of a key are its voters and their repeats. -/
theorem count_eq_voters_add_repeats (key : Key) (opinions : List (Opinion ν)) :
    ((opinions.flatMap (·.concerns)).map keyOf).count key =
      voters key opinions + repeats key opinions := by
  induction opinions with
  | nil => rfl
  | cons o rest ih =>
      have hrest : voters key (o :: rest) = voters key rest +
          if key ∈ o.concerns.map keyOf then 1 else 0 := by
        simp only [voters, List.countP_cons, decide_eq_true_eq]
      have hrepeats : repeats key (o :: rest) =
          ((o.concerns.map keyOf).count key - 1) + repeats key rest := by
        simp only [repeats, List.map_cons, List.sum_cons]
      rw [List.flatMap_cons, List.map_append, List.count_append, ih, hrest, hrepeats]
      by_cases hmem : key ∈ o.concerns.map keyOf
      · have hpos := List.count_pos_iff.mpr hmem
        rw [if_pos hmem]
        omega
      · have hzero := List.count_eq_zero.mpr hmem
        rw [if_neg hmem]
        omega

theorem repeats_eq_zero {key : Key} {opinions : List (Opinion ν)}
    (honce : ∀ o ∈ opinions, (o.concerns.map keyOf).count key ≤ 1) : repeats key opinions = 0 := by
  unfold repeats
  rw [List.sum_eq_zero_iff]
  intro n hn
  obtain ⟨o, ho, rfl⟩ := List.mem_map.mp hn
  exact Nat.sub_eq_zero_of_le (honce o ho)

variable [Measure ν]

/-- A key with too few voters, whose repeats make up for those that are missing. -/
structure Inflated (threshold : ν) (opinions : List (Opinion ν)) (key : Key) : Prop where
  short : (voters key opinions : Int) < required threshold opinions.length
  made_up : required threshold opinions.length ≤ voters key opinions + repeats key opinions

/-- A key of which no one is sure is kept when it has voters enough, or when it is inflated; and
none is inflated that every opinion reports once at most. -/
theorem backed_or_inflated (threshold : ν) (first second : Opinion ν) (others : List (Opinion ν))
    (key : Key)
    (hunsure : ∀ o ∈ first :: second :: others, ∀ c ∈ o.concerns, keyOf c = key → ¬ Sure c) :
    (key ∈ (combine threshold first (second :: others)).concerns.map keyOf ↔
      required threshold (first :: second :: others).length ≤
          voters key (first :: second :: others) ∨
        Inflated threshold (first :: second :: others) key) ∧
    ((∀ o ∈ first :: second :: others, (o.concerns.map keyOf).count key ≤ 1) →
      ¬ Inflated threshold (first :: second :: others) key) := by
  constructor
  · have hkept := mem_keys_keptConcerns_iff (le_max_left 1 (Measure.quota threshold
      (first :: second :: others).length)) ((first :: second :: others).flatMap (·.concerns)) key
    have hnone : ¬ ∃ c ∈ (first :: second :: others).flatMap (·.concerns),
        keyOf c = key ∧ Sure c := by
      rintro ⟨c, hc, hkey, hsure⟩
      obtain ⟨o, ho, hc⟩ := List.mem_flatMap.mp hc
      exact hunsure o ho c hc hkey hsure
    rw [or_iff_left hnone, count_eq_voters_add_repeats] at hkept
    refine hkept.trans ?_
    change required threshold _ ≤ _ ↔ _
    push_cast
    constructor
    · intro hcount
      by_cases hshort : (voters key (first :: second :: others) : Int) <
          required threshold (first :: second :: others).length
      · exact .inr ⟨hshort, hcount⟩
      · exact .inl (not_lt.mp hshort)
    · rintro (hvoters | hinflated)
      · omega
      · exact hinflated.made_up
  · intro honce hinflated
    have hshort := hinflated.short
    have hmade := hinflated.made_up
    rw [repeats_eq_zero honce] at hmade
    omega

end

/-- A call of a reentrant function in line eight. -/
def reentrantCall (column : Int) : Concern Number :=
  { category := "reentrancy"
    severity := "high"
    description := "external call before the state is updated"
    location := { file := "contract.sol", line := 8, column }
    confidence := .float 0.5 }

def opinionWith (model : String) (concerns : List (Concern Number)) : Opinion Number :=
  { Opinion.unreadable model (.float 0.0) with concerns }

/-- Both models would have to agree, yet one that reports two columns of a line has its way. -/
theorem inflated_reentrantCall :
    keyOf (reentrantCall 1) ∈ (combine (.float 1.0)
      (opinionWith "a" [reentrantCall 1, reentrantCall 20])
      [opinionWith "b" []]).concerns.map keyOf ∧
    required (.float 1.0 : Number) 2 = 2 ∧
    voters (keyOf (reentrantCall 1))
      [opinionWith "a" [reentrantCall 1, reentrantCall 20], opinionWith "b" []] = 1 := by
  have hunsure (column : Int) : ¬ Sure (reentrantCall column) := by
    change ¬ Number.ltb (.float 0.8) (.float 0.5) = true
    decide +kernel
  have hrequired : required (.float 1.0 : Number) 2 = 2 := by decide +kernel
  have hvoters : voters (keyOf (reentrantCall 1))
      [opinionWith "a" [reentrantCall 1, reentrantCall 20], opinionWith "b" []] = 1 := by
    decide +kernel
  obtain ⟨hkept, -⟩ := backed_or_inflated (.float 1.0)
    (opinionWith "a" [reentrantCall 1, reentrantCall 20]) (opinionWith "b" []) []
    (keyOf (reentrantCall 1)) (by
      intro o ho c hc _
      rcases List.mem_cons.mp ho with rfl | ho
      · rcases List.mem_cons.mp hc with rfl | hc
        · exact hunsure 1
        · obtain rfl := List.mem_singleton.mp hc
          exact hunsure 20
      · obtain rfl := List.mem_singleton.mp ho
        cases hc)
  refine ⟨hkept.mpr (.inr ⟨?_, ?_⟩), hrequired, hvoters⟩
  · rw [hvoters]
    exact hrequired ▸ (by decide)
  · rw [hvoters]
    exact hrequired ▸ (by decide +kernel)

end ContractReview.Consensus
