import ContractReview.Number.Double
import Mathlib

/-!
Which whole numbers have a double: those below a limit, where rounding would carry the significand
past the greatest exponent.
-/

namespace ContractReview.Double

theorem two_pow_eq_mul {c : Nat} (a b : Nat) (h : a + b = c) : 2 ^ c = 2 ^ a * 2 ^ b := by
  subst h
  exact Nat.pow_add 2 a b

theorem le_roundDiv {k num den : Nat} (hden : 0 < den) (h : k * den ≤ num) :
    k ≤ roundDiv num den := by
  have hk : k ≤ num / den := (Nat.le_div_iff_mul_le hden).mpr h
  unfold roundDiv
  dsimp only
  split <;> omega

theorem roundDiv_le {k num den : Nat} (hden : 0 < den) (h : num < k * den) :
    roundDiv num den ≤ k := by
  have hk : num / den < k := (Nat.div_lt_iff_lt_mul hden).mpr h
  unfold roundDiv
  dsimp only
  split <;> omega

/-- The significand of a positive whole number, before it is cut to the width of a double. -/
def significand (n : Nat) : Nat :=
  if 52 ≤ Nat.log2 n then roundDiv n (2 ^ (Nat.log2 n - 52)) else n * 2 ^ (52 - Nat.log2 n)

theorem significand_bounds {n : Nat} (hn : n ≠ 0) :
    2 ^ 52 ≤ significand n ∧ significand n ≤ 2 ^ 53 := by
  have hlow := Nat.log2_self_le hn
  have hhigh := Nat.lt_log2_self (n := n)
  unfold significand
  split
  next h =>
    have hden : 0 < 2 ^ (Nat.log2 n - 52) := Nat.two_pow_pos _
    refine ⟨le_roundDiv hden ?_, roundDiv_le hden ?_⟩
    · rwa [← Nat.pow_add, Nat.add_sub_cancel' h]
    · rwa [← Nat.pow_add, show 53 + (Nat.log2 n - 52) = Nat.log2 n + 1 by omega]
  next h =>
    have hden : 0 < 2 ^ (52 - Nat.log2 n) := Nat.two_pow_pos _
    constructor
    · calc 2 ^ 52 = 2 ^ Nat.log2 n * 2 ^ (52 - Nat.log2 n) := by
            rw [← Nat.pow_add, Nat.add_sub_cancel' (by omega)]
        _ ≤ n * 2 ^ (52 - Nat.log2 n) := Nat.mul_le_mul_right _ hlow
    · calc n * 2 ^ (52 - Nat.log2 n) ≤ 2 ^ (Nat.log2 n + 1) * 2 ^ (52 - Nat.log2 n) :=
            Nat.mul_le_mul_right _ (Nat.le_of_lt hhigh)
        _ = 2 ^ 53 := by
            rw [← Nat.pow_add, show Nat.log2 n + 1 + (52 - Nat.log2 n) = 53 by omega]

theorem bitsOfRatio_whole {n : Nat} (hn : n ≠ 0) :
    bitsOfRatio n 1 =
      min ((Nat.log2 n + 1022) * 2 ^ 52 + significand n) (2047 * 2 ^ 52) := by
  have hlow := Nat.log2_self_le hn
  have hbounds := significand_bounds hn
  have htop : ¬ n * (scaled 1 (Nat.log2 n : Int)).2 < 1 * (scaled 1 (Nat.log2 n : Int)).1 := by
    simp [scaled, hlow]
  have hq : max ((Nat.log2 n : Int) - 52) (-1074) = (Nat.log2 n : Int) - 52 := by omega
  have hm : roundDiv (n * (scaled 1 ((Nat.log2 n : Int) - 52)).2)
      (1 * (scaled 1 ((Nat.log2 n : Int) - 52)).1) = significand n := by
    unfold significand scaled
    by_cases h : 52 ≤ Nat.log2 n
    · have h' : (0 : Int) ≤ (Nat.log2 n : Int) - 52 := by omega
      have ht : ((Nat.log2 n : Int) - 52).toNat = Nat.log2 n - 52 := by omega
      simp only [h, h', ht, ↓reduceIte, Nat.one_mul, Nat.mul_one, Nat.pow_eq]
    · have h' : ¬ (0 : Int) ≤ (Nat.log2 n : Int) - 52 := by omega
      have ht : (-((Nat.log2 n : Int) - 52)).toNat = 52 - Nat.log2 n := by omega
      simp only [h, h', ht, ↓reduceIte, Nat.one_mul]
      simp [roundDiv]
      omega
  unfold bitsOfRatio
  simp only [hn, ↓reduceIte, show Nat.log2 1 = 0 from rfl, Int.natCast_zero, Int.sub_zero, htop,
    hq, hm, Nat.pow_eq]
  have h1 : ¬ significand n < 2 ^ 52 := by omega
  have h2 : ((Nat.log2 n : Int) - 52 + 1075).toNat = Nat.log2 n + 1023 := by omega
  have hbits : (Nat.log2 n + 1023) * 2 ^ 52 + (significand n - 2 ^ 52) =
      (Nat.log2 n + 1022) * 2 ^ 52 + significand n := by omega
  rw [if_neg h1, h2, hbits]

/-- The least whole number that no double is near to. -/
def limit : Nat := (2 ^ 54 - 1) * 2 ^ 970

theorem two_pow_mul_le_limit {a b : Nat} (ha : a ≤ 53) (hb : b ≤ 970) : 2 ^ a * 2 ^ b ≤ limit := by
  have hfactor : 2 ^ a ≤ 2 ^ 54 - 1 := by
    calc 2 ^ a ≤ 2 ^ 53 := Nat.pow_le_pow_right (by decide) ha
      _ ≤ 2 ^ 54 - 1 := by decide
  exact Nat.mul_le_mul hfactor (pow_le_pow_right₀ one_le_two hb)

theorem limit_lt_two_pow {c : Nat} (hc : 1024 ≤ c) : limit < 2 ^ c := by
  have hunit (unit : Nat) (hpos : 0 < unit) : (2 ^ 54 - 1) * unit < 2 ^ 54 * unit :=
    Nat.mul_lt_mul_of_pos_right (by decide) hpos
  calc limit < 2 ^ 54 * 2 ^ 970 := hunit _ (pow_pos two_pos 970)
    _ ≤ 2 ^ 54 * 2 ^ (c - 54) := Nat.mul_le_mul_left _ (pow_le_pow_right₀ one_le_two (by omega))
    _ = 2 ^ c := (two_pow_eq_mul 54 (c - 54) (by omega)).symm

/-- In the uppermost binade the significand carries exactly from the limit on. -/
theorem significand_top {n : Nat} (h : Nat.log2 n = 1023) :
    significand n = 2 ^ 53 ↔ limit ≤ n := by
  have hn : n < 2 ^ 54 * 2 ^ 970 := by
    calc n < 2 ^ (Nat.log2 n + 1) := Nat.lt_log2_self
      _ = 2 ^ 54 * 2 ^ 970 := two_pow_eq_mul 54 970 (by rw [h])
  have hunit : 2 ^ (Nat.log2 n - 52) = 2 ^ 970 * 2 ^ 1 := two_pow_eq_mul 970 1 (by rw [h])
  have hpos : 0 < 2 ^ 970 := pow_pos two_pos 970
  unfold significand limit
  rw [if_pos (by omega), hunit]
  generalize 2 ^ 970 = unit at *
  unfold roundDiv
  dsimp only
  have hdiv := Nat.div_add_mod n (unit * 2 ^ 1)
  have hmod := Nat.mod_lt n (show 0 < unit * 2 ^ 1 by omega)
  generalize n / (unit * 2 ^ 1) = whole at *
  generalize n % (unit * 2 ^ 1) = rest at *
  have hwhole (k : Nat) (hk : k ≤ whole) : unit * 2 ^ 1 * k ≤ unit * 2 ^ 1 * whole :=
    Nat.mul_le_mul_left _ hk
  constructor
  · intro heq
    split at heq
    · have := hwhole (2 ^ 53) (by omega)
      omega
    · have := hwhole (2 ^ 53 - 1) (by omega)
      have hw : whole = 2 ^ 53 - 1 := by omega
      subst hw
      omega
  · intro hle
    have hw : whole = 2 ^ 53 - 1 := by
      rcases Nat.lt_trichotomy whole (2 ^ 53 - 1) with hlt | heq | hgt
      · have := Nat.mul_le_mul_left (unit * 2 ^ 1) (show whole ≤ 2 ^ 53 - 2 by omega)
        omega
      · exact heq
      · have := hwhole (2 ^ 53) (by omega)
        omega
    subst hw
    split <;> omega

theorem bitsOfRatio_eq_infinite_iff (n : Nat) :
    bitsOfRatio n 1 = 2047 * 2 ^ 52 ↔ limit ≤ n := by
  by_cases hn : n = 0
  · subst hn
    have hpos : 0 < limit := Nat.mul_pos (by decide) (pow_pos two_pos 970)
    simp only [bitsOfRatio, ↓reduceIte]
    omega
  rw [bitsOfRatio_whole hn]
  have hbounds := significand_bounds hn
  have hlow := Nat.log2_self_le hn
  have hhigh := Nat.lt_log2_self (n := n)
  rcases Nat.lt_trichotomy (Nat.log2 n) 1023 with h | h | h
  · have : n < limit := by
      calc n < 2 ^ (Nat.log2 n + 1) := hhigh
        _ = 2 ^ min 53 (Nat.log2 n + 1) * 2 ^ (Nat.log2 n + 1 - 53) :=
            two_pow_eq_mul _ _ (by omega)
        _ ≤ limit := two_pow_mul_le_limit (by omega) (by omega)
    omega
  · rw [← significand_top h, h]
    omega
  · have : limit ≤ n := Nat.le_trans (Nat.le_of_lt (limit_lt_two_pow h)) hlow
    omega

/-- A whole number has a double exactly when it lies below the limit on either side. -/
theorem ofInt?_eq_none_iff (i : Int) : ofInt? i = none ↔ limit ≤ i.natAbs := by
  unfold ofInt?
  rw [← bitsOfRatio_eq_infinite_iff]
  split <;> simp_all

end ContractReview.Double
