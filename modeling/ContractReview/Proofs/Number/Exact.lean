import ContractReview.Proofs.Number.Whole

/-!
Whole numbers that doubles hold exactly: a significand of up to 53 bits times a power of two. The
whole part of every finite double is one of them, and it comes back unchanged from its own double.
-/

namespace ContractReview.Double

open Float.Model (Format)
open Float.Model.UnpackedFloat (isNaNBits pack_unpack unpackExponent_def)

/-- A whole number that some double holds exactly. -/
def Exact (n : Nat) : Prop := ∃ k e, k < 2 ^ 53 ∧ e ≤ 971 ∧ n = k * 2 ^ e

theorem exact_of_lt {n : Nat} (h : n < 2 ^ 53) : Exact n :=
  ⟨n, 0, h, Nat.zero_le _, (Nat.mul_one n).symm⟩

/-! ## Bits -/

/-- Bits below those of infinity are kept as they are, with a sign before them. -/
theorem toBits_ofBits (negative : Bool) {bits : Nat} (h : bits < 2047 * 2 ^ 52) :
    (Float.ofBits (UInt64.ofNat (bits + if negative then Nat.pow 2 63 else 0))).toBits.toNat =
      bits + if negative then Nat.pow 2 63 else 0 := by
  generalize hsigned : (bits + if negative then Nat.pow 2 63 else 0) = signed
  have hrange : signed < 2 ^ 64 ∧ signed % 2 ^ 63 = bits := by
    rw [← hsigned, Nat.pow_eq]
    cases negative <;> simp only [Bool.false_eq_true, ↓reduceIte] <;> omega
  have hword : (UInt64.ofNat signed).toNat = signed := by
    rw [UInt64.toNat_ofNat']
    exact Nat.mod_eq_of_lt hrange.1
  have hnumber : @isNaNBits Format.binary64 (UInt64.ofNat signed).toBitVec = false := by
    simp only [isNaNBits, unpackExponent_def, decide_eq_false_iff_not, not_and]
    intro hall
    have hexponent := congrArg BitVec.toNat hall
    rw [BitVec.extractLsb'_toNat, UInt64.toNat_toBitVec, hword, Nat.shiftRight_eq_div_pow]
      at hexponent
    change signed / 2 ^ 52 % 2 ^ 11 = 2047 at hexponent
    omega
  have hpack := @pack_unpack Format.binary64 (UInt64.ofNat signed).toBitVec
  rw [hnumber] at hpack
  have hkept : (Float.ofBits (UInt64.ofNat signed)).toBits = UInt64.ofNat signed :=
    UInt64.toBitVec_inj.mp hpack
  rw [hkept, hword]

/-- The sign, the exponent and the fraction of a double are what its bits say. -/
theorem magnitude_ofBits (negative : Bool) {bits : Nat} (h : bits < 2047 * 2 ^ 52) :
    magnitude (Float.ofBits (UInt64.ofNat (bits + if negative then Nat.pow 2 63 else 0))) =
      if bits < 2 ^ 52 then .finite negative bits (-1074)
      else .finite negative (2 ^ 52 + bits % 2 ^ 52) ((bits / 2 ^ 52 : Nat) - 1075) := by
  unfold magnitude
  rw [toBits_ofBits negative h]
  generalize hsigned : (bits + if negative then Nat.pow 2 63 else 0) = signed
  have hsign : decide (2 ^ 63 ≤ signed) = negative := by
    rw [← hsigned, Nat.pow_eq]
    cases negative with
    | false => exact decide_eq_false (by rw [if_neg Bool.false_ne_true]; omega)
    | true => exact decide_eq_true (by rw [if_pos rfl]; omega)
  have hrest : signed / 2 ^ 52 % 2 ^ 11 = bits / 2 ^ 52 ∧ signed % 2 ^ 52 = bits % 2 ^ 52 := by
    rw [← hsigned, Nat.pow_eq]
    cases negative <;> simp only [Bool.false_eq_true, ↓reduceIte] <;> omega
  simp only [Nat.pow_eq, hsign, hrest]
  rw [if_neg (by omega)]
  by_cases hsmall : bits < 2 ^ 52
  · rw [if_pos (by omega), if_pos hsmall, Nat.mod_eq_of_lt hsmall]
  · rw [if_neg (by omega), if_neg hsmall]

/-! ## Significands -/

theorem Exact.width {n : Nat} (h : Exact n) (hn : n ≠ 0) :
    ∃ e ≤ 971, 2 ^ e ∣ n ∧ Nat.log2 n < 53 + e := by
  obtain ⟨k, e, hk, he, rfl⟩ := h
  refine ⟨e, he, Nat.dvd_mul_left _ k, ?_⟩
  rw [Nat.log2_lt hn, Nat.pow_add]
  exact Nat.mul_lt_mul_of_pos_right hk (Nat.two_pow_pos e)

/-- All bits below the significand are zero. -/
theorem Exact.dvd {n : Nat} (h : Exact n) (hn : n ≠ 0) : 2 ^ (Nat.log2 n - 52) ∣ n := by
  obtain ⟨e, -, hdvd, hwidth⟩ := h.width hn
  exact (pow_dvd_pow 2 (by omega)).trans hdvd

theorem roundDiv_of_dvd {num den : Nat} (hden : 0 < den) (h : den ∣ num) :
    roundDiv num den = num / den := by
  unfold roundDiv
  rw [Nat.mod_eq_zero_of_dvd h]
  exact if_pos (.inl hden)

/-- The significand of an exact number loses nothing, so that it never carries. -/
theorem Exact.significand_lt {n : Nat} (h : Exact n) (hn : n ≠ 0) : significand n < 2 ^ 53 := by
  have hhigh := Nat.lt_log2_self (n := n)
  unfold significand
  split
  next hwide =>
    rw [roundDiv_of_dvd (Nat.two_pow_pos _) (h.dvd hn),
      Nat.div_lt_iff_lt_mul (Nat.two_pow_pos _), ← Nat.pow_add]
    rwa [show 53 + (Nat.log2 n - 52) = Nat.log2 n + 1 by omega]
  next hnarrow =>
    calc n * 2 ^ (52 - Nat.log2 n) < 2 ^ (Nat.log2 n + 1) * 2 ^ (52 - Nat.log2 n) :=
          Nat.mul_lt_mul_of_pos_right hhigh (Nat.two_pow_pos _)
      _ = 2 ^ 53 := by rw [← Nat.pow_add, show Nat.log2 n + 1 + (52 - Nat.log2 n) = 53 by omega]

/-- The significand at its own exponent is the number again. -/
theorem Exact.scaled_significand {n : Nat} (h : Exact n) (hn : n ≠ 0) :
    (scaled (significand n) ((Nat.log2 n : Int) - 52)).1 /
      (scaled (significand n) ((Nat.log2 n : Int) - 52)).2 = n := by
  unfold significand scaled
  by_cases hwide : 52 ≤ Nat.log2 n
  · have hq : (0 : Int) ≤ (Nat.log2 n : Int) - 52 := by omega
    have hunit : ((Nat.log2 n : Int) - 52).toNat = Nat.log2 n - 52 := by omega
    simp only [hwide, hq, hunit, ↓reduceIte, Nat.pow_eq, Nat.div_one]
    rw [roundDiv_of_dvd (Nat.two_pow_pos _) (h.dvd hn), Nat.div_mul_cancel (h.dvd hn)]
  · have hq : ¬ (0 : Int) ≤ (Nat.log2 n : Int) - 52 := by omega
    have hunit : (-((Nat.log2 n : Int) - 52)).toNat = 52 - Nat.log2 n := by omega
    simp only [hwide, hq, hunit, ↓reduceIte, Nat.pow_eq]
    exact Nat.mul_div_cancel n (Nat.two_pow_pos _)

/-! ## Whole parts -/

theorem bitsOfRatio_of_exact {n : Nat} (h : Exact n) (hn : n ≠ 0) :
    bitsOfRatio n 1 = (Nat.log2 n + 1022) * 2 ^ 52 + significand n ∧
      bitsOfRatio n 1 < 2047 * 2 ^ 52 := by
  obtain ⟨e, he, -, hwidth⟩ := h.width hn
  have hcarry := h.significand_lt hn
  rw [bitsOfRatio_whole hn]
  omega

/-- An exact number is the whole part of its double, on either side of zero. -/
theorem trunc?_ofRatio (negative : Bool) {n : Nat} (h : Exact n) :
    trunc? (ofRatio negative n 1) = some (if negative then -(n : Int) else n) := by
  by_cases hn : n = 0
  · subst hn
    cases negative <;> decide +kernel
  obtain ⟨hbits, hfinite⟩ := bitsOfRatio_of_exact h hn
  obtain ⟨hlow, -⟩ := significand_bounds hn
  have hcarry := h.significand_lt hn
  have hexponent : bitsOfRatio n 1 / 2 ^ 52 = Nat.log2 n + 1023 := by omega
  have hfraction : 2 ^ 52 + bitsOfRatio n 1 % 2 ^ 52 = significand n := by omega
  have hq : ((Nat.log2 n + 1023 : Nat) : Int) - 1075 = (Nat.log2 n : Int) - 52 := by omega
  unfold trunc? ofRatio
  rw [magnitude_ofBits negative hfinite, if_neg (by omega), hexponent, hfraction, hq]
  simp only [h.scaled_significand hn]

/-- An exact number has a double, of which it is the whole part. -/
theorem trunc?_of_exact {n : Nat} (h : Exact n) :
    ∃ x, ofInt? n = some x ∧ trunc? x = some (n : Int) := by
  refine ⟨ofRatio false n 1, ?_, trunc?_ofRatio false h⟩
  have hfinite : bitsOfRatio n 1 ≠ 2047 * 2 ^ 52 := by
    by_cases hn : n = 0
    · subst hn
      decide
    · exact Nat.ne_of_lt (bitsOfRatio_of_exact h hn).2
  have hpositive : decide ((n : Int) < 0) = false := decide_eq_false (by omega)
  unfold ofInt?
  rw [Int.natAbs_natCast, Nat.pow_eq, if_neg hfinite, hpositive]

theorem ofRatio_of_limit_le (negative : Bool) {n : Nat} (h : limit ≤ n) :
    ofRatio negative n 1 = infinity negative := by
  unfold ofRatio
  rw [(bitsOfRatio_eq_infinite_iff n).mpr h]
  rfl

theorem trunc?_infinity (negative : Bool) : trunc? (infinity negative) = none := by
  cases negative <;> decide +kernel

theorem Exact.lt_limit {n : Nat} (h : Exact n) : n < limit := by
  by_contra hlimit
  have hwhole := trunc?_ofRatio false h
  rw [ofRatio_of_limit_le false (Nat.le_of_not_lt hlimit), trunc?_infinity] at hwhole
  cases hwhole

/-- Below the limit the nearest double has a whole part. -/
theorem exists_trunc?_ofRatio (negative : Bool) {n : Nat} (h : n < limit) :
    ∃ i, trunc? (ofRatio negative n 1) = some i := by
  have hfinite : bitsOfRatio n 1 < 2047 * 2 ^ 52 := by
    refine Nat.lt_of_le_of_ne ?_ fun heq => ?_
    · unfold bitsOfRatio
      split
      · exact Nat.zero_le _
      · exact Nat.min_le_right ..
    · exact Nat.not_le.mpr h ((bitsOfRatio_eq_infinite_iff n).mp heq)
  unfold trunc? ofRatio
  rw [magnitude_ofBits negative hfinite]
  split_ifs
  · exact ⟨_, rfl⟩
  · exact ⟨_, rfl⟩

/-- The significand and the exponent of a double are bounded. -/
theorem bounds_of_magnitude {x : Float} {negative : Bool} {m : Nat} {q : Int}
    (h : magnitude x = .finite negative m q) : m < 2 ^ 53 ∧ q ≤ 971 := by
  unfold magnitude at h
  simp only [Nat.pow_eq] at h
  split at h
  · split at h <;> cases h
  · split at h
    · cases h
      omega
    · cases h
      omega

theorem exact_scaled {m : Nat} {q : Int} (hm : m < 2 ^ 53) (hq : q ≤ 971) :
    Exact ((scaled m q).1 / (scaled m q).2) := by
  unfold scaled
  split
  · exact ⟨m, q.toNat, hm, by omega, by simp⟩
  · exact exact_of_lt (Nat.lt_of_le_of_lt (Nat.div_le_self _ _) hm)

/-- A whole part is an exact number on either side of zero. -/
theorem exact_of_trunc? {x : Float} {i : Int} (h : trunc? x = some i) : Exact i.natAbs := by
  unfold trunc? at h
  split at h
  next negative m q hx =>
    obtain ⟨hm, hq⟩ := bounds_of_magnitude hx
    have hexact := exact_scaled hm hq
    cases h
    split
    · rwa [Int.natAbs_neg, Int.natAbs_natCast]
    · rwa [Int.natAbs_natCast]
  next => cases h

end ContractReview.Double
