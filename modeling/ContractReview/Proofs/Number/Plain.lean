import ContractReview.Number.Decimal
import ContractReview.Proofs.Number.Written

/-!
Whole numbers in the spelling in which they are shown. A whole number that was read is shown as it
was written just if it was written plainly.
-/

namespace ContractReview

/-! ## The digits of a number -/

namespace Double

theorem head_natText_ne_zero {n : Nat} (hn : n ≠ 0) : (natText n).head? ≠ some '0' := by
  induction n using Nat.strong_induction_on with
  | h n ih =>
      rw [natText, Nat.toDigits_eq_if (by decide)]
      split
      next hlt => simpa [Nat.digitChar_eq_zero] using hn
      next hge =>
        have hquotient := ih (n / 10) (by omega) (by omega)
        obtain ⟨c, cs, hcs⟩ := List.exists_cons_of_ne_nil
          (show Nat.toDigits 10 (n / 10) ≠ [] from Nat.toDigits_ne_nil)
        rw [natText, hcs] at hquotient
        rw [hcs]
        exact hquotient

theorem isDigit_of_mem_natText {n : Nat} {c : Char} (h : c ∈ natText n) : c.isDigit = true :=
  Nat.isDigit_of_mem_toDigits (by decide) (by decide) h

theorem toNat_of_isDigit {c : Char} (hc : c.isDigit = true) : 48 ≤ c.toNat ∧ c.toNat ≤ 57 :=
  Char.isDigit_iff_toNat.mp hc

theorem natText_digit {c : Char} (hc : c.isDigit = true) : natText (c.toNat - 48) = [c] := by
  obtain ⟨hlow, hhigh⟩ := toNat_of_isDigit hc
  have hchar : Nat.digitChar (c.toNat - 48) = c := by
    apply Char.toNat_inj.mp
    rw [Nat.toNat_digitChar_of_lt_ten (by omega)]
    omega
  rw [natText, Nat.toDigits_of_lt_base (by omega), hchar]

/-- A digit behind a number that is not zero stays where it is. -/
theorem natText_append_digit {n : Nat} (hn : 0 < n) {c : Char} (hc : c.isDigit = true) :
    natText (10 * n + (c.toNat - 48)) = natText n ++ [c] := by
  obtain ⟨-, hhigh⟩ := toNat_of_isDigit hc
  rw [← natText_digit hc]
  exact (Nat.toDigits_append_toDigits (by decide) hn (by omega)).symm

theorem natText_ofDigitChars {n : Nat} (hn : 0 < n) {cs : List Char}
    (hcs : ∀ c ∈ cs, c.isDigit = true) :
    natText (Nat.ofDigitChars 10 cs n) = natText n ++ cs := by
  induction cs generalizing n with
  | nil => rw [Nat.ofDigitChars_nil, List.append_nil]
  | cons c cs ih =>
      obtain ⟨hc, hrest⟩ := List.forall_mem_cons.mp hcs
      have hdigit : 10 * n + (c.toNat - '0'.toNat) = 10 * n + (c.toNat - 48) := rfl
      rw [Nat.ofDigitChars_cons, hdigit, ih (by omega) hrest, natText_append_digit hn hc,
        List.append_assoc, List.singleton_append]

end Double

namespace Numeral

open Text

/-- Digits of ASCII, and no zero before the others. -/
structure Positive (cs : List Char) : Prop where
  ne_nil : cs ≠ []
  first : cs.head? ≠ some '0'
  digits : ∀ c ∈ cs, c.isDigit = true

/-- A whole number without anything that it can do without. -/
inductive Plain : List Char → Prop
  | zero : Plain ['0']
  | positive {cs : List Char} : Positive cs → Plain cs
  | negative {cs : List Char} : Positive cs → Plain ('-' :: cs)

theorem positive_natText {n : Nat} (hn : n ≠ 0) : Positive (Double.natText n) where
  ne_nil := Nat.toDigits_ne_nil
  first := Double.head_natText_ne_zero hn
  digits _ := Double.isDigit_of_mem_natText

theorem Positive.exists_natText {cs : List Char} (h : Positive cs) :
    ∃ n, n ≠ 0 ∧ Double.natText n = cs := by
  obtain ⟨hsome, hfirst, hdigits⟩ := h
  obtain ⟨c, rest, rfl⟩ := List.exists_cons_of_ne_nil hsome
  obtain ⟨hc, hrest⟩ := List.forall_mem_cons.mp hdigits
  have hchar := Double.natText_digit hc
  have hpos : 0 < c.toNat - 48 := by
    refine Nat.pos_of_ne_zero fun hzero => hfirst ?_
    rw [hzero] at hchar
    rw [List.head?_cons, ← (List.cons.inj hchar).1]
    rfl
  have htext := Double.natText_ofDigitChars hpos hrest
  rw [hchar, List.singleton_append] at htext
  refine ⟨_, fun hzero => hfirst ?_, htext⟩
  rw [← htext, hzero]
  rfl

/-- The plain spellings are those in which whole numbers are shown. -/
theorem plain_iff {cs : List Char} : Plain cs ↔ ∃ i, Double.intText i = cs := by
  constructor
  · rintro (_ | h | h)
    · exact ⟨0, rfl⟩
    · obtain ⟨n, -, rfl⟩ := h.exists_natText
      exact ⟨n, by rw [Double.intText, if_neg (by omega), Int.natAbs_natCast]⟩
    · obtain ⟨n, hn, rfl⟩ := h.exists_natText
      exact ⟨-n, by rw [Double.intText, if_pos (by omega), Int.natAbs_neg, Int.natAbs_natCast]⟩
  · rintro ⟨i, rfl⟩
    unfold Double.intText
    split
    next hneg => exact .negative (positive_natText (by omega))
    next =>
      by_cases hzero : i.natAbs = 0
      · rw [hzero]
        exact .zero
      · exact .positive (positive_natText hzero)

/-! ## Reading what is shown -/

theorem digitValue?_of_isDigit {c : Char} (hc : c.isDigit = true) :
    digitValue? c = some (c.toNat - 48) := by
  obtain ⟨hlow, hhigh⟩ := Double.toNat_of_isDigit hc
  unfold digitValue?
  dsimp only
  rw [if_pos (by omega), if_pos ⟨hlow, hhigh⟩]

theorem continues_of_isDigit {cs : List Char} (h : ∀ c ∈ cs, c.isDigit = true) (run : Run) :
    ∃ run', Continues run cs run' ∧ run'.value = Nat.ofDigitChars 10 cs run.value := by
  induction cs generalizing run with
  | nil => exact ⟨run, .nil run, rfl⟩
  | cons c cs ih =>
      obtain ⟨hc, hcs⟩ := List.forall_mem_cons.mp h
      obtain ⟨run', hrun', hvalue⟩ := ih hcs (run.push (c.toNat - 48))
      refine ⟨run', .digit (digitValue?_of_isDigit hc) hrun', ?_⟩
      rw [hvalue, Nat.ofDigitChars_cons, Nat.mul_comm]
      rfl

theorem digits_natText (n : Nat) : ∃ run, Digits (Double.natText n) run ∧ run.value = n := by
  have hvalue : Nat.ofDigitChars 10 (Double.natText n) 0 = n :=
    Nat.ofDigitChars_toDigits (by decide) (by decide)
  have hdigits : ∀ c ∈ Double.natText n, c.isDigit = true := fun _ =>
    Double.isDigit_of_mem_natText
  obtain ⟨c, cs, hcs⟩ := List.exists_cons_of_ne_nil
    (show Double.natText n ≠ [] from Nat.toDigits_ne_nil)
  rw [hcs] at hvalue hdigits
  obtain ⟨hc, hrest⟩ := List.forall_mem_cons.mp hdigits
  obtain ⟨run, hrun, hrunValue⟩ :=
    continues_of_isDigit hrest (Run.push ⟨0, 0⟩ (c.toNat - 48))
  rw [hcs]
  refine ⟨run, .intro (digitValue?_of_isDigit hc) hrun, ?_⟩
  rw [hrunValue, ← hvalue, Nat.ofDigitChars_cons]
  rfl

theorem Whole.eq_of_intText {i j : Int} (h : Whole (Double.intText j) i) : i = j := by
  obtain ⟨run, hdigits, hvalue⟩ := digits_natText j.natAbs
  by_cases hneg : j < 0
  · rw [Double.intText, if_pos hneg, ← List.singleton_append] at h
    have heq := h.value_eq .minus hdigits
    rw [if_pos rfl] at heq
    omega
  · rw [Double.intText, if_neg hneg, ← List.nil_append (Double.natText _)] at h
    have heq := h.value_eq .none hdigits
    rw [if_neg Bool.false_ne_true] at heq
    omega

/-- A whole number is shown as it was written just if it was written plainly. -/
theorem Whole.intText_eq_iff {cs : List Char} {i : Int} (h : Whole cs i) :
    Double.intText i = cs ↔ Plain cs := by
  rw [plain_iff]
  refine ⟨fun heq => ⟨i, heq⟩, ?_⟩
  rintro ⟨j, rfl⟩
  rw [h.eq_of_intText]

end Numeral

end ContractReview
