import ContractReview.Number.Double
import Mathlib

/-!
The order of doubles. All but the one that is no number stand on a line, and comparing two of them
compares where they stand.
-/

namespace ContractReview.Double

open Float.Model (UnpackedFloat)

/-- A point of the line: its part, exponent and significand, which are compared in this order. -/
structure Standing where
  part : Int
  exponent : Int
  significand : Int

def Standing.Before (p q : Standing) : Prop :=
  p.part < q.part ∨ p.part = q.part ∧
    (p.exponent < q.exponent ∨ p.exponent = q.exponent ∧ p.significand < q.significand)

/-- Where an unpacked double stands; what is no number stands nowhere. -/
def standing? : UnpackedFloat → Option Standing
  | .notANumber => none
  | .infinity .negative => some ⟨-2, 0, 0⟩
  | .finite .negative m e _ => some ⟨-1, -e, -(m : Int)⟩
  | .zero _ => some ⟨0, 0, 0⟩
  | .finite .positive m e _ => some ⟨1, e, m⟩
  | .infinity .positive => some ⟨2, 0, 0⟩

/-- How one point stands to another. -/
def Standing.order (p q : Standing) : Ordering :=
  (compare p.part q.part).then
    ((compare p.exponent q.exponent).then (compare p.significand q.significand))

theorem Standing.order_eq_lt_iff (p q : Standing) : p.order q = .lt ↔ p.Before q := by
  simp only [order, Before, Ordering.then_eq_lt, Int.compare_eq_lt, Int.compare_eq_eq]

theorem Standing.order_eq_eq_iff (p q : Standing) : p.order q = .eq ↔ p = q := by
  cases p
  cases q
  simp only [order, Ordering.then_eq_eq, Int.compare_eq_eq, mk.injEq]

theorem Standing.swap_order (p q : Standing) : (p.order q).swap = q.order p := by
  simp only [order, Ordering.swap_then, Int.compare_swap]

theorem Standing.isLE_order_iff (p q : Standing) : (p.order q).isLE = true ↔ ¬ q.Before p := by
  rw [← order_eq_lt_iff, ← swap_order p q]
  cases p.order q <;> decide

theorem compare_natCast (m n : Nat) : compare (m : Int) (n : Int) = compare m n := by
  simp [compare, compareOfLessAndEq]

theorem compare_neg (e f : Int) : compare (-e) (-f) = (compare e f).swap := by
  rw [Int.compare_swap]
  simp [compare, compareOfLessAndEq, eq_comm]

/-- Comparing doubles compares where they stand. -/
theorem compare_eq (a b : UnpackedFloat) :
    a.compare b = (standing? a).bind fun p => (standing? b).map p.order := by
  rcases a with (_ | _) | _ | (_ | _) | ⟨_ | _, m, e, _⟩ <;>
    rcases b with (_ | _) | _ | (_ | _) | ⟨_ | _, n, f, _⟩ <;>
    try rfl
  · have hbelow : compare (-(m : Int)) (-(n : Int)) = (compare m n).swap := by
      rw [compare_neg, compare_natCast]
    simp only [UnpackedFloat.compare, standing?, Option.bind_some, Option.map_some, Standing.order,
      compare_neg e f, hbelow, Ordering.swap_then]
    rfl
  · simp only [UnpackedFloat.compare, standing?, Option.bind_some, Option.map_some, Standing.order,
      compare_natCast]
    rfl

theorem compare_eq_some_iff (a b : UnpackedFloat) (o : Ordering) :
    a.compare b = some o ↔ ∃ p q, standing? a = some p ∧ standing? b = some q ∧ p.order q = o := by
  rw [compare_eq]
  simp only [Option.bind_eq_some_iff, Option.map_eq_some_iff]
  constructor
  · rintro ⟨p, hp, q, hq, horder⟩
    exact ⟨p, q, hp, hq, horder⟩
  · rintro ⟨p, q, hp, hq, horder⟩
    exact ⟨p, hp, q, hq, horder⟩

theorem compare_eq_lt_iff (a b : UnpackedFloat) :
    a.compare b = some .lt ↔
      ∃ p q, standing? a = some p ∧ standing? b = some q ∧ p.Before q := by
  simp only [compare_eq_some_iff, Standing.order_eq_lt_iff]

theorem compare_isLE_iff (a b : UnpackedFloat) :
    (a.compare b).any (·.isLE) = true ↔
      ∃ p q, standing? a = some p ∧ standing? b = some q ∧ ¬ q.Before p := by
  simp only [← Standing.isLE_order_iff, Option.any_eq_true, compare_eq_some_iff]
  constructor
  · rintro ⟨_, ⟨p, q, hp, hq, rfl⟩, horder⟩
    exact ⟨p, q, hp, hq, horder⟩
  · rintro ⟨p, q, hp, hq, horder⟩
    exact ⟨_, ⟨p, q, hp, hq, rfl⟩, horder⟩

theorem compare_eq_eq_iff (a b : UnpackedFloat) :
    a.compare b = some .eq ↔ ∃ p, standing? a = some p ∧ standing? b = some p := by
  simp only [compare_eq_some_iff, Standing.order_eq_eq_iff]
  constructor
  · rintro ⟨p, _, hp, hq, rfl⟩
    exact ⟨p, hp, hq⟩
  · rintro ⟨p, hp, hq⟩
    exact ⟨p, p, hp, hq, rfl⟩

theorem standing?_eq_none_iff (a : UnpackedFloat) : standing? a = none ↔ a.isNaN = true := by
  rcases a with (_ | _) | _ | (_ | _) | ⟨_ | _, m, e, _⟩ <;>
    simp [standing?, UnpackedFloat.isNaN]

/-- Where a double stands. -/
def standingOf (x : Float) : Option Standing := standing? x.toModel.unpack

theorem standingOf_eq_none_iff (x : Float) : standingOf x = none ↔ x.isNaN = true :=
  standing?_eq_none_iff _

theorem lt_iff (x y : Float) :
    x < y ↔ ∃ p q, standingOf x = some p ∧ standingOf y = some q ∧ p.Before q := by
  have h : x < y ↔ x.toModel.unpack.compare y.toModel.unpack = some .lt :=
    decide_eq_true_iff.trans beq_iff_eq
  exact h.trans (compare_eq_lt_iff _ _)

theorem le_iff (x y : Float) :
    x ≤ y ↔ ∃ p q, standingOf x = some p ∧ standingOf y = some q ∧ ¬ q.Before p :=
  decide_eq_true_iff.trans (compare_isLE_iff _ _)

theorem beq_iff (x y : Float) :
    (x == y) = true ↔ ∃ p, standingOf x = some p ∧ standingOf y = some p := by
  change (x.toModel.unpack.compare y.toModel.unpack == some .eq) = true ↔ _
  rw [beq_iff_eq]
  exact compare_eq_eq_iff _ _

theorem Standing.Before.of_not_before {p q r : Standing} (h : ¬ q.Before p) (h' : q.Before r) :
    p.Before r := by
  unfold Standing.Before at *
  omega

/-- Of two numbers, one is below the other or not above it. -/
theorem le_of_not_lt {x y : Float} (hx : x.isNaN = false) (hy : y.isNaN = false)
    (h : ¬ x < y) : y ≤ x := by
  rw [lt_iff] at h
  rw [le_iff]
  cases hp : standingOf x with
  | none =>
      rw [(standingOf_eq_none_iff x).mp hp] at hx
      cases hx
  | some p =>
      cases hq : standingOf y with
      | none =>
          rw [(standingOf_eq_none_iff y).mp hq] at hy
          cases hy
      | some q => exact ⟨q, p, rfl, rfl, fun hb => h ⟨p, q, hp, hq, hb⟩⟩

theorem not_lt_of_le {x y : Float} (h : y ≤ x) : ¬ x < y := by
  rw [le_iff] at h
  rw [lt_iff]
  obtain ⟨q, p, hq, hp, hb⟩ := h
  rintro ⟨p', q', hp', hq', hb'⟩
  rw [hp] at hp'
  rw [hq] at hq'
  cases hp'
  cases hq'
  exact hb hb'

theorem lt_of_le_of_lt {x y z : Float} (h : x ≤ y) (h' : y < z) : x < z := by
  rw [le_iff] at h
  rw [lt_iff] at h' ⊢
  obtain ⟨p, q, hp, hq, hb⟩ := h
  obtain ⟨q', r, hq', hr, hb'⟩ := h'
  rw [hq] at hq'
  cases hq'
  exact ⟨p, r, hp, hr, .of_not_before hb hb'⟩

theorem le_of_lt {x y : Float} (h : x < y) : x ≤ y := by
  rw [lt_iff] at h
  rw [le_iff]
  obtain ⟨p, q, hp, hq, hb⟩ := h
  refine ⟨p, q, hp, hq, fun hb' => ?_⟩
  unfold Standing.Before at hb hb'
  omega

theorem not_lt_self (x : Float) : ¬ x < x := by
  rw [lt_iff]
  rintro ⟨p, q, hp, hq, hb⟩
  cases hp.symm.trans hq
  unfold Standing.Before at hb
  omega

theorem lt_trans {x y z : Float} (h : x < y) (h' : y < z) : x < z :=
  lt_of_le_of_lt (le_of_lt h) h'

/-- Two numbers of which neither is below the other are equal. -/
theorem beq_of_not_lt {x y : Float} (hx : x.isNaN = false) (hy : y.isNaN = false)
    (h : ¬ x < y) (h' : ¬ y < x) : (x == y) = true := by
  obtain ⟨q, p, hq, hp, hpq⟩ := (le_iff y x).mp (le_of_not_lt hx hy h)
  have hqp : ¬ q.Before p := fun hb => h' ((lt_iff y x).mpr ⟨q, p, hq, hp, hb⟩)
  have heq : p = q := by
    cases p
    cases q
    simp only [Standing.Before] at hpq hqp
    simp only [Standing.mk.injEq]
    omega
  exact (beq_iff x y).mpr ⟨p, hp, heq ▸ hq⟩

theorem isNaN_eq_false_of_standing {x : Float} {p : Standing} (h : standingOf x = some p) :
    x.isNaN = false := by
  rw [← Bool.not_eq_true, ← standingOf_eq_none_iff, h]
  exact Option.some_ne_none p

theorem isNaN_eq_false_of_lt {x y : Float} (h : x < y) : x.isNaN = false ∧ y.isNaN = false := by
  obtain ⟨p, q, hp, hq, -⟩ := (lt_iff x y).mp h
  exact ⟨isNaN_eq_false_of_standing hp, isNaN_eq_false_of_standing hq⟩

theorem isNaN_eq_false_of_le {x y : Float} (h : x ≤ y) : x.isNaN = false ∧ y.isNaN = false := by
  obtain ⟨p, q, hp, hq, -⟩ := (le_iff x y).mp h
  exact ⟨isNaN_eq_false_of_standing hp, isNaN_eq_false_of_standing hq⟩

end ContractReview.Double
