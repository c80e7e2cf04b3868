import ContractReview.Json.Access
import Mathlib

/-!
Fields of objects, which are always there to be asked for.
-/

namespace ContractReview.Json

section Fields

variable {v a : Json} {name : String}

theorem exists_fields (h : v.kind = .dict) : ∃ fields, v = .obj fields := by
  cases v with
  | obj fields => exact ⟨fields, rfl⟩
  | num n => cases n <;> cases h
  | _ => cases h

theorem fieldOf_eq (h : v.kind = .dict) (name : String) : v.fieldOf name = .ok (v.field name) := by
  obtain ⟨fields, rfl⟩ := exists_fields h
  rfl

theorem exists_fieldOr (h : v.kind = .dict) (name : String) (default : Json) :
    ∃ found, v.fieldOr name default = .ok found := by
  obtain ⟨fields, rfl⟩ := exists_fields h
  exact ⟨_, rfl⟩

/-- The default of a field that is there is of no account. -/
theorem fieldOr_eq (hv : v.kind = .dict) (h : v.field name = a) (ha : a ≠ .null) (default : Json) :
    v.fieldOr name default = .ok a := by
  obtain ⟨fields, rfl⟩ := exists_fields hv
  cases hfound : lookup name fields with
  | none => exact absurd (h.symm.trans (by rw [field, hfound]; rfl)) ha
  | some found =>
      have heq : found = a := by rwa [field, hfound] at h
      rw [fieldOr, hfound, heq]
      rfl

/-- An object with a field is not empty. -/
theorem orElse_eq (hv : v.kind = .dict) (h : v.field name = a) (ha : a ≠ .null) (default : Json) :
    v.orElse default = v := by
  obtain ⟨fields, rfl⟩ := exists_fields hv
  refine if_pos ?_
  cases fields with
  | nil => exact absurd h.symm ha
  | cons => rfl

theorem isText_iff {text : String} : v.isText text = true ↔ v = .str text := by
  cases v <;> simp [isText]

end Fields

theorem isFilled_nat (n : Nat) : isFilled (.num (.int n)) = (n != 0) := by
  rw [Bool.eq_iff_iff]
  simp [isFilled, Number.isZero, Number.same]

/-- What counts from one, with one for zero. -/
theorem whole_orElse_one (n : Nat) :
    (orElse (.num (.int n)) (.num 1)).whole = .ok (max 1 n : Nat) := by
  rw [orElse, isFilled_nat]
  rcases Nat.eq_zero_or_pos n with rfl | hn
  · rfl
  · rw [if_pos (by simp; omega), Nat.max_eq_right hn]
    rfl

end ContractReview.Json
