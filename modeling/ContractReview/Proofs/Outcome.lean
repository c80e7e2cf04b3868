import ContractReview.Fault
import Mathlib

/-!
Computations that may fail: when one after the other comes back, and what it comes back with.
-/

namespace ContractReview.Outcome

variable {ε α β : Type}

theorem bind_eq_ok_iff {x : Except ε α} {f : α → Except ε β} {b : β} :
    x >>= f = .ok b ↔ ∃ a, x = .ok a ∧ f a = .ok b := by
  cases x <;> simp [bind, Except.bind]

theorem bind_eq_error_iff {x : Except ε α} {f : α → Except ε β} {e : ε} :
    x >>= f = .error e ↔ x = .error e ∨ ∃ a, x = .ok a ∧ f a = .error e := by
  cases x <;> simp [bind, Except.bind]

theorem pure_eq_ok_iff {a b : α} : (pure a : Except ε α) = .ok b ↔ a = b := by
  simp [pure, Except.pure]

/-- Working through a list comes back exactly when every item does. -/
theorem mapM_eq_ok_iff {f : α → Except ε β} {xs : List α} {ys : List β} :
    xs.mapM f = .ok ys ↔ List.Forall₂ (fun x y => f x = .ok y) xs ys := by
  induction xs generalizing ys with
  | nil =>
      rw [List.mapM_nil, pure_eq_ok_iff, List.forall₂_nil_left_iff]
      exact eq_comm
  | cons x xs ih =>
      rw [List.mapM_cons, bind_eq_ok_iff, List.forall₂_cons_left_iff]
      constructor
      · rintro ⟨y, hy, h⟩
        obtain ⟨ys', hys', h⟩ := bind_eq_ok_iff.mp h
        exact ⟨y, ys', hy, ih.mp hys', (pure_eq_ok_iff.mp h).symm⟩
      · rintro ⟨y, ys', hy, hys', rfl⟩
        exact ⟨y, hy, bind_eq_ok_iff.mpr ⟨ys', ih.mpr hys', rfl⟩⟩

theorem exists_mapM_eq_ok_iff {f : α → Except ε β} {xs : List α} :
    (∃ ys, xs.mapM f = .ok ys) ↔ ∀ x ∈ xs, ∃ y, f x = .ok y := by
  simp only [mapM_eq_ok_iff]
  induction xs with
  | nil => simp
  | cons x xs ih =>
      simp only [List.forall₂_cons_left_iff, List.forall_mem_cons]
      constructor
      · rintro ⟨_, y, ys, hy, hys, -⟩
        exact ⟨⟨y, hy⟩, ih.mp ⟨ys, hys⟩⟩
      · rintro ⟨⟨y, hy⟩, h⟩
        obtain ⟨ys, hys⟩ := ih.mpr h
        exact ⟨y :: ys, y, ys, hy, hys, rfl⟩

theorem exists_mem_of_mapM {f : α → Except ε β} {xs : List α} {ys : List β}
    (h : xs.mapM f = .ok ys) {x : α} (hx : x ∈ xs) : ∃ y ∈ ys, f x = .ok y := by
  have hall := mapM_eq_ok_iff.mp h
  clear h
  induction hall with
  | nil => cases hx
  | cons hy _ ih =>
      rcases List.mem_cons.mp hx with rfl | hx
      · exact ⟨_, List.mem_cons_self, hy⟩
      · obtain ⟨y, hmem, hy⟩ := ih hx
        exact ⟨y, List.mem_cons_of_mem _ hmem, hy⟩

/-- A computation that can fail in one way only. -/
def FailsOnlyWith (e : ε) (x : Except ε α) : Prop := ∀ e', x = .error e' → e' = e

namespace FailsOnlyWith

variable {e : ε}

theorem ok (a : α) : FailsOnlyWith e (.ok a) := by
  intro e' h
  cases h

theorem error : FailsOnlyWith e (.error e : Except ε α) := by
  intro e' h
  cases h
  rfl

theorem bind {x : Except ε α} {f : α → Except ε β} (hx : FailsOnlyWith e x)
    (hf : ∀ a, FailsOnlyWith e (f a)) : FailsOnlyWith e (x >>= f) := by
  intro e' h
  rcases bind_eq_error_iff.mp h with h | ⟨a, -, h⟩
  · exact hx e' h
  · exact hf a e' h

theorem mapM {f : α → Except ε β} (hf : ∀ a, FailsOnlyWith e (f a)) (xs : List α) :
    FailsOnlyWith e (xs.mapM f) := by
  induction xs with
  | nil => exact ok []
  | cons x xs ih =>
      rw [List.mapM_cons]
      exact (hf x).bind fun y => ih.bind fun ys => ok (y :: ys)

end FailsOnlyWith

/-- Whatever a computation comes back with has a property. -/
def Gives (x : Except ε α) (P : α → Prop) : Prop := ∀ a, x = .ok a → P a

namespace Gives

variable {P : α → Prop} {Q : β → Prop}

theorem ok {a : α} (h : P a) : Gives (.ok a : Except ε α) P := by
  intro b hb
  cases hb
  exact h

theorem error {e : ε} : Gives (.error e : Except ε α) P := by
  intro b hb
  cases hb

theorem bindWith {x : Except ε β} {f : β → Except ε α} (hx : Gives x Q)
    (hf : ∀ b, Q b → Gives (f b) P) : Gives (x >>= f) P := by
  intro a ha
  obtain ⟨b, hb, ha⟩ := bind_eq_ok_iff.mp ha
  exact hf b (hx b hb) a ha

theorem bind {x : Except ε β} {f : β → Except ε α} (hf : ∀ b, Gives (f b) P) :
    Gives (x >>= f) P :=
  bindWith (Q := fun _ => True) (fun _ _ => trivial) fun b _ => hf b

theorem map {x : Except ε β} {f : β → α} (hx : Gives x fun b => P (f b)) :
    Gives (x.map f) P := by
  intro a ha
  cases x with
  | error e => cases ha
  | ok b =>
      cases ha
      exact hx b rfl

theorem mapM {f : β → Except ε α} (hf : ∀ b, Gives (f b) P) (xs : List β) :
    Gives (xs.mapM f) fun ys => ∀ y ∈ ys, P y := by
  intro ys hys
  have hall := mapM_eq_ok_iff.mp hys
  clear hys
  induction hall with
  | nil => simp
  | cons hy _ ih => exact List.forall_mem_cons.mpr ⟨hf _ _ hy, ih⟩

end Gives

end ContractReview.Outcome
