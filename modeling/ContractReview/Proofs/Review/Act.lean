import ContractReview.Review.Tool
import Mathlib.Data.List.Forall2

/-!
Steps that change the surroundings and may fail: how their faults are told, how one runs after the
other, and what can be said of all that they return.
-/

namespace ContractReview

/-- A platform tells its own failure as it is, and any other fault as its being unavailable. -/
inductive Fault.Told (platform : String) : Fault → Failure → Prop
  | own (failure : Failure) : Told platform (.platform failure) failure
  | other {fault : Fault} : (∀ failure, fault ≠ .platform failure) →
      Told platform fault
        { code := .unavailable
          message := if fault.text = "" then fault.name else fault.text
          platform
          context := [("error_type", .str fault.name)] }

theorem Fault.told_iff {platform : String} {fault : Fault} {failure : Failure} :
    fault.Told platform failure ↔ fault.asFailure platform = failure := by
  constructor
  · rintro (_ | hother)
    · rfl
    · cases fault with
      | platform failure => exact absurd rfl (hother failure)
      | _ => rfl
  · rintro rfl
    cases fault with
    | platform failure => exact .own failure
    | _ => exact .other fun failure h => by cases h

namespace Act

variable {σ α β : Type}

theorem run_bind (x : Act σ α) (f : α → Act σ β) (s : σ) :
    (x >>= f).run s = match x.run s with
      | (.ok a, s') => (f a).run s'
      | (.error fault, s') => (.error fault, s') := by
  change StateT.bind x.run (ExceptT.bindCont f) s = _
  unfold StateT.bind
  dsimp only [bind]
  rcases x.run s with ⟨_ | _, _⟩ <;> rfl

theorem fst_run_bind_pure (x : Act σ α) (f : α → β) (s : σ) :
    ((x >>= fun a => pure (f a)).run s).1 = (x.run s).1.map f := by
  rw [run_bind]
  rcases x.run s with ⟨_ | _, _⟩ <;> rfl

/-- Whatever the step returns has a property. -/
def Returns (x : Act σ α) (P : α → Prop) : Prop := ∀ s a s', x.run s = (.ok a, s') → P a

namespace Returns

variable {P : α → Prop}

theorem pure {a : α} (h : P a) : Returns (pure a : Act σ α) P := by
  intro s b s' hrun
  cases hrun
  exact h

theorem throw {fault : Fault} : Returns (throw fault : Act σ α) P := by
  intro s b s' hrun
  cases hrun

theorem bind {x : Act σ β} {f : β → Act σ α} (h : ∀ b, Returns (f b) P) :
    Returns (x >>= f) P := by
  intro s a s' hrun
  rw [run_bind] at hrun
  split at hrun
  next b s'' hx => exact h b s'' a s' hrun
  next => cases hrun

/-- A step behind a guard, as a block of steps has it. -/
theorem guard {c : Prop} [Decidable c] {fault : Fault} {f : PUnit → Act σ α}
    (h : ∀ u, Returns (f u) P) :
    Returns (if c then MonadExcept.throw fault >>= f else f ⟨⟩) P := by
  split
  · exact bind h
  · exact h ⟨⟩

end Returns

/-- The step keeps a property of the surroundings, whether it returns or fails. -/
def Preserves (x : Act σ α) (Q : σ → Prop) : Prop := ∀ s, Q s → Q (x.run s).2

namespace Preserves

variable {Q : σ → Prop}

theorem pure (a : α) : Preserves (pure a : Act σ α) Q := fun _ h => h

theorem throw (fault : Fault) : Preserves (throw fault : Act σ α) Q := fun _ h => h

theorem lift (x : Except Fault α) : Preserves (liftM x : Act σ α) Q := by
  intro s h
  cases x with
  | error fault => exact h
  | ok a => exact h

theorem bind {x : Act σ α} {f : α → Act σ β} (hx : Preserves x Q)
    (hf : ∀ a, Preserves (f a) Q) : Preserves (x >>= f) Q := by
  intro s h
  have hmid := hx s h
  rw [run_bind]
  rcases hrun : x.run s with ⟨fault | a, s'⟩
  · rwa [hrun] at hmid
  · rw [hrun] at hmid
    exact hf a s' hmid

theorem mapM {f : α → Act σ β} {xs : List α} (h : ∀ x ∈ xs, Preserves (f x) Q) :
    Preserves (xs.mapM f) Q := by
  induction xs with
  | nil =>
      rw [List.mapM_nil]
      exact pure []
  | cons x xs ih =>
      obtain ⟨hx, hxs⟩ := List.forall_mem_cons.mp h
      rw [List.mapM_cons]
      exact hx.bind fun y => (ih hxs).bind fun ys => pure (y :: ys)

end Preserves

/-- The step can return such a value. -/
def Yields (x : Act σ α) (a : α) : Prop := ∃ s s', x.run s = (.ok a, s')

theorem returns_iff {x : Act σ α} {P : α → Prop} : Returns x P ↔ ∀ a, Yields x a → P a := by
  constructor
  · rintro h a ⟨s, s', hrun⟩
    exact h s a s' hrun
  · intro h s a s' hrun
    exact h a ⟨s, s', hrun⟩

namespace Yields

theorem of_pure {a b : α} (h : Yields (pure a : Act σ α) b) : a = b := by
  obtain ⟨s, s', hrun⟩ := h
  cases hrun
  rfl

theorem of_lift {x : Except Fault α} {a : α} (h : Yields (liftM x : Act σ α) a) : x = .ok a := by
  obtain ⟨s, s', hrun⟩ := h
  cases x with
  | error fault => cases hrun
  | ok b =>
      cases hrun
      rfl

theorem of_bind {x : Act σ α} {f : α → Act σ β} {b : β} (h : Yields (x >>= f) b) :
    ∃ a, Yields x a ∧ Yields (f a) b := by
  obtain ⟨s, s', hrun⟩ := h
  rw [run_bind] at hrun
  split at hrun
  next a s'' hx => exact ⟨a, ⟨s, s'', hx⟩, ⟨s'', s', hrun⟩⟩
  next => cases hrun

/-- What a step yields behind a guard, as a block of steps has it. -/
theorem of_guard {c : Prop} [Decidable c] {fault : Fault} {f : PUnit → Act σ α} {a : α}
    (h : Yields (if c then MonadExcept.throw fault >>= f else f ⟨⟩) a) : ¬ c ∧ Yields (f ⟨⟩) a := by
  split at h
  · obtain ⟨u, hthrow, -⟩ := of_bind h
    obtain ⟨s, s', hrun⟩ := hthrow
    cases hrun
  · next hnot => exact ⟨hnot, h⟩

theorem of_mapM {f : α → Act σ β} {xs : List α} {ys : List β} (h : Yields (xs.mapM f) ys) :
    List.Forall₂ (fun x y => Yields (f x) y) xs ys := by
  induction xs generalizing ys with
  | nil =>
      rw [List.mapM_nil] at h
      cases of_pure h
      exact .nil
  | cons x xs ih =>
      rw [List.mapM_cons] at h
      obtain ⟨y, hy, h⟩ := of_bind h
      obtain ⟨rest, hrest, h⟩ := of_bind h
      cases of_pure h
      exact .cons hy (ih hrest)

end Yields

end Act

end ContractReview
