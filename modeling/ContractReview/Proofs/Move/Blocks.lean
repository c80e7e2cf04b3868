import ContractReview.Move.Structure
import Mathlib

/-!
Where blocks end. A block that is entered at a place ends at the first brace that closes more blocks
than have been opened since. The scan for it carries the depth along, and it stops there, or at the
end of the code when there is no such brace. So what lies between never closes more than it opens,
and in code whose braces nest it is the body of the block.
-/

namespace ContractReview.Move

/-! ## Depth -/

/-- No beginning of the text closes more than `depth` blocks beside those that it opens itself. -/
def Within (depth : Nat) (text : List Char) : Prop :=
  ∀ ahead, ahead <+: text → ahead.count '\x7d' ≤ ahead.count '\x7b' + depth

/-- Behind `body` stands the first brace of the text that closes more than `depth` blocks beside
those that are opened there. -/
structure Reaches (depth : Nat) (text body : List Char) : Prop where
  brace : body ++ ['\x7d'] <+: text
  even : body.count '\x7d' = body.count '\x7b' + depth
  within : Within depth body

section Depth

variable {depth : Nat} {text body rest : List Char} {c : Char}

theorem within_nil (depth : Nat) : Within depth [] := by
  intro ahead hahead
  rw [List.prefix_nil.mp hahead]
  exact Nat.zero_le _

theorem Within.of_prefix (h : Within depth text) (hbody : body <+: text) : Within depth body :=
  fun ahead hahead => h ahead (hahead.trans hbody)

theorem Within.append (h : Within depth text) (heven : text.count '\x7d' = text.count '\x7b')
    (hrest : Within depth rest) : Within depth (text ++ rest) := by
  intro ahead hahead
  rcases List.prefix_or_prefix_of_prefix hahead (List.prefix_append text rest) with
    hshort | ⟨behind, rfl⟩
  · exact h ahead hshort
  · have hbound := hrest behind ((List.prefix_append_right_inj text).mp hahead)
    rw [List.count_append, List.count_append]
    omega

theorem within_cons_iff : Within depth (c :: rest) ↔
    ∀ ahead, ahead <+: rest → (c :: ahead).count '\x7d' ≤ (c :: ahead).count '\x7b' + depth := by
  constructor
  · intro h ahead hahead
    exact h (c :: ahead) (List.cons_prefix_cons.mpr ⟨rfl, hahead⟩)
  · intro h ahead hahead
    rcases List.prefix_cons_iff.mp hahead with rfl | ⟨behind, rfl, hbehind⟩
    · exact Nat.zero_le _
    · exact h behind hbehind

theorem within_open_iff : Within depth ('\x7b' :: rest) ↔ Within (depth + 1) rest := by
  rw [within_cons_iff]
  refine forall₂_congr fun ahead _ => ?_
  rw [List.count_cons_self, List.count_cons_of_ne (by decide)]
  omega

theorem within_close_iff : Within (depth + 1) ('\x7d' :: rest) ↔ Within depth rest := by
  rw [within_cons_iff]
  refine forall₂_congr fun ahead _ => ?_
  rw [List.count_cons_self, List.count_cons_of_ne (by decide)]
  omega

theorem within_plain_iff (hopen : c ≠ '\x7b') (hclose : c ≠ '\x7d') :
    Within depth (c :: rest) ↔ Within depth rest := by
  rw [within_cons_iff]
  refine forall₂_congr fun ahead _ => ?_
  rw [List.count_cons_of_ne hclose, List.count_cons_of_ne hopen]

theorem reaches_nil (rest : List Char) : Reaches 0 ('\x7d' :: rest) [] :=
  ⟨⟨rest, rfl⟩, rfl, within_nil 0⟩

theorem Reaches.open (h : Reaches (depth + 1) rest body) :
    Reaches depth ('\x7b' :: rest) ('\x7b' :: body) := by
  refine ⟨List.cons_prefix_cons.mpr ⟨rfl, h.brace⟩, ?_, within_open_iff.mpr h.within⟩
  have heven := h.even
  rw [List.count_cons_self, List.count_cons_of_ne (by decide)]
  omega

theorem Reaches.close (h : Reaches depth rest body) :
    Reaches (depth + 1) ('\x7d' :: rest) ('\x7d' :: body) := by
  refine ⟨List.cons_prefix_cons.mpr ⟨rfl, h.brace⟩, ?_, within_close_iff.mpr h.within⟩
  have heven := h.even
  rw [List.count_cons_self, List.count_cons_of_ne (by decide)]
  omega

theorem Reaches.plain (hopen : c ≠ '\x7b') (hclose : c ≠ '\x7d') (h : Reaches depth rest body) :
    Reaches depth (c :: rest) (c :: body) := by
  refine ⟨List.cons_prefix_cons.mpr ⟨rfl, h.brace⟩, ?_,
    (within_plain_iff hopen hclose).mpr h.within⟩
  rw [List.count_cons_of_ne hclose, List.count_cons_of_ne hopen, h.even]

/-- The brace itself closes one block too many. -/
theorem Reaches.not_within (h : Reaches depth text body) (hbrace : body ++ ['\x7d'] <+: rest) :
    ¬ Within depth rest := by
  intro hwithin
  have hlast := hwithin _ hbrace
  have heven := h.even
  rw [List.count_append, List.count_append, List.count_singleton_self,
    List.count_singleton, if_neg (by decide)] at hlast
  omega

/-- There is only one such brace. -/
theorem Reaches.unique {other : List Char} (h : Reaches depth text body)
    (hother : Reaches depth text other) : body = other := by
  have hshort {first second : List Char} (hfirst : Reaches depth text first)
      (hsecond : Reaches depth text second) : second.length ≤ first.length := by
    by_contra hlonger
    refine hfirst.not_within ?_ hsecond.within
    refine List.prefix_of_prefix_length_le hfirst.brace
      ((List.prefix_append _ _).trans hsecond.brace) ?_
    rw [List.length_append, List.length_singleton]
    omega
  have hbody := (List.prefix_append body ['\x7d']).trans h.brace
  have hsecond := (List.prefix_append other ['\x7d']).trans hother.brace
  have hlength := Nat.le_antisymm (hshort hother h) (hshort h hother)
  exact (List.prefix_of_prefix_length_le hbody hsecond hlength.le).eq_of_length hlength

end Depth

/-! ## Balanced text -/

/-- Text whose braces close in the order in which they open. -/
inductive Balanced : List Char → Prop
  | nil : Balanced []
  | plain {c : Char} {rest : List Char} :
      c ≠ '\x7b' → c ≠ '\x7d' → Balanced rest → Balanced (c :: rest)
  | block {inner rest : List Char} :
      Balanced inner → Balanced rest → Balanced ('\x7b' :: (inner ++ '\x7d' :: rest))

namespace Balanced

theorem of_plain {text : List Char} (h : ∀ c ∈ text, c ≠ '\x7b' ∧ c ≠ '\x7d') : Balanced text := by
  induction text with
  | nil => exact .nil
  | cons c rest ih =>
      obtain ⟨⟨hopen, hclose⟩, hrest⟩ := List.forall_mem_cons.mp h
      exact .plain hopen hclose (ih hrest)

theorem append {first second : List Char} (hfirst : Balanced first) (hsecond : Balanced second) :
    Balanced (first ++ second) := by
  induction hfirst with
  | nil => exact hsecond
  | plain hopen hclose _ ih => exact .plain hopen hclose ih
  | block hinner _ _ ih =>
      rw [List.cons_append, List.append_assoc, List.cons_append]
      exact .block hinner ih

/-- A brace that opens in balanced text closes there. -/
theorem exists_closing {text : List Char} (h : Balanced text) {ahead behind : List Char}
    (heq : text = ahead ++ '\x7b' :: behind) :
    ∃ body rest, behind = body ++ '\x7d' :: rest ∧ Balanced body := by
  induction h generalizing ahead behind with
  | nil => simp at heq
  | plain hopen _ _ ih =>
      cases ahead with
      | nil => exact absurd (List.cons.inj heq).1 hopen
      | cons d ahead => exact ih (List.cons.inj heq).2
  | @block inner rest hinner _ ihinner ihrest =>
      cases ahead with
      | nil => exact ⟨inner, rest, (List.cons.inj heq).2.symm, hinner⟩
      | cons d ahead =>
          obtain ⟨-, heq⟩ := List.cons.inj heq
          -- the brace opens behind the block or within it
          rcases List.append_eq_append_iff.mp heq with ⟨more, rfl, hmore⟩ | ⟨more, rfl, hmore⟩
          · cases more with
            | nil => cases hmore
            | cons e more => exact ihrest (List.cons.inj hmore).2
          · cases more with
            | nil => cases hmore
            | cons e more =>
                obtain ⟨rfl, rfl⟩ := List.cons.inj hmore
                obtain ⟨body, later, rfl, hbody⟩ := ihinner rfl
                exact ⟨body, later ++ '\x7d' :: rest, by simp, hbody⟩

theorem even {text : List Char} (h : Balanced text) :
    text.count '\x7d' = text.count '\x7b' := by
  induction h with
  | nil => rfl
  | plain hopen hclose _ ih =>
      rw [List.count_cons_of_ne hclose, List.count_cons_of_ne hopen, ih]
  | block _ _ ihinner ihrest =>
      rw [List.count_cons_of_ne (by decide), List.count_cons_self, List.count_append,
        List.count_append, List.count_cons_self, List.count_cons_of_ne (by decide), ihinner, ihrest]
      omega

/-- At any depth, balanced text closes nothing but what it opens. -/
theorem within {text : List Char} (h : Balanced text) (depth : Nat) : Within depth text := by
  induction h generalizing depth with
  | nil => exact within_nil depth
  | plain hopen hclose _ ih => exact (within_plain_iff hopen hclose).mpr (ih depth)
  | block hinner _ ihinner ihrest =>
      rw [within_open_iff]
      exact (ihinner (depth + 1)).append hinner.even (within_close_iff.mpr (ihrest depth))

theorem reaches {body : List Char} (h : Balanced body) (rest : List Char) :
    Reaches 0 (body ++ '\x7d' :: rest) body :=
  ⟨⟨rest, by simp⟩, h.even, h.within 0⟩

end Balanced

theorem between_append (ahead middle behind : List Char) :
    between (ahead ++ (middle ++ behind)) ahead.length (ahead.length + middle.length) = middle := by
  rw [between, List.drop_left, Nat.add_sub_cancel_left, List.take_left]

/-! ## The scan -/

/-- The scan stops at the brace that closes one block more than it is deep, or at the end of a text
without one. -/
theorem closingAt_cases (depth : Nat) (text : List Char) :
    (∃ body, Reaches depth text body ∧ Code.closingAt depth text = body.length) ∨
      (Within depth text ∧ Code.closingAt depth text = text.length) := by
  fun_induction Code.closingAt depth text with
  | case1 depth => exact .inr ⟨within_nil depth, rfl⟩
  | case2 depth rest ih =>
      rcases ih with ⟨body, hbody, heq⟩ | ⟨hwithin, heq⟩
      · exact .inl ⟨_, hbody.open, by rw [heq, List.length_cons]⟩
      · exact .inr ⟨within_open_iff.mpr hwithin, by rw [heq, List.length_cons]⟩
  | case3 rest => exact .inl ⟨[], reaches_nil rest, rfl⟩
  | case4 rest _ outer ih =>
      rcases ih with ⟨body, hbody, heq⟩ | ⟨hwithin, heq⟩
      · exact .inl ⟨_, hbody.close, by rw [heq, List.length_cons]⟩
      · exact .inr ⟨within_close_iff.mpr hwithin, by rw [heq, List.length_cons]⟩
  | case5 depth c rest hopen hclose ih =>
      rcases ih with ⟨body, hbody, heq⟩ | ⟨hwithin, heq⟩
      · exact .inl ⟨_, hbody.plain hopen hclose, by rw [heq, List.length_cons]⟩
      · exact .inr ⟨(within_plain_iff hopen hclose).mpr hwithin, by rw [heq, List.length_cons]⟩

/-- The brace at a place closes the block that is entered just before `start`: the code between them
opens as many blocks as it closes, and no beginning of it closes more than it opens. -/
structure Closes (code : List Char) (start place : Nat) : Prop where
  le : start ≤ place
  brace : code[place]? = some '\x7d'
  even : (between code start place).count '\x7b' = (between code start place).count '\x7d'
  safe : Within 0 (between code start place)

section Ends

variable {code body : List Char} {start place : Nat}

theorem closes_iff_reaches : Closes code start place ↔
    ∃ body, Reaches 0 (code.drop start) body ∧ place = start + body.length := by
  constructor
  · intro h
    have hbrace : (code.drop start)[place - start]? = some '\x7d' := by
      rw [List.getElem?_drop, Nat.add_sub_cancel' h.le, h.brace]
    have hlength := (List.getElem?_eq_some_iff.mp hbrace).1
    refine ⟨between code start place, ⟨?_, h.even.symm, h.safe⟩, ?_⟩
    · rw [between, show ['\x7d'] = (code.drop start)[place - start]?.toList by rw [hbrace]; rfl,
        ← List.take_add_one]
      exact List.take_prefix _ _
    · rw [between, List.length_take_of_le hlength.le, Nat.add_sub_cancel' h.le]
  · rintro ⟨body, ⟨⟨rest, hrest⟩, heven, hwithin⟩, rfl⟩
    rw [List.append_assoc, List.singleton_append] at hrest
    have hbetween : between code start (start + body.length) = body := by
      rw [between, ← hrest, Nat.add_sub_cancel_left, List.take_left]
    exact {
      le := Nat.le_add_right ..
      brace := by rw [← List.getElem?_drop, ← hrest]; simp
      even := by rw [hbetween]; exact heven.symm
      safe := by rwa [hbetween] }

theorem blockEnd_cases (code : List Char) (start : Nat) :
    (∃ body, Reaches 0 (code.drop start) body ∧
        Code.blockEnd code start = start + body.length) ∨
      (Within 0 (code.drop start) ∧ Code.blockEnd code start = code.length) := by
  unfold Code.blockEnd
  split
  next hle =>
    rw [List.drop_eq_nil_of_le hle]
    exact .inr ⟨within_nil 0, rfl⟩
  next hlt =>
    rcases closingAt_cases 0 (code.drop start) with ⟨body, hbody, heq⟩ | ⟨hwithin, heq⟩
    · exact .inl ⟨body, hbody, by rw [heq]⟩
    · refine .inr ⟨hwithin, ?_⟩
      rw [heq, List.length_drop]
      omega

theorem blockEnd_of_reaches (h : Reaches 0 (code.drop start) body) :
    Code.blockEnd code start = start + body.length := by
  rcases blockEnd_cases code start with ⟨other, hother, heq⟩ | ⟨hwithin, -⟩
  · rw [heq, hother.unique h]
  · exact absurd hwithin (h.not_within h.brace)

theorem blockEnd_append (ahead : List Char) (h : Balanced body) (rest : List Char) :
    Code.blockEnd (ahead ++ (body ++ '\x7d' :: rest)) ahead.length =
      ahead.length + body.length := by
  refine blockEnd_of_reaches ?_
  rw [List.drop_left]
  exact h.reaches rest

/-- The block that is entered just before a place ends at the one brace that closes it, which is the
first that does, or at the end of the code when none does. Up to there no beginning of the code
closes more blocks than it opens. -/
theorem blockEnd_closes (code : List Char) (start : Nat) :
    (∀ place, Closes code start place →
      Code.blockEnd code start = place ∧ IsLeast {other | Closes code start other} place) ∧
    (Code.blockEnd code start = code.length ↔ ∀ place, ¬ Closes code start place) ∧
    Within 0 (between code start (Code.blockEnd code start)) := by
  have hend (place : Nat) (hplace : Closes code start place) :
      Code.blockEnd code start = place := by
    obtain ⟨body, hbody, rfl⟩ := closes_iff_reaches.mp hplace
    exact blockEnd_of_reaches hbody
  refine ⟨fun place hplace => ?_, ⟨fun hlast place hplace => ?_, fun hnone => ?_⟩, ?_⟩
  · refine ⟨hend place hplace, hplace, fun other hother => ?_⟩
    exact ((hend place hplace).symm.trans (hend other hother)).le
  · have hlt := (List.getElem?_eq_some_iff.mp hplace.brace).1
    have heq := hend place hplace
    omega
  · rcases blockEnd_cases code start with ⟨body, hbody, -⟩ | ⟨-, heq⟩
    · exact absurd (closes_iff_reaches.mpr ⟨body, hbody, rfl⟩) (hnone _)
    · exact heq
  · rcases blockEnd_cases code start with ⟨body, hbody, heq⟩ | ⟨hwithin, heq⟩
    · rw [heq]
      exact (closes_iff_reaches.mpr ⟨body, hbody, rfl⟩).safe
    · exact hwithin.of_prefix (List.take_prefix _ _)

end Ends

end ContractReview.Move
