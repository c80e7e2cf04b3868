import ContractReview.Text.Blank
import ContractReview.Text.Search
import Mathlib

/-!
Where a text is cut, and what is left of a text that is trimmed.
-/

namespace ContractReview.Text

/-! ## Prefixes -/

theorem after?_eq_some_iff {start text rest : List Char} :
    after? start text = some rest ↔ text = start ++ rest := by
  fun_induction after? start text with
  | case1 text => simp [eq_comm]
  | case2 => simp
  | case3 start d text ih => simpa using ih
  | case4 c start d text hne => simp [Ne.symm hne]

theorem after?_append (start rest : List Char) : after? start (start ++ rest) = some rest :=
  after?_eq_some_iff.mpr rfl

/-! ## Cutting -/

theorem eq_append_of_cut? {mark text before behind : List Char}
    (h : cut? mark text = some (before, behind)) : text = before ++ (mark ++ behind) := by
  fun_induction cut? mark text generalizing before with
  | case1 hmark =>
      cases h
      simpa using hmark
  | case2 => cases h
  | case3 c rest behind' hafter =>
      cases h
      rw [List.nil_append]
      exact after?_eq_some_iff.mp hafter
  | case4 c rest hafter ih =>
      obtain ⟨⟨before', behind'⟩, hcut, heq⟩ := Option.map_eq_some_iff.mp h
      cases heq
      rw [ih hcut, List.cons_append]

theorem infix_of_cut? {mark text : List Char} {found : List Char × List Char}
    (h : cut? mark text = some found) : mark <:+: text :=
  ⟨found.1, found.2, by rw [eq_append_of_cut? h, List.append_assoc]⟩

/-- The mark is found at once where it stands. -/
theorem cut?_append (mark behind : List Char) :
    cut? mark (mark ++ behind) = some ([], behind) := by
  have hafter := after?_append mark behind
  cases htext : mark ++ behind with
  | nil =>
      obtain ⟨rfl, rfl⟩ := List.append_eq_nil_iff.mp htext
      rfl
  | cons c rest =>
      rw [htext] at hafter
      rw [cut?, hafter]

/-- The mark is not found before the place where its first character stands. -/
theorem cut?_of_not_mem {c : Char} {before : List Char} (h : c ∉ before) (mark behind : List Char) :
    cut? (c :: mark) (before ++ (c :: mark ++ behind)) = some (before, behind) := by
  induction before with
  | nil => exact cut?_append (c :: mark) behind
  | cons d before ih =>
      have hne : c ≠ d := fun heq => h (by simp [heq])
      have hbefore : c ∉ before := fun hc => h (by simp [hc])
      rw [List.cons_append, cut?, after?, if_neg hne, ih hbefore]
      rfl

/-- No occurrence of the mark reaches over a character that is not in it. -/
theorem cut?_of_separated {mark before behind : List Char} {separator : Char}
    (hmark : ¬ mark <:+: before) (hseparator : separator ∉ mark) :
    cut? mark (before ++ separator :: (mark ++ behind)) = some (before ++ [separator], behind) := by
  have hnone {before : List Char} (h : ¬ mark <:+: before) :
      after? mark (before ++ separator :: (mark ++ behind)) = none := by
    refine Option.eq_none_iff_forall_ne_some.mpr fun rest hafter => ?_
    have hbegins : mark <+: before ++ separator :: (mark ++ behind) :=
      ⟨rest, (after?_eq_some_iff.mp hafter).symm⟩
    have hwhole : before ++ [separator] <+: before ++ separator :: (mark ++ behind) :=
      ⟨mark ++ behind, by simp⟩
    rcases List.prefix_or_prefix_of_prefix hbegins hwhole with hshort | hlong
    · rcases List.prefix_concat_iff.mp hshort with rfl | hshort
      · exact hseparator (by simp)
      · exact h hshort.isInfix
    · exact hseparator (hlong.subset (by simp))
  induction before with
  | nil =>
      have hrest := hnone hmark
      rw [List.nil_append] at hrest ⊢
      rw [cut?, hrest, cut?_append]
      rfl
  | cons c before ih =>
      have hbefore : ¬ mark <:+: before := fun h => hmark (List.infix_cons h)
      have hrest := hnone hmark
      rw [List.cons_append] at hrest ⊢
      rw [cut?, hrest, ih hbefore]
      rfl

/-- A mark of two different characters does not reach from the text before it into it. -/
theorem cut?_of_not_infix {a b : Char} (hne : a ≠ b) {before : List Char}
    (h : ¬ [a, b] <:+: before) (behind : List Char) :
    cut? [a, b] (before ++ a :: b :: behind) = some (before, behind) := by
  induction before with
  | nil => exact cut?_append [a, b] behind
  | cons c before ih =>
      have hbefore : ¬ [a, b] <:+: before := fun hinfix => h (List.infix_cons hinfix)
      have hnone : after? [a, b] (c :: (before ++ a :: b :: behind)) = none := by
        refine Option.eq_none_iff_forall_ne_some.mpr fun rest hafter => ?_
        obtain ⟨rfl, htext⟩ := List.cons.inj (after?_eq_some_iff.mp hafter)
        cases before with
        | nil => exact hne (List.cons.inj htext).1
        | cons d before =>
            obtain ⟨rfl, -⟩ := List.cons.inj htext
            exact h ⟨[], before, rfl⟩
      rw [List.cons_append, cut?, hnone, ih hbefore]
      rfl

/-- A mark occurs in a text just if it is a stretch of it. -/
theorem occurs_iff (mark text : List Char) : occurs mark text = true ↔ mark <:+: text := by
  unfold occurs
  constructor
  · intro h
    obtain ⟨found, hfound⟩ := Option.isSome_iff_exists.mp h
    exact infix_of_cut? hfound
  · intro h
    induction text with
    | nil => simp [List.infix_nil.mp h, cut?]
    | cons c rest ih =>
        rw [cut?]
        cases hafter : after? mark (c :: rest) with
        | some behind => rfl
        | none =>
            rcases List.infix_cons_iff.mp h with ⟨behind, hprefix⟩ | hrest
            · cases hafter.symm.trans (after?_eq_some_iff.mpr hprefix.symm)
            · simpa using ih hrest

/-! ## Splitting -/

theorem pieces_eq_splitOn (separator : Char) (text : List Char) :
    pieces separator text = text.splitOn separator := by
  unfold List.splitOn
  induction text with
  | nil => rfl
  | cons c rest ih =>
      rw [pieces, ih, List.splitOnP_cons_eq_if_modifyHead]
      cases hrest : rest.splitOnP (· == separator) with
      | nil => exact absurd hrest (List.splitOnP_ne_nil _ _)
      | cons piece others => by_cases hc : c = separator <;> simp [hc]

theorem pieces_append_cons (separator : Char) (text behind : List Char) :
    pieces separator (text ++ separator :: behind) =
      pieces separator text ++ pieces separator behind := by
  simp only [pieces_eq_splitOn]
  exact List.splitOnP_append_cons text behind (by simp)

theorem pieces_of_not_mem {separator : Char} {text : List Char} (h : separator ∉ text) :
    pieces separator text = [text] := by
  rw [pieces_eq_splitOn]
  exact List.splitOnP_eq_singleton fun c hc => beq_false_of_ne fun heq => h (heq ▸ hc)

/-! ## Trimming -/

theorem dropWhile_append_cons {p : Char → Bool} {c : Char} (hc : p c = false)
    (before behind : List Char) :
    (before ++ c :: behind).dropWhile p = before.dropWhile p ++ c :: behind := by
  rw [List.dropWhile_append]
  split
  next h => rw [List.isEmpty_iff.mp h, List.dropWhile_cons_of_neg (by simp [hc]), List.nil_append]
  next => rfl

/-- Everything in the text is white space. -/
def Blank (cs : List Char) : Prop := ∀ c ∈ cs, isBlank c = true

theorem exists_trimStart (cs : List Char) : ∃ gap, Blank gap ∧ cs = gap ++ trimStart cs :=
  ⟨cs.takeWhile isBlank, fun _ hc => List.mem_takeWhile_imp hc,
    List.takeWhile_append_dropWhile.symm⟩

theorem exists_trim (cs : List Char) :
    ∃ gap gap', Blank gap ∧ cs = gap ++ (trim cs ++ gap') := by
  obtain ⟨gap, hgap, hstart⟩ := exists_trimStart cs
  refine ⟨gap, ((trimStart cs).reverse.takeWhile isBlank).reverse, hgap, ?_⟩
  rw [trim, trimEnd, ← List.reverse_append, List.takeWhile_append_dropWhile, List.reverse_reverse]
  exact hstart

/-- A text is blank just if nothing is left of it. -/
theorem all_trim (cs : List Char) : (trim cs).all isBlank = cs.all isBlank := by
  have hdrop (cs : List Char) : (cs.dropWhile isBlank).all isBlank = cs.all isBlank := by
    conv_rhs => rw [← List.takeWhile_append_dropWhile (p := isBlank) (l := cs)]
    rw [List.all_append, List.all_takeWhile, Bool.true_and]
  rw [trim, trimEnd, List.all_reverse, hdrop, List.all_reverse, trimStart, hdrop]

theorem blank_nil : Blank [] := fun _ h => nomatch h

theorem blank_newline : Blank ['\n'] := by simp [Blank, isBlank]

theorem trimEnd_append {gap : List Char} (hgap : Blank gap) (cs : List Char) :
    trimEnd (cs ++ gap) = trimEnd cs := by
  rw [trimEnd, List.reverse_append, List.dropWhile_append_of_pos (by simpa [Blank] using hgap),
    trimEnd]

theorem trim_append {gap gap' : List Char} (hgap : Blank gap) (hgap' : Blank gap')
    (cs : List Char) : trim (gap ++ (cs ++ gap')) = trim cs := by
  rw [trim, trimStart, List.dropWhile_append_of_pos hgap, List.dropWhile_append]
  split
  next h =>
    have hnone : gap'.dropWhile isBlank = [] := by simpa [Blank] using hgap'
    rw [hnone, trim, trimStart, List.isEmpty_iff.mp h]
  next => exact trimEnd_append hgap' _

end ContractReview.Text
