import ContractReview.Opinion.Extract
import ContractReview.Proofs.Json.Spelling
import ContractReview.Proofs.Text.Search
import Mathlib

/-!
The object that is recovered from an answer is the one that begins at its first brace: no earlier
way of looking for it can find another one.
-/

namespace ContractReview.Extract

open Text Json

/-! ## The first brace -/

theorem object?_eq_some_iff {cs : List Char} {fields : List (String × Json)} :
    object? cs = some fields ↔ readAll cs = .ok (.obj fields) := by
  unfold object?
  split
  next h => simp [h]
  next h => simpa using fun heq => h _ heq

theorem dropWhile_ne_append {c : Char} {before : List Char} (h : c ∉ before) (behind : List Char) :
    (before ++ c :: behind).dropWhile (· ≠ c) = c :: behind := by
  rw [List.dropWhile_append_of_pos fun d hd => by simpa using ne_of_mem_of_not_mem hd h]
  simp

/-- `piece` stands in the text, with no opening brace before it. -/
def Leads (piece text : List Char) : Prop :=
  ∃ before behind, text = before ++ (piece ++ behind) ∧ '\x7b' ∉ before

theorem Leads.trans {piece piece' text : List Char} (h : Leads piece piece')
    (h' : Leads piece' text) : Leads piece text := by
  obtain ⟨before, behind, rfl, hbefore⟩ := h
  obtain ⟨before', behind', rfl, hbefore'⟩ := h'
  refine ⟨before' ++ before, behind ++ behind', by simp, ?_⟩
  simp [hbefore, hbefore']

theorem not_brace_of_blank {gap : List Char} (h : Blank gap) : '\x7b' ∉ gap :=
  fun hmem => absurd (h _ hmem) (by decide)

theorem not_brace_of_gaps {gap : List Char} (h : ∀ c ∈ gap, isGap c = true) : '\x7b' ∉ gap :=
  fun hmem => absurd (h _ hmem) (by decide)

theorem leads_trim (text : List Char) : Leads (trim text) text := by
  obtain ⟨gap, gap', hgap, heq⟩ := exists_trim text
  exact ⟨gap, gap', heq, not_brace_of_blank hgap⟩

theorem leads_trimStart (text : List Char) : Leads (trimStart text) text := by
  obtain ⟨gap, hgap, heq⟩ := exists_trimStart text
  exact ⟨gap, [], by simpa using heq, not_brace_of_blank hgap⟩

theorem leads_of_cut? {mark text before behind : List Char}
    (h : cut? mark text = some (before, behind)) : Leads before text :=
  ⟨[], mark ++ behind, by simpa using eq_append_of_cut? h, List.not_mem_nil⟩

theorem leads_of_afterTag? {tag text rest : List Char}
    (htag : ∀ letter ∈ tag, sameLetter letter '\x7b' = false)
    (h : afterTag? tag text = some rest) : Leads rest text := by
  fun_induction afterTag? tag text with
  | case1 text => cases h; exact ⟨[], [], by simp, List.not_mem_nil⟩
  | case2 => cases h
  | case3 letter tag c text hsame ih =>
      obtain ⟨hletter, htag⟩ := List.forall_mem_cons.mp htag
      obtain ⟨before, behind, rfl, hbefore⟩ := ih htag h
      refine ⟨c :: before, behind, rfl, List.not_mem_cons_of_ne_of_not_mem ?_ hbefore⟩
      rintro rfl
      simp [hletter] at hsame
  | case4 => cases h

theorem leads_of_fenced? {text block : List Char} (h : fenced? text = some block)
    (hfirst : ∀ before behind, cut? fence text = some (before, behind) → '\x7b' ∉ before) :
    Leads block text := by
  unfold fenced? at h
  split at h
  next => cases h
  next before inside hcut =>
    obtain ⟨⟨block, behind⟩, hblock, rfl⟩ := Option.map_eq_some_iff.mp h
    have hinside : Leads inside text := by
      refine ⟨before ++ fence, [], by simpa using eq_append_of_cut? hcut, ?_⟩
      simpa [fence] using hfirst before inside hcut
    have htagged : Leads ((afterTag? "json".toList inside).getD inside) inside := by
      cases htag : afterTag? "json".toList inside with
      | none => exact ⟨[], [], by simp, List.not_mem_nil⟩
      | some rest => exact leads_of_afterTag? (by simp [sameLetter]) htag
    exact (leads_of_cut? hblock).trans ((leads_trimStart _).trans (htagged.trans hinside))

/-! ## One object -/

/-- What is read as an object holds the text of one. -/
theorem exists_objectText {piece : List Char} {fields : List (String × Json)}
    (h : object? piece = some fields) : ∃ used, Leads used piece ∧ ObjectText used fields := by
  obtain ⟨gap, used, gap', rfl, hgap, -, hused⟩ :=
    readAll_eq_obj_iff.mp (object?_eq_some_iff.mp h)
  exact ⟨used, ⟨gap, gap', rfl, not_brace_of_gaps hgap⟩, hused⟩

theorem object?_of_objectText {used : List Char} {fields : List (String × Json)}
    (h : ObjectText used fields) : object? used = some fields :=
  object?_eq_some_iff.mpr
    (readAll_eq_obj_iff.mpr ⟨[], used, [], by simp, by simp, by simp, h⟩)

theorem Leads.dropWhile_eq {used text : List Char} (h : Leads used text)
    (hfirst : used.head? = some '\x7b') :
    ∃ behind, text.dropWhile (· ≠ '\x7b') = used ++ behind := by
  obtain ⟨before, behind, rfl, hbefore⟩ := h
  obtain ⟨used, rfl⟩ := List.head?_eq_some_iff.mp hfirst
  exact ⟨behind, dropWhile_ne_append hbefore _⟩

/-- The objects that can be read at the first brace of a text are all the same. -/
theorem object?_unique {text piece piece' : List Char} {fields fields' : List (String × Json)}
    (h : Leads piece text) (hpiece : object? piece = some fields)
    (h' : Leads piece' text) (hpiece' : object? piece' = some fields') : fields = fields' := by
  obtain ⟨used, hused, hobject⟩ := exists_objectText hpiece
  obtain ⟨used', hused', hobject'⟩ := exists_objectText hpiece'
  obtain ⟨behind, heq⟩ := (hused.trans h).dropWhile_eq hobject.first
  obtain ⟨behind', heq'⟩ := (hused'.trans h').dropWhile_eq hobject'.first
  exact hobject.unique hobject' (heq.symm.trans heq')

theorem braced?_eq {before used behind : List Char} (hfirst : used.head? = some '\x7b')
    (hlast : used.getLast? = some '\x7d') (hbefore : '\x7b' ∉ before) (hbehind : '\x7d' ∉ behind) :
    braced? (before ++ (used ++ behind)) = some used := by
  obtain ⟨inside, rfl⟩ := List.head?_eq_some_iff.mp hfirst
  obtain ⟨init, hlast⟩ := List.getLast?_eq_some_iff.mp hlast
  have hopened := dropWhile_ne_append hbefore (inside ++ behind)
  have hclosed : ('\x7b' :: (inside ++ behind)).reverse.dropWhile (· ≠ '\x7d') =
      '\x7d' :: init.reverse := by
    rw [← List.cons_append, hlast, List.reverse_append, List.reverse_append]
    exact dropWhile_ne_append (by simpa using hbehind) _
  rw [braced?, List.cons_append, hopened]
  simp only [hclosed]
  rw [hlast, List.reverse_cons, List.reverse_reverse]

theorem leads_of_braced? {text piece : List Char} (h : braced? text = some piece) :
    Leads piece text := by
  unfold braced? at h
  split at h
  next => cases h
  next =>
    split at h
    next => cases h
    next =>
      cases h
      refine ⟨text.takeWhile (· ≠ '\x7b'),
        ((text.dropWhile (· ≠ '\x7b')).reverse.takeWhile (· ≠ '\x7d')).reverse, ?_, ?_⟩
      · rw [← List.reverse_append, List.takeWhile_append_dropWhile, List.reverse_reverse,
          List.takeWhile_append_dropWhile]
      · exact fun hmem => by simpa using List.mem_takeWhile_imp hmem

/-! ## The candidates -/

theorem leads_of_mem_candidates {text piece : List Char} (h : piece ∈ candidates text)
    (hfirst : ∀ before behind, cut? fence text = some (before, behind) → '\x7b' ∉ before) :
    Leads piece text := by
  simp only [candidates, List.mem_append, List.mem_singleton, Option.mem_toList,
    Option.map_eq_some_iff] at h
  rcases h with (rfl | ⟨block, hblock, rfl⟩) | hbraced
  · exact leads_trim text
  · exact (leads_trim block).trans (leads_of_fenced? hblock hfirst)
  · exact leads_of_braced? hbraced

/-- One way that finds an object at the first brace is enough: none before it finds another. -/
theorem findSome?_candidates {text piece : List Char} {fields : List (String × Json)}
    (hfirst : ∀ before behind, cut? fence text = some (before, behind) → '\x7b' ∉ before)
    (hmem : piece ∈ candidates text) (hpiece : object? piece = some fields) :
    (candidates text).findSome? object? = some fields := by
  cases hfound : (candidates text).findSome? object? with
  | none =>
      have hnone := List.findSome?_eq_none_iff.mp hfound piece hmem
      rw [hpiece] at hnone
      cases hnone
  | some fields' =>
      obtain ⟨piece', hmem', hpiece'⟩ := List.exists_of_findSome?_eq_some hfound
      rw [object?_unique (leads_of_mem_candidates hmem' hfirst) hpiece'
        (leads_of_mem_candidates hmem hfirst) hpiece]

theorem fields?_eq {answer : String} {c : Char} (hmem : c ∈ answer.toList)
    (hc : isBlank c = false) :
    fields? answer = (candidates answer.toList).findSome? object? := by
  have hblank : allBlank answer = false := by
    rw [allBlank, List.all_eq_false]
    exact ⟨c, hmem, by simp [hc]⟩
  rw [fields?, if_neg (by simp [hblank])]

/-- An object between the first opening and the last closing brace is found, unless a fence stands
behind an opening brace. -/
theorem findSome?_of_braced {before used behind : List Char} {fields : List (String × Json)}
    (h : ObjectText used fields) (hbefore : '\x7b' ∉ before) (hbehind : '\x7d' ∉ behind)
    (hfirst : ∀ front back, cut? fence (before ++ (used ++ behind)) = some (front, back) →
      '\x7b' ∉ front) :
    (candidates (before ++ (used ++ behind))).findSome? object? = some fields := by
  refine findSome?_candidates hfirst ?_ (object?_of_objectText h)
  simp [candidates, braced?_eq h.first h.last hbefore hbehind]

/-! ## Recovery -/

/-- Text around an answer that has none of the marks that are looked for. -/
def Prose (cs : List Char) : Prop := ∀ c ∈ cs, c ∉ ['\x7b', '\x7d', '\x60']

theorem Prose.not_mem {cs : List Char} (h : Prose cs) :
    '\x7b' ∉ cs ∧ '\x7d' ∉ cs ∧ '\x60' ∉ cs :=
  ⟨fun hmem => h _ hmem (by simp), fun hmem => h _ hmem (by simp), fun hmem => h _ hmem (by simp)⟩

theorem cut?_fence {before : List Char} (h : '\x60' ∉ before) (behind : List Char) :
    cut? fence (before ++ (fence ++ behind)) = some (before, behind) :=
  cut?_of_not_mem h ['\x60', '\x60'] behind

/-- A fence is not in part before its first backtick. -/
theorem infix_of_infix_append {before cs : List Char} (hbefore : '\x60' ∉ before)
    (h : fence <:+: before ++ cs) : fence <:+: cs := by
  induction before with
  | nil => exact h
  | cons c before ih =>
      rcases List.infix_cons_iff.mp h with ⟨behind, heq⟩ | hrest
      · obtain ⟨rfl, -⟩ := List.cons.inj heq
        exact absurd List.mem_cons_self hbefore
      · exact ih (fun hmem => hbefore (List.mem_cons_of_mem c hmem)) hrest

/-- A fence in a text with prose around it stands in the text. -/
theorem infix_of_prose {before body behind : List Char} (hbefore : '\x60' ∉ before)
    (hbehind : '\x60' ∉ behind) (h : fence <:+: before ++ (body ++ behind)) : fence <:+: body := by
  have hreversed : fence <:+: behind.reverse ++ body.reverse := by
    rw [← List.reverse_append]
    exact List.reverse_infix.mpr (infix_of_infix_append hbefore h)
  exact List.reverse_infix.mp (infix_of_infix_append (by simpa using hbehind) hreversed)

/-- Prose around an object, fenced or not, does not hide it: not even when its strings hold fences
or braces of their own. -/
theorem fields?_recovers {before body behind : String} {fields : List (String × Json)}
    (hbody : Json.read body = .ok (.obj fields)) (hbefore : Prose before.toList)
    (hbehind : Prose behind.toList) :
    fields? (before ++ "\x60\x60\x60json\n" ++ body ++ "\n\x60\x60\x60" ++ behind) = some fields ∧
      (¬ fence <:+: body.toList → fields? (before ++ body ++ behind) = some fields) := by
  obtain ⟨gap, used, gap', hsplit, hgap, hgap', hobject⟩ := readAll_eq_obj_iff.mp hbody
  have hused : '\x7b' ∈ used := List.mem_of_mem_head? hobject.first
  obtain ⟨hopening, -, htick⟩ := hbefore.not_mem
  obtain ⟨-, hclosing, htick'⟩ := hbehind.not_mem
  have hopening' : '\x7b' ∉ gap := not_brace_of_gaps hgap
  have hclosing' : '\x7d' ∉ gap' := fun hmem => absurd (hgap' _ hmem) (by decide)
  constructor
  · have htext : (before ++ "\x60\x60\x60json\n" ++ body ++ "\n\x60\x60\x60" ++ behind).toList =
        before.toList ++ (fence ++ "json\n".toList) ++ gap ++
          (used ++ (gap' ++ ('\n' :: fence ++ behind.toList))) := by
      simp [hsplit, fence]
    rw [fields?_eq (c := '\x7b') (by simp [hsplit, hused]) rfl, htext]
    refine findSome?_of_braced hobject ?_ ?_ fun front back hcut => ?_
    · simp [hopening, hopening', fence]
    · simp [hclosing, hclosing', fence]
    · simp only [List.append_assoc] at hcut
      cases hcut.symm.trans (cut?_fence htick _)
      exact hopening
  · intro hbare
    have htext : (before ++ body ++ behind).toList =
        before.toList ++ gap ++ (used ++ (gap' ++ behind.toList)) := by
      simp [hsplit]
    rw [fields?_eq (c := '\x7b') (by simp [hsplit, hused]) rfl, htext]
    refine findSome?_of_braced hobject ?_ ?_ fun front back hcut => ?_
    · simp [hopening, hopening']
    · simp [hclosing, hclosing']
    · have hfence : fence <:+: before.toList ++ (body.toList ++ behind.toList) := by
        rw [hsplit]
        simpa using infix_of_cut? hcut
      exact absurd (infix_of_prose htick htick' hfence) hbare

/-- A fence in a string of the object, and braces in one. -/
theorem fields?_recovers_quotedCode :
    fields? ("Here: " ++ "\x60\x60\x60json\n" ++ "\x7b\"fix\": \"\x60\x60\x60 \x7d\"\x7d" ++
        "\n\x60\x60\x60" ++ "Done.") = some [("fix", .str "\x60\x60\x60 \x7d")] ∧
      fields? ("Here: " ++ "\x7b\"fix\": \"\x7d\x7b\"\x7d" ++ "Done.") =
        some [("fix", .str "\x7d\x7b")] :=
  ⟨(fields?_recovers (by cbv) (by simp [Prose]) (by simp [Prose])).1,
    (fields?_recovers (by cbv) (by simp [Prose]) (by simp [Prose])).2 (by decide)⟩

end ContractReview.Extract
