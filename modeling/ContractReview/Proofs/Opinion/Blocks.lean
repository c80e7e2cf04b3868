import ContractReview.Proofs.Opinion.Recovery
import Mathlib

/-!
Answers that hold more than one fenced block. Only the first block is looked into, and the braces of
the others count as much as those of the object, so that code before the object can hide it.
-/

namespace ContractReview.Extract

open Text Json

/-! ## Trimming around an object -/

theorem isBlank_of_isGap {c : Char} (h : isGap c = true) : isBlank c = true := by
  simp only [isGap, decide_eq_true_eq] at h
  rcases h with rfl | rfl | rfl | rfl <;> rfl

/-- A text whose first visible character is another one is no object. -/
theorem object?_trim_eq_none {before behind : List Char} {c : Char} (hbefore : '\x7b' ∉ before)
    (hc : isBlank c = false) (hbrace : c ≠ '\x7b') :
    object? (trim (before ++ c :: behind)) = none := by
  refine Option.eq_none_iff_forall_ne_some.mpr fun fields hsome => ?_
  obtain ⟨gap, used, gap', htrim, hgap, -, hused⟩ :=
    readAll_eq_obj_iff.mp (object?_eq_some_iff.mp hsome)
  obtain ⟨inside, rfl⟩ := List.head?_eq_some_iff.mp hused.first
  obtain ⟨blank, rest, hblank, heq⟩ := exists_trim (before ++ c :: behind)
  have hstart := congrArg (List.dropWhile isBlank) heq
  rw [dropWhile_append_cons hc, htrim, List.dropWhile_append_of_pos hblank, List.append_assoc,
    List.dropWhile_append_of_pos fun c hc => isBlank_of_isGap (hgap c hc)] at hstart
  change _ = '\x7b' :: _ at hstart
  cases hdropped : before.dropWhile isBlank with
  | nil =>
      rw [hdropped] at hstart
      exact hbrace (List.cons.inj hstart).1
  | cons d dropped =>
      rw [hdropped] at hstart
      obtain ⟨rfl, -⟩ := List.cons.inj hstart
      exact hbefore ((List.dropWhile_sublist isBlank).subset (hdropped ▸ List.mem_cons_self))

theorem trim_of_object {cs gap used gap' : List Char} {fields : List (String × Json)}
    (heq : cs = gap ++ (used ++ gap'))
    (hgap : ∀ c ∈ gap, isGap c = true) (hgap' : ∀ c ∈ gap', isGap c = true)
    (hobject : ObjectText used fields) : trim cs = used := by
  rw [heq, trim_append (fun c hc => isBlank_of_isGap (hgap c hc))
    (fun c hc => isBlank_of_isGap (hgap' c hc)), hobject.trim_eq]

/-! ## The span between the braces -/

/-- Everything between an opening and a closing brace is in the span. -/
theorem exists_braced? {before between behind : List Char} (hbefore : '\x7b' ∈ before)
    (hbehind : '\x7d' ∈ behind) :
    ∃ opened closed, braced? (before ++ (between ++ behind)) =
      some (opened ++ (between ++ closed)) := by
  obtain ⟨outer, inner, rfl, houter⟩ := List.eq_append_cons_of_mem hbefore
  obtain ⟨outer', inner', hreverse, houter'⟩ :=
    List.eq_append_cons_of_mem (List.mem_reverse.mpr hbehind)
  obtain rfl : behind = inner'.reverse ++ '\x7d' :: outer'.reverse := by
    simpa using congrArg List.reverse hreverse
  refine ⟨'\x7b' :: inner, inner'.reverse ++ ['\x7d'], ?_⟩
  have hlast : ('\x7b' :: inner ++ (between ++ (inner'.reverse ++ ['\x7d']))).getLast? =
      some '\x7d' := by
    simp [List.getLast?_cons]
  have houter' : '\x7d' ∉ outer'.reverse := by simpa using houter'
  simpa using braced?_eq rfl hlast houter houter'

theorem not_sheltered_opening (before behind : List Char) :
    ¬ Sheltered (before ++ (fence ++ ("json\n".toList ++ behind))) := by
  intro h
  obtain ⟨_, _, closed, b, -, hline, hplain⟩ :=
    h (before ++ ['\x60', '\x60']) ("json\n".toList ++ behind) (by simp [fence])
  have hbreak : '\n' ∈ closed := by
    rcases List.append_eq_append_iff.mp hline with ⟨tail, rfl, -⟩ | ⟨tail, htag, hrest⟩
    · simp
    · cases tail with
      | nil => rw [← List.append_nil closed, ← htag]; simp
      | cons c tail =>
          obtain ⟨rfl, -⟩ := List.cons.inj hrest
          exact absurd (htag ▸ List.mem_append_right closed List.mem_cons_self) (by decide)
  exact absurd (hplain '\n' (List.mem_append_right _ hbreak)) (by decide)

theorem not_sheltered_closing (before behind : List Char) :
    ¬ Sheltered (before ++ ('\n' :: fence ++ behind)) := by
  intro h
  obtain ⟨a, opened, _, _, hline, -, hplain⟩ :=
    h (before ++ ['\n']) ('\x60' :: '\x60' :: behind) (by simp [fence])
  have hlast := congrArg List.getLast? hline
  rcases List.eq_nil_or_concat opened with rfl | ⟨init, c, rfl⟩
  · simp at hlast
  · obtain rfl : '\n' = c := by simpa [List.getLast?_cons] using hlast
    exact absurd (hplain '\n' (by simp)) (by decide)

theorem object?_eq_none {cs : List Char} (h : ¬ Sheltered cs) : object? cs = none :=
  Option.eq_none_iff_forall_ne_some.mpr fun _ hsome =>
    h (sheltered_of_readAll (object?_eq_some_iff.mp hsome))

/-! ## Blocks -/

/-- A fenced block: what stands behind its opening fence, and the lines down to its closing one. -/
structure Block where
  tag : List Char
  body : List Char

def Block.text (b : Block) : List Char := fence ++ (b.tag ++ '\n' :: (b.body ++ '\n' :: fence))

/-- The block goes as far as its closing fence. -/
structure Block.Closed (b : Block) : Prop where
  tag : Prose b.tag
  body : ¬ fence <:+: b.body

theorem Block.Closed.mem_text_iff {b : Block} (h : b.Closed) {brace : Char}
    (hbrace : brace = '\x7b' ∨ brace = '\x7d') : brace ∈ b.text ↔ brace ∈ b.body := by
  obtain ⟨hopen, hclose, -⟩ := h.tag.not_mem
  rcases hbrace with rfl | rfl <;> simp [Block.text, fence, hopen, hclose]

/-- The tag `json` is left out within the line of the fence, or not at all. -/
theorem afterTag?_line (name : List Char) (hname : ∀ letter ∈ name, sameLetter letter '\n' = false)
    (tag : List Char) :
    (∃ line, line ⊆ tag ∧
      ∀ rest, afterTag? name (tag ++ '\n' :: rest) = some (line ++ '\n' :: rest)) ∨
      ∀ rest, afterTag? name (tag ++ '\n' :: rest) = none := by
  induction name generalizing tag with
  | nil => exact .inl ⟨tag, List.Subset.refl tag, fun _ => by rw [afterTag?]⟩
  | cons letter name ih =>
      obtain ⟨hletter, hname⟩ := List.forall_mem_cons.mp hname
      cases tag with
      | nil => exact .inr fun rest => by rw [List.nil_append, afterTag?, hletter]; rfl
      | cons c tag =>
          by_cases hsame : sameLetter letter c = true
          · have hstep (rest : List Char) : afterTag? (letter :: name) (c :: tag ++ '\n' :: rest) =
                afterTag? name (tag ++ '\n' :: rest) := by
              rw [List.cons_append, afterTag?, if_pos hsame]
            simp only [hstep]
            rcases ih hname tag with ⟨line, hline, hrest⟩ | hnone
            · exact .inl ⟨line, List.subset_cons_of_subset c hline, hrest⟩
            · exact .inr hnone
          · exact .inr fun rest => by rw [List.cons_append, afterTag?, if_neg hsame]

/-- What a fence has behind it, without the tag `json`. -/
def untagged (inside : List Char) : List Char := (afterTag? "json".toList inside).getD inside

theorem exists_untagged (tag : List Char) :
    ∃ line, line ⊆ tag ∧ ∀ rest, untagged (tag ++ '\n' :: rest) = line ++ '\n' :: rest := by
  rcases afterTag?_line "json".toList (by simp [sameLetter]) tag with ⟨line, hline, hrest⟩ | hnone
  · exact ⟨line, hline, fun rest => by rw [untagged, hrest, Option.getD_some]⟩
  · exact ⟨tag, List.Subset.refl tag, fun rest => by rw [untagged, hnone, Option.getD_none]⟩

/-- The closing fence ends what a block holds, however much of it is blank. -/
theorem cut?_trimStart {content : List Char} (h : ¬ fence <:+: content) (behind : List Char) :
    cut? fence (trimStart (content ++ '\n' :: (fence ++ behind))) =
      some (trimStart (content ++ ['\n']), behind) := by
  have hstart : trimStart (content ++ '\n' :: (fence ++ behind)) =
      trimStart (content ++ ['\n']) ++ (fence ++ behind) := by
    have hfence : isBlank '\x60' = false := rfl
    simpa [trimStart, fence] using
      dropWhile_append_cons hfence (content ++ ['\n']) ('\x60' :: '\x60' :: behind)
  have hend : trimStart (content ++ ['\n']) = [] ∨
      trimStart (content ++ ['\n']) = trimStart content ++ ['\n'] := by
    rw [trimStart, List.dropWhile_append]
    split
    next => exact .inl rfl
    next => exact .inr rfl
  rw [hstart]
  rcases hend with hnone | hsome
  · rw [hnone]
    exact cut?_append fence behind
  · have hcontent : ¬ fence <:+: trimStart content := fun hfence =>
      h (hfence.trans (List.dropWhile_suffix isBlank).isInfix)
    rw [hsome, List.append_assoc]
    exact cut?_of_separated hcontent (by decide)

theorem fenced?_block {opening behind line : List Char} {b : Block} (hopening : '\x60' ∉ opening)
    (hline : ∀ rest, untagged (b.tag ++ '\n' :: rest) = line ++ '\n' :: rest)
    (hplain : '\x60' ∉ line) (hbody : ¬ fence <:+: b.body) :
    fenced? (opening ++ (b.text ++ behind)) =
      some (trimStart (line ++ '\n' :: b.body ++ ['\n'])) := by
  have htext : opening ++ (b.text ++ behind) =
      opening ++ (fence ++ (b.tag ++ '\n' :: (b.body ++ '\n' :: (fence ++ behind)))) := by
    simp [Block.text]
  have hsplit : line ++ '\n' :: b.body = (line ++ ['\n']) ++ b.body := by simp
  have hinside : ¬ fence <:+: line ++ '\n' :: b.body := fun hfence =>
    hbody (infix_of_infix_append (by simp [hplain]) (hsplit ▸ hfence))
  simp only [fenced?, htext, cut?_fence hopening]
  change (cut? fence (trimStart (untagged _))).map (·.1) = _
  rw [hline, ← List.cons_append, ← List.append_assoc, cut?_trimStart hinside]
  rfl

/-- The candidate of a block is what it holds, behind what is left of its tag. -/
theorem trim_fenced?_block {opening line : List Char} {b : Block} (hopening : '\x60' ∉ opening)
    (hline : ∀ rest, untagged (b.tag ++ '\n' :: rest) = line ++ '\n' :: rest)
    (hplain : '\x60' ∉ line) (hbody : ¬ fence <:+: b.body) (behind : List Char) :
    (fenced? (opening ++ (b.text ++ behind))).map trim = some (trim (line ++ '\n' :: b.body)) := by
  have htwice (cs : List Char) : trim (trimStart cs) = trim cs := by
    simp only [trim, trimStart, List.dropWhile_idempotent]
  have htrim := trim_append blank_nil blank_newline (line ++ '\n' :: b.body)
  rw [fenced?_block hopening hline hplain hbody, Option.map_some, htwice]
  exact congrArg some htrim

/-- Nothing is found in a block that holds no object, whatever its tag. -/
theorem object?_fenced?_block {opening behind : List Char} {b : Block} (hopening : '\x60' ∉ opening)
    (hb : b.Closed) (hnone : object? (trim b.body) = none) :
    ((fenced? (opening ++ (b.text ++ behind))).map trim).bind object? = none := by
  obtain ⟨line, hsubset, hline⟩ := exists_untagged b.tag
  obtain ⟨hopen, -, hplain⟩ := hb.tag.not_mem
  rw [trim_fenced?_block hopening hline (fun hmem => hplain (hsubset hmem)) hb.body,
    Option.bind_some]
  by_cases hblank : Blank line
  · have hgap : Blank (line ++ ['\n']) := List.forall_mem_append.mpr ⟨hblank, blank_newline⟩
    have htrim := trim_append hgap blank_nil b.body
    rw [List.append_assoc, List.append_nil] at htrim
    rw [← hnone, ← htrim]
    rfl
  · -- the rest of the tag is visible, and it has no brace
    simp only [Blank, not_forall, Bool.not_eq_true] at hblank
    obtain ⟨c, hmem, hc⟩ := hblank
    obtain ⟨before, behind, rfl⟩ := List.append_of_mem hmem
    have hopen' : '\x7b' ∉ before ++ c :: behind := fun hmem => hopen (hsubset hmem)
    rw [List.append_assoc]
    refine object?_trim_eq_none (fun hmem => hopen' (List.mem_append_left _ hmem)) hc ?_
    rintro rfl
    exact hopen' (by simp)

/-! ## Answers -/

/-- Blocks, each with the prose behind it. -/
def segments (parts : List (Block × List Char)) : List Char :=
  parts.flatMap fun part => part.1.text ++ part.2

/-- A block that holds no object, and the prose behind it. -/
structure Aside (part : Block × List Char) : Prop where
  closed : part.1.Closed
  empty : object? (trim part.1.body) = none
  prose : Prose part.2

theorem mem_segments_iff {parts : List (Block × List Char)} (h : ∀ part ∈ parts, Aside part)
    {brace : Char} (hbrace : brace = '\x7b' ∨ brace = '\x7d') :
    brace ∈ segments parts ↔ ∃ part ∈ parts, brace ∈ part.1.body := by
  simp only [segments, List.mem_flatMap, List.mem_append]
  refine exists_congr fun part => and_congr_right fun hpart => ?_
  obtain ⟨hopen, hclose, -⟩ := (h part hpart).prose.not_mem
  rw [(h part hpart).closed.mem_text_iff hbrace]
  rcases hbrace with rfl | rfl <;> simp [hopen, hclose]

/-- An answer with an object in one of its blocks. -/
structure Answer where
  opening : List Char
  earlier : List (Block × List Char)
  body : List Char
  behind : List Char
  later : List (Block × List Char)

namespace Answer

def block (a : Answer) : Block := ⟨"json".toList, a.body⟩

def text (a : Answer) : List Char :=
  a.opening ++ (segments a.earlier ++ (a.block.text ++ (a.behind ++ segments a.later)))

/-- One block holds the fields, the others hold no object. -/
structure Holds (a : Answer) (fields : List (String × Json)) : Prop where
  opening : Prose a.opening
  earlier : ∀ part ∈ a.earlier, Aside part
  closed : ¬ fence <:+: a.body
  object : readAll a.body = .ok (.obj fields)
  behind : Prose a.behind
  later : ∀ part ∈ a.later, Aside part

/-- The block of the object is the first, or its braces are the outermost. -/
def Found (a : Answer) : Prop :=
  a.earlier = [] ∨
    (∀ part ∈ a.earlier, '\x7b' ∉ part.1.body) ∧ ∀ part ∈ a.later, '\x7d' ∉ part.1.body

instance (a : Answer) : Decidable a.Found :=
  inferInstanceAs (Decidable (a.earlier = [] ∨
    (∀ part ∈ a.earlier, '\x7b' ∉ part.1.body) ∧ ∀ part ∈ a.later, '\x7d' ∉ part.1.body))

variable {a : Answer} {fields : List (String × Json)}

theorem exists_text_eq (a : Answer) : ∃ rest, a.text = a.opening ++ (fence ++ rest) := by
  unfold text segments
  cases a.earlier with
  | nil => exact ⟨_, rfl⟩
  | cons part parts => exact ⟨_, rfl⟩

theorem Holds.first (h : a.Holds fields) (front back : List Char)
    (hcut : cut? fence a.text = some (front, back)) : '\x7b' ∉ front := by
  obtain ⟨hopen, -, htick⟩ := h.opening.not_mem
  obtain ⟨rest, htext⟩ := a.exists_text_eq
  rw [htext] at hcut
  cases hcut.symm.trans (cut?_fence htick rest)
  exact hopen

/-- The first block is looked into. -/
theorem Holds.found_first (h : a.Holds fields) (hnil : a.earlier = []) :
    (candidates a.text).findSome? object? = some fields := by
  obtain ⟨gap, used, gap', hbody, hgap, hgap', hobject⟩ := readAll_eq_obj_iff.mp h.object
  have hline (rest : List Char) :
      untagged (a.block.tag ++ '\n' :: rest) = [] ++ '\n' :: rest := rfl
  have hblock := trim_fenced?_block h.opening.not_mem.2.2 hline List.not_mem_nil h.closed
    (a.behind ++ segments a.later)
  have htext : a.text = a.opening ++ (a.block.text ++ (a.behind ++ segments a.later)) := by
    rw [text, hnil]
    rfl
  have hinside : '\n' :: a.block.body = ('\n' :: gap) ++ (used ++ gap') :=
    congrArg ('\n' :: ·) hbody
  have htrim : trim ('\n' :: a.block.body) = used :=
    trim_of_object hinside (List.forall_mem_cons.mpr ⟨rfl, hgap⟩) hgap' hobject
  refine findSome?_candidates h.first ?_ (object?_of_objectText hobject)
  rw [candidates, htext, hblock, List.nil_append, htrim]
  simp

/-- Braces that no other block encloses are those of the object. -/
theorem Holds.found_outermost (h : a.Holds fields)
    (hearlier : ∀ part ∈ a.earlier, '\x7b' ∉ part.1.body)
    (hlater : ∀ part ∈ a.later, '\x7d' ∉ part.1.body) :
    (candidates a.text).findSome? object? = some fields := by
  obtain ⟨gap, used, gap', hbody, hgap, hgap', hobject⟩ := readAll_eq_obj_iff.mp h.object
  have htext : a.text =
      a.opening ++ (segments a.earlier ++ (fence ++ ("json\n".toList ++ gap))) ++
        (used ++ (gap' ++ ('\n' :: fence ++ (a.behind ++ segments a.later)))) := by
    simp [text, block, Block.text, hbody]
  have hfirst := h.first
  rw [htext] at hfirst ⊢
  refine findSome?_of_braced hobject ?_ ?_ hfirst
  · have hopen : '\x7b' ∉ segments a.earlier := by
      rw [mem_segments_iff h.earlier (.inl rfl)]
      rintro ⟨part, hpart, hmem⟩
      exact hearlier part hpart hmem
    simp [h.opening.not_mem.1, hopen, not_brace_of_gaps hgap, fence]
  · have hclose : '\x7d' ∉ segments a.later := by
      rw [mem_segments_iff h.later (.inr rfl)]
      rintro ⟨part, hpart, hmem⟩
      exact hlater part hpart hmem
    have hgap' : '\x7d' ∉ gap' := fun hmem => absurd (hgap' _ hmem) (by decide)
    simp [h.behind.not_mem.2.1, hclose, hgap', fence]

theorem Holds.braces (h : a.Holds fields) : '\x7b' ∈ a.body ∧ '\x7d' ∈ a.body := by
  obtain ⟨gap, used, gap', hbody, -, -, hobject⟩ := readAll_eq_obj_iff.mp h.object
  have hopen : '\x7b' ∈ used := List.mem_of_mem_head? hobject.first
  have hclose : '\x7d' ∈ used := List.mem_of_getLast? hobject.last
  simp [hbody, hopen, hclose]

/-- A brace of another block draws a fence into the span. -/
theorem Holds.braced_lost (h : a.Holds fields)
    (hbrace : (∃ part ∈ a.earlier, '\x7b' ∈ part.1.body) ∨ ∃ part ∈ a.later, '\x7d' ∈ part.1.body) :
    (braced? a.text).bind object? = none := by
  obtain ⟨hopen, hclose⟩ := h.braces
  rcases hbrace with hearlier | hlater
  · rw [← mem_segments_iff h.earlier (.inl rfl)] at hearlier
    have htext : a.text = (a.opening ++ segments a.earlier) ++ (fence ++ "json\n".toList ++
        (a.body ++ ('\n' :: fence ++ (a.behind ++ segments a.later)))) := by
      simp [text, block, Block.text]
    obtain ⟨opened, closed, hspan⟩ := exists_braced? (List.mem_append_right a.opening hearlier)
      (List.mem_append_left _ hclose)
    rw [htext, hspan, List.append_assoc]
    exact object?_eq_none (not_sheltered_opening opened closed)
  · rw [← mem_segments_iff h.later (.inr rfl)] at hlater
    have htext : a.text =
        (a.opening ++ (segments a.earlier ++ (fence ++ "json\n".toList)) ++ a.body) ++
          ('\n' :: fence ++ (a.behind ++ segments a.later)) := by
      simp [text, block, Block.text]
    obtain ⟨opened, closed, hspan⟩ := exists_braced? (List.mem_append_right _ hopen)
      (List.mem_append_right a.behind hlater)
    rw [htext, hspan]
    exact object?_eq_none (not_sheltered_closing opened closed)

theorem Holds.direct_lost (h : a.Holds fields) : object? (trim a.text) = none := by
  obtain ⟨rest, htext⟩ := a.exists_text_eq
  rw [htext]
  exact object?_trim_eq_none h.opening.not_mem.1 rfl (by decide)

/-- A block before that of the object is looked into instead of it. -/
theorem Holds.fenced_lost (h : a.Holds fields) (hearlier : a.earlier ≠ []) :
    ((fenced? a.text).map trim).bind object? = none := by
  obtain ⟨part, parts, hparts⟩ := List.exists_cons_of_ne_nil hearlier
  have hpart := h.earlier part (hparts ▸ List.mem_cons_self)
  have htext : a.text = a.opening ++ (part.1.text ++ (part.2 ++ (segments parts ++
      (a.block.text ++ (a.behind ++ segments a.later))))) := by
    rw [text, hparts]
    simp [segments]
  rw [htext]
  exact object?_fenced?_block h.opening.not_mem.2.2 hpart.closed hpart.empty

theorem Holds.lost (h : a.Holds fields) (hfound : ¬ a.Found) :
    (candidates a.text).findSome? object? = none := by
  simp only [Found, not_or, not_and_or, not_forall, not_not, exists_prop] at hfound
  obtain ⟨hearlier, hbrace⟩ := hfound
  have hfenced := h.fenced_lost hearlier
  have hbraced := h.braced_lost hbrace
  refine List.findSome?_eq_none_iff.mpr fun piece hpiece => ?_
  simp only [candidates, List.mem_append, List.mem_singleton, Option.mem_toList] at hpiece
  rcases hpiece with (rfl | hpiece) | hpiece
  · exact h.direct_lost
  · rw [Option.mem_def.mp hpiece] at hfenced
    exact hfenced
  · rw [Option.mem_def.mp hpiece] at hbraced
    exact hbraced

/-- The object of a block is found when its block is the first one or its braces are the outermost,
and nothing is found otherwise. -/
theorem Holds.recovered_iff_found (h : a.Holds fields) :
    fields? (String.ofList a.text) = if a.Found then some fields else none := by
  obtain ⟨rest, htext⟩ := a.exists_text_eq
  have hvisible : '\x60' ∈ (String.ofList a.text).toList := by
    rw [String.toList_ofList, htext]
    simp [fence]
  rw [fields?_eq hvisible rfl, String.toList_ofList]
  split
  next hfound =>
    rcases hfound with hnil | ⟨hearlier, hlater⟩
    · exact h.found_first hnil
    · exact h.found_outermost hearlier hlater
  next hlost => exact h.lost hlost

/-- The code that was asked about, and the answer behind it. -/
def quotingCode : Answer where
  opening := "Code:\n".toList
  earlier := [(⟨"solidity".toList, "contract C \x7b\x7d".toList⟩, "\nMy answer:\n".toList)]
  body := "\x7b\"vulnerabilities\": []\x7d".toList
  behind := "\n".toList
  later := []

theorem Holds.recovered_iff_found_quotingCode :
    String.ofList quotingCode.text =
        "Code:\n\x60\x60\x60solidity\ncontract C \x7b\x7d\n\x60\x60\x60\nMy answer:\n" ++
          "\x60\x60\x60json\n\x7b\"vulnerabilities\": []\x7d\n\x60\x60\x60\n" ∧
      quotingCode.Holds [("vulnerabilities", .arr [])] ∧
      fields? (String.ofList quotingCode.text) = none := by
  have hcode : Aside (⟨"solidity".toList, "contract C \x7b\x7d".toList⟩, "\nMy answer:\n".toList) :=
    { closed := ⟨by simp [Prose], by decide +kernel⟩
      empty := Option.isNone_iff_eq_none.mp (by decide +kernel)
      prose := by simp [Prose] }
  have hopening : Prose "Code:\n".toList := by simp [Prose]
  have hbehind : Prose "\n".toList := by simp [Prose]
  have hholds : quotingCode.Holds [("vulnerabilities", .arr [])] :=
    { opening := hopening
      earlier := List.forall_mem_singleton.mpr hcode
      closed := by decide +kernel
      object := by cbv
      behind := hbehind
      later := List.forall_mem_nil _ }
  exact ⟨by rfl, hholds, hholds.recovered_iff_found.trans (if_neg (by decide))⟩

end Answer

end ContractReview.Extract
