import ContractReview.Code.Rule
import ContractReview.Proofs.Text.Pattern

/-!
Which way a pattern prefers, and which matches are found in a text. A pattern takes what it prefers
whenever the search can go on behind that. Of the places where it matches, each is found or lies
within a match that starts before it.
-/

namespace ContractReview.Text.Pattern

/-! ## The preferred way -/

/-- From a place the pattern takes a text and keeps others, as long as the search can go on from
there. -/
def Takes (p : Pattern) (here : Cursor) (taken rest : List Char) (keeps : List (List Char)) :
    Prop :=
  ∀ next kept reach, next (here.beyond taken rest) (keeps ++ kept) = some reach →
    p.run here kept next = some reach

namespace Takes

variable {p first second : Pattern} {accepts : Char → Bool} {here : Cursor}
  {taken more rest : List Char} {keeps keeps' : List (List Char)}

theorem reach?_eq (h : p.Takes here taken rest keeps) :
    p.reach? here = some ⟨here.beyond taken rest, keeps⟩ := by
  refine h _ [] _ ?_
  rw [List.append_nil]

theorem nothing (hrest : here.rest = rest) : Pattern.nothing.Takes here [] rest [] := by
  subst hrest
  exact fun _ _ _ hnext => hnext

theorem one {c : Char} (hrest : here.rest = c :: rest) (haccepts : accepts c = true) :
    (Pattern.one accepts).Takes here [c] rest [] := by
  intro next kept reach hnext
  rw [run, hrest]
  dsimp only
  rw [if_pos haccepts]
  exact hnext

theorem boundary (hrest : here.rest = rest) (h : here.atBoundary = true) :
    Pattern.boundary.Takes here [] rest [] := by
  subst hrest
  intro next kept reach hnext
  rw [run, if_pos h]
  exact hnext

theorem both (hfirst : first.Takes here taken (more ++ rest) keeps)
    (hsecond : second.Takes (here.beyond taken (more ++ rest)) more rest keeps') :
    (first.both second).Takes here (taken ++ more) rest (keeps' ++ keeps) := by
  intro next kept reach hnext
  rw [run]
  refine hfirst _ kept reach (hsecond next _ reach ?_)
  rw [Cursor.beyond_beyond, ← List.append_assoc]
  exact hnext

theorem left (h : first.Takes here taken rest keeps) :
    (first.either second).Takes here taken rest keeps := by
  intro next kept reach hnext
  rw [run, h next kept reach hnext]

theorem right (hfirst : ∀ there, ¬ first.Matches here there)
    (hsecond : second.Takes here taken rest keeps) :
    (first.either second).Takes here taken rest keeps := by
  intro next kept reach hnext
  have hnone : first.run here kept next = none := by
    refine Option.eq_none_iff_forall_ne_some.mpr fun found hfound => ?_
    obtain ⟨there, -, hmatches, -⟩ := exists_of_run hfound
    exact hfirst there hmatches
  rw [run, hnone]
  exact hsecond next kept reach hnext

/-- A repetition takes characters up to the first that is not accepted. -/
theorem many {least : Nat} (hrest : here.rest = taken ++ rest)
    (hall : ∀ c ∈ taken, accepts c = true) (hleast : least ≤ taken.length)
    (hstop : rest.head?.any accepts = false) :
    (Pattern.many least accepts).Takes here taken rest [] := by
  intro next kept reach hnext
  rw [run, hrest]
  induction taken generalizing least here with
  | nil =>
      obtain rfl : least = 0 := Nat.le_zero.mp hleast
      have hhere : here.beyond [] rest = here := by
        rw [← show here.rest = rest from hrest, here.beyond_nil]
      rw [hhere] at hnext
      cases rest with
      | nil => exact hnext
      | cons c rest =>
          rw [List.nil_append, runMany_cons, if_neg (by simpa using hstop), if_pos rfl]
          exact hnext
  | cons c taken ih =>
      obtain ⟨haccepts, hall⟩ := List.forall_mem_cons.mp hall
      rw [List.length_cons] at hleast
      rw [List.cons_append, runMany_cons, if_pos haccepts]
      refine Option.or_eq_some_iff.mpr (.inl (ih rfl hall (by omega) ?_))
      rw [← Cursor.beyond_cons]
      exact hnext

theorem group (hrest : here.rest = taken ++ rest) (h : p.Takes here taken rest keeps) :
    p.group.Takes here taken rest (taken :: keeps) := by
  intro next kept reach hnext
  rw [run]
  refine h _ kept reach ?_
  have hlength : (here.beyond taken rest).position - here.position = taken.length :=
    Nat.add_sub_cancel_left ..
  rw [hlength, hrest, List.take_left]
  exact hnext

/-- In a row, a pattern that keeps nothing leaves what the later ones keep. -/
theorem inOrder_cons {ps : List Pattern} (hfirst : p.Takes here taken (more ++ rest) [])
    (hrest : (inOrder ps).Takes (here.beyond taken (more ++ rest)) more rest keeps) :
    (inOrder (p :: ps)).Takes here (taken ++ more) rest keeps := by
  rw [← List.append_nil keeps]
  cases ps with
  | nil => exact both hfirst hrest
  | cons q ps => exact both hfirst hrest

/-- In a row, what a pattern keeps is left by later ones that keep nothing. -/
theorem inOrder_cons_kept {ps : List Pattern} (hfirst : p.Takes here taken (more ++ rest) keeps)
    (hrest : (inOrder ps).Takes (here.beyond taken (more ++ rest)) more rest []) :
    (inOrder (p :: ps)).Takes here (taken ++ more) rest keeps := by
  cases ps with
  | nil => exact both hfirst hrest
  | cons q ps => exact both hfirst hrest

theorem literal {text : String} (hrest : here.rest = text.toList ++ rest) :
    (Pattern.literal text).Takes here text.toList rest [] := by
  unfold Pattern.literal
  generalize text.toList = cs at hrest ⊢
  induction cs generalizing here with
  | nil => exact nothing hrest
  | cons c cs ih => exact inOrder_cons (one hrest (by simp)) (ih rfl)

end Takes

/-! ## Matches of patterns in a row -/

theorem matches_inOrder_cons_iff {p : Pattern} {ps : List Pattern} {here there : Cursor} :
    (inOrder (p :: ps)).Matches here there ↔
      ∃ mid, p.Matches here mid ∧ (inOrder ps).Matches mid there := by
  cases ps with
  | nil => simp [inOrder, Matches]
  | cons q ps => rfl

theorem matches_literal_iff {text : String} {here there : Cursor} :
    (literal text).Matches here there ↔
      ∃ rest, here.rest = text.toList ++ rest ∧ there = here.beyond text.toList rest := by
  unfold literal
  generalize text.toList = cs
  induction cs generalizing here with
  | nil =>
      constructor
      · rintro rfl
        exact ⟨_, rfl, rfl⟩
      · rintro ⟨rest, rfl, rfl⟩
        rfl
  | cons c cs ih =>
      rw [List.map_cons, matches_inOrder_cons_iff]
      constructor
      · rintro ⟨mid, ⟨d, rest, hrest, hd, rfl⟩, hmid⟩
        obtain rfl : d = c := by simpa using hd
        obtain ⟨rest', hrest', rfl⟩ := ih.mp hmid
        obtain rfl : rest = cs ++ rest' := hrest'
        exact ⟨rest', hrest, (here.beyond_cons ..).symm⟩
      · rintro ⟨rest, hrest, rfl⟩
        exact ⟨_, ⟨c, cs ++ rest, hrest, by simp, rfl⟩, ih.mpr ⟨rest, rfl, here.beyond_cons ..⟩⟩

/-- A literal whose ending may be missing is one of two. -/
theorem matches_literal_optional_iff {text ending : String} {here there : Cursor} :
    (∃ mid, (literal text).Matches here mid ∧ (optional (literal ending)).Matches mid there) ↔
      ∃ call ∈ [text, text ++ ending], ∃ rest,
        here.rest = call.toList ++ rest ∧ there = here.beyond call.toList rest := by
  constructor
  · rintro ⟨_, hcall, hmore | rfl⟩
    · obtain ⟨rest, hrest, rfl⟩ := matches_literal_iff.mp hcall
      obtain ⟨later, hlater, rfl⟩ := matches_literal_iff.mp hmore
      obtain rfl : rest = ending.toList ++ later := hlater
      refine ⟨text ++ ending, by simp, later, ?_, ?_⟩
      · rw [hrest, String.toList_append, List.append_assoc]
      · rw [Cursor.beyond_beyond, String.toList_append]
    · exact ⟨text, List.mem_cons_self, matches_literal_iff.mp hcall⟩
  · rintro ⟨call, hcall, rest, hrest, rfl⟩
    simp only [List.mem_cons, List.not_mem_nil, or_false] at hcall
    rcases hcall with rfl | rfl
    · exact ⟨_, matches_literal_iff.mpr ⟨rest, hrest, rfl⟩, .inr rfl⟩
    · rw [String.toList_append, List.append_assoc] at hrest
      refine ⟨_, matches_literal_iff.mpr ⟨_, hrest, rfl⟩, .inl ?_⟩
      exact matches_literal_iff.mpr ⟨rest, rfl, by rw [Cursor.beyond_beyond, String.toList_append]⟩

/-! ## Boundaries -/

/-- In front of a word character, a boundary is where the text before ends in none. -/
theorem atBoundary_iff {here : Cursor} {c : Char} {rest : List Char} (hrest : here.rest = c :: rest)
    (hword : isWord c = true) : here.atBoundary = true ↔ here.last?.any isWord = false := by
  rw [Cursor.atBoundary, hrest, List.head?_cons, Option.any_some, hword]
  cases here.last?.any isWord <;> simp

theorem last?_start_beyond (code ahead rest : List Char) :
    ((Cursor.start code).beyond ahead rest).last? = ahead.getLast? := by
  simp [Cursor.beyond, Cursor.start]

/-! ## All matches -/

section Found

variable {p : Pattern}

/-- What is found is a match at its place, and not before the places that are free. -/
theorem exists_of_mem_matchesFrom {free : Nat} {here : Cursor} {rest : List Char} {found : Match}
    (hrest : here.rest = rest) (h : found ∈ p.matchesFrom free here rest) :
    free ≤ found.start ∧ ∃ ahead behind reach, rest = ahead ++ behind ∧
      p.reach? (here.beyond ahead behind) = some reach ∧
      found = ⟨here.position + ahead.length, reach.stop.position, reach.kept.reverse⟩ := by
  induction rest generalizing free here with
  | nil => cases h
  | cons c rest ih =>
      have hlater {free' : Nat} (hfree : free ≤ free')
          (hmem : found ∈ p.matchesFrom free' (here.past c rest) rest) :
          free ≤ found.start ∧ ∃ ahead behind reach, c :: rest = ahead ++ behind ∧
            p.reach? (here.beyond ahead behind) = some reach ∧
            found = ⟨here.position + ahead.length, reach.stop.position, reach.kept.reverse⟩ := by
        obtain ⟨hstart, ahead, behind, reach, rfl, hreach, hfound⟩ := ih rfl hmem
        refine ⟨Nat.le_trans hfree hstart, c :: ahead, behind, reach, rfl, ?_, ?_⟩
        · rwa [Cursor.beyond_cons]
        · rw [hfound, List.length_cons]
          simp only [Cursor.past, Match.mk.injEq, and_self, and_true]
          omega
      unfold matchesFrom at h
      dsimp only at h
      split at h
      next => exact hlater (Nat.le_refl free) h
      next hfree =>
        split at h
        next => exact hlater (Nat.le_refl free) h
        next reach hreach =>
          rcases List.mem_cons.mp h with rfl | h
          · refine ⟨Nat.le_of_not_lt hfree, [], c :: rest, reach, rfl, ?_, rfl⟩
            rwa [← hrest, Cursor.beyond_nil]
          · exact hlater (by omega) h

theorem pairwise_matchesFrom (free : Nat) (here : Cursor) {rest : List Char}
    (hrest : here.rest = rest) :
    (p.matchesFrom free here rest).Pairwise (·.start < ·.start) := by
  induction rest generalizing free here with
  | nil => exact .nil
  | cons c rest ih =>
      unfold matchesFrom
      dsimp only
      split
      next => exact ih _ _ rfl
      next =>
        split
        next => exact ih _ _ rfl
        next reach hreach =>
          refine List.pairwise_cons.mpr ⟨fun later hlater => ?_, ih _ _ rfl⟩
          have hfree := (exists_of_mem_matchesFrom rfl hlater).1
          dsimp only
          omega

/-- A match at a free place is found, unless its place is within another that is found before. -/
theorem mem_matchesFrom_or_within {free : Nat} {here : Cursor} {rest ahead behind : List Char}
    {reach : Reach} (hrest : here.rest = rest) (hsplit : rest = ahead ++ behind)
    (hbehind : behind ≠ []) (hreach : p.reach? (here.beyond ahead behind) = some reach)
    (hfree : free ≤ here.position + ahead.length) :
    ⟨here.position + ahead.length, reach.stop.position, reach.kept.reverse⟩ ∈
        p.matchesFrom free here rest ∨
      ∃ found ∈ p.matchesFrom free here rest, found.start < here.position + ahead.length ∧
        here.position + ahead.length < found.stop := by
  induction rest generalizing free here ahead with
  | nil => exact absurd (List.append_eq_nil_iff.mp hsplit.symm).2 hbehind
  | cons c rest ih =>
      unfold matchesFrom
      dsimp only
      cases ahead with
      | nil =>
          obtain rfl : c :: rest = behind := hsplit
          rw [← hrest, Cursor.beyond_nil] at hreach
          rw [if_neg (by simpa using hfree), hreach]
          exact .inl (List.mem_cons_self ..)
      | cons d ahead =>
          obtain ⟨rfl, rfl⟩ := List.cons.inj hsplit
          rw [Cursor.beyond_cons] at hreach
          have hplace : here.position + (c :: ahead).length =
              (here.past c (ahead ++ behind)).position + ahead.length := by
            simp only [Cursor.past, List.length_cons]
            omega
          rw [hplace] at hfree ⊢
          split
          next => exact ih rfl rfl hreach hfree
          next =>
            split
            next => exact ih rfl rfl hreach hfree
            next other hother =>
              rcases Nat.lt_or_ge ((here.past c (ahead ++ behind)).position + ahead.length)
                (max other.stop.position (here.position + 1)) with hwithin | hfree
              · refine .inr ⟨_, List.mem_cons_self .., ?_, ?_⟩
                · simp only [Cursor.past]
                  omega
                · simp only [Cursor.past] at hwithin ⊢
                  omega
              · rcases ih rfl rfl hreach hfree with hmem | ⟨found, hfound, hwithin⟩
                · exact .inl (List.mem_cons_of_mem _ hmem)
                · exact .inr ⟨found, List.mem_cons_of_mem _ hfound, hwithin⟩

end Found

end ContractReview.Text.Pattern
