import ContractReview.Proofs.Opinion.Exact

/-!
What the opinions of several models have in common. Their concerns are grouped by key, a group stays
or goes as a whole, and one member speaks for it; of equal advice the first is kept.
-/

namespace ContractReview.Consensus

/-! ## Order of first occurrence -/

/-- Keys in the order in which they first occur among others. -/
def InOrder {κ : Type} [DecidableEq κ] (all keys : List κ) : Prop :=
  keys.Pairwise fun a b => all.idxOf a < all.idxOf b

theorem InOrder.nodup {κ : Type} [DecidableEq κ] {all keys : List κ} (h : InOrder all keys) :
    keys.Nodup := by
  refine List.Pairwise.imp ?_ h
  rintro a b hlt rfl
  exact Nat.lt_irrefl _ hlt

/-- Keys stay in order when more items follow. -/
theorem InOrder.append {κ : Type} [DecidableEq κ] {all keys : List κ} (h : InOrder all keys)
    (hsub : ∀ k ∈ keys, k ∈ all) (more : List κ) : InOrder (all ++ more) keys := by
  refine List.Pairwise.imp_of_mem ?_ h
  intro a b ha hb hlt
  rwa [List.idxOf_append_of_mem (hsub a ha), List.idxOf_append_of_mem (hsub b hb)]

/-- A key that is new comes last. -/
theorem InOrder.concat {κ : Type} [DecidableEq κ] {all keys : List κ} (h : InOrder all keys)
    (hsub : ∀ k ∈ keys, k ∈ all) {k : κ} (hk : k ∉ all) : InOrder (all ++ [k]) (keys ++ [k]) := by
  refine List.pairwise_append.mpr ⟨h.append hsub [k], List.pairwise_singleton _ _, ?_⟩
  intro a ha b hb
  obtain rfl := List.mem_singleton.mp hb
  rw [List.idxOf_append_of_mem (hsub a ha), List.idxOf_append_of_notMem hk]
  exact Nat.lt_of_lt_of_le (List.idxOf_lt_length_of_mem (hsub a ha)) (Nat.le_add_right _ _)

/-- A key that is not among those kept may come before all others. -/
theorem InOrder.cons {κ : Type} [DecidableEq κ] {all keys : List κ} (h : InOrder all keys) {k : κ}
    (hk : k ∉ keys) : InOrder (k :: all) keys := by
  refine List.Pairwise.imp_of_mem ?_ h
  intro a b ha hb hlt
  have hne {c : κ} (hc : c ∈ keys) : k ≠ c := fun heq => hk (heq ▸ hc)
  rw [List.idxOf_cons_ne all (hne ha), List.idxOf_cons_ne all (hne hb)]
  exact Nat.succ_lt_succ hlt

/-- A first key that is kept stays the first. -/
theorem InOrder.cons_cons {κ : Type} [DecidableEq κ] {all keys : List κ} (h : InOrder all keys)
    {k : κ} (hk : k ∉ keys) : InOrder (k :: all) (k :: keys) := by
  refine List.pairwise_cons.mpr ⟨?_, h.cons hk⟩
  intro a ha
  have hne : k ≠ a := fun heq => hk (heq ▸ ha)
  rw [List.idxOf_cons_self, List.idxOf_cons_ne all hne]
  exact Nat.succ_pos _

/-! ## Groups -/

section Groups

variable {ν : Type}

/-- The groups of some concerns: one for each key, in order of first occurrence, with all concerns
of the key as members. -/
structure Grouping (reported : List (Concern ν)) (gs : List (Group ν)) : Prop where
  ordered : InOrder (reported.map keyOf) (gs.map Group.key)
  members : ∀ g ∈ gs, g.members = reported.filter fun c => keyOf c = g.key
  complete : ∀ c ∈ reported, keyOf c ∈ gs.map Group.key

theorem Grouping.key_of_mem {reported : List (Concern ν)} {gs : List (Group ν)}
    (h : Grouping reported gs) {g : Group ν} (hg : g ∈ gs) {c : Concern ν} (hc : c ∈ g.members) :
    c ∈ reported ∧ keyOf c = g.key := by
  rw [h.members g hg] at hc
  simpa using hc

theorem Grouping.key_reported {reported : List (Concern ν)} {gs : List (Group ν)}
    (h : Grouping reported gs) : ∀ k ∈ gs.map Group.key, k ∈ reported.map keyOf := by
  intro k hk
  obtain ⟨g, hg, rfl⟩ := List.mem_map.mp hk
  obtain ⟨hmem, hkey⟩ := h.key_of_mem hg (List.mem_cons_self : g.first ∈ g.members)
  exact List.mem_map.mpr ⟨g.first, hmem, hkey⟩

theorem keys_place (c : Concern ν) (gs : List (Group ν)) :
    (place c gs).map Group.key =
      if keyOf c ∈ gs.map Group.key then gs.map Group.key else gs.map Group.key ++ [keyOf c] := by
  induction gs with
  | nil => rfl
  | cons g rest ih =>
      by_cases h : g.key = keyOf c
      · simp [place, h]
      · have hne : ¬ keyOf c = g.key := fun heq => h heq.symm
        by_cases hrest : keyOf c ∈ rest.map Group.key
        · simp only [place, h, ↓reduceIte, List.map_cons, ih, hrest, List.mem_cons, or_true]
        · simp only [place, h, ↓reduceIte, List.map_cons, ih, hrest, List.mem_cons, hne, or_false,
            List.cons_append]

/-- A concern joins the group of its key or opens one; the other groups stay as they are. -/
theorem mem_place {c : Concern ν} {gs : List (Group ν)} (hnodup : (gs.map Group.key).Nodup)
    {g : Group ν} (hg : g ∈ place c gs) :
    (g ∈ gs ∧ g.key ≠ keyOf c) ∨
      (∃ old ∈ gs, old.key = keyOf c ∧ g = { old with rest := old.rest ++ [c] }) ∨
      (keyOf c ∉ gs.map Group.key ∧ g = ⟨keyOf c, c, []⟩) := by
  induction gs with
  | nil =>
      obtain rfl := List.mem_singleton.mp hg
      exact .inr (.inr ⟨List.not_mem_nil, rfl⟩)
  | cons old rest ih =>
      obtain ⟨hfresh, hrest⟩ := List.nodup_cons.mp hnodup
      by_cases h : old.key = keyOf c
      · simp only [place, h, ↓reduceIte, List.mem_cons] at hg
        rcases hg with rfl | hg
        · exact .inr (.inl ⟨old, List.mem_cons_self, h, by rw [h]⟩)
        · refine .inl ⟨List.mem_cons_of_mem old hg, fun hkey => hfresh ?_⟩
          rw [h, ← hkey]
          exact List.mem_map_of_mem hg
      · simp only [place, h, ↓reduceIte, List.mem_cons] at hg
        rcases hg with rfl | hg
        · exact .inl ⟨List.mem_cons_self, h⟩
        · rcases ih hrest hg with ⟨hmem, hkey⟩ | ⟨old', hmem, hkey, heq⟩ | ⟨hnew, heq⟩
          · exact .inl ⟨List.mem_cons_of_mem old hmem, hkey⟩
          · exact .inr (.inl ⟨old', List.mem_cons_of_mem old hmem, hkey, heq⟩)
          · refine .inr (.inr ⟨?_, heq⟩)
            rw [List.map_cons, List.mem_cons]
            exact not_or.mpr ⟨fun heq => h heq.symm, hnew⟩

theorem grouping_place {reported : List (Concern ν)} {gs : List (Group ν)}
    (h : Grouping reported gs) (c : Concern ν) : Grouping (reported ++ [c]) (place c gs) := by
  have hreported := h.key_reported
  have hcomplete : keyOf c ∉ gs.map Group.key → keyOf c ∉ reported.map keyOf := by
    intro hnew hold
    obtain ⟨d, hd, hkey⟩ := List.mem_map.mp hold
    exact hnew (hkey ▸ h.complete d hd)
  refine ⟨?_, ?_, ?_⟩
  · rw [keys_place, List.map_append]
    split
    next => exact h.ordered.append hreported _
    next hnew => exact h.ordered.concat hreported (hcomplete hnew)
  · intro g hg
    rw [List.filter_append]
    rcases mem_place h.ordered.nodup hg with ⟨hmem, hkey⟩ | ⟨old, hmem, hkey, rfl⟩ | ⟨hnew, rfl⟩
    · have hother : ¬ keyOf c = g.key := fun heq => hkey heq.symm
      simp [h.members g hmem, hother]
    · have hold := h.members old hmem
      simp only [Group.members] at hold ⊢
      rw [← hold]
      simp [hkey]
    · have hnone : reported.filter (fun d => keyOf d = keyOf c) = [] := by
        rw [List.filter_eq_nil_iff]
        intro d hd heq
        exact hcomplete hnew (List.mem_map.mpr ⟨d, hd, of_decide_eq_true heq⟩)
      simp [hnone, Group.members]
  · intro d hd
    rw [keys_place]
    rcases List.mem_append.mp hd with hd | hd
    · split
      · exact h.complete d hd
      · exact List.mem_append_left _ (h.complete d hd)
    · obtain rfl := List.mem_singleton.mp hd
      split
      next hold => exact hold
      next => exact List.mem_append_right _ (List.mem_singleton_self _)

theorem grouping_groups (reported : List (Concern ν)) : Grouping reported (groups reported) := by
  have hrun (more : List (Concern ν)) : ∀ (seen : List (Concern ν)) (gs : List (Group ν)),
      Grouping seen gs → Grouping (seen ++ more) (more.foldl (fun gs c => place c gs) gs) := by
    induction more with
    | nil =>
        intro seen gs h
        simpa using h
    | cons c rest ih =>
        intro seen gs h
        have hstep := ih (seen ++ [c]) (place c gs) (grouping_place h c)
        rwa [List.append_assoc] at hstep
  exact hrun reported [] [] ⟨List.Pairwise.nil, by simp, by simp⟩

/-- A group has as many members as there are concerns of its key. -/
theorem Grouping.length_members {reported : List (Concern ν)} {gs : List (Group ν)}
    (h : Grouping reported gs) {g : Group ν} (hg : g ∈ gs) :
    g.members.length = (reported.map keyOf).count g.key := by
  rw [h.members g hg, List.count_eq_countP, List.countP_map, List.countP_eq_length_filter]
  rfl

variable [Measure ν]

/-- A concern that is kept whether or not others share it. -/
def Sure (c : Concern ν) : Prop := Measure.below (Measure.trusted (ν := ν)) c.confidence = true

theorem greatestBy_mem {α : Type} (key : α → ν) (first : α) (rest : List α) :
    greatestBy key first rest ∈ first :: rest := by
  induction rest using List.reverseRecOn with
  | nil => exact List.mem_cons_self
  | append_singleton rest a ih =>
      rw [← List.cons_append, List.mem_append, List.mem_singleton]
      unfold greatestBy at ih ⊢
      rw [List.foldl_append, List.foldl_cons, List.foldl_nil]
      split
      · exact .inr rfl
      · exact .inl ih

theorem Grouping.keyOf_spokesman {reported : List (Concern ν)} {gs : List (Group ν)}
    (h : Grouping reported gs) {g : Group ν} (hg : g ∈ gs) : keyOf g.spokesman = g.key :=
  (h.key_of_mem hg (greatestBy_mem Concern.confidence g.first g.rest)).2

theorem Grouping.keeps_iff {reported : List (Concern ν)} {gs : List (Group ν)}
    (h : Grouping reported gs) {g : Group ν} (hg : g ∈ gs) (required : Int) :
    keeps required g = true ↔ required ≤ (reported.map keyOf).count g.key ∨
      ∃ c ∈ reported, keyOf c = g.key ∧ Sure c := by
  unfold keeps Group.trusted
  rw [Bool.or_eq_true, decide_eq_true_iff, List.any_eq_true, h.length_members hg, h.members g hg]
  simp only [List.mem_filter, decide_eq_true_iff, and_assoc]
  rfl

/-- The concerns that stand for the groups which are kept. -/
def keptConcerns (required : Int) (reported : List (Concern ν)) : List (Concern ν) :=
  ((groups reported).filter (keeps required)).map Group.spokesman

theorem keys_keptConcerns (required : Int) (reported : List (Concern ν)) :
    (keptConcerns required reported).map keyOf =
      ((groups reported).filter (keeps required)).map Group.key := by
  unfold keptConcerns
  rw [List.map_map]
  exact List.map_congr_left fun g hg =>
    (grouping_groups reported).keyOf_spokesman (List.mem_of_mem_filter hg)

/-- A key is kept when its concerns are enough, or when one of them is sure. -/
theorem mem_keys_keptConcerns_iff {required : Int} (hrequired : 1 ≤ required)
    (reported : List (Concern ν)) (key : Key) :
    key ∈ (keptConcerns required reported).map keyOf ↔
      required ≤ (reported.map keyOf).count key ∨ ∃ c ∈ reported, keyOf c = key ∧ Sure c := by
  have h := grouping_groups reported
  rw [keys_keptConcerns]
  constructor
  · intro hkey
    obtain ⟨g, hg, rfl⟩ := List.mem_map.mp hkey
    obtain ⟨hmem, hkeeps⟩ := List.mem_filter.mp hg
    exact (h.keeps_iff hmem required).mp hkeeps
  · intro hkey
    have hreported : key ∈ reported.map keyOf := by
      rcases hkey with hcount | ⟨c, hc, rfl, -⟩
      · exact List.count_pos_iff.mp (by omega)
      · exact List.mem_map_of_mem hc
    obtain ⟨c, hc, rfl⟩ := List.mem_map.mp hreported
    obtain ⟨g, hg, hgkey⟩ := List.mem_map.mp (h.complete c hc)
    rw [← hgkey] at hkey ⊢
    exact List.mem_map_of_mem
      (List.mem_filter.mpr ⟨hg, (h.keeps_iff hg required).mpr hkey⟩)

end Groups

/-! ## Concerns -/

/-- The first of the most confident among some concerns. -/
def Foremost (members : List (Concern ℚ)) (c : Concern ℚ) : Prop :=
  ∃ earlier later, members = earlier ++ c :: later ∧
    (∀ d ∈ earlier, d.confidence < c.confidence) ∧ ∀ d ∈ later, d.confidence ≤ c.confidence

/-- What stays of the concerns that several opinions report. -/
structure Consensual (required : Int) (reported kept : List (Concern ℚ)) : Prop where
  distinct : (kept.map keyOf).Nodup
  ordered : InOrder (reported.map keyOf) (kept.map keyOf)
  kept_iff : ∀ key, key ∈ kept.map keyOf ↔
    required ≤ (reported.map keyOf).count key ∨
      ∃ c ∈ reported, keyOf c = key ∧ 4 / 5 < c.confidence
  foremost : ∀ c ∈ kept, Foremost (reported.filter fun d => keyOf d = keyOf c) c

theorem foremost_greatestBy (first : Concern ℚ) (rest : List (Concern ℚ)) :
    Foremost (first :: rest) (greatestBy Concern.confidence first rest) := by
  induction rest using List.reverseRecOn with
  | nil => exact ⟨[], [], rfl, by simp, by simp⟩
  | append_singleton rest c ih =>
      obtain ⟨earlier, later, hsplit, hearlier, hlater⟩ := ih
      have hbest : greatestBy Concern.confidence first (rest ++ [c]) =
          if (greatestBy Concern.confidence first rest).confidence < c.confidence then c
          else greatestBy Concern.confidence first rest := by
        simp [greatestBy, Measure.below]
      rw [hbest]
      by_cases hlt : (greatestBy Concern.confidence first rest).confidence < c.confidence
      · rw [if_pos hlt]
        refine ⟨first :: rest, [], rfl, ?_, by simp⟩
        intro d hd
        rw [hsplit] at hd
        rcases List.mem_append.mp hd with hd | hd
        · exact (hearlier d hd).trans hlt
        · rcases List.mem_cons.mp hd with rfl | hd
          · exact hlt
          · exact (hlater d hd).trans_lt hlt
      · rw [if_neg hlt]
        refine ⟨earlier, later ++ [c], ?_, hearlier, ?_⟩
        · rw [← List.cons_append, hsplit, List.append_assoc, List.cons_append]
        · intro d hd
          rcases List.mem_append.mp hd with hd | hd
          · exact hlater d hd
          · obtain rfl := List.mem_singleton.mp hd
            exact not_lt.mp hlt

theorem foremost_spokesman (g : Group ℚ) : Foremost g.members g.spokesman :=
  foremost_greatestBy g.first g.rest

theorem sure_iff (c : Concern ℚ) : Sure c ↔ 4 / 5 < c.confidence := by
  simp [Sure, Measure.below, Measure.trusted]

theorem consensual_groups (reported : List (Concern ℚ)) {required : Int}
    (hrequired : 1 ≤ required) :
    Consensual required reported (keptConcerns required reported) := by
  have h := grouping_groups reported
  have hordered : InOrder (reported.map keyOf)
      (((groups reported).filter (keeps required)).map Group.key) :=
    h.ordered.sublist (List.filter_sublist.map Group.key)
  refine ⟨?_, ?_, ?_, ?_⟩
  · rw [keys_keptConcerns]
    exact hordered.nodup
  · rw [keys_keptConcerns]
    exact hordered
  · intro key
    rw [mem_keys_keptConcerns_iff hrequired]
    simp only [sure_iff]
  · intro c hc
    obtain ⟨g, hg, rfl⟩ := List.mem_map.mp hc
    have hmem := List.mem_of_mem_filter hg
    rw [h.keyOf_spokesman hmem, ← h.members g hmem]
    exact foremost_spokesman g

/-! ## Advice -/

/-- What makes two pieces of advice one. -/
def adviceKey (a : Advice) : String × String := (a.category, a.description)

/-- The first piece of advice for every key, in order. -/
structure FirstOfEach (given kept : List Advice) : Prop where
  distinct : (kept.map adviceKey).Nodup
  ordered : InOrder (given.map adviceKey) (kept.map adviceKey)
  first : ∀ key, kept.find? (adviceKey · = key) = given.find? (adviceKey · = key)

theorem not_seen_of_mem_freshAdvice {seen : List (String × String)} {given : List Advice} :
    ∀ key ∈ (freshAdvice seen given).map adviceKey, key ∉ seen := by
  induction given generalizing seen with
  | nil => simp [freshAdvice]
  | cons a rest ih =>
      intro key hkey
      by_cases hseen : (a.category, a.description) ∈ seen
      · rw [freshAdvice, if_pos hseen] at hkey
        exact ih key hkey
      · rw [freshAdvice, if_neg hseen, List.map_cons] at hkey
        rcases List.mem_cons.mp hkey with rfl | hkey
        · exact hseen
        · exact fun hmem => ih key hkey (List.mem_cons_of_mem _ hmem)

theorem inOrder_freshAdvice (seen : List (String × String)) (given : List Advice) :
    InOrder (given.map adviceKey) ((freshAdvice seen given).map adviceKey) := by
  induction given generalizing seen with
  | nil => exact List.Pairwise.nil
  | cons a rest ih =>
      by_cases hseen : (a.category, a.description) ∈ seen
      · rw [freshAdvice, if_pos hseen]
        exact (ih seen).cons fun hkey => not_seen_of_mem_freshAdvice _ hkey hseen
      · rw [freshAdvice, if_neg hseen]
        exact (ih _).cons_cons fun hkey =>
          not_seen_of_mem_freshAdvice _ hkey List.mem_cons_self

theorem find?_freshAdvice (seen : List (String × String)) (given : List Advice)
    (key : String × String) :
    (freshAdvice seen given).find? (adviceKey · = key) =
      if key ∈ seen then none else given.find? (adviceKey · = key) := by
  induction given generalizing seen with
  | nil => simp [freshAdvice]
  | cons a rest ih =>
      by_cases hseen : (a.category, a.description) ∈ seen
      · rw [freshAdvice, if_pos hseen, ih]
        by_cases hkey : key ∈ seen
        · simp only [hkey, ↓reduceIte]
        · have hne : ¬ adviceKey a = key := fun heq => hkey (heq ▸ hseen)
          simp [hkey, hne]
      · rw [freshAdvice, if_neg hseen]
        by_cases heq : adviceKey a = key
        · subst heq
          have hkey : adviceKey a ∉ seen := hseen
          simp [hkey]
        · have hne : key ≠ (a.category, a.description) := fun h => heq h.symm
          simp [heq, ih, hne]

theorem firstOfEach_freshAdvice (given : List Advice) :
    FirstOfEach given (freshAdvice [] given) := by
  refine ⟨(inOrder_freshAdvice [] given).nodup, inOrder_freshAdvice [] given, ?_⟩
  intro key
  rw [find?_freshAdvice, if_neg List.not_mem_nil]

/-! ## Opinions -/

/-- What several opinions come to. -/
structure Combined (threshold : ℚ) (opinions : List (Opinion ℚ)) (o : Opinion ℚ) : Prop where
  concerns : Consensual (required threshold opinions.length) (opinions.flatMap (·.concerns))
    o.concerns
  advice : FirstOfEach (opinions.flatMap (·.advice)) o.advice
  codeQuality : IsMean (opinions.map (·.quality.codeQuality)) o.quality.codeQuality
  maintainability : IsMean (opinions.map (·.quality.maintainability)) o.quality.maintainability
  testCoverage : IsMean (opinions.map (·.quality.testCoverage)) o.quality.testCoverage
  confidence : IsMean (opinions.map (·.confidence)) o.confidence

/-- Two opinions or more are combined by consensus, first occurrence and mean; one stays as it
is. -/
theorem combined_combine (threshold : ℚ) (first second : Opinion ℚ) (others : List (Opinion ℚ)) :
    Combined threshold (first :: second :: others) (combine threshold first (second :: others)) ∧
      combine threshold first [] = first := by
  have hmean (value : Opinion ℚ → ℚ) :
      IsMean ((first :: second :: others).map value)
        (mean ((first :: second :: others).map value)) :=
    isMean_mean (List.cons_ne_nil _ _)
  refine ⟨?_, rfl⟩
  exact {
    concerns := consensual_groups _ (le_max_left 1 _)
    advice := firstOfEach_freshAdvice _
    codeQuality := hmean (·.quality.codeQuality)
    maintainability := hmean (·.quality.maintainability)
    testCoverage := hmean (·.quality.testCoverage)
    confidence := hmean (·.confidence) }

end ContractReview.Consensus
