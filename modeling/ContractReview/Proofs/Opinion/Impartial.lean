import ContractReview.Proofs.Opinion.Consensus
import ContractReview.Proofs.Number.Order

/-!
The order in which opinions are combined. It decides what is listed first and which of equally
confident concerns speaks for their key, but neither what is kept, nor how sure it is, nor what is
estimated.
-/

namespace ContractReview

/-- A double that is a number. -/
def Number.IsNumeric (n : Number) : Prop := ∃ x : Float, n = .float x ∧ x.isNaN = false

namespace Consensus

/-! ## The greatest of some values -/

section Greatest

variable {ν : Type} [Measure ν]

/-- The values that `S` holds of are ordered: comparing them never goes round in a circle. -/
structure Ranked (S : ν → Prop) : Prop where
  irrefl : ∀ a, S a → ¬ Measure.below a a = true
  trans : ∀ a b c, S a → S b → S c → Measure.below a b = true → Measure.below b c = true →
    Measure.below a c = true

theorem ranked_exact : Ranked fun _ : ℚ => True where
  irrefl a _ := by simp [Measure.below]
  trans a b c _ _ _ hab hbc := by
    simp only [Measure.below, decide_eq_true_eq] at *
    exact hab.trans hbc

theorem ranked_numeric : Ranked Number.IsNumeric where
  irrefl a ha := by
    obtain ⟨x, rfl, -⟩ := ha
    simpa [Measure.below, Number.ltb] using Double.not_lt_self x
  trans a b c ha hb hc hab hbc := by
    obtain ⟨x, rfl, -⟩ := ha
    obtain ⟨y, rfl, -⟩ := hb
    obtain ⟨z, rfl, -⟩ := hc
    simp only [Measure.below, Number.ltb, decide_eq_true_eq] at *
    exact Double.lt_trans hab hbc

/-- Numbers of which neither is below the other have one value. -/
theorem same_of_not_below {a b : Number} (ha : a.IsNumeric) (hb : b.IsNumeric)
    (h : ¬ Measure.below a b = true) (h' : ¬ Measure.below b a = true) : a.same b = true := by
  obtain ⟨x, rfl, hx⟩ := ha
  obtain ⟨y, rfl, hy⟩ := hb
  simp only [Measure.below, Number.ltb, decide_eq_true_eq] at h h'
  exact Double.beq_of_not_lt hx hy h h'

variable {α : Type} {key : α → ν} {S : ν → Prop}

theorem greatestBy_concat (key : α → ν) (first : α) (rest : List α) (a : α) :
    greatestBy key first (rest ++ [a]) =
      if Measure.below (key (greatestBy key first rest)) (key a) then a
      else greatestBy key first rest := by
  unfold greatestBy
  rw [List.foldl_append, List.foldl_cons, List.foldl_nil]

/-- Nothing is above the greatest of some values. -/
theorem not_below_greatestBy (key : α → ν) (hS : Ranked S) {first : α} {rest : List α}
    (hkeys : ∀ a ∈ first :: rest, S (key a)) :
    ∀ a ∈ first :: rest, ¬ Measure.below (key (greatestBy key first rest)) (key a) = true := by
  induction rest using List.reverseRecOn with
  | nil =>
      intro a ha
      obtain rfl := List.mem_singleton.mp ha
      exact hS.irrefl _ (hkeys a ha)
  | append_singleton rest last ih =>
      rw [← List.cons_append] at hkeys ⊢
      have hseen : ∀ a ∈ first :: rest, S (key a) := fun a ha =>
        hkeys a (List.mem_append_left _ ha)
      have hlast : S (key last) := hkeys last (List.mem_append_right _ (List.mem_singleton_self _))
      have hbest : S (key (greatestBy key first rest)) := hseen _ (greatestBy_mem key first rest)
      intro a ha
      rw [greatestBy_concat]
      rcases List.mem_append.mp ha with ha | ha
      · split
        next hbelow =>
          intro habove
          exact ih hseen a ha (hS.trans _ _ _ hbest hlast (hseen a ha) hbelow habove)
        next => exact ih hseen a ha
      · obtain rfl := List.mem_singleton.mp ha
        split
        next => exact hS.irrefl _ hlast
        next hbelow => exact hbelow

end Greatest

/-! ## What is kept -/

section Kept

variable {ν : Type} [Measure ν] {required : Int} {reported reported' : List (Concern ν)}

theorem nodup_keys_keptConcerns (required : Int) (reported : List (Concern ν)) :
    ((keptConcerns required reported).map keyOf).Nodup := by
  rw [keys_keptConcerns]
  exact ((grouping_groups reported).ordered.sublist (List.filter_sublist.map Group.key)).nodup

/-- Which keys are kept depends on the concerns that are reported, not on their order. -/
theorem keys_keptConcerns_perm (required : Int) (hrequired : 1 ≤ required)
    (hperm : reported.Perm reported') :
    ((keptConcerns required reported).map keyOf).Perm
      ((keptConcerns required reported').map keyOf) := by
  rw [List.perm_ext_iff_of_nodup (nodup_keys_keptConcerns required reported)
    (nodup_keys_keptConcerns required reported')]
  intro key
  rw [mem_keys_keptConcerns_iff hrequired, mem_keys_keptConcerns_iff hrequired,
    (hperm.map keyOf).count_eq]
  simp only [hperm.mem_iff]

/-- A kept concern is one of those reported, and none of its key is above it. -/
theorem topmost_of_mem_keptConcerns {S : ν → Prop} (hS : Ranked S)
    (hreported : ∀ d ∈ reported, S d.confidence) {c : Concern ν}
    (hc : c ∈ keptConcerns required reported) :
    c ∈ reported ∧ ∀ d ∈ reported, keyOf d = keyOf c →
      ¬ Measure.below c.confidence d.confidence = true := by
  have h := grouping_groups reported
  obtain ⟨g, hg, rfl⟩ := List.mem_map.mp hc
  have hmem := List.mem_of_mem_filter hg
  have hspokesman : g.spokesman ∈ g.members := greatestBy_mem Concern.confidence g.first g.rest
  refine ⟨(h.key_of_mem hmem hspokesman).1, ?_⟩
  intro d hd hkey
  have hmembers : ∀ m ∈ g.members, S m.confidence := fun m hm =>
    hreported m (h.key_of_mem hmem hm).1
  have hd : d ∈ g.members := by
    rw [h.members g hmem, List.mem_filter]
    exact ⟨hd, decide_eq_true (hkey.trans (h.keyOf_spokesman hmem))⟩
  exact not_below_greatestBy Concern.confidence hS hmembers d hd

/-- Of two rearrangements, neither is surer of what both of them keep. -/
theorem level_keptConcerns {S : ν → Prop} (hS : Ranked S)
    (hreported : ∀ d ∈ reported, S d.confidence) (hperm : reported.Perm reported')
    {c c' : Concern ν} (hc : c ∈ keptConcerns required reported)
    (hc' : c' ∈ keptConcerns required reported') (hkey : keyOf c = keyOf c') :
    S c.confidence ∧ S c'.confidence ∧ ¬ Measure.below c.confidence c'.confidence = true ∧
      ¬ Measure.below c'.confidence c.confidence = true := by
  have hreported' : ∀ d ∈ reported', S d.confidence := fun d hd =>
    hreported d (hperm.mem_iff.mpr hd)
  obtain ⟨hmem, htop⟩ := topmost_of_mem_keptConcerns hS hreported hc
  obtain ⟨hmem', htop'⟩ := topmost_of_mem_keptConcerns hS hreported' hc'
  exact ⟨hreported c hmem, hreported' c' hmem', htop c' (hperm.mem_iff.mpr hmem') hkey.symm,
    htop' c (hperm.mem_iff.mp hmem) hkey⟩

theorem mem_keys_freshAdvice_iff (given : List Advice) (key : String × String) :
    key ∈ (freshAdvice [] given).map adviceKey ↔ key ∈ given.map adviceKey := by
  have hfind := find?_freshAdvice [] given key
  rw [if_neg List.not_mem_nil] at hfind
  have hfound (list : List Advice) :
      key ∈ list.map adviceKey ↔ (list.find? (adviceKey · = key)).isSome = true := by
    simp [List.find?_isSome]
  rw [hfound, hfound, hfind]

theorem keys_freshAdvice_perm {given given' : List Advice} (hperm : given.Perm given') :
    ((freshAdvice [] given).map adviceKey).Perm ((freshAdvice [] given').map adviceKey) := by
  rw [List.perm_ext_iff_of_nodup (inOrder_freshAdvice [] given).nodup
    (inOrder_freshAdvice [] given').nodup]
  intro key
  rw [mem_keys_freshAdvice_iff, mem_keys_freshAdvice_iff, (hperm.map adviceKey).mem_iff]

/-- Two opinions that hold concerns of the same keys, and advice of the same categories and
descriptions. -/
structure SameKept (o o' : Opinion ν) : Prop where
  concerns : (o.concerns.map keyOf).Perm (o'.concerns.map keyOf)
  advice : (o.advice.map adviceKey).Perm (o'.advice.map adviceKey)

theorem sameKept_combine (threshold : ν) {first second first' second' : Opinion ν}
    {others others' : List (Opinion ν)}
    (hperm : (first :: second :: others).Perm (first' :: second' :: others')) :
    SameKept (combine threshold first (second :: others))
      (combine threshold first' (second' :: others')) where
  concerns := by
    have hkeys := keys_keptConcerns_perm (required threshold
      (first :: second :: others).length) (le_max_left 1 _) (hperm.flatMap_right (·.concerns))
    rw [hperm.length_eq] at hkeys
    change ((keptConcerns (required threshold (first :: second :: others).length) _).map keyOf).Perm
      ((keptConcerns (required threshold (first' :: second' :: others').length) _).map keyOf)
    rw [hperm.length_eq]
    exact hkeys
  advice := keys_freshAdvice_perm (hperm.flatMap_right (·.advice))

/-- Concerns of one key have confidences that `same` holds of. -/
def SameConfidences (same : ν → ν → Prop) (o o' : Opinion ν) : Prop :=
  ∀ c ∈ o.concerns, ∀ c' ∈ o'.concerns, keyOf c = keyOf c' → same c.confidence c'.confidence

theorem sameConfidences_combine (threshold : ν) {S : ν → Prop} (hS : Ranked S)
    {same : ν → ν → Prop}
    (hsame : ∀ a b, S a → S b → ¬ Measure.below a b = true → ¬ Measure.below b a = true → same a b)
    {first second first' second' : Opinion ν} {others others' : List (Opinion ν)}
    (hperm : (first :: second :: others).Perm (first' :: second' :: others'))
    (hranked : ∀ o ∈ first :: second :: others, ∀ c ∈ o.concerns, S c.confidence) :
    SameConfidences same (combine threshold first (second :: others))
      (combine threshold first' (second' :: others')) := by
  intro c hc c' hc' hkey
  have hreported : ∀ d ∈ (first :: second :: others).flatMap (·.concerns), S d.confidence := by
    intro d hd
    obtain ⟨o, ho, hd⟩ := List.mem_flatMap.mp hd
    exact hranked o ho d hd
  have hcount : required threshold (first' :: second' :: others').length =
      required threshold (first :: second :: others).length := by rw [hperm.length_eq]
  have hc' : c' ∈ keptConcerns (required threshold (first :: second :: others).length)
      ((first' :: second' :: others').flatMap (·.concerns)) := hcount ▸ hc'
  obtain ⟨h, h', hnot, hnot'⟩ :=
    level_keptConcerns hS hreported (hperm.flatMap_right (·.concerns)) hc hc' hkey
  exact hsame _ _ h h' hnot hnot'

end Kept

/-! ## What is estimated -/

/-- Two opinions with the same estimates. -/
structure SameEstimates (o o' : Opinion ℚ) : Prop where
  quality : o.quality = o'.quality
  confidence : o.confidence = o'.confidence
  executionTime : o.executionTime = o'.executionTime

theorem mean_perm {values values' : List ℚ} (hperm : values.Perm values') :
    mean values = mean values' := by
  unfold mean
  rw [sum_eq, sum_eq, hperm.sum_eq, hperm.length_eq]

theorem sameEstimates_combine (threshold : ℚ) {first second first' second' : Opinion ℚ}
    {others others' : List (Opinion ℚ)}
    (hperm : (first :: second :: others).Perm (first' :: second' :: others')) :
    SameEstimates (combine threshold first (second :: others))
      (combine threshold first' (second' :: others')) where
  quality := by
    change meanQuality (first :: second :: others) = meanQuality (first' :: second' :: others')
    unfold meanQuality
    rw [mean_perm (hperm.map _), mean_perm (hperm.map fun o => o.quality.maintainability),
      mean_perm (hperm.map fun o => o.quality.testCoverage)]
  confidence := mean_perm (hperm.map (·.confidence))
  executionTime := by
    have htimes := hperm.map (·.executionTime)
    have hmem := greatestBy_mem id first.executionTime
      ((second :: others).map (·.executionTime))
    have hmem' := greatestBy_mem id first'.executionTime
      ((second' :: others').map (·.executionTime))
    have htop := not_below_greatestBy id ranked_exact (fun _ _ => trivial) _
      (htimes.mem_iff.mpr hmem')
    have htop' := not_below_greatestBy id ranked_exact (fun _ _ => trivial) _
      (htimes.mem_iff.mp hmem)
    simp only [Measure.below, decide_eq_true_eq, not_lt, id] at htop htop'
    exact le_antisymm htop' htop

/-- Opinions come to the same in whatever order they are combined: the same concerns and advice are
kept whatever their confidences are, each key has the same confidence as long as all of them are
numbers, and over exact numbers all estimates agree as well. -/
theorem impartial_combine :
    (∀ (threshold : Number) (first second first' second' : Opinion Number)
      (others others' : List (Opinion Number)),
      (first :: second :: others).Perm (first' :: second' :: others') →
      SameKept (combine threshold first (second :: others))
          (combine threshold first' (second' :: others')) ∧
        ((∀ o ∈ first :: second :: others, ∀ c ∈ o.concerns, c.confidence.IsNumeric) →
          SameConfidences (fun a b => a.same b = true) (combine threshold first (second :: others))
            (combine threshold first' (second' :: others')))) ∧
    ∀ (threshold : ℚ) (first second first' second' : Opinion ℚ) (others others' : List (Opinion ℚ)),
      (first :: second :: others).Perm (first' :: second' :: others') →
      SameKept (combine threshold first (second :: others))
          (combine threshold first' (second' :: others')) ∧
        SameConfidences (· = ·) (combine threshold first (second :: others))
          (combine threshold first' (second' :: others')) ∧
        SameEstimates (combine threshold first (second :: others))
          (combine threshold first' (second' :: others')) := by
  constructor
  · intro threshold first second first' second' others others' hperm
    refine ⟨sameKept_combine threshold hperm, fun hnumeric => ?_⟩
    exact sameConfidences_combine threshold ranked_numeric
      (fun a b ha hb => same_of_not_below ha hb) hperm hnumeric
  · intro threshold first second first' second' others others' hperm
    refine ⟨sameKept_combine threshold hperm, ?_, sameEstimates_combine threshold hperm⟩
    refine sameConfidences_combine threshold ranked_exact ?_ hperm fun _ _ _ _ => trivial
    intro a b _ _ hab hba
    simp only [Measure.below, decide_eq_true_eq, not_lt] at hab hba
    exact le_antisymm hba hab

/-- An opinion that reports one overflow. -/
def overflowReport {ν : Type} (model : String) (rating time : ν) : Opinion ν :=
  { model
    concerns :=
      [⟨"overflow", "high", "unchecked sum", { file := "contract.sol", line := 3 }, rating⟩]
    advice := [⟨"Security", "high", "check the sum", model⟩]
    quality := ⟨rating, rating, rating⟩
    confidence := rating
    executionTime := time }

def timid : Opinion Number := overflowReport "a" (.float 0.5) (.float 1.0)

def bold : Opinion Number := overflowReport "b" (.float 0.75) (.float 2.0)

/-- Two models that report one overflow, the second surer than the first, in either order. -/
theorem impartial_overflowReports :
    (SameKept (combine (.float 0.6) timid [bold]) (combine (.float 0.6) bold [timid]) ∧
      SameConfidences (fun a b => a.same b = true) (combine (.float 0.6) timid [bold])
        (combine (.float 0.6) bold [timid])) ∧
    SameEstimates (combine (3 / 5) (overflowReport "a" (1 / 2) 1) [overflowReport "b" (3 / 4) 2])
      (combine (3 / 5) (overflowReport "b" (3 / 4) 2) [overflowReport "a" (1 / 2) 1]) := by
  obtain ⟨hrunning, hexact⟩ := impartial_combine
  constructor
  · obtain ⟨hkept, hconfidences⟩ :=
      hrunning (.float 0.6) timid bold bold timid [] [] (List.Perm.swap bold timid [])
    refine ⟨hkept, hconfidences ?_⟩
    intro o ho c hc
    rcases List.mem_cons.mp ho with rfl | ho
    · obtain rfl := List.mem_singleton.mp hc
      exact ⟨0.5, rfl, by decide +kernel⟩
    · obtain rfl := List.mem_singleton.mp ho
      obtain rfl := List.mem_singleton.mp hc
      exact ⟨0.75, rfl, by decide +kernel⟩
  · exact (hexact (3 / 5) _ _ _ _ [] [] (List.Perm.swap _ _ [])).2.2

end Consensus

end ContractReview
