import ContractReview.Proofs.Opinion.Repair

/-!
What can be relied on in an opinion that was repaired: its ratings are on their scales, its places
count from one, its words are of their vocabularies, and every object in a list of the answer has
its own output there, on which no other item has a bearing.
-/

namespace ContractReview

/-- A double that is a number, between two bounds. -/
def Number.OnScale (low high : Float) (n : Number) : Prop :=
  ∃ x : Float, n = .float x ∧ x.isNaN = false ∧ low ≤ x ∧ x ≤ high

/-- Absent, or a whole number that is not negative. -/
def IsLength (v : Json) : Prop := v = .null ∨ ∃ i : Int, 0 ≤ i ∧ v = .num (.int i)

structure Location.WellFormed (l : Location) : Prop where
  file : l.file ≠ ""
  line : 1 ≤ l.line
  column : 1 ≤ l.column
  length : IsLength l.length

structure Concern.WellFormed (c : Concern Number) : Prop where
  category : c.category ∈ Repair.concernTypes
  severity : c.severity ∈ Repair.severities
  location : c.location.WellFormed
  confidence : c.confidence.OnScale 0.0 1.0

def Advice.WellFormed (a : Advice) : Prop := a.priority ∈ Repair.priorities

structure Quality.WellFormed (q : Quality Number) : Prop where
  codeQuality : q.codeQuality.OnScale 0.0 100.0
  maintainability : q.maintainability.OnScale 0.0 100.0
  testCoverage : q.testCoverage.OnScale 0.0 100.0

structure Opinion.WellFormed (o : Opinion Number) : Prop where
  concerns : ∀ c ∈ o.concerns, c.WellFormed
  advice : ∀ a ∈ o.advice, a.WellFormed
  quality : o.quality.WellFormed
  confidence : o.confidence.OnScale 0.0 1.0

/-! ## Shown values -/

theorem Double.intText_ne_nil (i : Int) : Double.intText i ≠ [] := by
  unfold intText
  split
  · exact List.cons_ne_nil _ _
  · exact Nat.toDigits_ne_nil

theorem Double.decimalChars_ne_nil (digits : List Char) (exponent : Int) :
    decimalChars digits exponent ≠ [] := by
  unfold decimalChars
  dsimp only
  split
  · split
    · exact List.cons_ne_nil _ _
    · split
      · exact List.append_ne_nil_of_right_ne_nil _ (List.cons_ne_nil _ _)
      · exact List.append_ne_nil_of_right_ne_nil _ (List.cons_ne_nil _ _)
  · exact List.append_ne_nil_of_right_ne_nil _ (List.cons_ne_nil _ _)

theorem Double.textChars_ne_nil (x : Float) : textChars x ≠ [] := by
  unfold textChars
  split
  · decide
  · split <;> decide
  · dsimp only
    split
    · exact List.cons_ne_nil _ _
    · split
      · decide
      · exact decimalChars_ne_nil _ _

theorem Number.text_ne_empty (n : Number) : n.text ≠ "" := by
  cases n with
  | int i => exact String.ofList_eq_empty_iff.not.mpr (Double.intText_ne_nil i)
  | float x => exact String.ofList_eq_empty_iff.not.mpr (Double.textChars_ne_nil x)

/-- Only the empty text is shown as nothing. -/
theorem Json.shown_ne_empty {v : Json} (h : v ≠ .str "") : v.shown ≠ "" := by
  have hliteral (hv : v.literalChars ≠ []) : v.literal ≠ "" :=
    String.ofList_eq_empty_iff.not.mpr hv
  cases v with
  | str s => exact fun hs => h (congrArg Json.str hs)
  | null => exact hliteral (by decide)
  | bool b => exact hliteral (by cases b <;> decide)
  | num n => exact hliteral (String.toList_eq_nil_iff.not.mpr n.text_ne_empty)
  | arr items => exact hliteral (List.cons_ne_nil _ _)
  | obj fields => exact hliteral (List.cons_ne_nil _ _)

namespace Repair

/-! ## Single fields -/

section Field

variable {α : Type} {fields : List (String × Json)} {name : String} {default a : α}

/-- What holds of the default and of all that a value comes to, holds of the field. -/
theorem FieldRepair.holds {R : Json → α → Prop} (h : FieldRepair fields name default R a)
    (P : α → Prop) (hdefault : P default) (hR : ∀ v, R v a → P a) : P a := by
  rcases h with _ | ⟨-, ha⟩
  · exact hdefault
  · exact hR _ ha

theorem WholeRepair.holds {least : Int} {use : Int → α} {v : Json}
    (h : WholeRepair least default use v a) (P : α → Prop) (hdefault : P default)
    (huse : ∀ i, least ≤ i → P (use i)) : P a := by
  rcases h with ⟨-, -, hle⟩ | _ | _
  · exact huse _ hle
  · exact hdefault
  · exact hdefault

end Field

theorem FileRepair.ne_empty {v : Json} {s : String} (h : FileRepair v s) : s ≠ "" := by
  rcases h with _ | _ | ⟨-, hempty⟩
  · decide
  · decide
  · exact Json.shown_ne_empty hempty

theorem WordRepair.mem {vocabulary : List String} {default : String} {v : Json} {s : String}
    (h : WordRepair vocabulary default v s) (hdefault : default ∈ vocabulary) : s ∈ vocabulary := by
  rcases h with ⟨-, hmem⟩ | _
  · exact hmem
  · exact hdefault

theorem onScale_of_le {low high x : Float} (h : low ≤ x ∧ x ≤ high) :
    (Number.float x).OnScale low high :=
  ⟨x, rfl, (Double.isNaN_eq_false_of_le h.1).2, h⟩

theorem ScaleRepair.onScale {low high default : Float} {v : Json} {n : Number}
    (h : ScaleRepair low high default v n) (hlow : (Number.float low).OnScale low high)
    (hhigh : (Number.float high).OnScale low high)
    (hdefault : (Number.float default).OnScale low high) : n.OnScale low high := by
  rcases h with ⟨-, hl, hh⟩ | _ | _ | _ | _
  · exact ⟨_, rfl, (Double.isNaN_eq_false_of_lt hl).2, Double.le_of_lt hl, Double.le_of_lt hh⟩
  · exact hlow
  · exact hhigh
  · exact hdefault
  · exact hdefault

/-! ## Whole opinions -/

theorem LocationRepair.wellFormed {fields : List (String × Json)} {l : Location}
    (h : LocationRepair fields l) : l.WellFormed where
  file := h.file.holds (· ≠ "") (by decide) fun _ hv => hv.ne_empty
  line := h.line.holds (1 ≤ ·) le_rfl fun _ hv => hv.holds (1 ≤ ·) le_rfl fun _ hle => hle
  column := h.column.holds (1 ≤ ·) le_rfl fun _ hv => hv.holds (1 ≤ ·) le_rfl fun _ hle => hle
  length := h.length.holds IsLength (.inl rfl) fun _ hv =>
    hv.holds IsLength (.inl rfl) fun i hle => .inr ⟨i, hle, rfl⟩

theorem unitRepair_onScale {fields : List (String × Json)} {n : Number}
    (h : FieldRepair fields "confidence" (.float 0.5) (ScaleRepair 0.0 1.0 0.5) n) :
    n.OnScale 0.0 1.0 := by
  have hlow : (Number.float 0.0).OnScale 0.0 1.0 := onScale_of_le (by decide +kernel)
  have hhigh : (Number.float 1.0).OnScale 0.0 1.0 := onScale_of_le (by decide +kernel)
  have hhalf : (Number.float 0.5).OnScale 0.0 1.0 := onScale_of_le (by decide +kernel)
  exact h.holds (Number.OnScale 0.0 1.0) hhalf fun _ hv => hv.onScale hlow hhigh hhalf

theorem percentRepair_onScale {fields : List (String × Json)} {name : String} {default : Float}
    {n : Number} (hdefault : 0.0 ≤ default ∧ default ≤ 100.0)
    (h : FieldRepair fields name (.float default) (ScaleRepair 0.0 100.0 default) n) :
    n.OnScale 0.0 100.0 := by
  have hlow : (Number.float 0.0).OnScale 0.0 100.0 := onScale_of_le (by decide +kernel)
  have hhigh : (Number.float 100.0).OnScale 0.0 100.0 := onScale_of_le (by decide +kernel)
  have hmissing := onScale_of_le hdefault
  exact h.holds (Number.OnScale 0.0 100.0) hmissing fun _ hv => hv.onScale hlow hhigh hmissing

theorem ConcernRepair.wellFormed {fields : List (String × Json)} {c : Concern Number}
    (h : ConcernRepair fields c) : c.WellFormed where
  category := h.category.holds (· ∈ concernTypes) (by decide) fun _ hv => hv.mem (by decide)
  severity := h.severity.holds (· ∈ severities) (by decide) fun _ hv => hv.mem (by decide)
  location := h.location.wellFormed
  confidence := unitRepair_onScale h.confidence

theorem AdviceRepair.wellFormed {fields : List (String × Json)} {a : Advice}
    (h : AdviceRepair fields a) : a.WellFormed :=
  h.priority.holds (· ∈ priorities) (by decide) fun _ hv => hv.mem (by decide)

theorem QualityRepair.wellFormed {fields : List (String × Json)} {q : Quality Number}
    (h : QualityRepair fields q) : q.WellFormed where
  codeQuality := percentRepair_onScale (by decide +kernel) h.codeQuality
  maintainability := percentRepair_onScale (by decide +kernel) h.maintainability
  testCoverage := percentRepair_onScale (by decide +kernel) h.testCoverage

/-- Each output of a list is one of its items' repairs. -/
theorem exists_of_mem_forall₂ {α β : Type} {R : α → β → Prop} {xs : List α} {ys : List β}
    (h : List.Forall₂ R xs ys) {y : β} (hy : y ∈ ys) : ∃ x ∈ xs, R x y := by
  induction h with
  | nil => cases hy
  | cons hfirst _ ih =>
      rcases List.mem_cons.mp hy with rfl | hrest
      · exact ⟨_, List.mem_cons_self, hfirst⟩
      · obtain ⟨x, hx, hR⟩ := ih hrest
        exact ⟨x, List.mem_cons_of_mem _ hx, hR⟩

theorem OpinionRepair.wellFormed {fields : List (String × Json)} {o : Opinion Number}
    (h : OpinionRepair fields o) : o.WellFormed where
  concerns c hc := by
    obtain ⟨item, -, hrepair⟩ := exists_of_mem_forall₂ h.concerns hc
    exact hrepair.wellFormed
  advice a ha := by
    obtain ⟨item, -, hrepair⟩ := exists_of_mem_forall₂ h.advice ha
    exact hrepair.wellFormed
  quality := h.quality.wellFormed
  confidence := unitRepair_onScale h.confidence

/-! ## Items apart -/

/-- The fields of an object; no other value has any. -/
def asObject? : Json → Option (List (String × Json))
  | .obj fields => some fields
  | _ => none

theorem objectsOf_arr (items : List Json) :
    objectsOf (.arr items) = items.filterMap asObject? := by
  unfold objectsOf
  congr 1

theorem filterMap_asObject? (before : List Json) (item : List (String × Json)) (after : List Json) :
    (before ++ .obj item :: after).filterMap asObject? =
      before.filterMap asObject? ++ item :: after.filterMap asObject? := by
  rw [List.filterMap_append]
  rfl

section Items

variable {β : Type} {R : List (String × Json) → β → Prop} {fields : List (String × Json)}
  {name : String} {outputs : List β}

/-- One output by `R` for each object in the list of that name, in the order of the list. Without a
list there is no output. -/
structure Elementwise (R : List (String × Json) → β → Prop) (fields : List (String × Json))
    (name : String) (outputs : List β) : Prop where
  listed : ∀ items, Json.lookup name fields = some (.arr items) →
    List.Forall₂ R (items.filterMap asObject?) outputs
  unlisted : (∀ items, Json.lookup name fields ≠ some (.arr items)) → outputs = []

theorem given_of_lookup {items : List Json} (h : Json.lookup name fields = some (.arr items)) :
    given fields name [] objectsOf = items.filterMap asObject? := by
  unfold given
  rw [h]
  exact objectsOf_arr items

theorem elementwise_of_forall₂ (h : List.Forall₂ R (given fields name [] objectsOf) outputs) :
    Elementwise R fields name outputs where
  listed items hitems := by rwa [given_of_lookup hitems] at h
  unlisted hnot := by
    have hnone : given fields name [] objectsOf = [] := by
      unfold given
      split
      next v hv =>
        unfold objectsOf
        split
        · exact absurd hv (hnot _)
        · rfl
      next => rfl
    rw [hnone] at h
    exact List.forall₂_nil_left_iff.mp h

/-- Two answers that differ in one object of the list of that name. -/
structure Exchange (name : String) (before : List Json) (item item' : List (String × Json))
    (after : List Json) (fields fields' : List (String × Json)) : Prop where
  old : Json.lookup name fields = some (.arr (before ++ .obj item :: after))
  new : Json.lookup name fields' = some (.arr (before ++ .obj item' :: after))
  others : ∀ other, other ≠ name → Json.lookup other fields' = Json.lookup other fields

/-- Exchanging one item of a list exchanges the one output in its place. -/
theorem forall₂_exchange {α : Type} {R : α → β → Prop} (hR : Relator.RightUnique R) {x : α} (x' : α)
    {xs ys : List α} {zs : List β} (h : List.Forall₂ R (xs ++ x :: ys) zs) :
    ∃ left z right, zs = left ++ z :: right ∧ left.length = xs.length ∧ R x z ∧
      ∀ zs', List.Forall₂ R (xs ++ x' :: ys) zs' ↔
        ∃ z', R x' z' ∧ zs' = left ++ z' :: right := by
  induction xs generalizing zs with
  | nil =>
      rcases h with _ | ⟨hx, hys⟩
      refine ⟨[], _, _, rfl, rfl, hx, fun zs' => ⟨?_, ?_⟩⟩
      · rintro (_ | ⟨hz', hys'⟩)
        exact ⟨_, hz', congrArg _ (List.right_unique_forall₂' hR hys' hys)⟩
      · rintro ⟨z', hz', rfl⟩
        exact .cons hz' hys
  | cons first rest ih =>
      rcases h with _ | ⟨hfirst, hrest⟩
      obtain ⟨left, z, right, rfl, hlength, hz, hiff⟩ := ih hrest
      refine ⟨_ :: left, z, right, rfl, congrArg Nat.succ hlength, hz, fun zs' => ⟨?_, ?_⟩⟩
      · rintro (_ | ⟨hfirst', hrest'⟩)
        obtain ⟨z', hz', rfl⟩ := (hiff _).mp hrest'
        exact ⟨z', hz', by rw [hR hfirst' hfirst]; rfl⟩
      · rintro ⟨z', hz', rfl⟩
        exact .cons hfirst ((hiff _).mpr ⟨z', hz', rfl⟩)

/-- Exchanging one object of the list of that name for another one exchanges the output in its place
for the repair of the other, and leaves all else of the opinion as it is. -/
def Local (R : List (String × Json) → β → Prop) (fields : List (String × Json)) (name : String)
    (outputs : List β) (model : String) (time : Number) (opinion : List β → Opinion Number) :
    Prop :=
  ∀ before item item' after fields', Exchange name before item item' after fields fields' →
    ∃ left output right, outputs = left ++ output :: right ∧
      left.length = (before.filterMap asObject?).length ∧ R item output ∧
      ∀ o, ofJson (.obj fields') model time = .ok o ↔
        ∃ output', R item' output' ∧ o = opinion (left ++ output' :: right)

theorem local_of_forall₂ {model : String} {time : Number} {opinion : List β → Opinion Number}
    (hR : Relator.RightUnique R)
    (h : List.Forall₂ R (given fields name [] objectsOf) outputs)
    (hwhole : ∀ fields', (∀ other, other ≠ name →
        Json.lookup other fields' = Json.lookup other fields) →
      ∀ o, ofFields fields' model time = .ok o ↔
        ∃ outputs', List.Forall₂ R (given fields' name [] objectsOf) outputs' ∧
          o = opinion outputs') :
    Local R fields name outputs model time opinion := by
  intro before item item' after fields' hexchange
  rw [given_of_lookup hexchange.old, filterMap_asObject?] at h
  obtain ⟨left, output, right, heq, hlength, hitem, hiff⟩ := forall₂_exchange hR item' h
  refine ⟨left, output, right, heq, hlength, hitem, fun o => ?_⟩
  have hnew := hwhole fields' hexchange.others o
  rw [given_of_lookup hexchange.new, filterMap_asObject?] at hnew
  refine hnew.trans ⟨?_, ?_⟩
  · rintro ⟨outputs', houtputs, rfl⟩
    obtain ⟨output', hitem', rfl⟩ := (hiff _).mp houtputs
    exact ⟨output', hitem', rfl⟩
  · rintro ⟨output', hitem', rfl⟩
    exact ⟨_, (hiff _).mpr ⟨output', hitem', rfl⟩, rfl⟩

end Items

section Opinions

variable {fields fields' : List (String × Json)} {model : String} {time : Number}
  {o : Opinion Number}

theorem concernRepair_rightUnique : Relator.RightUnique ConcernRepair := fun item c c' h h' =>
  Except.ok.inj (((concern_eq_ok_iff item c).mpr h).symm.trans ((concern_eq_ok_iff item c').mpr h'))

theorem adviceRepair_rightUnique : Relator.RightUnique AdviceRepair := fun item a a' h h' =>
  ((adviceRepair_iff item a).mp h).symm.trans ((adviceRepair_iff item a').mp h')

theorem given_congr {α : Type} {name : String} {default : α} {use : Json → α}
    (h : Json.lookup name fields' = Json.lookup name fields) :
    given fields' name default use = given fields name default use := by
  unfold given
  rw [h]

/-- Neither list has a say in the quality and the confidence. -/
theorem ratings_congr (hothers : ∀ other, other ≠ "vulnerabilities" → other ≠ "recommendations" →
    Json.lookup other fields' = Json.lookup other fields) :
    quality (qualityField fields') = quality (qualityField fields) ∧
      confidence fields' = confidence fields := by
  refine ⟨?_, given_congr (hothers "confidence" (by decide) (by decide))⟩
  unfold qualityField
  rw [given_congr (hothers "qualityMetrics" (by decide) (by decide)),
    given_congr (hothers "quality_metrics" (by decide) (by decide))]

/-- An opinion is put together from parts that have nothing to do with each other. -/
theorem ofFields_eq_ok_iff_parts (fields : List (String × Json)) (model : String) (time : Number)
    (o : Opinion Number) :
    ofFields fields model time = .ok o ↔
      ∃ concerns advice q n,
        List.Forall₂ ConcernRepair (given fields "vulnerabilities" [] objectsOf) concerns ∧
        List.Forall₂ AdviceRepair (given fields "recommendations" [] objectsOf) advice ∧
        quality (qualityField fields) = .ok q ∧ confidence fields = .ok n ∧
        o = ⟨model, concerns, advice, q, n, time⟩ := by
  rw [ofFields_eq_ok_iff]
  constructor
  · rintro ⟨h, rfl, rfl⟩
    exact ⟨o.concerns, o.advice, o.quality, o.confidence, h.concerns, h.advice,
      (quality_eq_ok_iff _ _).mpr h.quality, (confidence_eq_ok_iff _ _).mpr h.confidence, rfl⟩
  · rintro ⟨concerns, advice, q, n, hconcerns, hadvice, hq, hn, rfl⟩
    exact ⟨⟨hconcerns, hadvice, (quality_eq_ok_iff _ _).mp hq, (confidence_eq_ok_iff _ _).mp hn⟩,
      rfl, rfl⟩

theorem ofFields_eq_ok_iff_concerns (h : ofFields fields model time = .ok o)
    (hothers : ∀ other, other ≠ "vulnerabilities" →
      Json.lookup other fields' = Json.lookup other fields) (o' : Opinion Number) :
    ofFields fields' model time = .ok o' ↔
      ∃ concerns, List.Forall₂ ConcernRepair (given fields' "vulnerabilities" [] objectsOf)
        concerns ∧ o' = { o with concerns } := by
  obtain ⟨concerns, advice, q, n, -, hadvice, hq, hn, rfl⟩ :=
    (ofFields_eq_ok_iff_parts fields model time o).mp h
  obtain ⟨hquality, hconfidence⟩ := ratings_congr fun other hother _ => hothers other hother
  rw [ofFields_eq_ok_iff_parts, given_congr (hothers "recommendations" (by decide)), hquality,
    hconfidence]
  constructor
  · rintro ⟨concerns', advice', q', n', hconcerns', hadvice', hq', hn', rfl⟩
    obtain rfl := List.right_unique_forall₂' adviceRepair_rightUnique hadvice' hadvice
    cases hq.symm.trans hq'
    cases hn.symm.trans hn'
    exact ⟨concerns', hconcerns', rfl⟩
  · rintro ⟨concerns', hconcerns', rfl⟩
    exact ⟨concerns', advice, q, n, hconcerns', hadvice, hq, hn, rfl⟩

theorem ofFields_eq_ok_iff_advice (h : ofFields fields model time = .ok o)
    (hothers : ∀ other, other ≠ "recommendations" →
      Json.lookup other fields' = Json.lookup other fields) (o' : Opinion Number) :
    ofFields fields' model time = .ok o' ↔
      ∃ advice, List.Forall₂ AdviceRepair (given fields' "recommendations" [] objectsOf)
        advice ∧ o' = { o with advice } := by
  obtain ⟨concerns, advice, q, n, hconcerns, -, hq, hn, rfl⟩ :=
    (ofFields_eq_ok_iff_parts fields model time o).mp h
  obtain ⟨hquality, hconfidence⟩ := ratings_congr fun other _ hother => hothers other hother
  rw [ofFields_eq_ok_iff_parts, given_congr (hothers "vulnerabilities" (by decide)), hquality,
    hconfidence]
  constructor
  · rintro ⟨concerns', advice', q', n', hconcerns', hadvice', hq', hn', rfl⟩
    obtain rfl := List.right_unique_forall₂' concernRepair_rightUnique hconcerns' hconcerns
    cases hq.symm.trans hq'
    cases hn.symm.trans hn'
    exact ⟨advice', hadvice', rfl⟩
  · rintro ⟨advice', hadvice', rfl⟩
    exact ⟨concerns, advice', q, n, hconcerns, hadvice', hq, hn, rfl⟩

/-- What can be relied on in the opinion that an object states. -/
structure Reliable (fields : List (String × Json)) (model : String) (time : Number)
    (o : Opinion Number) : Prop where
  wellFormed : o.WellFormed
  concerns : Elementwise ConcernRepair fields "vulnerabilities" o.concerns
  advice : Elementwise AdviceRepair fields "recommendations" o.advice
  concernsApart : Local ConcernRepair fields "vulnerabilities" o.concerns model time
    fun concerns => { o with concerns }
  adviceApart : Local AdviceRepair fields "recommendations" o.advice model time
    fun advice => { o with advice }

/-- Where an object states an opinion, the opinion is well-formed, and each object in its lists is
repaired in its place and by itself. -/
theorem reliable_of_ofJson (h : ofJson (.obj fields) model time = .ok o) :
    Reliable fields model time o := by
  have hrepair := ((ofFields_eq_ok_iff fields model time o).mp h).1
  exact {
    wellFormed := hrepair.wellFormed
    concerns := elementwise_of_forall₂ hrepair.concerns
    advice := elementwise_of_forall₂ hrepair.advice
    concernsApart := local_of_forall₂ concernRepair_rightUnique hrepair.concerns fun _ hothers =>
      ofFields_eq_ok_iff_concerns h hothers
    adviceApart := local_of_forall₂ adviceRepair_rightUnique hrepair.advice fun _ hothers =>
      ofFields_eq_ok_iff_advice h hothers }

end Opinions

/-- An answer with one object among its concerns, no list of advice, and a confidence that is no
number. -/
def junk (item : List (String × Json)) : List (String × Json) :=
  [("vulnerabilities", .arr [.str "none", .obj item, .null]), ("recommendations", .num 3),
    ("confidence", .str "nan")]

/-- What is made of that answer with some concern. -/
def junkOpinion (c : Concern Number) : Opinion Number :=
  { model := "m", concerns := [c], advice := []
    quality := ⟨.float 50.0, .float 50.0, .float 0.0⟩
    confidence := .float 0.5, executionTime := 0 }

/-- A concern whose confidence was beyond the scale. -/
def sureConcern : Concern Number :=
  { category := "reentrancy", severity := "low", description := ""
    location := { file := "contract.sol" }, confidence := .float 1.0 }

/-- The one object among the concerns is repaired. Another one in its place would be repaired too,
and the rest of the opinion would stay as it is. -/
theorem reliable_junk :
    ofJson (.obj (junk [("type", .str " Reentrancy"), ("confidence", .num 7)])) "m" 0 =
      .ok (junkOpinion sureConcern) ∧
    sureConcern.WellFormed ∧
    ∀ o, ofJson (.obj (junk [("location", .obj [("line", .num (.int (-4)))])])) "m" 0 = .ok o ↔
      ∃ c, ConcernRepair [("location", .obj [("line", .num (.int (-4)))])] c ∧
        o = junkOpinion c := by
  have hstated :
      ofJson (.obj (junk [("type", .str " Reentrancy"), ("confidence", .num 7)])) "m" 0 =
        .ok (junkOpinion sureConcern) := by rfl
  have hreliable := reliable_of_ofJson hstated
  refine ⟨hstated, hreliable.wellFormed.concerns _ (List.mem_singleton_self _), ?_⟩
  obtain ⟨left, c, right, heq, hlength, -, hiff⟩ := hreliable.concernsApart [.str "none"] _
    [("location", .obj [("line", .num (.int (-4)))])] [.null] (junk _)
    ⟨rfl, rfl, fun other hother => by
      simp only [junk, Json.lookup, List.lookup_cons, beq_false_of_ne hother]⟩
  obtain rfl := List.length_eq_zero_iff.mp hlength
  obtain ⟨rfl, rfl⟩ := List.cons.inj heq
  exact hiff

end Repair

end ContractReview
