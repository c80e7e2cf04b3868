import ContractReview.Opinion.Repair
import ContractReview.Proofs.Number.Order
import ContractReview.Proofs.Number.Whole
import ContractReview.Proofs.Outcome

/-!
What becomes of the object that a model answers with. Each field of the opinion is told from the
field of the object alone: it is kept when it can be used, and else it is a default or a bound. One
kind of value stands in the way of that: a rating that is a whole number beyond all doubles.
-/

namespace ContractReview.Repair

open Outcome

/-- A whole number that no double is near to. -/
def Overlarge : Json → Prop
  | .num (.int i) => Double.limit ≤ i.natAbs
  | _ => False

instance : DecidablePred Overlarge
  | .num (.int i) => inferInstanceAs (Decidable (Double.limit ≤ i.natAbs))
  | .num (.float _) | .null | .bool _ | .str _ | .arr _ | .obj _ => .isFalse id

theorem double_eq_tooLarge_iff (v : Json) : v.double = .error .tooLarge ↔ Overlarge v := by
  cases v with
  | num n =>
      cases n with
      | int i =>
          have h := Double.ofInt?_eq_none_iff i
          cases hi : Double.ofInt? i with
          | none => simpa [Overlarge, Json.double, Number.toFloat?, hi] using h.mp hi
          | some x => simpa [Overlarge, Json.double, Number.toFloat?, hi] using h
      | float x => simp [Overlarge, Json.double, Number.toFloat?]
  | str s => cases h : Numeral.double? s <;> simp [Overlarge, Json.double, h]
  | null | bool b | arr items | obj fields => simp [Overlarge, Json.double]

/-! ## What the repair is -/

/-- A field comes to `default` when it is missing, and else to what its value comes to by `R`. -/
inductive FieldRepair {α : Type} (fields : List (String × Json)) (name : String) (default : α)
    (R : Json → α → Prop) : α → Prop
  | missing : Json.lookup name fields = none → FieldRepair fields name default R default
  | present {v : Json} {a : α} : Json.lookup name fields = some v → R v a →
      FieldRepair fields name default R a

inductive TextRepair : Json → String → Prop
  | null : TextRepair .null ""
  | told {v : Json} : v ≠ .null → TextRepair v v.shown

/-- The name of a file is never empty. -/
inductive FileRepair : Json → String → Prop
  | null : FileRepair .null "contract.sol"
  | empty : FileRepair (.str "") "contract.sol"
  | told {v : Json} : v ≠ .null → v ≠ .str "" → FileRepair v v.shown

/-- A word of a closed vocabulary. -/
inductive WordRepair (vocabulary : List String) (default : String) : Json → String → Prop
  | known {v : Json} : v ≠ .null → Severity.folded v.shown ∈ vocabulary →
      WordRepair vocabulary default v (Severity.folded v.shown)
  | unknown {v : Json} : v = .null ∨ Severity.folded v.shown ∉ vocabulary →
      WordRepair vocabulary default v default

/-- A whole number that is at least `least`, from a value that reads as a finite double. -/
inductive WholeRepair {α : Type} (least : Int) (default : α) (use : Int → α) : Json → α → Prop
  | usable {v : Json} {x : Float} {i : Int} : v.double = .ok x → Double.trunc? x = some i →
      least ≤ i → WholeRepair least default use v (use i)
  | below {v : Json} {x : Float} {i : Int} : v.double = .ok x → Double.trunc? x = some i →
      i < least → WholeRepair least default use v default
  | unusable {v : Json} : (∀ x, v.double = .ok x → Double.trunc? x = none) →
      WholeRepair least default use v default

/-- A rating on the scale from `low` to `high`. A whole number beyond all doubles comes to
nothing. -/
inductive ScaleRepair (low high default : Float) : Json → Number → Prop
  | inside {v : Json} {x : Float} : v.double = .ok x → low < x → x < high →
      ScaleRepair low high default v (.float x)
  | below {v : Json} {x : Float} : v.double = .ok x → x ≤ low →
      ScaleRepair low high default v (.float low)
  | above {v : Json} {x : Float} : v.double = .ok x → high ≤ x →
      ScaleRepair low high default v (.float high)
  | notANumber {v : Json} {x : Float} : v.double = .ok x → x.isNaN = true →
      ScaleRepair low high default v (.float default)
  | unusable {v : Json} : v.double = .error .otherwise →
      ScaleRepair low high default v (.float default)

structure LocationRepair (fields : List (String × Json)) (l : Location) : Prop where
  file : FieldRepair fields "file" "contract.sol" FileRepair l.file
  line : FieldRepair fields "line" 1 (WholeRepair 1 1 id) l.line
  column : FieldRepair fields "column" 1 (WholeRepair 1 1 id) l.column
  length : FieldRepair fields "length" .null (WholeRepair 0 .null fun i => .num (.int i)) l.length

structure ConcernRepair (fields : List (String × Json)) (c : Concern Number) : Prop where
  category : FieldRepair fields "type" "best_practice" (WordRepair concernTypes "best_practice")
    c.category
  severity : FieldRepair fields "severity" "low" (WordRepair severities "low") c.severity
  description : FieldRepair fields "description" "" TextRepair c.description
  location : LocationRepair (given fields "location" [] objectFields) c.location
  confidence : FieldRepair fields "confidence" (.float 0.5) (ScaleRepair 0.0 1.0 0.5) c.confidence

structure AdviceRepair (fields : List (String × Json)) (a : Advice) : Prop where
  category : FieldRepair fields "category" "General" TextRepair a.category
  priority : FieldRepair fields "priority" "medium" (WordRepair priorities "medium") a.priority
  description : FieldRepair fields "description" "" TextRepair a.description
  guide : FieldRepair fields "implementation_guide" "" TextRepair a.guide

structure QualityRepair (fields : List (String × Json)) (q : Quality Number) : Prop where
  codeQuality : FieldRepair fields "code_quality_score" (.float 50.0)
    (ScaleRepair 0.0 100.0 50.0) q.codeQuality
  maintainability : FieldRepair fields "maintainability_index" (.float 50.0)
    (ScaleRepair 0.0 100.0 50.0) q.maintainability
  testCoverage : FieldRepair fields "test_coverage_estimate" (.float 0.0)
    (ScaleRepair 0.0 100.0 0.0) q.testCoverage

/-- The repair of an object: that of each of its fields, and of each object in its lists. -/
structure OpinionRepair (fields : List (String × Json)) (o : Opinion Number) : Prop where
  concerns : List.Forall₂ ConcernRepair (given fields "vulnerabilities" [] objectsOf) o.concerns
  advice : List.Forall₂ AdviceRepair (given fields "recommendations" [] objectsOf) o.advice
  quality : QualityRepair (qualityField fields) o.quality
  confidence : FieldRepair fields "confidence" (.float 0.5) (ScaleRepair 0.0 1.0 0.5) o.confidence

/-! ## Single fields -/

theorem fieldRepair_iff {α : Type} {R : Json → α → Prop} (fields : List (String × Json))
    (name : String) (default a : α) :
    FieldRepair fields name default R a ↔ given fields name (default = a) (R · a) := by
  unfold given
  constructor
  · rintro (h | ⟨h, ha⟩)
    · simp only [h]
    · simp only [h]
      exact ha
  · intro ha
    split at ha
    next v h => exact .present h ha
    next h =>
      subst ha
      exact .missing h

theorem given_eq_iff {α : Type} {R : Json → α → Prop} {use : Json → α}
    (hR : ∀ v a, R v a ↔ use v = a) (fields : List (String × Json)) (name : String)
    (default a : α) :
    given fields name default use = a ↔ FieldRepair fields name default R a := by
  rw [fieldRepair_iff]
  unfold given
  split
  · exact (hR _ a).symm
  · exact Iff.rfl

theorem textRepair_iff (v : Json) (s : String) : TextRepair v s ↔ words v = s := by
  unfold words
  constructor
  · rintro (_ | hv)
    · rfl
    · split
      · exact absurd rfl hv
      · rfl
  · rintro rfl
    split
    · exact .null
    · next hv => exact .told hv

theorem fileRepair_iff (v : Json) (s : String) : FileRepair v s ↔ file v = s := by
  unfold file
  constructor
  · rintro (_ | _ | ⟨hv, hempty⟩)
    · rfl
    · rfl
    · split
      · exact absurd rfl hv
      · exact absurd rfl hempty
      · rfl
  · rintro rfl
    split
    · exact .null
    · exact .empty
    · next hv hempty => exact .told hv hempty

theorem wordRepair_iff (vocabulary : List String) (default : String) (v : Json) (s : String) :
    WordRepair vocabulary default v s ↔ oneOf vocabulary default v = s := by
  unfold oneOf
  constructor
  · rintro (⟨hv, hmem⟩ | hv)
    · split
      · exact absurd rfl hv
      · exact if_pos hmem
    · split
      · rfl
      · next hnull => exact if_neg (hv.resolve_left hnull)
  · rintro rfl
    split
    · exact .unknown (.inl rfl)
    · next hnull =>
        by_cases hmem : Severity.folded v.shown ∈ vocabulary
        · simp only [hmem, ↓reduceIte]
          exact .known hnull hmem
        · simp only [hmem, ↓reduceIte]
          exact .unknown (.inr hmem)

/-- A whole number in place of a value, or `default` where none can be used. -/
def wholeFrom {α : Type} (least : Int) (default : α) (use : Int → α) (v : Json) : α :=
  match whole? v with
  | some i => if least ≤ i then use i else default
  | none => default

theorem whole?_eq_some_iff (v : Json) (i : Int) :
    whole? v = some i ↔ ∃ x, v.double = .ok x ∧ Double.trunc? x = some i := by
  unfold whole?
  cases v.double <;> simp [Except.toOption]

theorem whole?_eq_none_iff (v : Json) :
    whole? v = none ↔ ∀ x, v.double = .ok x → Double.trunc? x = none := by
  unfold whole?
  cases v.double <;> simp [Except.toOption]

theorem wholeRepair_iff {α : Type} (least : Int) (default : α) (use : Int → α) (v : Json) (a : α) :
    WholeRepair least default use v a ↔ wholeFrom least default use v = a := by
  unfold wholeFrom
  constructor
  · rintro (⟨hx, hi, hle⟩ | ⟨hx, hi, hlt⟩ | h)
    · rw [(whole?_eq_some_iff v _).mpr ⟨_, hx, hi⟩]
      exact if_pos hle
    · rw [(whole?_eq_some_iff v _).mpr ⟨_, hx, hi⟩]
      exact if_neg (Int.not_le.mpr hlt)
    · rw [(whole?_eq_none_iff v).mpr h]
  · rintro rfl
    cases h : whole? v with
    | none => exact .unusable ((whole?_eq_none_iff v).mp h)
    | some i =>
        obtain ⟨x, hx, hi⟩ := (whole?_eq_some_iff v i).mp h
        by_cases hle : least ≤ i
        · simp only [hle, ↓reduceIte]
          exact .usable hx hi hle
        · simp only [hle, ↓reduceIte]
          exact .below hx hi (Int.not_le.mp hle)

section Scale

variable {low high : Float}

theorem clamp_of_le (hlow : low < high) {x : Float} (h : x ≤ low) : clamp low high x = low := by
  have hx : x < high := Double.lt_of_le_of_lt h hlow
  simp only [clamp, hx, Double.not_lt_of_le h, ↓reduceIte]

theorem clamp_of_ge (hlow : low < high) {x : Float} (h : high ≤ x) : clamp low high x = high := by
  simp only [clamp, Double.not_lt_of_le h, hlow, ↓reduceIte]

theorem clamp_of_inside {x : Float} (hl : low < x) (hh : x < high) : clamp low high x = x := by
  simp only [clamp, hh, hl, ↓reduceIte]

theorem scaleRepair_iff (hlow : low < high) (default : Float) (v : Json) (n : Number) :
    ScaleRepair low high default v n ↔ within low high default v = .ok n := by
  unfold within
  constructor
  · rintro (⟨hx, hl, hh⟩ | ⟨hx, hle⟩ | ⟨hx, hge⟩ | ⟨hx, hnan⟩ | h)
    · simp only [hx, (Double.isNaN_eq_false_of_lt hl).2, clamp_of_inside hl hh,
        Bool.false_eq_true, ↓reduceIte]
    · simp only [hx, (Double.isNaN_eq_false_of_le hle).1, clamp_of_le hlow hle,
        Bool.false_eq_true, ↓reduceIte]
    · simp only [hx, (Double.isNaN_eq_false_of_le hge).2, clamp_of_ge hlow hge,
        Bool.false_eq_true, ↓reduceIte]
    · simp only [hx, hnan, ↓reduceIte]
    · simp only [h]
  · intro h
    split at h
    next x hx =>
      cases h
      by_cases hnan : x.isNaN = true
      · rw [if_pos hnan]
        exact .notANumber hx hnan
      rw [if_neg hnan]
      have hnan : x.isNaN = false := eq_false_of_ne_true hnan
      by_cases hh : x < high
      · by_cases hl : low < x
        · rw [clamp_of_inside hl hh]
          exact .inside hx hl hh
        · have hle := Double.le_of_not_lt (Double.isNaN_eq_false_of_lt hlow).1 hnan hl
          rw [clamp_of_le hlow hle]
          exact .below hx hle
      · have hge := Double.le_of_not_lt hnan (Double.isNaN_eq_false_of_lt hlow).2 hh
        rw [clamp_of_ge hlow hge]
        exact .above hx hge
    next hv =>
      cases h
      exact .unusable hv
    next => cases h

theorem exists_within_iff (low high default : Float) (v : Json) :
    (∃ n, within low high default v = .ok n) ↔ ¬ Overlarge v := by
  rw [← double_eq_tooLarge_iff]
  unfold within
  split <;> simp_all

theorem given_within_eq_ok_iff (hlow : low < high) (fields : List (String × Json)) (name : String)
    (missing default : Float) (n : Number) :
    given fields name (.ok (.float missing)) (within low high default) = .ok n ↔
      FieldRepair fields name (.float missing) (ScaleRepair low high default) n := by
  rw [fieldRepair_iff]
  unfold given
  split
  · exact (scaleRepair_iff hlow default _ n).symm
  · exact Iff.of_eq (Except.ok.injEq _ _)

theorem exists_given_within_iff (fields : List (String × Json)) (name : String)
    (missing default : Float) :
    (∃ n, given fields name (.ok (.float missing)) (within low high default) = .ok n) ↔
      ∀ v, Json.lookup name fields = some v → ¬ Overlarge v := by
  unfold given
  split
  next v h =>
    rw [exists_within_iff, h]
    constructor
    · rintro hv _ ⟨⟩
      exact hv
    · intro hv
      exact hv v rfl
  next h =>
    constructor
    · intro _ v hv
      cases h.symm.trans hv
    · intro _
      exact ⟨_, rfl⟩

theorem failsOnlyWith_given_within (fields : List (String × Json)) (name : String)
    (missing default : Float) :
    FailsOnlyWith .wholeTooLarge
      (given fields name (.ok (.float missing)) (within low high default)) := by
  unfold given
  split
  · unfold within
    split
    · exact .ok _
    · exact .ok _
    · exact .error
  · exact .ok _

end Scale

theorem unit_scale : (0.0 : Float) < 1.0 := by decide +kernel

theorem percent_scale : (0.0 : Float) < 100.0 := by decide +kernel

/-! ## Whole objects -/

theorem locationRepair_iff (fields : List (String × Json)) (l : Location) :
    LocationRepair fields l ↔ location fields = l := by
  have place_iff := wholeRepair_iff 1 1 id
  have length_iff := wholeRepair_iff 0 Json.null fun i => .num (.int i)
  constructor
  · intro h
    have hfile := (given_eq_iff fileRepair_iff fields _ _ _).mpr h.file
    have hline := (given_eq_iff place_iff fields _ _ _).mpr h.line
    have hcolumn := (given_eq_iff place_iff fields _ _ _).mpr h.column
    have hlength := (given_eq_iff length_iff fields _ _ _).mpr h.length
    cases l
    subst hfile hline hcolumn hlength
    rfl
  · rintro rfl
    exact {
      file := (given_eq_iff fileRepair_iff fields _ _ _).mp rfl
      line := (given_eq_iff place_iff fields _ _ _).mp rfl
      column := (given_eq_iff place_iff fields _ _ _).mp rfl
      length := (given_eq_iff length_iff fields _ _ _).mp rfl }

theorem confidence_eq_ok_iff (fields : List (String × Json)) (n : Number) :
    confidence fields = .ok n ↔
      FieldRepair fields "confidence" (.float 0.5) (ScaleRepair 0.0 1.0 0.5) n :=
  given_within_eq_ok_iff unit_scale fields _ _ _ n

theorem concern_eq_ok_iff (fields : List (String × Json)) (c : Concern Number) :
    concern fields = .ok c ↔ ConcernRepair fields c := by
  have type_iff := wordRepair_iff concernTypes "best_practice"
  have severity_iff := wordRepair_iff severities "low"
  unfold concern
  rw [bind_eq_ok_iff]
  constructor
  · rintro ⟨n, hn, h⟩
    cases pure_eq_ok_iff.mp h
    exact {
      category := (given_eq_iff type_iff fields _ _ _).mp rfl
      severity := (given_eq_iff severity_iff fields _ _ _).mp rfl
      description := (given_eq_iff textRepair_iff fields _ _ _).mp rfl
      location := (locationRepair_iff _ _).mpr rfl
      confidence := (confidence_eq_ok_iff fields n).mp hn }
  · intro h
    have hcategory := (given_eq_iff type_iff fields _ _ _).mpr h.category
    have hseverity := (given_eq_iff severity_iff fields _ _ _).mpr h.severity
    have hdescription := (given_eq_iff textRepair_iff fields _ _ _).mpr h.description
    have hlocation := (locationRepair_iff _ _).mp h.location
    refine ⟨c.confidence, (confidence_eq_ok_iff fields _).mpr h.confidence, pure_eq_ok_iff.mpr ?_⟩
    rw [hcategory, hseverity, hdescription, hlocation]

theorem adviceRepair_iff (fields : List (String × Json)) (a : Advice) :
    AdviceRepair fields a ↔ advice fields = a := by
  have priority_iff := wordRepair_iff priorities "medium"
  constructor
  · intro h
    have hcategory := (given_eq_iff textRepair_iff fields _ _ _).mpr h.category
    have hpriority := (given_eq_iff priority_iff fields _ _ _).mpr h.priority
    have hdescription := (given_eq_iff textRepair_iff fields _ _ _).mpr h.description
    have hguide := (given_eq_iff textRepair_iff fields _ _ _).mpr h.guide
    unfold advice
    rw [hcategory, hpriority, hdescription, hguide]
  · rintro rfl
    exact {
      category := (given_eq_iff textRepair_iff fields _ _ _).mp rfl
      priority := (given_eq_iff priority_iff fields _ _ _).mp rfl
      description := (given_eq_iff textRepair_iff fields _ _ _).mp rfl
      guide := (given_eq_iff textRepair_iff fields _ _ _).mp rfl }

theorem quality_eq_ok_iff (fields : List (String × Json)) (q : Quality Number) :
    quality fields = .ok q ↔ QualityRepair fields q := by
  have scale_iff := given_within_eq_ok_iff percent_scale fields
  unfold quality
  simp only [bind_eq_ok_iff]
  constructor
  · rintro ⟨a, ha, b, hb, c, hc, h⟩
    cases pure_eq_ok_iff.mp h
    exact ⟨(scale_iff _ _ _ a).mp ha, (scale_iff _ _ _ b).mp hb, (scale_iff _ _ _ c).mp hc⟩
  · rintro ⟨ha, hb, hc⟩
    exact ⟨q.codeQuality, (scale_iff _ _ _ _).mpr ha, q.maintainability,
      (scale_iff _ _ _ _).mpr hb, q.testCoverage, (scale_iff _ _ _ _).mpr hc, rfl⟩

/-- An object states an opinion exactly when the opinion is its repair. -/
theorem ofFields_eq_ok_iff (fields : List (String × Json)) (model : String) (time : Number)
    (o : Opinion Number) :
    ofFields fields model time = .ok o ↔
      OpinionRepair fields o ∧ o.model = model ∧ o.executionTime = time := by
  unfold ofFields
  simp only [bind_eq_ok_iff, mapM_eq_ok_iff, quality_eq_ok_iff, confidence_eq_ok_iff,
    concern_eq_ok_iff]
  constructor
  · rintro ⟨cs, hcs, q, hq, n, hn, h⟩
    cases pure_eq_ok_iff.mp h
    refine ⟨⟨hcs, ?_, hq, hn⟩, rfl, rfl⟩
    rw [List.forall₂_map_right_iff]
    exact List.forall₂_same.mpr fun a _ => (adviceRepair_iff a _).mpr rfl
  · rintro ⟨⟨hcs, hadvice, hq, hn⟩, rfl, rfl⟩
    refine ⟨o.concerns, hcs, o.quality, hq, o.confidence, hn, pure_eq_ok_iff.mpr ?_⟩
    have hmap : (given fields "recommendations" [] objectsOf).map advice = o.advice := by
      rw [← List.forall₂_eq_eq_eq, List.forall₂_map_left_iff]
      exact hadvice.imp fun a b h => (adviceRepair_iff a b).mp h
    rw [hmap]

/-! ## Objects that have no repair -/

/-- The values that an object gives where a rating is asked for: its own confidence, the estimates
of quality, and the confidence of each concern. -/
inductive Rating (fields : List (String × Json)) : Json → Prop
  | confidence {v : Json} : Json.lookup "confidence" fields = some v → Rating fields v
  | quality {name : String} {v : Json} :
      name ∈ ["code_quality_score", "maintainability_index", "test_coverage_estimate"] →
      Json.lookup name (qualityField fields) = some v → Rating fields v
  | concern {c : List (String × Json)} {v : Json} :
      c ∈ given fields "vulnerabilities" [] objectsOf → Json.lookup "confidence" c = some v →
      Rating fields v

theorem exists_concern_iff (fields : List (String × Json)) :
    (∃ c, concern fields = .ok c) ↔
      ∀ v, Json.lookup "confidence" fields = some v → ¬ Overlarge v := by
  rw [← exists_given_within_iff fields "confidence" 0.5 0.5]
  unfold concern
  simp only [bind_eq_ok_iff]
  constructor
  · rintro ⟨_, n, hn, -⟩
    exact ⟨n, hn⟩
  · rintro ⟨n, hn⟩
    exact ⟨_, n, hn, rfl⟩

theorem exists_quality_iff (fields : List (String × Json)) :
    (∃ q, quality fields = .ok q) ↔
      ∀ name ∈ ["code_quality_score", "maintainability_index", "test_coverage_estimate"],
        ∀ v, Json.lookup name fields = some v → ¬ Overlarge v := by
  have scale_iff := @exists_given_within_iff 0.0 100.0 fields
  unfold quality
  simp only [bind_eq_ok_iff]
  constructor
  · rintro ⟨_, a, ha, b, hb, c, hc, -⟩ name hname
    simp only [List.mem_cons, List.not_mem_nil, or_false] at hname
    obtain rfl | rfl | rfl := hname
    · exact (scale_iff _ _ _).mp ⟨a, ha⟩
    · exact (scale_iff _ _ _).mp ⟨b, hb⟩
    · exact (scale_iff _ _ _).mp ⟨c, hc⟩
  · intro h
    obtain ⟨a, ha⟩ := (scale_iff "code_quality_score" 50.0 50.0).mpr (h _ (by simp))
    obtain ⟨b, hb⟩ := (scale_iff "maintainability_index" 50.0 50.0).mpr (h _ (by simp))
    obtain ⟨c, hc⟩ := (scale_iff "test_coverage_estimate" 0.0 0.0).mpr (h _ (by simp))
    exact ⟨_, a, ha, b, hb, c, hc, rfl⟩

theorem exists_ofFields_iff (fields : List (String × Json)) (model : String) (time : Number) :
    (∃ o, ofFields fields model time = .ok o) ↔ ∀ v, Rating fields v → ¬ Overlarge v := by
  have hsplit : (∃ o, ofFields fields model time = .ok o) ↔
      (∃ cs, (given fields "vulnerabilities" [] objectsOf).mapM concern = .ok cs) ∧
        (∃ q, quality (qualityField fields) = .ok q) ∧ ∃ n, confidence fields = .ok n := by
    unfold ofFields
    simp only [bind_eq_ok_iff]
    constructor
    · rintro ⟨_, cs, hcs, q, hq, n, hn, -⟩
      exact ⟨⟨cs, hcs⟩, ⟨q, hq⟩, ⟨n, hn⟩⟩
    · rintro ⟨⟨cs, hcs⟩, ⟨q, hq⟩, ⟨n, hn⟩⟩
      exact ⟨_, cs, hcs, q, hq, n, hn, rfl⟩
  rw [hsplit, exists_mapM_eq_ok_iff, exists_quality_iff]
  simp only [exists_concern_iff]
  unfold confidence
  rw [exists_given_within_iff]
  constructor
  · rintro ⟨hconcerns, hquality, hconfidence⟩ v (hv | ⟨hname, hv⟩ | ⟨hc, hv⟩)
    · exact hconfidence v hv
    · exact hquality _ hname v hv
    · exact hconcerns _ hc v hv
  · intro h
    exact ⟨fun c hc v hv => h v (.concern hc hv), fun name hname v hv => h v (.quality hname hv),
      fun v hv => h v (.confidence hv)⟩

theorem failsOnlyWith_ofFields (fields : List (String × Json)) (model : String) (time : Number) :
    FailsOnlyWith .wholeTooLarge (ofFields fields model time) := by
  have hconfidence (fields : List (String × Json)) :
      FailsOnlyWith .wholeTooLarge (confidence fields) :=
    failsOnlyWith_given_within fields "confidence" 0.5 0.5
  have hconcern (fields : List (String × Json)) : FailsOnlyWith .wholeTooLarge (concern fields) :=
    (hconfidence fields).bind fun n => .ok _
  have hquality (fields : List (String × Json)) : FailsOnlyWith .wholeTooLarge (quality fields) :=
    (failsOnlyWith_given_within fields _ _ _).bind fun a =>
      (failsOnlyWith_given_within fields _ _ _).bind fun b =>
        (failsOnlyWith_given_within fields _ _ _).bind fun c => .ok _
  exact (FailsOnlyWith.mapM hconcern _).bind fun cs =>
    (hquality _).bind fun q => (hconfidence fields).bind fun n => .ok _

/-- An answer whose object gives a whole number beyond all doubles for a rating. -/
def Overstated (answer : String) : Prop :=
  ∃ fields v, Extract.fields? answer = some fields ∧ Rating fields v ∧ Overlarge v

theorem ofFields_eq_error_iff (fields : List (String × Json)) (model : String) (time : Number)
    (fault : Fault) :
    ofFields fields model time = .error fault ↔
      fault = .wholeTooLarge ∧ ∃ v, Rating fields v ∧ Overlarge v := by
  have hok := exists_ofFields_iff fields model time
  have honly := failsOnlyWith_ofFields fields model time
  constructor
  · intro h
    refine ⟨honly fault h, ?_⟩
    by_contra hnone
    obtain ⟨o, ho⟩ := hok.mpr fun v hv hlarge => hnone ⟨v, hv, hlarge⟩
    cases h.symm.trans ho
  · rintro ⟨rfl, v, hv, hlarge⟩
    cases h : ofFields fields model time with
    | ok o => exact absurd hlarge (hok.mp ⟨o, h⟩ v hv)
    | error fault => rw [honly fault h]

theorem ofAnswer_eq_error_iff (answer model : String) (time : Number) (fault : Fault) :
    ofAnswer answer model time = .error fault ↔ fault = .wholeTooLarge ∧ Overstated answer := by
  unfold ofAnswer Overstated
  cases Extract.fields? answer with
  | none => simp
  | some fields => simpa using ofFields_eq_error_iff fields model time fault

theorem ofAnswer_eq_ok_iff (answer model : String) (time : Number) (o : Opinion Number) :
    ofAnswer answer model time = .ok o ↔
      (Extract.fields? answer = none ∧ o = Opinion.unreadable model time) ∨
      ∃ fields, Extract.fields? answer = some fields ∧ OpinionRepair fields o ∧
        o.model = model ∧ o.executionTime = time := by
  unfold ofAnswer
  cases Extract.fields? answer with
  | none => simp [eq_comm]
  | some fields => simpa using ofFields_eq_ok_iff fields model time o

instance (answer : String) : Decidable (Overstated answer) :=
  match h : ofAnswer answer "" 0 with
  | .ok _ => .isFalse fun hover =>
      nomatch h.symm.trans ((ofAnswer_eq_error_iff answer "" 0 _).mpr ⟨rfl, hover⟩)
  | .error fault => .isTrue ((ofAnswer_eq_error_iff answer "" 0 fault).mp h).2

end ContractReview.Repair
