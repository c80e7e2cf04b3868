import ContractReview.Proofs.Number.Exact
import ContractReview.Proofs.Opinion.WellFormed
import ContractReview.Record.Opinion

/-!
Repaired opinions are left alone. Each default and each bound is repaired to itself, so an opinion
that is written as an object again is what its own object states.
-/

namespace ContractReview

def Location.answered (l : Location) : List (String × Json) :=
  [("file", .str l.file), ("line", .num (.int l.line)), ("column", .num (.int l.column)),
    ("length", l.length)]

/-- The object that a model would have answered with. -/
def Opinion.answered (o : Opinion Number) : List (String × Json) :=
  [("vulnerabilities", .arr (o.concerns.map Concern.toJson)),
   ("recommendations", .arr (o.advice.map Advice.toJson)), ("qualityMetrics", o.quality.toJson),
   ("confidence", .num o.confidence)]

namespace Repair

/-! ## Single fields -/

section Field

variable {α : Type} {fields fields' : List (String × Json)} {name : String} {default a : α}
  {R : Json → α → Prop}

/-- A field that comes to `a` is settled when writing `a` there brings it to `a` again. -/
theorem FieldRepair.settled (h : FieldRepair fields name default R a) (written : α → Json)
    (hlookup : Json.lookup name fields' = some (written a)) (hdefault : R (written default) default)
    (hR : ∀ v, R v a → R (written a) a) : FieldRepair fields' name default R a :=
  .present hlookup (h.holds (fun a => R (written a) a) hdefault hR)

end Field

theorem textRepair_str (s : String) : TextRepair (.str s) s := .told Json.noConfusion

theorem FileRepair.settled {v : Json} {s : String} (h : FileRepair v s) : FileRepair (.str s) s :=
  .told Json.noConfusion fun heq => h.ne_empty (Json.str.inj heq)

/-- A word that is folded already stands for itself. -/
theorem wordRepair_str {vocabulary : List String} {default s : String} (hs : s ∈ vocabulary)
    (hfolded : Severity.folded s = s) : WordRepair vocabulary default (.str s) s := by
  have hknown : WordRepair vocabulary default (.str s) (Severity.folded s) :=
    .known Json.noConfusion (by rwa [← hfolded] at hs)
  rwa [hfolded] at hknown

theorem folded_of_mem_concernTypes : ∀ s ∈ concernTypes, Severity.folded s = s := by
  decide +kernel

theorem folded_of_mem_severities : ∀ s ∈ severities, Severity.folded s = s := by decide +kernel

theorem folded_of_mem_priorities : ∀ s ∈ priorities, Severity.folded s = s := by decide +kernel

/-- The whole part of a value is its own whole part. -/
theorem whole?_of_whole? {v : Json} {i : Int} (h : whole? v = some i) (hi : 0 ≤ i) :
    whole? (.num (.int i)) = some i := by
  obtain ⟨x, -, hx⟩ := (whole?_eq_some_iff v i).mp h
  obtain ⟨y, hy, htrunc⟩ := Double.trunc?_of_exact (Double.exact_of_trunc? hx)
  rw [Int.natAbs_of_nonneg hi] at hy htrunc
  exact (whole?_eq_some_iff _ i).mpr ⟨y, by simp [Json.double, Number.toFloat?, hy], htrunc⟩

/-- A whole number that came from a value counts for itself. -/
theorem WholeRepair.settled {α : Type} {least : Int} {default : α} {use : Int → α} {v : Json}
    {a : α} (h : WholeRepair least default use v a) (hleast : 0 ≤ least) (written : α → Json)
    (hwritten : ∀ i, written (use i) = .num (.int i))
    (hdefault : WholeRepair least default use (written default) default) :
    WholeRepair least default use (written a) a := by
  cases h with
  | @usable x i hx htrunc hle =>
      have hwhole := whole?_of_whole? ((whole?_eq_some_iff v i).mpr ⟨x, hx, htrunc⟩)
        (Int.le_trans hleast hle)
      obtain ⟨y, hy, htrunc⟩ := (whole?_eq_some_iff _ i).mp hwhole
      rw [hwritten]
      exact .usable hy htrunc hle
  | below | unusable => exact hdefault

theorem wholeRepair_one : WholeRepair 1 1 id (.num (.int 1)) 1 :=
  (wholeRepair_iff 1 1 id _ 1).mpr (by decide +kernel)

theorem wholeRepair_null : WholeRepair 0 Json.null (fun i => .num (.int i)) .null .null :=
  (wholeRepair_iff 0 Json.null _ .null .null).mpr rfl

/-- A rating on its scale is kept, as long as the default is. -/
theorem ScaleRepair.settled {low high default : Float} {v : Json} {n : Number}
    (h : ScaleRepair low high default v n)
    (hdefault : ScaleRepair low high default (.num (.float default)) (.float default)) :
    ScaleRepair low high default (.num n) n := by
  have hself {x : Float} (hx : x.isNaN = false) : x ≤ x :=
    Double.le_of_not_lt hx hx (Double.not_lt_self x)
  rcases h with ⟨-, hl, hh⟩ | ⟨-, hle⟩ | ⟨-, hge⟩ | _ | _
  · exact .inside rfl hl hh
  · exact .below rfl (hself (Double.isNaN_eq_false_of_le hle).2)
  · exact .above rfl (hself (Double.isNaN_eq_false_of_le hge).1)
  · exact hdefault
  · exact hdefault

theorem scaleRepair_half : ScaleRepair 0.0 1.0 0.5 (.num (.float 0.5)) (.float 0.5) :=
  .inside rfl (by decide +kernel) (by decide +kernel)

theorem scaleRepair_fifty : ScaleRepair 0.0 100.0 50.0 (.num (.float 50.0)) (.float 50.0) :=
  .inside rfl (by decide +kernel) (by decide +kernel)

theorem scaleRepair_zero : ScaleRepair 0.0 100.0 0.0 (.num (.float 0.0)) (.float 0.0) :=
  .below rfl (by decide +kernel)

/-! ## Whole objects -/

theorem LocationRepair.settled {fields : List (String × Json)} {l : Location}
    (h : LocationRepair fields l) : LocationRepair l.answered l where
  file := h.file.settled .str rfl (.told Json.noConfusion (by simp)) fun _ hv => hv.settled
  line := h.line.settled (fun i => .num (.int i)) rfl wholeRepair_one fun _ hv =>
    hv.settled (by decide) (fun i => .num (.int i)) (fun _ => rfl) wholeRepair_one
  column := h.column.settled (fun i => .num (.int i)) rfl wholeRepair_one fun _ hv =>
    hv.settled (by decide) (fun i => .num (.int i)) (fun _ => rfl) wholeRepair_one
  length := h.length.settled id rfl wholeRepair_null fun _ hv =>
    hv.settled (by decide) id (fun _ => rfl) wholeRepair_null

theorem ConcernRepair.settled {fields : List (String × Json)} {c : Concern Number}
    (h : ConcernRepair fields c) : ConcernRepair (objectFields c.toJson) c where
  category := h.category.settled .str rfl
    (wordRepair_str (by decide) (folded_of_mem_concernTypes _ (by decide))) fun _ hv =>
      wordRepair_str (hv.mem (by decide)) (folded_of_mem_concernTypes _ (hv.mem (by decide)))
  severity := h.severity.settled .str rfl
    (wordRepair_str (by decide) (folded_of_mem_severities _ (by decide))) fun _ hv =>
      wordRepair_str (hv.mem (by decide)) (folded_of_mem_severities _ (hv.mem (by decide)))
  description := h.description.settled .str rfl (textRepair_str _) fun _ _ => textRepair_str _
  location := h.location.settled
  confidence := h.confidence.settled .num rfl scaleRepair_half fun _ hv =>
    hv.settled scaleRepair_half

theorem AdviceRepair.settled {fields : List (String × Json)} {a : Advice}
    (h : AdviceRepair fields a) : AdviceRepair (objectFields a.toJson) a where
  category := h.category.settled .str rfl (textRepair_str _) fun _ _ => textRepair_str _
  priority := h.priority.settled .str rfl
    (wordRepair_str (by decide) (folded_of_mem_priorities _ (by decide))) fun _ hv =>
      wordRepair_str (hv.mem (by decide)) (folded_of_mem_priorities _ (hv.mem (by decide)))
  description := h.description.settled .str rfl (textRepair_str _) fun _ _ => textRepair_str _
  guide := h.guide.settled .str rfl (textRepair_str _) fun _ _ => textRepair_str _

theorem QualityRepair.settled {fields : List (String × Json)} {q : Quality Number}
    (h : QualityRepair fields q) : QualityRepair (objectFields q.toJson) q where
  codeQuality := h.codeQuality.settled .num rfl scaleRepair_fifty fun _ hv =>
    hv.settled scaleRepair_fifty
  maintainability := h.maintainability.settled .num rfl scaleRepair_fifty fun _ hv =>
    hv.settled scaleRepair_fifty
  testCoverage := h.testCoverage.settled .num rfl scaleRepair_zero fun _ hv =>
    hv.settled scaleRepair_zero

/-- The objects in a list of written outputs are settled, each in its place. -/
theorem forall₂_settled {β : Type} {R : List (String × Json) → β → Prop}
    {items : List (List (String × Json))} {outputs : List β} {write : β → Json}
    (h : List.Forall₂ R items outputs)
    (hwrite : ∀ b, asObject? (write b) = some (objectFields (write b)))
    (hR : ∀ item b, R item b → R (objectFields (write b)) b) :
    List.Forall₂ R (objectsOf (.arr (outputs.map write))) outputs := by
  have hobjects : objectsOf (.arr (outputs.map write)) = outputs.map (objectFields ∘ write) := by
    rw [objectsOf_arr, List.filterMap_map, ← List.filterMap_eq_map]
    congr 1
    funext b
    exact hwrite b
  rw [hobjects, List.forall₂_map_left_iff]
  refine List.forall₂_same.mpr fun b hb => ?_
  obtain ⟨item, -, hitem⟩ := exists_of_mem_forall₂ h hb
  exact hR item b hitem

theorem OpinionRepair.settled {fields : List (String × Json)} {o : Opinion Number}
    (h : OpinionRepair fields o) : OpinionRepair o.answered o where
  concerns := forall₂_settled h.concerns (fun _ => rfl) fun _ _ hitem => hitem.settled
  advice := forall₂_settled h.advice (fun _ => rfl) fun _ _ hitem => hitem.settled
  quality := h.quality.settled
  confidence := h.confidence.settled .num rfl scaleRepair_half fun _ hv =>
    hv.settled scaleRepair_half

/-- Repair is a projection: what it makes of an object, written as an object itself, is repaired to
the very same opinion. -/
theorem ofJson_answered {fields : List (String × Json)} {model : String} {time : Number}
    {o : Opinion Number} (h : ofJson (.obj fields) model time = .ok o) :
    ofJson (.obj o.answered) model time = .ok o := by
  obtain ⟨hrepair, hmodel, htime⟩ := (ofFields_eq_ok_iff fields model time o).mp h
  exact (ofFields_eq_ok_iff o.answered model time o).mpr ⟨hrepair.settled, hmodel, htime⟩

/-- An answer with a line that no double holds, a length with a fraction and no name of the file. -/
def sloppyAnswer : List (String × Json) :=
  [("vulnerabilities", .arr [.obj [("type", .str " OVERFLOW"), ("location", .obj
      [("file", .str ""), ("line", .num (.int 9007199254740993)), ("length", .str "4.5")])]]),
    ("confidence", .num (.float (-0.0)))]

/-- What is made of that answer. -/
def sloppyOpinion : Opinion Number :=
  { model := "m"
    concerns := [{
      category := "overflow"
      severity := "low"
      description := ""
      location := { file := "contract.sol", line := 9007199254740992, length := .num (.int 4) }
      confidence := .float 0.5 }]
    advice := []
    quality := ⟨.float 50.0, .float 50.0, .float 0.0⟩
    confidence := .float 0.0
    executionTime := 0 }

/-- The line is rounded to a double, and that one is kept. -/
theorem ofJson_answered_sloppyOpinion :
    ofJson (.obj sloppyAnswer) "m" 0 = .ok sloppyOpinion ∧
      ofJson (.obj sloppyOpinion.answered) "m" 0 = .ok sloppyOpinion := by
  have hstated : ofJson (.obj sloppyAnswer) "m" 0 = .ok sloppyOpinion := by rfl
  exact ⟨hstated, ofJson_answered hstated⟩

end Repair

end ContractReview
