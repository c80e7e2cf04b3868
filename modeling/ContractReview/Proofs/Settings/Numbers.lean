import ContractReview.Proofs.Number.Exact
import ContractReview.Proofs.Number.Written
import ContractReview.Proofs.Outcome
import ContractReview.Settings.Basic

/-!
Settings that are numbers. A value that reads as a number has a nearest double, and all goes through
that: a decimal setting is the double itself, a whole one is the whole part of it. What reads as no
number gives way to the default. So the settings are what they should be until a value reads as a
number that no finite double is near to, or a whole setting as one that no double holds.
-/

namespace ContractReview.Settings

open Text

/-! ## The value that counts -/

/-- The value of a setting that counts before all others. -/
inductive Holds (s : Settings) (name : String) : Json → Prop
  | override {v : Json} : s.overrides.lookup name = some v → Holds s name v
  | variable {text : String} : s.overrides.lookup name = none →
      s.environment.lookup (variableName name) = some text → Holds s name (valueOf text)
  | entry {v : Yaml} : s.overrides.lookup name = none →
      s.environment.lookup (variableName name) = none → s.inFile name = some v →
      v.toJson ≠ .null → Holds s name v.toJson

theorem find?_eq_some_iff (s : Settings) (name : String) (v : Json) :
    s.find? name = some v ↔ s.Holds name v := by
  unfold find?
  constructor
  · intro h
    cases hoverride : s.overrides.lookup name with
    | some w =>
        rw [hoverride] at h
        cases h
        exact .override hoverride
    | none =>
        cases hvariable : s.environment.lookup (variableName name) with
        | some text =>
            rw [hoverride, hvariable] at h
            cases h
            exact .variable hoverride hvariable
        | none =>
            rw [hoverride, hvariable] at h
            cases hentry : s.inFile name with
            | none =>
                rw [hentry] at h
                cases h
            | some y =>
                rw [hentry] at h
                dsimp only [Option.map_some] at h
                split at h
                · cases h
                · cases h
                next hnull heq =>
                  cases h
                  cases heq
                  exact .entry hoverride hvariable hentry hnull
  · rintro (hoverride | ⟨hoverride, hvariable⟩ | ⟨hoverride, hvariable, hentry, hnull⟩)
    · rw [hoverride]
    · rw [hoverride, hvariable]
    · rw [hoverride, hvariable, hentry]
      dsimp only [Option.map_some]
      split
      next h => cases h
      next h => exact absurd (Option.some.inj h) hnull
      next h => exact h.symm

theorem Holds.unique {s : Settings} {name : String} {v w : Json} (hv : s.Holds name v)
    (hw : s.Holds name w) : v = w :=
  Option.some.inj (((find?_eq_some_iff s name v).mpr hv).symm.trans
    ((find?_eq_some_iff s name w).mpr hw))

theorem get_of_holds {s : Settings} {name : String} {v : Json} (h : s.Holds name v)
    (default : Json) : s.get name default = v := by
  rw [get, (find?_eq_some_iff s name v).mpr h, Option.getD_some]

theorem get_of_not_holds {s : Settings} {name : String} (h : ∀ v, ¬ s.Holds name v)
    (default : Json) : s.get name default = default := by
  have hnone : s.find? name = none :=
    Option.eq_none_iff_forall_ne_some.mpr fun v hv => h v ((find?_eq_some_iff s name v).mp hv)
  rw [get, hnone, Option.getD_none]

/-! ## What a value reads as -/

/-- A value reads as a number: a truth value as one or zero, a text as the numeral it is. -/
inductive Reads : Json → Number → Prop
  | truth (b : Bool) : Reads (.bool b) (.int (if b then 1 else 0))
  | number (n : Number) : Reads (.num n) n
  | numeral {text : String} {i : Int} : Numeral.whole text = .ok i → Reads (.str text) (.int i)
  | decimal {text : String} {x : Float} : (∀ i, Numeral.whole text ≠ .ok i) →
      Numeral.double? text = some x → Reads (.str text) (.float x)

theorem Reads.unique {v : Json} {m n : Number} (hm : Reads v m) (hn : Reads v n) : m = n := by
  cases hm with
  | truth | number =>
      cases hn
      rfl
  | numeral hm =>
      cases hn with
      | numeral hn => rw [Except.ok.inj (hm.symm.trans hn)]
      | decimal hnone => exact absurd hm (hnone _)
  | decimal hnone hm =>
      cases hn with
      | numeral hn => exact absurd hn (hnone _)
      | decimal _ hn => rw [Option.some.inj (hm.symm.trans hn)]

/-- The double nearest to a number. Zero has one of either sign. -/
inductive Nearest : Number → Float → Prop
  | whole {i : Int} {n : Nat} (negative : Bool) : (if negative then -(n : Int) else n) = i →
      Nearest (.int i) (Double.ofRatio negative n 1)
  | double (x : Float) : Nearest (.float x) x

/-- A double that is a number and not infinite. -/
def Finite (x : Float) : Prop := ∃ negative m q, Double.magnitude x = .finite negative m q

theorem finite_iff (x : Float) : Finite x ↔ ∃ i, Double.trunc? x = some i := by
  unfold Finite Double.trunc?
  cases Double.magnitude x <;> simp

theorem natAbs_signed {i : Int} {n : Nat} {negative : Bool}
    (h : (if negative then -(n : Int) else n) = i) : i.natAbs = n := by
  cases negative <;> simp_all <;> omega

theorem Nearest.finite_iff {i : Int} {x : Float} (h : Nearest (.int i) x) :
    Finite x ↔ i.natAbs < Double.limit := by
  cases h with
  | whole negative hi =>
      rw [natAbs_signed hi, Settings.finite_iff]
      constructor
      · rintro ⟨j, hj⟩
        by_contra hlimit
        rw [Double.ofRatio_of_limit_le _ (Nat.le_of_not_lt hlimit), Double.trunc?_infinity] at hj
        cases hj
      · exact Double.exists_trunc?_ofRatio negative

theorem Nearest.trunc?_iff {i : Int} {x : Float} (h : Nearest (.int i) x) :
    Double.trunc? x = some i ↔ Double.Exact i.natAbs := by
  refine ⟨Double.exact_of_trunc?, fun hexact => ?_⟩
  cases h with
  | whole negative hi =>
      rw [natAbs_signed hi] at hexact
      rw [Double.trunc?_ofRatio negative hexact, hi]

theorem nearest_of_ofInt? {i : Int} {x : Float} (h : Double.ofInt? i = some x) :
    Nearest (.int i) x := by
  unfold Double.ofInt? at h
  split at h
  · cases h
  · cases h
    refine .whole _ ?_
    by_cases hnegative : i < 0
    · rw [if_pos (decide_eq_true hnegative)]
      omega
    · rw [if_neg (by simpa using hnegative)]
      omega

/-! ### Numerals -/

theorem ofDecimal_whole (negative : Bool) (n : Nat) :
    Double.ofDecimal negative n (0 - (0 : Nat)) = Double.ofRatio negative n 1 := by
  unfold Double.ofDecimal
  dsimp only
  split
  next hsmall =>
    have hzero : n = 0 := hsmall.resolve_right (by omega)
    rw [hzero]
  next =>
    rw [if_neg (by decide), if_pos (by decide)]
    simp

/-- A whole numeral reads as the double nearest to its value. -/
theorem double?_of_whole {text : String} {i : Int} (h : Numeral.whole text = .ok i) :
    ∃ x, Numeral.double? text = some x ∧ Nearest (.int i) x := by
  have hwhole := Numeral.whole_eq_ok_iff.mp h
  generalize htext : text.toList = cs at hwhole
  obtain @⟨lead, sign, digits, trail, negative, run, hlead, hsign, hdigits, -, htrail⟩ := hwhole
  have hnamed : Numeral.namedDouble? negative digits = none := by
    obtain ⟨c, hc, hdigit⟩ := hdigits.exists_digit
    exact Numeral.Figure.namedDouble?_eq_none (.inr hdigit) hc negative
  have hfraction : Numeral.fractionOf run [] = some (⟨run.value, 0⟩, []) :=
    if_neg hdigits.count_pos
  refine ⟨_, ?_, .whole negative rfl⟩
  unfold Numeral.double?
  rw [htext, Numeral.unsigned_unpadded hlead hsign hdigits.bare htrail]
  dsimp only
  rw [hnamed, hdigits.takeRun_eq]
  dsimp only
  rw [hfraction, ← ofDecimal_whole]
  rfl

/-! ### The double of a value -/

theorem double_of_limit_le {i : Int} (h : Double.limit ≤ i.natAbs) :
    (Json.num (.int i)).double = .error .tooLarge := by
  simp [Json.double, Number.toFloat?, (Double.ofInt?_eq_none_iff i).mpr h]

/-- A value that reads as a number has the nearest double, unless it is itself a whole number beyond
all doubles. -/
theorem double_of_reads {v : Json} {n : Number} (h : Reads v n) :
    (∃ x, v.double = .ok x ∧ Nearest n x) ∨
      ∃ i, v = .num (.int i) ∧ Double.limit ≤ i.natAbs ∧ v.double = .error .tooLarge := by
  cases h with
  | truth b =>
      refine .inl ⟨_, rfl, ?_⟩
      cases b with
      | false =>
          have hzero : (if false = true then 1.0 else 0.0) = Double.ofRatio false 0 1 := by
            decide +kernel
          rw [hzero]
          exact .whole false rfl
      | true =>
          have hone : (if true = true then 1.0 else 0.0) = Double.ofRatio false 1 1 := by
            decide +kernel
          rw [hone]
          exact .whole false rfl
  | number n =>
      cases n with
      | float x => exact .inl ⟨x, rfl, .double x⟩
      | int i =>
          cases hi : Double.ofInt? i with
          | some x =>
              exact .inl ⟨x, by simp [Json.double, Number.toFloat?, hi], nearest_of_ofInt? hi⟩
          | none =>
              have hlimit := (Double.ofInt?_eq_none_iff i).mp hi
              exact .inr ⟨i, rfl, hlimit, double_of_limit_le hlimit⟩
  | numeral h =>
      obtain ⟨x, hx, hnearest⟩ := double?_of_whole h
      exact .inl ⟨x, by simp [Json.double, hx], hnearest⟩
  | decimal _ hx => exact .inl ⟨_, by simp [Json.double, hx], .double _⟩

theorem double_of_not_reads {v : Json} (h : ∀ n, ¬ Reads v n) :
    v.double = .error .otherwise := by
  cases v with
  | bool b => exact absurd (.truth b) (h _)
  | num n => exact absurd (.number n) (h _)
  | str text =>
      cases hx : Numeral.double? text with
      | none => simp [Json.double, hx]
      | some x =>
          cases hi : Numeral.whole text with
          | ok i => exact absurd (.numeral hi) (h _)
          | error e =>
              have hnone : ∀ i, Numeral.whole text ≠ .ok i := fun i heq => by
                rw [hi] at heq
                cases heq
              exact absurd (.decimal hnone hx) (h _)
  | null | arr items | obj fields => rfl

/-! ## What the settings come to -/

/-- The value reads as a number that no finite double is near to. -/
def Extreme (s : Settings) (name : String) : Prop :=
  ∃ v n x, s.Holds name v ∧ Reads v n ∧ Nearest n x ∧ ¬ Finite x

/-- The value reads as a whole number that no double holds. -/
def Inexact (s : Settings) (name : String) : Prop :=
  ∃ v i, s.Holds name v ∧ Reads v (.int i) ∧ ¬ Double.Exact i.natAbs

/-- What a decimal setting should be. -/
inductive DecimalDue (s : Settings) (name : String) (default : Float) : Float → Prop
  | read {v : Json} {n : Number} {x : Float} :
      s.Holds name v → Reads v n → Nearest n x → Finite x → DecimalDue s name default x
  | default : (∀ v n x, s.Holds name v → Reads v n → Nearest n x → ¬ Finite x) →
      DecimalDue s name default default

/-- What a whole setting should be: a whole number as it is, and the whole part of a decimal one. -/
inductive WholeDue (s : Settings) (name : String) (default : Int) : Int → Prop
  | whole {v : Json} {i : Int} : s.Holds name v → Reads v (.int i) → WholeDue s name default i
  | part {v : Json} {x : Float} {i : Int} : s.Holds name v → Reads v (.float x) →
      Double.trunc? x = some i → WholeDue s name default i
  | default : (∀ v n, s.Holds name v → Reads v n → ∃ x, n = .float x ∧ ¬ Finite x) →
      WholeDue s name default default

section

variable {s : Settings} {name : String}

theorem number_of_reads {v : Json} {n : Number} (hv : s.Holds name v) (hn : Reads v n)
    (default : Float) :
    (∃ x, s.number name default = .ok x ∧ Nearest n x) ∨
      ∃ i, v = .num (.int i) ∧ Double.limit ≤ i.natAbs ∧
        s.number name default = .error .wholeTooLarge := by
  unfold number
  rw [get_of_holds hv]
  rcases double_of_reads hn with ⟨x, hx, hnearest⟩ | ⟨i, hi, hlimit, hlarge⟩
  · exact .inl ⟨x, by rw [hx], hnearest⟩
  · exact .inr ⟨i, hi, hlimit, by rw [hlarge]⟩

theorem number_of_not_reads (h : ∀ v n, s.Holds name v → ¬ Reads v n) (default : Float) :
    s.number name default = .ok default := by
  unfold number
  by_cases hsome : ∃ v, s.Holds name v
  · obtain ⟨v, hv⟩ := hsome
    rw [get_of_holds hv, double_of_not_reads fun n => h v n hv]
  · rw [get_of_not_holds (not_exists.mp hsome)]
    rfl

theorem reads_or_not (s : Settings) (name : String) :
    (∃ v n, s.Holds name v ∧ Reads v n) ∨ ∀ v n, s.Holds name v → ¬ Reads v n := by
  by_cases h : ∃ v n, s.Holds name v ∧ Reads v n
  · exact .inl h
  · exact .inr fun v n hv hn => h ⟨v, n, hv, hn⟩

theorem Nearest.finite_unique {n : Number} {x y : Float} (hx : Nearest n x) (hy : Nearest n y) :
    Finite x ↔ Finite y := by
  cases n with
  | int i => rw [hx.finite_iff, hy.finite_iff]
  | float z =>
      cases hx
      cases hy
      rfl

/-- One reading decides about all. -/
theorem extreme_iff {v : Json} {n : Number} {x : Float} (hv : s.Holds name v) (hn : Reads v n)
    (hx : Nearest n x) : s.Extreme name ↔ ¬ Finite x := by
  refine ⟨?_, fun h => ⟨v, n, x, hv, hn, hx, h⟩⟩
  rintro ⟨w, m, y, hw, hm, hy, hinfinite⟩
  obtain rfl := hv.unique hw
  obtain rfl := hn.unique hm
  rwa [hx.finite_unique hy]

theorem not_extreme_of_not_reads (h : ∀ v n, s.Holds name v → ¬ Reads v n) :
    ¬ s.Extreme name :=
  fun ⟨v, n, _, hv, hn, _, _⟩ => h v n hv hn

theorem exists_nearest (i : Int) : ∃ x, Nearest (.int i) x := by
  by_cases hi : i < 0
  · exact ⟨_, .whole true (n := i.natAbs) (by rw [if_pos rfl]; omega)⟩
  · exact ⟨_, .whole false (n := i.natAbs) (by rw [if_neg Bool.false_ne_true]; omega)⟩

theorem extreme_of_limit_le {i : Int} (hv : s.Holds name (.num (.int i)))
    (h : Double.limit ≤ i.natAbs) : s.Extreme name := by
  obtain ⟨x, hx⟩ := exists_nearest i
  rw [extreme_iff hv (.number _) hx, hx.finite_iff]
  exact Nat.not_lt.mpr h

/-- A decimal setting is what it should be unless its value is extreme. -/
theorem number_due_iff {default : Float} (hdefault : Finite default) :
    (∃ x, s.number name default = .ok x ∧ s.DecimalDue name default x) ↔ ¬ s.Extreme name := by
  rcases reads_or_not s name with ⟨v, n, hv, hn⟩ | hnone
  · rcases number_of_reads hv hn default with ⟨x, hx, hnearest⟩ | ⟨i, rfl, hlimit, hlarge⟩
    · rw [extreme_iff hv hn hnearest, not_not]
      constructor
      · rintro ⟨y, hy, hdue⟩
        obtain rfl := Except.ok.inj (hx.symm.trans hy)
        cases hdue with
        | read _ _ _ hfinite => exact hfinite
        | default => exact hdefault
      · exact fun hfinite => ⟨x, hx, .read hv hn hnearest hfinite⟩
    · refine iff_of_false ?_ (not_not.mpr (extreme_of_limit_le hv hlimit))
      rintro ⟨y, hy, -⟩
      cases hlarge.symm.trans hy
  · refine iff_of_true ⟨default, number_of_not_reads hnone default, .default ?_⟩
      (not_extreme_of_not_reads hnone)
    exact fun v n _ hv hn => absurd hn (hnone v n hv)

/-- A decimal setting fails on whole numbers beyond all doubles, and on nothing else. -/
theorem number_fails_iff (default : Float) :
    (∃ fault, s.number name default = .error fault) ↔
      ∃ i : Int, s.Holds name (.num (.int i)) ∧ Double.limit ≤ i.natAbs := by
  constructor
  · rintro ⟨fault, hfault⟩
    rcases reads_or_not s name with ⟨v, n, hv, hn⟩ | hnone
    · rcases number_of_reads hv hn default with ⟨x, hx, -⟩ | ⟨i, rfl, hlimit, -⟩
      · cases hx.symm.trans hfault
      · exact ⟨i, hv, hlimit⟩
    · cases (number_of_not_reads hnone default).symm.trans hfault
  · rintro ⟨i, hv, hlimit⟩
    refine ⟨.wholeTooLarge, ?_⟩
    unfold number
    rw [get_of_holds hv, double_of_limit_le hlimit]

theorem wholeOfFloat_eq_ok_iff (x : Float) (i : Int) :
    Json.wholeOfFloat x = .ok i ↔ Double.trunc? x = some i := by
  unfold Json.wholeOfFloat
  split
  next j hj => rw [hj, Except.ok.injEq, Option.some.injEq]
  next hnone =>
    rw [hnone]
    split <;> simp

theorem wholeOfFloat_fails_iff (x : Float) :
    (∃ fault, Json.wholeOfFloat x = .error fault) ↔ ¬ Finite x := by
  rw [finite_iff, ← exists_congr (wholeOfFloat_eq_ok_iff x)]
  cases Json.wholeOfFloat x <;> simp

/-- A whole setting is the whole part of the decimal one with the same default. -/
theorem exists_whole_eq (s : Settings) (name : String) {default : Int}
    (hdefault : Double.Exact default.natAbs) :
    ∃ x, Double.trunc? x = some default ∧
      s.whole name default = s.number name x >>= Json.wholeOfFloat := by
  cases hx : Double.ofInt? default with
  | some x =>
      refine ⟨x, (nearest_of_ofInt? hx).trunc?_iff.mpr hdefault, ?_⟩
      unfold whole
      simp only [Number.toFloat?, hx]
  | none => exact absurd hdefault.lt_limit (Nat.not_lt.mpr ((Double.ofInt?_eq_none_iff _).mp hx))

theorem whole_of_reads {v : Json} {n : Number} (hv : s.Holds name v) (hn : Reads v n)
    {default : Int} (hdefault : Double.Exact default.natAbs) :
    (∃ x, s.whole name default = Json.wholeOfFloat x ∧ Nearest n x) ∨
      ∃ i, v = .num (.int i) ∧ Double.limit ≤ i.natAbs ∧
        s.whole name default = .error .wholeTooLarge := by
  obtain ⟨d, -, hwhole⟩ := exists_whole_eq s name hdefault
  rw [hwhole]
  rcases number_of_reads hv hn d with ⟨x, hx, hnearest⟩ | ⟨i, hi, hlimit, hlarge⟩
  · exact .inl ⟨x, by rw [hx]; rfl, hnearest⟩
  · exact .inr ⟨i, hi, hlimit, by rw [hlarge]; rfl⟩

theorem whole_of_not_reads (h : ∀ v n, s.Holds name v → ¬ Reads v n) {default : Int}
    (hdefault : Double.Exact default.natAbs) : s.whole name default = .ok default := by
  obtain ⟨d, hd, hwhole⟩ := exists_whole_eq s name hdefault
  rw [hwhole, number_of_not_reads h]
  exact (wholeOfFloat_eq_ok_iff d default).mpr hd

theorem inexact_iff {v : Json} {i : Int} (hv : s.Holds name v) (hn : Reads v (.int i)) :
    s.Inexact name ↔ ¬ Double.Exact i.natAbs := by
  refine ⟨?_, fun h => ⟨v, i, hv, hn, h⟩⟩
  rintro ⟨w, j, hw, hm, hinexact⟩
  obtain rfl := hv.unique hw
  cases hn.unique hm
  exact hinexact

/-- A whole setting is what it should be unless its value is extreme, or is a whole number that no
double holds. -/
theorem whole_due_iff {default : Int} (hdefault : Double.Exact default.natAbs) :
    (∃ i, s.whole name default = .ok i ∧ s.WholeDue name default i) ↔
      ¬ s.Extreme name ∧ ¬ s.Inexact name := by
  rcases reads_or_not s name with ⟨v, n, hv, hn⟩ | hnone
  · rcases whole_of_reads hv hn hdefault with ⟨x, hx, hnearest⟩ | ⟨i, rfl, hlimit, hlarge⟩
    · rw [hx, extreme_iff hv hn hnearest, not_not, finite_iff]
      simp only [wholeOfFloat_eq_ok_iff]
      cases n with
      | int i =>
          rw [inexact_iff hv hn, not_not]
          constructor
          · rintro ⟨j, hj, hdue⟩
            refine ⟨⟨j, hj⟩, ?_⟩
            cases hdue with
            | whole hw hm =>
                obtain rfl := hv.unique hw
                cases hn.unique hm
                exact hnearest.trunc?_iff.mp hj
            | part hw hm =>
                obtain rfl := hv.unique hw
                cases hn.unique hm
            | default hdue => cases (hdue v _ hv hn).choose_spec.1
          · rintro ⟨-, hexact⟩
            exact ⟨i, hnearest.trunc?_iff.mpr hexact, .whole hv hn⟩
      | float y =>
          cases hnearest
          have hheld : ¬ s.Inexact name := by
            rintro ⟨w, j, hw, hm, -⟩
            obtain rfl := hv.unique hw
            cases hn.unique hm
          constructor
          · rintro ⟨j, hj, -⟩
            exact ⟨⟨j, hj⟩, hheld⟩
          · rintro ⟨⟨j, hj⟩, -⟩
            exact ⟨j, hj, .part hv hn hj⟩
    · refine iff_of_false ?_ fun h => h.1 (extreme_of_limit_le hv hlimit)
      rintro ⟨j, hj, -⟩
      cases hlarge.symm.trans hj
  · refine iff_of_true ⟨default, whole_of_not_reads hnone hdefault, .default ?_⟩
      ⟨not_extreme_of_not_reads hnone, fun ⟨v, _, hv, hn, _⟩ => hnone v _ hv hn⟩
    exact fun v n hv hn => absurd hn (hnone v n hv)

/-- A whole setting fails exactly when its value is extreme. -/
theorem whole_fails_iff {default : Int} (hdefault : Double.Exact default.natAbs) :
    (∃ fault, s.whole name default = .error fault) ↔ s.Extreme name := by
  rcases reads_or_not s name with ⟨v, n, hv, hn⟩ | hnone
  · rcases whole_of_reads hv hn hdefault with ⟨x, hx, hnearest⟩ | ⟨i, rfl, hlimit, hlarge⟩
    · rw [hx, wholeOfFloat_fails_iff, extreme_iff hv hn hnearest]
    · exact iff_of_true ⟨_, hlarge⟩ (extreme_of_limit_le hv hlimit)
  · refine iff_of_false ?_ (not_extreme_of_not_reads hnone)
    rintro ⟨fault, hfault⟩
    cases (whole_of_not_reads hnone hdefault).symm.trans hfault

end

/-! ## All settings -/

/-- A setting that is a number: its name, its default, and what asks for it. -/
structure Numeric (α : Type) where
  name : String
  default : α
  ask : Settings → Except Fault α

def decimals : List (Numeric Float) :=
  [⟨"ai.timeout_seconds", 120.0, modelTimeout⟩, ⟨"ai.temperature", 0.1, temperature⟩,
    ⟨"ai.ensemble_threshold", 0.6, threshold⟩, ⟨"analysis.timeout_seconds", 120.0, reviewTimeout⟩,
    ⟨"analysis.health_check_timeout_seconds", 5.0, healthTimeout⟩]

def wholes : List (Numeric Int) :=
  [⟨"ai.max_tokens", 4000, maxTokens⟩, ⟨"analysis.max_file_size_bytes", 10485760, maxContractSize⟩]

theorem finite_of_trunc? {x : Float} {i : Int} (h : Double.trunc? x = some i) : Finite x :=
  (finite_iff x).mpr ⟨i, h⟩

theorem ask_of_mem_decimals (s : Settings) {d : Numeric Float} (h : d ∈ decimals) :
    d.ask s = s.number d.name d.default ∧ Finite d.default := by
  simp only [decimals, List.mem_cons, List.not_mem_nil, or_false] at h
  rcases h with rfl | rfl | rfl | rfl | rfl
  · exact ⟨rfl, finite_of_trunc? (i := 120) (by decide +kernel)⟩
  · exact ⟨rfl, finite_of_trunc? (i := 0) (by decide +kernel)⟩
  · exact ⟨rfl, finite_of_trunc? (i := 0) (by decide +kernel)⟩
  · exact ⟨rfl, finite_of_trunc? (i := 120) (by decide +kernel)⟩
  · exact ⟨rfl, finite_of_trunc? (i := 5) (by decide +kernel)⟩

theorem ask_of_mem_wholes (s : Settings) {w : Numeric Int} (h : w ∈ wholes) :
    w.ask s = s.whole w.name w.default ∧ Double.Exact w.default.natAbs := by
  simp only [wholes, List.mem_cons, List.not_mem_nil, or_false] at h
  rcases h with rfl | rfl
  · exact ⟨rfl, Double.exact_of_lt (by decide)⟩
  · exact ⟨rfl, Double.exact_of_lt (by decide)⟩

/-- What may take the place of a review is told when both of its numbers are. -/
theorem exists_fallback_iff (s : Settings) (retries : Int → Prop) (delay : Float → Prop) :
    (∃ values, s.fallback = .ok values ∧ retries values.maxRetries ∧ delay values.delay) ↔
      (∃ i, s.whole "fallback.max_retries" 3 = .ok i ∧ retries i) ∧
        ∃ x, s.number "fallback.retry_delay_seconds" 1.0 = .ok x ∧ delay x := by
  unfold fallback
  constructor
  · rintro ⟨values, hvalues, hretries, hdelay⟩
    obtain ⟨i, hi, hvalues⟩ := Outcome.bind_eq_ok_iff.mp hvalues
    obtain ⟨x, hx, hvalues⟩ := Outcome.bind_eq_ok_iff.mp hvalues
    obtain rfl := Outcome.pure_eq_ok_iff.mp hvalues
    exact ⟨⟨i, hi, hretries⟩, x, hx, hdelay⟩
  · rintro ⟨⟨i, hi, hretries⟩, x, hx, hdelay⟩
    refine ⟨_, Outcome.bind_eq_ok_iff.mpr ⟨i, hi, Outcome.bind_eq_ok_iff.mpr ⟨x, hx, rfl⟩⟩, ?_⟩
    exact ⟨hretries, hdelay⟩

/-- Every setting that is a number is what it should be exactly when its value is not extreme and,
for a whole setting, is no whole number that doubles pass over. A decimal setting fails on whole
numbers beyond all doubles, a whole one on every extreme value, and nothing fails on anything
else. -/
theorem numbers_due_unless_extreme (s : Settings) :
    (∀ d ∈ decimals,
      ((∃ x, d.ask s = .ok x ∧ s.DecimalDue d.name d.default x) ↔ ¬ s.Extreme d.name) ∧
      ((∃ fault, d.ask s = .error fault) ↔
        ∃ i : Int, s.Holds d.name (.num (.int i)) ∧ Double.limit ≤ i.natAbs)) ∧
    (∀ w ∈ wholes,
      ((∃ i, w.ask s = .ok i ∧ s.WholeDue w.name w.default i) ↔
        ¬ s.Extreme w.name ∧ ¬ s.Inexact w.name) ∧
      ((∃ fault, w.ask s = .error fault) ↔ s.Extreme w.name)) ∧
    ((∃ values, s.fallback = .ok values ∧
        s.WholeDue "fallback.max_retries" 3 values.maxRetries ∧
        s.DecimalDue "fallback.retry_delay_seconds" 1.0 values.delay) ↔
      (¬ s.Extreme "fallback.max_retries" ∧ ¬ s.Inexact "fallback.max_retries") ∧
        ¬ s.Extreme "fallback.retry_delay_seconds") := by
  refine ⟨fun d hd => ?_, fun w hw => ?_, ?_⟩
  · obtain ⟨hask, hdefault⟩ := s.ask_of_mem_decimals hd
    rw [hask]
    exact ⟨number_due_iff hdefault, number_fails_iff d.default⟩
  · obtain ⟨hask, hdefault⟩ := s.ask_of_mem_wholes hw
    rw [hask]
    exact ⟨whole_due_iff hdefault, whole_fails_iff hdefault⟩
  · have hdelay : Finite 1.0 := finite_of_trunc? (i := 1) (by decide +kernel)
    rw [exists_fallback_iff, whole_due_iff (Double.exact_of_lt (by decide)), number_due_iff hdelay]

example : (maxTokens { environment := [("AI_MAX_TOKENS", "inf")] }).toBool = false ∧
    (maxTokens { environment := [("AI_MAX_TOKENS", "9007199254740993")] }).toOption =
      some 9007199254740992 := by
  decide +kernel

end ContractReview.Settings
