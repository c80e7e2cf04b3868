import ContractReview.Proofs.Json.Access
import ContractReview.Proofs.Opinion.WellFormed

/-!
Places in a source as linters tell them: where something starts, and where it ends as far as that is
told. A finding has the start, and for its length the difference between the columns of both.
-/

namespace ContractReview

/-- A place in a source: its start, and its end as far as it is told. -/
structure Extent where
  line : Nat
  column : Nat
  lastLine? : Option Nat
  lastColumn? : Option Nat

theorem isLength_int_iff {i : Int} : IsLength (.num (.int i)) ↔ 0 ≤ i := by
  simp [IsLength]

namespace Extent

/-- The names by which a linter calls the parts of a place. -/
structure Names where
  line : String
  column : String
  lastLine : String
  lastColumn : String

/-- A number, or nothing. -/
def number? (n? : Option Nat) : Json := Json.ofOption (fun n : Nat => .num (.int n)) n?

/-- An object tells the place by those names. -/
structure In (names : Names) (e : Extent) (v : Json) : Prop where
  object : v.kind = .dict
  line : v.field names.line = .num (.int e.line)
  column : v.field names.column = .num (.int e.column)
  lastLine : v.field names.lastLine = number? e.lastLine?
  lastColumn : v.field names.lastColumn = number? e.lastColumn?

/-- How far it is from the start to the last column. There is no column zero. -/
def length (e : Extent) : Json :=
  match e.lastColumn? with
  | none | some 0 => .null
  | some stop => .num (.int (stop - (max 1 e.column : Nat)))

/-- The place of a finding. -/
def location (file : String) (e : Extent) : Location :=
  { file, line := (max 1 e.line : Nat), column := (max 1 e.column : Nat), length := e.length }

/-- Lines and columns count from one, and the end is not before the start. An end that has no line
is on the line of the start. -/
structure WellFormed (e : Extent) : Prop where
  line : 1 ≤ e.line
  column : 1 ≤ e.column
  lastColumn : ∀ stop, e.lastColumn? = some stop → 1 ≤ stop
  ordered : e.line ≤ e.lastLine?.getD e.line
  onOneLine : ∀ stop, e.lastColumn? = some stop →
    e.line = e.lastLine?.getD e.line → e.column ≤ stop

/-- It ends on a later line, in a column before that of the start. -/
def TurnsBack (e : Extent) : Prop :=
  e.line < e.lastLine?.getD e.line ∧ ∃ stop, e.lastColumn? = some stop ∧ stop < e.column

variable {e : Extent}

theorem length_of_pos {stop : Nat} (hstop : e.lastColumn? = some stop) (hpos : 1 ≤ stop) :
    e.length = .num (.int (stop - (max 1 e.column : Nat))) := by
  obtain ⟨stop, rfl⟩ := Nat.exists_eq_add_one.mpr hpos
  rw [length, hstop]
  rfl

/-- The length is one as long as the end does not turn back. -/
theorem WellFormed.isLength_iff (h : e.WellFormed) : IsLength e.length ↔ ¬e.TurnsBack := by
  cases hlast : e.lastColumn? with
  | none =>
      have hlength : e.length = .null := by rw [length, hlast]
      rw [hlength, TurnsBack, hlast]
      simp [IsLength]
  | some stop =>
      have honeLine := h.onOneLine stop hlast
      have hordered := h.ordered
      rw [length_of_pos hlast (h.lastColumn stop hlast), Nat.max_eq_right h.column,
        isLength_int_iff, TurnsBack, hlast]
      constructor
      · rintro hlength ⟨-, _, heq, hback⟩
        cases heq
        omega
      · intro hforward
        by_contra hnegative
        -- on one line the end would be before the start
        have hlater : e.line < e.lastLine?.getD e.line := by omega
        exact hforward ⟨hlater, stop, rfl, by omega⟩

/-- What can be relied on in the place of a finding. -/
structure Located (file : String) (e : Extent) (l : Location) : Prop where
  file : l.file = file
  line : 1 ≤ l.line
  column : 1 ≤ l.column
  length : IsLength l.length ↔ ¬e.TurnsBack

theorem WellFormed.located (h : e.WellFormed) (file : String) :
    e.Located file (e.location file) where
  file := rfl
  line := by simp [location]
  column := by simp [location]
  length := h.isLength_iff

/-! ## Reading a place -/

theorem In.start {names : Names} {v : Json} (h : e.In names v) :
    v.fieldOf names.line = .ok (.num (.int e.line)) ∧
      v.fieldOf names.column = .ok (.num (.int e.column)) ∧
      v.fieldOf names.lastColumn = .ok (number? e.lastColumn?) := by
  rw [Json.fieldOf_eq h.object, Json.fieldOf_eq h.object, Json.fieldOf_eq h.object, h.line,
    h.column, h.lastColumn]
  exact ⟨rfl, rfl, rfl⟩

/-- The length that is read is that of the place. A start that is not told counts as column one. -/
theorem lengthTo_number? (e : Extent) :
    (number? e.lastColumn?).lengthTo (max 1 e.column : Nat) = .ok e.length := by
  unfold length
  cases e.lastColumn? with
  | none => rfl
  | some stop =>
      cases stop with
      | zero => rfl
      | succ stop =>
          rw [Json.lengthTo, number?, Json.ofOption, Json.isFilled_nat]
          rfl

end Extent

end ContractReview
