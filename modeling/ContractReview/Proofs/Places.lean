import ContractReview.Cardano.Hlint
import ContractReview.Proofs.Solana.Messages

/-!
Where the findings of Clippy and of HLint are. Both take the columns of the start and the end from
each other, though these may be columns of two lines: the length is below zero when the end turns
back behind the column of the start.
-/

namespace ContractReview

namespace Clippy

theorem Message.mem_of_span? {m : Message} {span : Span} (h : m.span? = some span) :
    span ∈ m.spans := by
  rcases Option.or_eq_some_iff.mp h with hprimary | ⟨-, hfirst⟩
  · exact List.mem_of_find?_eq_some hprimary
  · exact List.mem_of_head? hfirst

end Clippy

namespace Hlint

def placeNames : Extent.Names := ⟨"startLine", "startColumn", "endLine", "endColumn"⟩

/-- Whatever else is in a hint, its finding is at its place. -/
theorem exists_finding {e : Extent} {hint : Json} (h : e.In placeNames hint)
    (platform file : String) :
    ∃ f, finding platform file hint = .ok f ∧ f.location = e.location file := by
  obtain ⟨text, htext⟩ := Json.exists_fieldOr h.object "hint" (.str "HLint suggestion")
  obtain ⟨hline, hcolumn, hlast⟩ :
      hint.fieldOf "startLine" = .ok (.num (.int e.line)) ∧
      hint.fieldOf "startColumn" = .ok (.num (.int e.column)) ∧
      hint.fieldOf "endColumn" = .ok (Extent.number? e.lastColumn?) := h.start
  simp only [finding, htext, hline, hcolumn, hlast, Json.fieldOf_eq h.object,
    Json.whole_orElse_one, Extent.lengthTo_number?, bind, Except.bind, pure, Except.pure]
  exact ⟨_, rfl, rfl⟩

end Hlint

namespace Extent

/-- The finding of a message is at its primary span, or at the first one where none is primary, and
that of a hint is at its place. Lines and columns count from one, and the length is absent or not
negative just where the end does not turn back. -/
theorem located_of_linters (platform file : String) :
    (∀ (m : Clippy.Message) (v : Json), m.In v → (∀ span ∈ m.spans, span.WellFormed) →
      ∃ found, Clippy.finding? platform file v m.code = .ok found ∧ (found = none ↔ m.spans = []) ∧
        ∀ f, found = some f → ∃ span ∈ m.spans, m.span? = some span ∧
          span.Located file f.location) ∧
    (∀ (e : Extent) (hint : Json), e.In Hlint.placeNames hint → e.WellFormed →
      ∃ f, Hlint.finding platform file hint = .ok f ∧ e.Located file f.location) := by
  constructor
  · intro m v hm hspans
    refine ⟨_, hm.finding?_eq platform file, ?_, ?_⟩
    · rw [Option.map_eq_none_iff, Clippy.Message.span?_eq_none_iff]
    · intro f hfound
      obtain ⟨span, hspan, rfl⟩ := Option.map_eq_some_iff.mp hfound
      have hmem := Clippy.Message.mem_of_span? hspan
      exact ⟨span, hmem, hspan, (hspans span hmem).located file⟩
  · intro e hint hplace hwell
    obtain ⟨f, hfinding, hlocation⟩ := Hlint.exists_finding hplace platform file
    exact ⟨f, hfinding, hlocation ▸ hwell.located file⟩

/-- From inside one line to the start of a later one. -/
def turned : Extent := ⟨8, 20, some 11, some 6⟩

theorem wellFormed_turned : turned.WellFormed where
  line := by decide
  column := by decide
  lastColumn := by rintro _ ⟨⟩; decide
  ordered := by decide
  onOneLine := by rintro _ ⟨⟩ heq; cases heq

def collapsible : Clippy.Message :=
  { text := "this block can be collapsed", level := "warning", code? := "clippy::collapsible_if"
    spans := [⟨turned, true⟩] }

/-- A hint on one line. -/
def redundant : Json :=
  .obj [("hint", .str "Redundant bracket"), ("startLine", .num 3), ("startColumn", .num 5),
    ("endLine", .num 3), ("endColumn", .num 12)]

/-- The length of a block that turns back is below zero, and that of a hint on one line is not. -/
theorem located_turned :
    (∃ f, Clippy.finding? "solana" "lib.rs" collapsible.json collapsible.code = .ok (some f) ∧
      1 ≤ f.location.line ∧ ¬IsLength f.location.length) ∧
    ∃ f, Hlint.finding "cardano" "Main.hs" redundant = .ok f ∧
      1 ≤ f.location.line ∧ IsLength f.location.length := by
  constructor
  · obtain ⟨found, hfound, hnone, hplaced⟩ := (located_of_linters "solana" "lib.rs").1 collapsible
      collapsible.json collapsible.in_json (List.forall_mem_singleton.mpr wellFormed_turned)
    cases found with
    | none => cases hnone.mp rfl
    | some f =>
        obtain ⟨span, hspan, -, hlocated⟩ := hplaced f rfl
        obtain rfl := List.mem_singleton.mp hspan
        refine ⟨f, hfound, hlocated.line, ?_⟩
        intro hlength
        apply hlocated.length.mp hlength
        exact ⟨by decide, 6, rfl, by decide⟩
  · obtain ⟨f, hfinding, hlocated⟩ := (located_of_linters "cardano" "Main.hs").2
      ⟨3, 5, some 3, some 12⟩ redundant ⟨rfl, rfl, rfl, rfl, rfl⟩
      ⟨by decide, by decide, by rintro _ ⟨⟩; decide, by decide, by rintro _ ⟨⟩ -; decide⟩
    refine ⟨f, hfinding, hlocated.line, hlocated.length.mpr ?_⟩
    intro hturned
    exact absurd hturned.1 (by decide)

end Extent

end ContractReview
