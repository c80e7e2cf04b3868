import ContractReview.Proofs.Json.Lexeme
import Mathlib

/-!
What the JSON reader takes off a text. A value that is read once is read wherever the same
characters stand, whatever follows them; and every backtick of a text that is read stands between
quotation marks.
-/

namespace ContractReview.Json

/-! ## Gaps -/

/-- `gap` is all that is skipped in front of a text that begins with `used`. -/
structure GapBefore (gap used : List Char) : Prop where
  gaps : ∀ c ∈ gap, isGap c = true
  skipGaps_eq : ∀ more, skipGaps (gap ++ (used ++ more)) = used ++ more

theorem exists_gap {cs used rest : List Char} (hne : used ≠ []) (h : skipGaps cs = used ++ rest) :
    ∃ gap, cs = gap ++ (used ++ rest) ∧ GapBefore gap used := by
  have hgap : ∀ c ∈ cs.takeWhile isGap, isGap c = true := fun c hc => List.mem_takeWhile_imp hc
  obtain ⟨c, used, rfl⟩ := List.exists_cons_of_ne_nil hne
  have hc : isGap c = false := by
    have hhead := List.head?_dropWhile_not isGap cs
    rwa [← skipGaps, h] at hhead
  refine ⟨cs.takeWhile isGap, ?_, hgap, fun more => ?_⟩
  · rw [← h]
    exact List.takeWhile_append_dropWhile.symm
  · rw [skipGaps, List.dropWhile_append_of_pos hgap]
    exact List.dropWhile_cons_of_neg (by simp [hc])

theorem isFigure_of_isGap {c : Char} (h : isGap c = true) : isFigure c = false := by
  simp only [isGap, decide_eq_true_eq] at h
  rcases h with rfl | rfl | rfl | rfl <;> rfl

theorem GapBefore.breaks {gap : List Char} {mark : Char} (h : GapBefore gap [mark])
    (hmark : isFigure mark = false) (more : List Char) : Breaks isFigure (gap ++ mark :: more) := by
  cases gap with
  | nil => exact hmark
  | cons c gap => exact isFigure_of_isGap (h.gaps c List.mem_cons_self)

/-! ## Shelter -/

/-- Every backtick stands within quotation marks on its line. -/
def Sheltered (cs : List Char) : Prop :=
  ∀ before behind, cs = before ++ '\x60' :: behind → ∃ a opened closed b,
    before = a ++ '"' :: opened ∧ behind = closed ++ '"' :: b ∧
      ∀ c ∈ opened ++ closed, 32 ≤ c.toNat

theorem Fenceless.sheltered {cs : List Char} (h : Fenceless cs) : Sheltered cs := by
  rintro before behind rfl
  exact absurd rfl (h '\x60' (by simp))

theorem Sheltered.append {cs ds : List Char} (h : Sheltered cs) (h' : Sheltered ds) :
    Sheltered (cs ++ ds) := by
  intro before behind heq
  rcases List.append_eq_append_iff.mp heq with ⟨tail, rfl, hds⟩ | ⟨tail, hcs, hbehind⟩
  · obtain ⟨a, opened, closed, b, rfl, rfl, hline⟩ := h' tail behind hds
    exact ⟨cs ++ a, opened, closed, b, by simp, rfl, hline⟩
  · cases tail with
    | nil =>
        obtain ⟨a, opened, closed, b, hnil, rfl, hline⟩ := h' [] behind hbehind.symm
        cases a <;> cases hnil
    | cons c tail =>
        obtain ⟨rfl, rfl⟩ := List.cons.inj hbehind
        obtain ⟨a, opened, closed, b, rfl, rfl, hline⟩ := h before tail hcs
        exact ⟨a, opened, closed, b ++ ds, rfl, by simp, hline⟩

theorem Sheltered.mark {cs : List Char} (h : Sheltered cs) {mark : Char} (hmark : mark ≠ '\x60') :
    Sheltered (mark :: cs) := by
  have hplain : Fenceless [mark] := by simpa [Fenceless] using hmark
  exact hplain.sheltered.append h

theorem fenceless_gap {gap : List Char} (h : ∀ c ∈ gap, isGap c = true) : Fenceless gap := by
  rintro c hc rfl
  exact absurd (h _ hc) (by decide)

theorem Sheltered.gap {gap used cs : List Char} (h : Sheltered cs) (hgap : GapBefore gap used) :
    Sheltered (gap ++ cs) :=
  (fenceless_gap hgap.gaps).sheltered.append h

theorem sheltered_string {body : List Char} (h : ∀ c ∈ body, 32 ≤ c.toNat) :
    Sheltered ('"' :: (body ++ ['"'])) := by
  intro before behind heq
  cases before with
  | nil => cases heq
  | cons c before =>
      obtain ⟨rfl, hrest⟩ := List.cons.inj heq
      rcases List.append_eq_append_iff.mp hrest with ⟨tail, rfl, hend⟩ | ⟨tail, rfl, hbehind⟩
      · cases tail with
        | nil => cases hend
        | cons d tail => cases tail <;> cases hend
      · cases tail with
        | nil => cases hbehind
        | cons d tail =>
            obtain ⟨rfl, rfl⟩ := List.cons.inj hbehind
            refine ⟨[], before, tail, [], rfl, rfl, fun c hc => h c ?_⟩
            rcases List.mem_append.mp hc with hc | hc <;> simp [hc]

/-! ## Spellings -/

/-- `read` takes `used` for `a`, given fuel for its length, in front of all that may follow. -/
structure Spells {α : Type} (read : Nat → List Char → Step α) (follows : List Char → Prop)
    (used : List Char) (a : α) : Prop where
  nonempty : used ≠ []
  sheltered : Sheltered used
  read_eq : ∀ fuel more, used.length ≤ fuel → follows more →
    read fuel (used ++ more) = .ok (a, more)

/-- Anything may follow. -/
def Anything (_ : List Char) : Prop := True

section Sequences

variable {α β : Type} {entry : Nat → List Char → Step α} {whole rest : Nat → List Char → Step β}
variable {used used' gap gap' : List Char} {a : α} {b : β}

/-- The last entry and the bracket behind it. -/
theorem Spells.close {bracket : Char} (h : Spells entry (Breaks isFigure) used a)
    (hgap : GapBefore gap [bracket]) (hfigure : isFigure bracket = false)
    (hmark : bracket ≠ '\x60')
    (hlast : ∀ fuel cs behind more, entry fuel cs = .ok (a, behind) →
      skipGaps behind = bracket :: more → whole (fuel + 1) cs = .ok (b, more)) :
    Spells whole Anything (used ++ (gap ++ [bracket])) b where
  nonempty := by simp
  sheltered := h.sheltered.append
    ((Fenceless.sheltered (by simpa [Fenceless] using hmark)).gap hgap)
  read_eq := by
    intro fuel more hfuel _
    simp only [List.length_append, List.length_singleton] at hfuel
    obtain ⟨fuel, rfl⟩ := Nat.exists_eq_add_one.mpr (show 0 < fuel by omega)
    rw [List.append_assoc, List.append_assoc]
    refine hlast fuel _ _ more (h.read_eq fuel _ (by omega) ?_) (hgap.skipGaps_eq more)
    exact hgap.breaks hfigure more

/-- An entry, a comma and the entries behind it. -/
theorem Spells.comma (h : Spells entry (Breaks isFigure) used a) (hgap : GapBefore gap [','])
    (h' : Spells rest Anything used' b) (hgap' : GapBefore gap' used')
    (hnext : ∀ fuel cs behind more, entry fuel cs = .ok (a, behind) →
      skipGaps behind = ',' :: more → whole (fuel + 1) cs = rest fuel (skipGaps more)) :
    Spells whole Anything (used ++ (gap ++ ',' :: (gap' ++ used'))) b where
  nonempty := by simp
  sheltered := h.sheltered.append (((h'.sheltered.gap hgap').mark (by decide)).gap hgap)
  read_eq := by
    intro fuel more hfuel _
    simp only [List.length_append, List.length_cons] at hfuel
    obtain ⟨fuel, rfl⟩ := Nat.exists_eq_add_one.mpr (show 0 < fuel by omega)
    have hentry := h.read_eq fuel (gap ++ ',' :: (gap' ++ (used' ++ more))) (by omega)
      (hgap.breaks rfl _)
    rw [List.append_assoc, List.append_assoc, List.cons_append, List.append_assoc,
      hnext fuel _ _ (gap' ++ (used' ++ more)) hentry (hgap.skipGaps_eq _), hgap'.skipGaps_eq]
    exact h'.read_eq fuel more (by omega) trivial

/-- A bracket that opens and the entries behind it. -/
theorem Spells.opened {mark : Char} (h : Spells rest Anything used b) (hgap : GapBefore gap used)
    (hmark : mark ≠ '\x60')
    (hopen : ∀ fuel cs more, skipGaps cs = used ++ more →
      whole (fuel + 1) (mark :: cs) = rest fuel (skipGaps cs)) :
    Spells whole Anything (mark :: (gap ++ used)) b where
  nonempty := by simp
  sheltered := (h.sheltered.gap hgap).mark hmark
  read_eq := by
    intro fuel more hfuel _
    simp only [List.length_append, List.length_cons] at hfuel
    obtain ⟨fuel, rfl⟩ := Nat.exists_eq_add_one.mpr (show 0 < fuel by omega)
    rw [List.cons_append, List.append_assoc, hopen fuel _ more (hgap.skipGaps_eq more),
      hgap.skipGaps_eq]
    exact h.read_eq fuel more (by omega) trivial

/-- The bracket alone. -/
theorem spells_bracket {bracket : Char} (hmark : bracket ≠ '\x60') (b : β) :
    Spells (fun _ cs => .ok (b, cs.tail)) Anything [bracket] b where
  nonempty := by simp
  sheltered := Fenceless.sheltered (by simpa [Fenceless] using hmark)
  read_eq := fun _ _ _ _ => rfl

end Sequences

/-! ## What the reader does -/

theorem readItems_last {fuel : Nat} {items : List Json} {cs behind more : List Char} {value : Json}
    (hvalue : readValue fuel cs = .ok (value, behind)) (hgap : skipGaps behind = ']' :: more) :
    readItems (fuel + 1) items cs = .ok (.arr (value :: items).reverse, more) := by
  rw [readItems, hvalue]
  simp only [hgap]

theorem readItems_next {fuel : Nat} {items : List Json} {cs behind more : List Char} {value : Json}
    (hvalue : readValue fuel cs = .ok (value, behind)) (hgap : skipGaps behind = ',' :: more) :
    readItems (fuel + 1) items cs = readItems fuel (value :: items) (skipGaps more) := by
  rw [readItems, hvalue]
  simp only [hgap]

theorem readItems_cases {fuel : Nat} {items : List Json} {cs rest : List Char} {v : Json}
    (h : readItems (fuel + 1) items cs = .ok (v, rest)) :
    ∃ value behind, readValue fuel cs = .ok (value, behind) ∧
      ((skipGaps behind = ']' :: rest ∧ v = .arr (value :: items).reverse) ∨
        ∃ more, skipGaps behind = ',' :: more ∧
          readItems fuel (value :: items) (skipGaps more) = .ok (v, rest)) := by
  rw [readItems] at h
  split at h
  next => cases h
  next value behind hvalue =>
    split at h
    next more hgap => cases h; exact ⟨value, behind, hvalue, .inl ⟨hgap, rfl⟩⟩
    next more hgap => exact ⟨value, behind, hvalue, .inr ⟨more, hgap, h⟩⟩
    next => cases h

/-- A name, a colon and a value. -/
def readField (fuel : Nat) : List Char → Step (String × Json)
  | '"' :: cs =>
      match readString cs [] cs with
      | .error stop => .error stop
      | .ok (name, rest) =>
          match skipGaps rest with
          | ':' :: rest =>
              (readValue fuel (skipGaps rest)).map fun (value, rest) => ((name, value), rest)
          | rest => .error (.refused .expectingColon rest)
  | cs => .error (.refused .expectingName cs)

theorem readFields_eq (fuel : Nat) (fields : List (String × Json)) (cs : List Char) :
    readFields (fuel + 1) fields cs =
      match readField fuel cs with
      | .error stop => .error stop
      | .ok ((name, value), rest) =>
          match skipGaps rest with
          | '\x7d' :: rest => .ok (.obj (insert name value fields), rest)
          | ',' :: rest => readFields fuel (insert name value fields) (skipGaps rest)
          | rest => .error (.refused .expectingComma rest) := by
  by_cases hquote : ∃ inside, cs = '"' :: inside
  · obtain ⟨inside, rfl⟩ := hquote
    rw [readFields, readField]
    rcases readString inside [] inside with stop | ⟨name, rest⟩
    · rfl
    · dsimp only
      generalize skipGaps rest = behind
      split
      next rest =>
        simp only [Except.map]
        rcases readValue fuel (skipGaps rest) with stop | ⟨value, rest⟩ <;> rfl
      next hcolon => simp only
  · have hother (inside : List Char) : cs ≠ '"' :: inside := fun h => hquote ⟨inside, h⟩
    rw [readFields.eq_3 _ _ _ hother, readField.eq_2 _ _ hother]

theorem readFields_last {fuel : Nat} {fields : List (String × Json)} {cs behind more : List Char}
    {field : String × Json} (hfield : readField fuel cs = .ok (field, behind))
    (hgap : skipGaps behind = '\x7d' :: more) :
    readFields (fuel + 1) fields cs = .ok (.obj (insert field.1 field.2 fields), more) := by
  rw [readFields_eq, hfield]
  simp only [hgap]

theorem readFields_next {fuel : Nat} {fields : List (String × Json)} {cs behind more : List Char}
    {field : String × Json} (hfield : readField fuel cs = .ok (field, behind))
    (hgap : skipGaps behind = ',' :: more) :
    readFields (fuel + 1) fields cs =
      readFields fuel (insert field.1 field.2 fields) (skipGaps more) := by
  rw [readFields_eq, hfield]
  simp only [hgap]

theorem readFields_cases {fuel : Nat} {fields : List (String × Json)} {cs rest : List Char}
    {v : Json} (h : readFields (fuel + 1) fields cs = .ok (v, rest)) :
    ∃ field behind, readField fuel cs = .ok (field, behind) ∧
      ((skipGaps behind = '\x7d' :: rest ∧ v = .obj (insert field.1 field.2 fields)) ∨
        ∃ more, skipGaps behind = ',' :: more ∧
          readFields fuel (insert field.1 field.2 fields) (skipGaps more) = .ok (v, rest)) := by
  rw [readFields_eq] at h
  split at h
  next => cases h
  next name value behind hfield =>
    split at h
    next more hgap => cases h; exact ⟨(name, value), behind, hfield, .inl ⟨hgap, rfl⟩⟩
    next more hgap => exact ⟨(name, value), behind, hfield, .inr ⟨more, hgap, h⟩⟩
    next => cases h

/-! ## What was read is spelled -/

/-- What is read as a value with that fuel is spelled by the characters that were taken. -/
def ValuesSpelled (fuel : Nat) : Prop :=
  ∀ (cs rest : List Char) (v : Json), readValue fuel cs = .ok (v, rest) →
    ∃ used, cs = used ++ rest ∧ Spells readValue (Breaks isFigure) used v

def ItemsSpelled (fuel : Nat) : Prop :=
  ∀ (items : List Json) (cs rest : List Char) (v : Json),
    readItems fuel items cs = .ok (v, rest) →
      ∃ used, cs = used ++ rest ∧ Spells (readItems · items) Anything used v

/-- The fields of an object end with its brace. -/
def FieldsSpelled (fuel : Nat) : Prop :=
  ∀ (before : List (String × Json)) (cs rest : List Char) (v : Json),
    readFields fuel before cs = .ok (v, rest) → ∃ used, cs = used ++ rest ∧
      used.getLast? = some '\x7d' ∧ Spells (readFields · before) Anything used v

theorem itemsSpelled_succ {fuel : Nat} (hvalues : ValuesSpelled fuel)
    (hitems : ItemsSpelled fuel) : ItemsSpelled (fuel + 1) := by
  intro items cs rest v h
  obtain ⟨value, behind, hvalue, hend⟩ := readItems_cases h
  obtain ⟨used, rfl, hused⟩ := hvalues _ _ _ hvalue
  rcases hend with ⟨hclose, rfl⟩ | ⟨more, hcomma, hrest⟩
  · obtain ⟨gap, rfl, hgap⟩ := exists_gap (List.cons_ne_nil ']' []) hclose
    exact ⟨used ++ (gap ++ [']']), by simp, hused.close hgap rfl (by decide)
      fun _ _ _ _ => readItems_last⟩
  · obtain ⟨used', hmore, hused'⟩ := hitems _ _ _ _ hrest
    obtain ⟨gap, rfl, hgap⟩ := exists_gap (List.cons_ne_nil ',' []) hcomma
    obtain ⟨gap', rfl, hgap'⟩ := exists_gap hused'.nonempty hmore
    exact ⟨used ++ (gap ++ ',' :: (gap' ++ used')), by simp, hused.comma hgap hused' hgap'
      fun _ _ _ _ => readItems_next⟩

theorem readField_eq {fuel : Nat} {inside behind more rest : List Char} {name : String}
    {value : Json} (hname : readString inside [] inside = .ok (name, behind))
    (hcolon : skipGaps behind = ':' :: more)
    (hvalue : readValue fuel (skipGaps more) = .ok (value, rest)) :
    readField fuel ('"' :: inside) = .ok ((name, value), rest) := by
  simp only [readField, hname, hcolon, hvalue, Except.map]

theorem readField_cases {fuel : Nat} {cs rest : List Char} {field : String × Json}
    (h : readField fuel cs = .ok (field, rest)) :
    ∃ inside behind more, cs = '"' :: inside ∧ readString inside [] inside = .ok (field.1, behind) ∧
      skipGaps behind = ':' :: more ∧ readValue fuel (skipGaps more) = .ok (field.2, rest) := by
  unfold readField at h
  split at h
  next inside =>
    split at h
    next => cases h
    next name behind hname =>
      split at h
      next more hcolon =>
        rcases hvalue : readValue fuel (skipGaps more) with stop | ⟨value, after⟩ <;>
          rw [hvalue] at h <;> cases h
        exact ⟨inside, behind, more, rfl, hname, hcolon, hvalue⟩
      next => cases h
  next => cases h

theorem exists_field {fuel : Nat} (hvalues : ValuesSpelled fuel) {cs rest : List Char}
    {field : String × Json} (h : readField fuel cs = .ok (field, rest)) :
    ∃ used, cs = used ++ rest ∧ Spells readField (Breaks isFigure) used field := by
  obtain ⟨inside, behind, more, rfl, hname, hcolon, hvalue⟩ := readField_cases h
  obtain ⟨used, hmore, hused⟩ := hvalues _ _ _ hvalue
  obtain ⟨body, rfl, hplain, hread⟩ := enclosed_of_readString hname
  obtain ⟨gap, rfl, hgap⟩ := exists_gap (List.cons_ne_nil ':' []) hcolon
  obtain ⟨gap', rfl, hgap'⟩ := exists_gap hused.nonempty hmore
  refine ⟨'"' :: (body ++ ['"']) ++ (gap ++ ':' :: (gap' ++ used)), by simp, by simp, ?_, ?_⟩
  · exact (sheltered_string hplain).append
      (((hused.sheltered.gap hgap').mark (by decide)).gap hgap)
  · intro fuel more hfuel hmore
    simp only [List.length_append, List.length_cons] at hfuel
    have hvalue := hused.read_eq fuel more (by omega) hmore
    rw [← hgap'.skipGaps_eq more] at hvalue
    have hsplit : '"' :: (body ++ ['"']) ++ (gap ++ ':' :: (gap' ++ used)) ++ more =
        '"' :: (body ++ '"' :: (gap ++ ([':'] ++ (gap' ++ (used ++ more))))) := by simp
    rw [hsplit]
    exact readField_eq (hread _ _) (hgap.skipGaps_eq _) hvalue

theorem fieldsSpelled_succ {fuel : Nat} (hvalues : ValuesSpelled fuel)
    (hfields : FieldsSpelled fuel) : FieldsSpelled (fuel + 1) := by
  intro before cs rest v h
  obtain ⟨field, behind, hfield, hend⟩ := readFields_cases h
  obtain ⟨used, rfl, hused⟩ := exists_field hvalues hfield
  rcases hend with ⟨hclose, rfl⟩ | ⟨more, hcomma, hrest⟩
  · obtain ⟨gap, rfl, hgap⟩ := exists_gap (List.cons_ne_nil '\x7d' []) hclose
    exact ⟨used ++ (gap ++ ['\x7d']), by simp, by simp, hused.close hgap rfl (by decide)
      fun _ _ _ _ => readFields_last⟩
  · obtain ⟨used', hmore, hlast, hused'⟩ := hfields _ _ _ _ hrest
    obtain ⟨gap, rfl, hgap⟩ := exists_gap (List.cons_ne_nil ',' []) hcomma
    obtain ⟨gap', rfl, hgap'⟩ := exists_gap hused'.nonempty hmore
    exact ⟨used ++ (gap ++ ',' :: (gap' ++ used')), by simp,
      by simp [List.getLast?_cons, hlast],
      hused.comma hgap hused' hgap' fun _ _ _ _ => readFields_next⟩

/-- Brackets stay empty or filled whatever stands behind them. -/
theorem not_closed {used rest : List Char} {bracket : Char} (hne : used ≠ [])
    (h : ∀ behind, used ++ rest = bracket :: behind → False) (more behind : List Char) :
    used ++ more ≠ bracket :: behind := by
  obtain ⟨c, used, rfl⟩ := List.exists_cons_of_ne_nil hne
  rintro heq
  obtain ⟨rfl, -⟩ := List.cons.inj heq
  exact h _ rfl

theorem exists_list {fuel : Nat} (hitems : ItemsSpelled fuel) {cs rest : List Char} {v : Json}
    (h : readValue (fuel + 1) ('[' :: cs) = .ok (v, rest)) :
    ∃ used, cs = used ++ rest ∧ Spells readValue Anything ('[' :: used) v := by
  rw [readValue] at h
  split at h
  next hclose =>
    cases h
    obtain ⟨gap, rfl, hgap⟩ := exists_gap (List.cons_ne_nil ']' []) hclose
    refine ⟨gap ++ [']'], by simp,
      (spells_bracket (by decide) (Json.arr [])).opened hgap (by decide) fun fuel cs more heq => ?_⟩
    rw [readValue, heq]
    rfl
  next hopen =>
    obtain ⟨used, hused, hspelled⟩ := hitems _ _ _ _ h
    obtain ⟨gap, rfl, hgap⟩ := exists_gap hspelled.nonempty hused
    refine ⟨gap ++ used, by simp, hspelled.opened hgap (by decide) fun fuel cs more heq => ?_⟩
    rw [readValue, heq]
    split
    next hclose => exact absurd hclose (not_closed hspelled.nonempty (hused ▸ hopen) _ _)
    next => rfl

/-- An object is read in front of anything. -/
theorem exists_object {fuel : Nat} (hfields : FieldsSpelled fuel) {cs rest : List Char} {v : Json}
    (h : readValue (fuel + 1) ('\x7b' :: cs) = .ok (v, rest)) :
    ∃ used, cs = used ++ rest ∧ used.getLast? = some '\x7d' ∧
      Spells readValue Anything ('\x7b' :: used) v := by
  rw [readValue] at h
  split at h
  next hclose =>
    cases h
    obtain ⟨gap, rfl, hgap⟩ := exists_gap (List.cons_ne_nil '\x7d' []) hclose
    refine ⟨gap ++ ['\x7d'], by simp, by simp,
      (spells_bracket (by decide) (Json.obj [])).opened hgap (by decide) fun fuel cs more heq => ?_⟩
    rw [readValue, heq]
    rfl
  next hopen =>
    obtain ⟨used, hused, hlast, hspelled⟩ := hfields _ _ _ _ h
    obtain ⟨gap, rfl, hgap⟩ := exists_gap hspelled.nonempty hused
    refine ⟨gap ++ used, by simp, by simp [hlast],
      hspelled.opened hgap (by decide) fun fuel cs more heq => ?_⟩
    rw [readValue, heq]
    split
    next hclose => exact absurd hclose (not_closed hspelled.nonempty (hused ▸ hopen) _ _)
    next => rfl

theorem Spells.mono {α : Type} {read : Nat → List Char → Step α}
    {follows follows' : List Char → Prop} {used : List Char} {a : α}
    (h : Spells read follows used a) (hfollows : ∀ cs, follows' cs → follows cs) :
    Spells read follows' used a :=
  ⟨h.nonempty, h.sheltered,
    fun fuel more hfuel hmore => h.read_eq fuel more hfuel (hfollows more hmore)⟩

theorem exists_text {fuel : Nat} {cs rest : List Char} {v : Json}
    (h : readValue (fuel + 1) ('"' :: cs) = .ok (v, rest)) :
    ∃ used, cs = used ++ rest ∧ Spells readValue Anything ('"' :: used) v := by
  rw [readValue] at h
  split at h
  next text behind htext =>
    cases h
    obtain ⟨body, rfl, hplain, hread⟩ := enclosed_of_readString htext
    refine ⟨body ++ ['"'], by simp, by simp, sheltered_string hplain, fun fuel more hfuel _ => ?_⟩
    obtain ⟨fuel, rfl⟩ := Nat.exists_eq_add_one.mpr (Nat.lt_of_lt_of_le (Nat.succ_pos _) hfuel)
    rw [List.cons_append, List.append_assoc, readValue, List.singleton_append, hread]
  next => cases h

theorem exists_scalar {fuel : Nat} {c : Char} (hc : c ∉ ['"', '\x7b', '[']) {cs rest : List Char}
    {v : Json} (h : readValue (fuel + 1) (c :: cs) = .ok (v, rest)) :
    ∃ used, cs = used ++ rest ∧ Spells readValue (Breaks isFigure) (c :: used) v := by
  obtain ⟨used, rfl, hplain, hread⟩ := exists_takes_scalar hc h
  refine ⟨used, rfl, by simp, hplain.sheltered, fun fuel more hfuel hmore => ?_⟩
  obtain ⟨fuel, rfl⟩ := Nat.exists_eq_add_one.mpr (Nat.lt_of_lt_of_le (Nat.succ_pos _) hfuel)
  exact hread fuel more hmore

theorem valuesSpelled_succ {fuel : Nat} (hitems : ItemsSpelled fuel)
    (hfields : FieldsSpelled fuel) : ValuesSpelled (fuel + 1) := by
  intro cs rest v h
  cases cs with
  | nil => cases h
  | cons c cs =>
      by_cases hquote : c = '"'
      · subst hquote
        obtain ⟨used, rfl, hused⟩ := exists_text h
        exact ⟨'"' :: used, rfl, hused.mono fun _ _ => trivial⟩
      by_cases hbrace : c = '\x7b'
      · subst hbrace
        obtain ⟨used, rfl, -, hused⟩ := exists_object hfields h
        exact ⟨'\x7b' :: used, rfl, hused.mono fun _ _ => trivial⟩
      by_cases hbracket : c = '['
      · subst hbracket
        obtain ⟨used, rfl, hused⟩ := exists_list hitems h
        exact ⟨'[' :: used, rfl, hused.mono fun _ _ => trivial⟩
      obtain ⟨used, rfl, hused⟩ := exists_scalar (by simp [hquote, hbrace, hbracket]) h
      exact ⟨c :: used, rfl, hused⟩

/-- Each of the readers calls the others with less fuel than it has. -/
theorem spelled (fuel : Nat) : ValuesSpelled fuel ∧ ItemsSpelled fuel ∧ FieldsSpelled fuel := by
  induction fuel with
  | zero =>
      refine ⟨?_, ?_, ?_⟩
      · rintro cs rest v ⟨⟩
      · rintro items cs rest v ⟨⟩
      · rintro before cs rest v ⟨⟩
  | succ fuel ih =>
      obtain ⟨hvalues, hitems, hfields⟩ := ih
      exact ⟨valuesSpelled_succ hitems hfields, itemsSpelled_succ hvalues hitems,
        fieldsSpelled_succ hvalues hfields⟩

/-! ## Objects -/

theorem readItems_ne_obj {fuel : Nat} {items : List Json} {cs rest : List Char}
    {fields : List (String × Json)} : readItems fuel items cs ≠ .ok (.obj fields, rest) := by
  induction fuel generalizing items cs with
  | zero => exact fun h => nomatch h
  | succ fuel ih =>
      intro h
      obtain ⟨value, behind, -, ⟨-, heq⟩ | ⟨more, -, hrest⟩⟩ := readItems_cases h
      · cases heq
      · exact ih hrest

theorem assembled_ne_obj {negative : Bool} {run : Numeral.Run} {fraction : Option Numeral.Run}
    {power : Option Int} {fields : List (String × Json)} :
    assembled negative run fraction power ≠ .ok (.obj fields) := by
  intro h
  unfold assembled at h
  split at h
  · split at h <;> cases h
  · cases h

theorem readNumber_ne_obj {start cs rest : List Char} {negative : Bool}
    {fields : List (String × Json)} : readNumber start negative cs ≠ .ok (.obj fields, rest) := by
  intro h
  rw [readNumber_eq] at h
  split at h
  next => cases h
  next run behind _ =>
    dsimp only at h
    rcases hnumber : assembled negative run (part takeFraction behind).1
      (part takePower (part takeFraction behind).2).1 with stop | value <;>
      rw [hnumber] at h <;> cases h
    exact assembled_ne_obj hnumber

/-- Only a brace begins an object. -/
theorem eq_brace_of_readValue {fuel : Nat} {c : Char} {cs rest : List Char}
    {fields : List (String × Json)} (h : readValue (fuel + 1) (c :: cs) = .ok (.obj fields, rest)) :
    c = '\x7b' := by
  by_contra hbrace
  by_cases hquote : c = '"'
  · subst hquote
    rw [readValue] at h
    split at h <;> cases h
  by_cases hbracket : c = '['
  · subst hbracket
    rw [readValue] at h
    split at h
    next => cases h
    next => exact readItems_ne_obj h
  rw [readValue_scalar (by simp [hquote, hbrace, hbracket])] at h
  split at h
  next hname =>
    cases h
    obtain ⟨name, -, hmem, -⟩ := exists_takes_readName? hname
    simp [names] at hmem
  next => split at h <;> exact readNumber_ne_obj h

/-- A text from an opening brace to the closing one that belongs to it. -/
structure ObjectText (used : List Char) (fields : List (String × Json)) : Prop where
  spells : Spells readValue Anything used (.obj fields)
  first : used.head? = some '\x7b'
  last : used.getLast? = some '\x7d'

/-- Nothing of the text is blank at either end. -/
theorem ObjectText.trim_eq {used : List Char} {fields : List (String × Json)}
    (h : ObjectText used fields) : Text.trim used = used := by
  obtain ⟨inside, hfirst⟩ := List.head?_eq_some_iff.mp h.first
  obtain ⟨init, hlast⟩ := List.getLast?_eq_some_iff.mp h.last
  have hstart : Text.trimStart used = used := by rw [hfirst]; rfl
  have hend : Text.trimEnd used = used := by
    rw [hlast, Text.trimEnd, List.reverse_append]
    change (List.reverse ('\x7d' :: init.reverse)) = _
    rw [List.reverse_cons, List.reverse_reverse]
  rw [Text.trim, hstart, hend]

theorem skipGaps_of_gaps {gap : List Char} (h : ∀ c ∈ gap, isGap c = true) : skipGaps gap = [] := by
  simpa [skipGaps] using h

/-- A text is an object when it spells one between gaps. -/
theorem readAll_eq_obj_iff {cs : List Char} {fields : List (String × Json)} :
    readAll cs = .ok (.obj fields) ↔ ∃ gap used gap', cs = gap ++ (used ++ gap') ∧
      (∀ c ∈ gap, isGap c = true) ∧ (∀ c ∈ gap', isGap c = true) ∧ ObjectText used fields := by
  constructor
  · intro h
    unfold readAll at h
    split at h
    next => cases h
    next =>
      split at h
      next => cases h
      next v rest hvalue =>
        split at h
        next hend =>
          cases h
          cases htext : skipGaps cs with
          | nil => rw [htext] at hvalue; cases hvalue
          | cons c text =>
              rw [htext] at hvalue
              cases eq_brace_of_readValue hvalue
              obtain ⟨used, rfl, hlast, hused⟩ := exists_object (spelled _).2.2 hvalue
              refine ⟨cs.takeWhile isGap, '\x7b' :: used, rest, ?_, ?_, ?_, ?_, rfl, ?_⟩
              · rw [List.cons_append, ← htext]
                exact List.takeWhile_append_dropWhile.symm
              · exact fun c hc => List.mem_takeWhile_imp hc
              · simpa [skipGaps] using hend
              · exact hused
              · simp [List.getLast?_cons, hlast]
        next => cases h
  · rintro ⟨gap, used, gap', rfl, hgap, hgap', hspells, hfirst, -⟩
    obtain ⟨used, rfl⟩ := List.head?_eq_some_iff.mp hfirst
    have hskip : skipGaps (gap ++ ('\x7b' :: used ++ gap')) = '\x7b' :: used ++ gap' := by
      rw [skipGaps, List.dropWhile_append_of_pos hgap]
      rfl
    have hread := hspells.read_eq ((gap ++ ('\x7b' :: used ++ gap')).length + 1) gap'
      (by simp only [List.length_append]; omega) trivial
    unfold readAll
    split
    next heq =>
      cases gap with
      | nil => cases heq
      | cons c gap =>
          obtain ⟨rfl, -⟩ := List.cons.inj heq
          exact absurd (hgap _ List.mem_cons_self) (by decide)
    next => simp only [hskip, hread, skipGaps_of_gaps hgap']

theorem sheltered_of_readAll {cs : List Char} {fields : List (String × Json)}
    (h : readAll cs = .ok (.obj fields)) : Sheltered cs := by
  obtain ⟨gap, used, gap', rfl, hgap, hgap', hused⟩ := readAll_eq_obj_iff.mp h
  exact (fenceless_gap hgap).sheltered.append
    (hused.spells.sheltered.append (fenceless_gap hgap').sheltered)

/-- The brace that opens an object settles where it closes and what it holds. -/
theorem ObjectText.unique {used used' more more' : List Char}
    {fields fields' : List (String × Json)} (h : ObjectText used fields)
    (h' : ObjectText used' fields') (heq : used ++ more = used' ++ more') : fields = fields' := by
  have hread := h.spells.read_eq (used.length + used'.length) more (by omega) trivial
  have hread' := h'.spells.read_eq (used.length + used'.length) more' (by omega) trivial
  rw [heq, hread'] at hread
  cases hread
  rfl

end ContractReview.Json
