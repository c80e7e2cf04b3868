import ContractReview.Number.Decimal
import ContractReview.Proofs.Json.Spelling
import ContractReview.Proofs.Number.Plain

/-!
JSON as programs write it, on one line: control characters are escaped in a text, and any other
character may stand as it is. What is written in this way is read again as the same value.
-/

namespace ContractReview.Json

/-! ## Texts -/

/-- How a character is written in a text: as it is, unless it is a mark of the text or a control
character, or as an escape of any kind. -/
inductive CharacterWritten (c : Char) : List Char → Prop
  | bare : c ≠ '"' → c ≠ '\\' → 32 ≤ c.toNat → CharacterWritten c [c]
  | escape {e : Char} : simpleEscape? e = some c → CharacterWritten c ['\\', e]
  | unit {x y z w : Char} :
      hexFour? x y z w = some c.toNat → CharacterWritten c ['\\', 'u', x, y, z, w]
  | pair {x y z w x' y' z' w' : Char} {high low : Nat} :
      hexFour? x y z w = some high → isHigh high = true →
      hexFour? x' y' z' w' = some low → isLow low = true →
      c.toNat = 0x10000 + (high - 0xD800) * 0x400 + (low - 0xDC00) →
        CharacterWritten c ['\\', 'u', x, y, z, w, '\\', 'u', x', y', z', w']

/-- The inside of a text, character by character. -/
inductive TextWritten : (text body : List Char) → Prop
  | nil : TextWritten [] []
  | cons {c : Char} {piece text body : List Char} :
      CharacterWritten c piece → TextWritten text body → TextWritten (c :: text) (piece ++ body)

theorem CharacterWritten.plain {c : Char} {piece : List Char} (h : CharacterWritten c piece) :
    ∀ d ∈ piece, 32 ≤ d.toNat := by
  cases h with
  | bare _ _ hc => exact List.forall_mem_singleton.mpr hc
  | escape he => exact le_toNat_of_simpleEscape? he
  | unit hunit => exact le_toNat_of_hexFour? hunit
  | pair hhigh _ hlow _ _ =>
      exact List.forall_mem_append.mpr ⟨le_toNat_of_hexFour? hhigh, le_toNat_of_hexFour? hlow⟩

theorem TextWritten.plain {text body : List Char} (h : TextWritten text body) :
    ∀ d ∈ body, 32 ≤ d.toNat := by
  induction h with
  | nil => simp
  | cons hc _ ih => exact List.forall_mem_append.mpr ⟨hc.plain, ih⟩

/-- No character is half of a pair. -/
theorem not_surrogate (c : Char) : isHigh c.toNat = false ∧ isLow c.toNat = false := by
  have hvalid : c.toNat < 0xD800 ∨ 0xDFFF < c.toNat := c.valid.imp id And.left
  simp only [isHigh, isLow, Bool.and_eq_false_iff, decide_eq_false_iff_not]
  omega

theorem loneChar_toNat (c : Char) : loneChar c.toNat = c := by
  obtain ⟨hhigh, hlow⟩ := not_surrogate c
  rw [loneChar, hhigh, hlow]
  exact Char.ofNat_toNat c

theorem pushCode_of_not_low {code : Nat} (h : isLow code = false) (taken : List Nat) :
    pushCode code taken = code :: taken := by
  cases taken with
  | nil => rfl
  | cons high taken => simp [pushCode, h]

theorem pushCode_low {high low : Nat} (hhigh : isHigh high = true) (hlow : isLow low = true)
    (taken : List Nat) : pushCode low (high :: taken) =
      (0x10000 + (high - 0xD800) * 0x400 + (low - 0xDC00)) :: taken := by
  simp [pushCode, hhigh, hlow]

theorem not_low_of_high {code : Nat} (h : isHigh code = true) : isLow code = false := by
  simp only [isHigh, isLow, Bool.and_eq_true, decide_eq_true_eq, Bool.and_eq_false_iff,
    decide_eq_false_iff_not] at h ⊢
  omega

theorem readString_unit {x y z w : Char} {code : Nat} (h : hexFour? x y z w = some code)
    (opening : List Char) (taken : List Nat) {rest : List Char} (hrest : rest ≠ []) :
    readString opening taken ('\\' :: 'u' :: x :: y :: z :: w :: rest) =
      readString opening (pushCode code taken) rest := by
  simp [readString, h, hrest]

theorem ne_u_of_simpleEscape? {c e : Char} (h : simpleEscape? e = some c) : e ≠ 'u' := by
  rintro rfl
  cases h

theorem CharacterWritten.readString_append {c : Char} {piece : List Char}
    (h : CharacterWritten c piece) (opening : List Char) (taken : List Nat) {more : List Char}
    (hmore : more ≠ []) : readString opening taken (piece ++ more) =
      readString opening (c.toNat :: taken) more := by
  cases h with
  | bare hquote hback hc => exact readString_plain hquote hback hc opening taken more
  | escape he => exact readString_escape (ne_u_of_simpleEscape? he) he opening taken more
  | unit hunit =>
      rw [← pushCode_of_not_low (not_surrogate c).2]
      exact readString_unit hunit opening taken hmore
  | pair hhigh hishigh hlow hislow hc =>
      rw [hc, ← pushCode_low hishigh hislow, ← pushCode_of_not_low (not_low_of_high hishigh)]
      exact (readString_unit hhigh opening taken (by simp)).trans
        (readString_unit hlow opening _ hmore)

theorem TextWritten.readString_append {text body : List Char} (h : TextWritten text body)
    (opening : List Char) (taken : List Nat) (more : List Char) :
    readString opening taken (body ++ '"' :: more) =
      .ok (String.ofList (taken.reverse.map loneChar ++ text), more) := by
  induction h generalizing taken with
  | nil => simp [readString]
  | @cons c piece text body hc _ ih =>
      rw [List.append_assoc, hc.readString_append _ _ (by simp), ih]
      simp [loneChar_toNat]

/-! ## Numbers -/

theorem isAsciiDigit_of_mem_natText {n : Nat} {c : Char} (h : c ∈ Double.natText n) :
    isAsciiDigit c = true := by
  have hdigit := Double.isDigit_of_mem_natText h
  simp only [Char.isDigit, Bool.and_eq_true, decide_eq_true_eq] at hdigit
  simp only [isAsciiDigit, Bool.and_eq_true, decide_eq_true_eq]
  exact hdigit

theorem takeDigits_append {digits : List Char} (h : ∀ c ∈ digits, isAsciiDigit c = true)
    (run : Numeral.Run) {more : List Char} (hmore : Breaks isAsciiDigit more) :
    takeDigits run (digits ++ more) =
      (⟨Nat.ofDigitChars 10 digits run.value, run.count + digits.length⟩, more) := by
  induction digits generalizing run with
  | nil => exact takeDigits_of_breaks run hmore
  | cons c digits ih =>
      obtain ⟨hc, hdigits⟩ := List.forall_mem_cons.mp h
      rw [List.cons_append, takeDigits_cons hc, ih hdigits, Nat.ofDigitChars_cons, List.length_cons,
        Numeral.Run.push, Nat.mul_comm 10, Nat.add_right_comm, Nat.add_assoc]
      rfl

theorem wholePart?_natText (n : Nat) {more : List Char} (hmore : Breaks isAsciiDigit more) :
    wholePart? (Double.natText n ++ more) = some (⟨n, (Double.natText n).length⟩, more) := by
  by_cases hn : n = 0
  · subst hn
    rfl
  · obtain ⟨c, cs, hcs⟩ := List.exists_cons_of_ne_nil
      (show Double.natText n ≠ [] from Nat.toDigits_ne_nil)
    have hdigits : ∀ d ∈ c :: cs, isAsciiDigit d = true := fun d hd =>
      isAsciiDigit_of_mem_natText (hcs ▸ hd)
    have hzero : c ≠ '0' := fun heq =>
      Double.head_natText_ne_zero hn (by rw [hcs, heq, List.head?_cons])
    have hvalue : Nat.ofDigitChars 10 (c :: cs) 0 = n := by
      rw [← hcs]
      exact Nat.ofDigitChars_toDigits (by decide) (by decide)
    have htake := takeDigits_append hdigits ⟨0, 0⟩ hmore
    rw [hvalue, Nat.zero_add] at htake
    rw [hcs, List.cons_append, wholePart?.eq_2 _ _ (fun heq => absurd heq hzero),
      if_pos (hdigits c List.mem_cons_self), ← List.cons_append, htake]

theorem not_mark_of_isAsciiDigit {d : Char} (hd : isAsciiDigit d = true) :
    d ∉ ['"', '\x7b', '['] ∧ d ≠ '-' ∧ d ≠ '\x60' := by
  refine ⟨fun hmem => ?_, ?_, ?_⟩
  · simp only [List.mem_cons, List.not_mem_nil, or_false] at hmem
    rcases hmem with rfl | rfl | rfl <;> exact absurd hd (by decide)
  · rintro rfl
    exact absurd hd (by decide)
  · rintro rfl
    exact absurd hd (by decide)

/-- A point with digits behind it, or nothing. -/
inductive FractionWritten : Option Numeral.Run → List Char → Prop
  | none : FractionWritten none []
  | digits {ds : List Char} : ds ≠ [] → (∀ c ∈ ds, isAsciiDigit c = true) →
      FractionWritten (some ⟨Nat.ofDigitChars 10 ds 0, ds.length⟩) ('.' :: ds)

/-- A power of ten behind its mark, or nothing. -/
inductive PowerWritten : Option Int → List Char → Prop
  | none : PowerWritten none []
  | plain {mark : Char} {ds : List Char} : mark = 'e' ∨ mark = 'E' → ds ≠ [] →
      (∀ c ∈ ds, isAsciiDigit c = true) →
        PowerWritten (some (Nat.ofDigitChars 10 ds 0)) (mark :: ds)
  | plus {mark : Char} {ds : List Char} : mark = 'e' ∨ mark = 'E' → ds ≠ [] →
      (∀ c ∈ ds, isAsciiDigit c = true) →
        PowerWritten (some (Nat.ofDigitChars 10 ds 0)) (mark :: '+' :: ds)
  | minus {mark : Char} {ds : List Char} : mark = 'e' ∨ mark = 'E' → ds ≠ [] →
      (∀ c ∈ ds, isAsciiDigit c = true) →
        PowerWritten (some (-(Nat.ofDigitChars 10 ds 0 : Int))) (mark :: '-' :: ds)

/-- A minus sign before what is negative. -/
def signText (negative : Bool) : List Char := if negative then ['-'] else []

section Parts

variable {fraction : Option Numeral.Run} {power : Option Int} {f p more : List Char}

theorem FractionWritten.takes (h : FractionWritten fraction f) (hmore : Breaks isPoint more) :
    part takeFraction (f ++ more) = (fraction, more) := by
  cases h with
  | none => exact part_of_none (takeFraction_of_breaks hmore)
  | @digits ds hne hdigits =>
      obtain ⟨d, ds, rfl⟩ := List.exists_cons_of_ne_nil hne
      have htake := takeDigits_append hdigits ⟨0, 0⟩ (hmore.mono isPoint_of_isAsciiDigit)
      rw [Nat.zero_add] at htake
      refine part_of_some ?_
      rw [List.cons_append, List.cons_append, takeFraction_point (hdigits d List.mem_cons_self),
        ← List.cons_append, htake]

theorem unsigned_digits {ds : List Char} (hne : ds ≠ []) (hdigits : ∀ c ∈ ds, isAsciiDigit c = true)
    (more : List Char) : Numeral.unsigned (ds ++ more) = (false, ds ++ more) := by
  obtain ⟨d, ds, rfl⟩ := List.exists_cons_of_ne_nil hne
  have hd := hdigits d List.mem_cons_self
  rw [List.cons_append]
  unfold Numeral.unsigned
  split
  next heq => cases heq; cases hd
  next heq => cases heq; cases hd
  next => rfl

theorem takePower_digits {mark : Char} (hmark : mark = 'e' ∨ mark = 'E') {ds signed : List Char}
    (hne : ds ≠ []) (hdigits : ∀ c ∈ ds, isAsciiDigit c = true) {negative : Bool}
    (hsign : Numeral.unsigned signed = (negative, ds ++ more)) (hmore : Breaks isAsciiDigit more) :
    takePower (mark :: signed) = some (if negative then -(Nat.ofDigitChars 10 ds 0 : Int)
      else Nat.ofDigitChars 10 ds 0, more) := by
  have htake := takeDigits_append hdigits ⟨0, 0⟩ hmore
  rw [Nat.zero_add] at htake
  rw [takePower_mark hmark hsign htake, if_neg (List.length_eq_zero_iff.not.mpr hne)]

theorem PowerWritten.takes (h : PowerWritten power p) (hmore : Breaks isFigure more) :
    part takePower (p ++ more) = (power, more) := by
  have hdigit : Breaks isAsciiDigit more :=
    (hmore.mono isFigure_of_isPoint).mono isPoint_of_isAsciiDigit
  cases h with
  | none => exact part_of_none (takePower_of_breaks hmore)
  | plain hmark hne hdigits =>
      exact part_of_some
        (takePower_digits hmark hne hdigits (unsigned_digits hne hdigits more) hdigit)
  | @plus mark ds hmark hne hdigits =>
      have hsign : Numeral.unsigned ('+' :: (ds ++ more)) = (false, ds ++ more) := rfl
      exact part_of_some (takePower_digits hmark hne hdigits hsign hdigit)
  | @minus mark ds hmark hne hdigits =>
      have hsign : Numeral.unsigned ('-' :: (ds ++ more)) = (true, ds ++ more) := rfl
      exact part_of_some (takePower_digits hmark hne hdigits hsign hdigit)

theorem PowerWritten.breaks (h : PowerWritten power p) (hmore : Breaks isFigure more) :
    Breaks isPoint (p ++ more) := by
  cases h with
  | none => exact hmore.mono isFigure_of_isPoint
  | plain hmark | plus hmark | minus hmark => rcases hmark with rfl | rfl <;> rfl

theorem FractionWritten.breaks (h : FractionWritten fraction f) (hmore : Breaks isPoint more) :
    Breaks isAsciiDigit (f ++ more) := by
  cases h with
  | none => exact hmore.mono isPoint_of_isAsciiDigit
  | digits => rfl

/-- What holds of digits and of the marks of a numeral, holds of all its characters. -/
theorem forall_numeral {P : Char → Prop} (hdigit : ∀ c, isAsciiDigit c = true → P c)
    (hmarks : ∀ c ∈ ['-', '+', '.', 'e', 'E'], P c) (negative : Bool) (n : Nat)
    (hf : FractionWritten fraction f) (hp : PowerWritten power p) :
    ∀ c ∈ signText negative ++ (Double.natText n ++ (f ++ p)), P c := by
  have hdigits {ds : List Char} (h : ∀ c ∈ ds, isAsciiDigit c = true) : ∀ c ∈ ds, P c :=
    fun c hc => hdigit c (h c hc)
  have hsign : ∀ c ∈ signText negative, P c := by
    cases negative
    · exact fun _ h => nomatch h
    · exact List.forall_mem_singleton.mpr (hmarks _ (by decide))
  have hfraction : ∀ c ∈ f, P c := by
    cases hf with
    | none => exact fun _ h => nomatch h
    | digits _ h => exact List.forall_mem_cons.mpr ⟨hmarks _ (by decide), hdigits h⟩
  have hmark {mark : Char} (h : mark = 'e' ∨ mark = 'E') : P mark := by
    rcases h with rfl | rfl <;> exact hmarks _ (by decide)
  have hpower : ∀ c ∈ p, P c := by
    cases hp with
    | none => exact fun _ h => nomatch h
    | plain h _ hds => exact List.forall_mem_cons.mpr ⟨hmark h, hdigits hds⟩
    | plus h _ hds | minus h _ hds =>
        exact List.forall_mem_cons.mpr ⟨hmark h, List.forall_mem_cons.mpr
          ⟨hmarks _ (by decide), hdigits hds⟩⟩
  exact List.forall_mem_append.mpr ⟨hsign, List.forall_mem_append.mpr
    ⟨hdigits fun c hc => isAsciiDigit_of_mem_natText hc,
      List.forall_mem_append.mpr ⟨hfraction, hpower⟩⟩⟩

theorem readNumber_numeral {n : Nat} {negative : Bool} {v : Json} (hf : FractionWritten fraction f)
    (hp : PowerWritten power p)
    (hv : assembled negative ⟨n, (Double.natText n).length⟩ fraction power = .ok v)
    (hmore : Breaks isFigure more) (start : List Char) :
    readNumber start negative (Double.natText n ++ (f ++ (p ++ more))) = .ok (v, more) := by
  have hpower : Breaks isPoint (p ++ more) := hp.breaks hmore
  rw [readNumber_eq, wholePart?_natText n (hf.breaks hpower)]
  simp only [hf.takes hpower, hp.takes hmore, hv]
  rfl

/-- A numeral is read as the number that its parts make. -/
theorem spells_numeral {n : Nat} {negative : Bool} {v : Json} (hf : FractionWritten fraction f)
    (hp : PowerWritten power p)
    (hv : assembled negative ⟨n, (Double.natText n).length⟩ fraction power = .ok v) :
    Spells readValue (Breaks isFigure) (signText negative ++ (Double.natText n ++ (f ++ p))) v := by
  obtain ⟨d, ds, hds⟩ := List.exists_cons_of_ne_nil
    (show Double.natText n ≠ [] from Nat.toDigits_ne_nil)
  have hd : isAsciiDigit d = true := isAsciiDigit_of_mem_natText (hds ▸ List.mem_cons_self)
  obtain ⟨hmark, hminus, -⟩ := not_mark_of_isAsciiDigit hd
  have hfences : Fenceless (signText negative ++ (Double.natText n ++ (f ++ p))) :=
    forall_numeral (fun c hc => (not_mark_of_isAsciiDigit hc).2.2) (by simp) negative n hf hp
  refine ⟨by simp [hds], hfences.sheltered, fun fuel more hfuel hmore => ?_⟩
  simp only [List.length_append, hds, List.length_cons] at hfuel
  obtain ⟨fuel, rfl⟩ : ∃ before, fuel = before + 1 := Nat.exists_eq_add_one.mpr (by omega)
  have hread := readNumber_numeral hf hp hv hmore
    (signText negative ++ d :: (ds ++ (f ++ (p ++ more))))
  rw [hds, List.cons_append] at hread
  rw [hds]
  simp only [List.append_assoc, List.cons_append]
  cases negative with
  | true =>
      rw [signText, if_pos rfl, List.singleton_append, readValue_scalar (by decide),
        readName?_of_digit hd (.inr rfl)]
      exact hread
  | false =>
      rw [signText, if_neg Bool.false_ne_true, List.nil_append, readValue_scalar hmark,
        readName?_of_digit hd (.inl rfl)]
      simp only [if_neg hminus]
      exact hread

end Parts

theorem intText_eq (i : Int) :
    Double.intText i = signText (decide (i < 0)) ++ (Double.natText i.natAbs ++ ([] ++ [])) := by
  by_cases hi : i < 0 <;> simp [Double.intText, signText, hi]

/-- The numeral of a whole number is read as that number. -/
theorem spells_whole {i : Int} (h : i.natAbs < 10 ^ Numeral.digitLimit) :
    Spells readValue (Breaks isFigure) (Double.intText i) (.num (.int i)) := by
  have hlength : (Double.natText i.natAbs).length ≤ Numeral.digitLimit :=
    (Nat.length_toDigits_le_iff (by decide) (by decide)).mpr h
  have hvalue : (if decide (i < 0) then -(i.natAbs : Int) else i.natAbs) = i := by
    simp only [decide_eq_true_eq]
    omega
  rw [intText_eq]
  refine spells_numeral .none .none ?_
  simp only [assembled, Option.isNone_none, Bool.and_self, if_true, if_neg (Nat.not_lt.mpr hlength),
    hvalue]

/-- The number of a numeral with a fraction or a power. -/
def decimal (negative : Bool) (n : Nat) (fraction : Option Numeral.Run) (power : Option Int) :
    Json :=
  let tail := fraction.getD ⟨0, 0⟩
  .num (.float (Double.ofDecimal negative (n * 10 ^ tail.count + tail.value)
    (power.getD 0 - tail.count)))

theorem assembled_of_isSome {fraction : Option Numeral.Run} {power : Option Int}
    (h : fraction.isSome ∨ power.isSome) (negative : Bool) (run : Numeral.Run) :
    assembled negative run fraction power = .ok (decimal negative run.value fraction power) := by
  have hparts : (fraction.isNone && power.isNone) = false := by
    rw [Bool.and_eq_false_iff, ← Option.not_isSome, ← Option.not_isSome, Bool.not_eq_false',
      Bool.not_eq_false']
    exact h
  rw [assembled, hparts]
  rfl

/-! ## Values -/

/-- Blanks between the parts of a value, which stay on the line. -/
def Spacing (gap : List Char) : Prop := ∀ c ∈ gap, c = ' ' ∨ c = '\t'

mutual

/-- The value in one line. A whole number has no more digits than are read, and no object has two
fields of one name. -/
inductive Written : Json → List Char → Prop
  | null : Written .null ['n', 'u', 'l', 'l']
  | yes : Written (.bool true) ['t', 'r', 'u', 'e']
  | no : Written (.bool false) ['f', 'a', 'l', 's', 'e']
  | whole {i : Int} :
      i.natAbs < 10 ^ Numeral.digitLimit → Written (.num (.int i)) (Double.intText i)
  | decimal {negative : Bool} {n : Nat} {fraction : Option Numeral.Run} {power : Option Int}
      {f p : List Char} : FractionWritten fraction f → PowerWritten power p →
        fraction.isSome ∨ power.isSome → Written (decimal negative n fraction power)
          (signText negative ++ (Double.natText n ++ (f ++ p)))
  | text {s : String} {body : List Char} :
      TextWritten s.toList body → Written (.str s) ('"' :: (body ++ ['"']))
  | nothing {gap : List Char} : Spacing gap → Written (.arr []) ('[' :: (gap ++ [']']))
  | list {gap cs : List Char} {items : List Json} :
      Spacing gap → ItemsWritten items cs → Written (.arr items) ('[' :: (gap ++ cs))
  | blank {gap : List Char} : Spacing gap → Written (.obj []) ('\x7b' :: (gap ++ ['\x7d']))
  | object {gap cs : List Char} {fields : List (String × Json)} :
      Spacing gap → (fields.map Prod.fst).Nodup → FieldsWritten fields cs →
        Written (.obj fields) ('\x7b' :: (gap ++ cs))

/-- The items of a list and its closing bracket. -/
inductive ItemsWritten : List Json → List Char → Prop
  | last {v : Json} {cs gap : List Char} :
      Written v cs → Spacing gap → ItemsWritten [v] (cs ++ (gap ++ [']']))
  | next {v : Json} {items : List Json} {cs gap gap' rest : List Char} :
      Written v cs → Spacing gap → Spacing gap' → ItemsWritten items rest →
        ItemsWritten (v :: items) (cs ++ (gap ++ ',' :: (gap' ++ rest)))

/-- The fields of an object and its closing brace. -/
inductive FieldsWritten : List (String × Json) → List Char → Prop
  | last {field : String × Json} {cs gap : List Char} :
      FieldWritten field cs → Spacing gap → FieldsWritten [field] (cs ++ (gap ++ ['\x7d']))
  | next {field : String × Json} {fields : List (String × Json)} {cs gap gap' rest : List Char} :
      FieldWritten field cs → Spacing gap → Spacing gap' → FieldsWritten fields rest →
        FieldsWritten (field :: fields) (cs ++ (gap ++ ',' :: (gap' ++ rest)))

inductive FieldWritten : String × Json → List Char → Prop
  | mk {name : String} {v : Json} {body gap gap' cs : List Char} :
      TextWritten name.toList body → Spacing gap → Spacing gap' → Written v cs →
        FieldWritten (name, v) ('"' :: (body ++ ['"']) ++ (gap ++ ':' :: (gap' ++ cs)))

end

/-! ## What is written is read -/

theorem Spacing.gapBefore {gap : List Char} (h : Spacing gap) {c : Char} (hc : isGap c = false)
    (used : List Char) : GapBefore gap (c :: used) where
  gaps := fun d hd => by rcases h d hd with rfl | rfl <;> rfl
  skipGaps_eq := fun more => by
    have hgaps : ∀ d ∈ gap, isGap d = true := fun d hd => by
      rcases h d hd with rfl | rfl <;> rfl
    rw [skipGaps, List.dropWhile_append_of_pos hgaps]
    exact List.dropWhile_cons_of_neg (by simp [hc])

/-- A text begins with no gap and closes no bracket. -/
def Begins (cs : List Char) : Prop :=
  ∃ c rest, cs = c :: rest ∧ isGap c = false ∧ c ≠ ']' ∧ c ≠ '\x7d'

theorem Begins.append {cs : List Char} (h : Begins cs) (more : List Char) :
    Begins (cs ++ more) := by
  obtain ⟨c, rest, rfl, hc⟩ := h
  exact ⟨c, rest ++ more, rfl, hc⟩

theorem Begins.gapBefore {cs gap : List Char} (h : Begins cs) (hgap : Spacing gap) :
    GapBefore gap cs := by
  obtain ⟨c, rest, rfl, hc, -⟩ := h
  exact hgap.gapBefore hc rest

theorem begins_numeral (negative : Bool) (n : Nat) (rest : List Char) :
    Begins (signText negative ++ (Double.natText n ++ rest)) := by
  obtain ⟨d, ds, hds⟩ := List.exists_cons_of_ne_nil
    (show Double.natText n ≠ [] from Nat.toDigits_ne_nil)
  have hd : isAsciiDigit d = true := isAsciiDigit_of_mem_natText (hds ▸ List.mem_cons_self)
  rw [hds]
  cases negative with
  | true => exact ⟨'-', d :: (ds ++ rest), rfl, by decide, by decide, by decide⟩
  | false =>
      refine ⟨d, ds ++ rest, rfl, ?_, ?_, ?_⟩
      · by_contra hgap
        simp only [Bool.not_eq_false, isGap, decide_eq_true_eq] at hgap
        rcases hgap with rfl | rfl | rfl | rfl <;> exact absurd hd (by decide)
      · rintro rfl
        exact absurd hd (by decide)
      · rintro rfl
        exact absurd hd (by decide)

theorem Written.begins {v : Json} {cs : List Char} (h : Written v cs) : Begins cs := by
  cases h with
  | whole =>
      rw [intText_eq]
      exact begins_numeral _ _ _
  | decimal => exact begins_numeral _ _ _
  | _ => exact ⟨_, _, rfl, by decide, by decide, by decide⟩

theorem ItemsWritten.begins {items : List Json} {cs : List Char} (h : ItemsWritten items cs) :
    Begins cs := by
  cases h with
  | last h | next h => exact h.begins.append _

theorem FieldsWritten.begins {fields : List (String × Json)} {cs : List Char}
    (h : FieldsWritten fields cs) : Begins cs := by
  cases h with
  | last h | next h =>
      cases h
      exact ⟨_, _, rfl, by decide, by decide, by decide⟩

theorem spells_name {c : Char} {cs : List Char} {v : Json} (hc : c ∉ ['"', '\x7b', '['])
    (hfences : Fenceless (c :: cs))
    (hname : ∀ more, readName? (c :: cs ++ more) = some (v, more)) :
    Spells readValue (Breaks isFigure) (c :: cs) v := by
  refine ⟨by simp, hfences.sheltered, fun fuel more hfuel _ => ?_⟩
  obtain ⟨fuel, rfl⟩ := Nat.exists_eq_add_one.mpr (Nat.lt_of_lt_of_le (Nat.succ_pos _) hfuel)
  rw [List.cons_append, readValue_scalar hc, ← List.cons_append, hname]

theorem spells_text {s : String} {body : List Char} (h : TextWritten s.toList body) :
    Spells readValue Anything ('"' :: (body ++ ['"'])) (.str s) := by
  refine ⟨by simp, sheltered_string h.plain, fun fuel more hfuel _ => ?_⟩
  obtain ⟨fuel, rfl⟩ := Nat.exists_eq_add_one.mpr (Nat.lt_of_lt_of_le (Nat.succ_pos _) hfuel)
  rw [List.cons_append, List.append_assoc, readValue, List.singleton_append, h.readString_append]
  simp

theorem spells_nothing {gap : List Char} (h : Spacing gap) :
    Spells readValue Anything ('[' :: (gap ++ [']'])) (.arr []) := by
  refine (spells_bracket (by decide) (Json.arr [])).opened (h.gapBefore rfl _) (by decide)
    fun fuel cs more heq => ?_
  rw [readValue, heq]
  rfl

theorem spells_blank {gap : List Char} (h : Spacing gap) :
    Spells readValue Anything ('\x7b' :: (gap ++ ['\x7d'])) (.obj []) := by
  refine (spells_bracket (by decide) (Json.obj [])).opened (h.gapBefore rfl _) (by decide)
    fun fuel cs more heq => ?_
  rw [readValue, heq]
  rfl

theorem spells_list {gap cs : List Char} {v : Json} (hgap : Spacing gap) (hbegins : Begins cs)
    (h : Spells (readItems · []) Anything cs v) :
    Spells readValue Anything ('[' :: (gap ++ cs)) v := by
  refine h.opened (hbegins.gapBefore hgap) (by decide) fun fuel text more heq => ?_
  obtain ⟨c, rest, rfl, -, hc, -⟩ := hbegins
  rw [readValue, heq]
  split
  next hclose => exact absurd (List.cons.inj hclose).1 hc
  next => rfl

theorem spells_object {gap cs : List Char} {v : Json} (hgap : Spacing gap) (hbegins : Begins cs)
    (h : Spells (readFields · []) Anything cs v) :
    Spells readValue Anything ('\x7b' :: (gap ++ cs)) v := by
  refine h.opened (hbegins.gapBefore hgap) (by decide) fun fuel text more heq => ?_
  obtain ⟨c, rest, rfl, -, -, hc⟩ := hbegins
  rw [readValue, heq]
  split
  next hclose => exact absurd (List.cons.inj hclose).1 hc
  next => rfl

theorem spells_field {name : String} {v : Json} {body gap gap' cs : List Char}
    (hname : TextWritten name.toList body) (hgap : Spacing gap) (hgap' : GapBefore gap' cs)
    (h : Spells readValue (Breaks isFigure) cs v) :
    Spells readField (Breaks isFigure) ('"' :: (body ++ ['"']) ++ (gap ++ ':' :: (gap' ++ cs)))
      (name, v) := by
  have hcolon : GapBefore gap [':'] := hgap.gapBefore rfl []
  refine ⟨by simp, ?_, fun fuel more hfuel hmore => ?_⟩
  · exact (sheltered_string hname.plain).append
      (((h.sheltered.gap hgap').mark (by decide)).gap hcolon)
  · simp only [List.length_append, List.length_cons] at hfuel
    have hvalue := h.read_eq fuel more (by omega) hmore
    rw [← hgap'.skipGaps_eq more] at hvalue
    have hsplit : '"' :: (body ++ ['"']) ++ (gap ++ ':' :: (gap' ++ cs)) ++ more =
        '"' :: (body ++ '"' :: (gap ++ ([':'] ++ (gap' ++ (cs ++ more))))) := by simp
    rw [hsplit]
    refine readField_eq ?_ (hcolon.skipGaps_eq _) hvalue
    rw [hname.readString_append]
    simp

theorem spells_lastItem {v : Json} {cs gap : List Char}
    (h : Spells readValue (Breaks isFigure) cs v) (hgap : Spacing gap) (before : List Json) :
    Spells (readItems · before) Anything (cs ++ (gap ++ [']'])) (.arr (before.reverse ++ [v])) := by
  rw [← List.reverse_cons]
  exact h.close (hgap.gapBefore rfl []) rfl (by decide) fun _ _ _ _ => readItems_last

theorem spells_nextItem {v : Json} {items before : List Json} {cs gap gap' rest : List Char}
    (h : Spells readValue (Breaks isFigure) cs v) (hgap : Spacing gap) (hgap' : GapBefore gap' rest)
    (hrest : Spells (readItems · (v :: before)) Anything rest
      (.arr ((v :: before).reverse ++ items))) :
    Spells (readItems · before) Anything (cs ++ (gap ++ ',' :: (gap' ++ rest)))
      (.arr (before.reverse ++ v :: items)) := by
  rw [List.reverse_cons, List.append_assoc, List.singleton_append] at hrest
  exact h.comma (hgap.gapBefore rfl []) hrest hgap' fun _ _ _ _ => readItems_next

theorem insert_of_notMem {name : String} {fields : List (String × Json)}
    (h : name ∉ fields.map Prod.fst) (v : Json) : insert name v fields = fields ++ [(name, v)] := by
  induction fields with
  | nil => rfl
  | cons field fields ih =>
      rw [List.map_cons, List.mem_cons, not_or] at h
      rw [insert, if_neg (Ne.symm h.1), ih h.2, List.cons_append]

theorem notMem_of_nodup {field : String × Json} {before fields : List (String × Json)}
    (h : ((before ++ field :: fields).map Prod.fst).Nodup) : field.1 ∉ before.map Prod.fst := by
  rw [List.map_append, List.map_cons] at h
  exact fun hmem => (List.nodup_append.mp h).2.2 _ hmem _ List.mem_cons_self rfl

theorem spells_lastField {field : String × Json} {cs gap : List Char}
    (h : Spells readField (Breaks isFigure) cs field) (hgap : Spacing gap)
    {before : List (String × Json)} (hnew : field.1 ∉ before.map Prod.fst) :
    Spells (readFields · before) Anything (cs ++ (gap ++ ['\x7d'])) (.obj (before ++ [field])) := by
  rw [← insert_of_notMem hnew]
  exact h.close (hgap.gapBefore rfl []) rfl (by decide) fun _ _ _ _ => readFields_last

theorem spells_nextField {field : String × Json} {fields before : List (String × Json)}
    {cs gap gap' rest : List Char} (h : Spells readField (Breaks isFigure) cs field)
    (hgap : Spacing gap) (hgap' : GapBefore gap' rest) (hnew : field.1 ∉ before.map Prod.fst)
    (hrest : Spells (readFields · (before ++ [field])) Anything rest
      (.obj (before ++ [field] ++ fields))) :
    Spells (readFields · before) Anything (cs ++ (gap ++ ',' :: (gap' ++ rest)))
      (.obj (before ++ field :: fields)) := by
  rw [List.append_assoc, List.singleton_append, ← insert_of_notMem hnew] at hrest
  exact h.comma (hgap.gapBefore rfl []) hrest hgap' fun _ _ _ _ => readFields_next

mutual

theorem Written.spells {v : Json} {cs : List Char} (h : Written v cs) :
    Spells readValue (Breaks isFigure) cs v :=
  match h with
  | .null => spells_name (by decide) (by simp [Fenceless]) fun _ => rfl
  | .yes => spells_name (by decide) (by simp [Fenceless]) fun _ => rfl
  | .no => spells_name (by decide) (by simp [Fenceless]) fun _ => rfl
  | .whole hsize => spells_whole hsize
  | .decimal hf hp hsome => spells_numeral hf hp (assembled_of_isSome hsome _ _)
  | .text htext => (spells_text htext).mono fun _ _ => trivial
  | .nothing hgap => (spells_nothing hgap).mono fun _ _ => trivial
  | .blank hgap => (spells_blank hgap).mono fun _ _ => trivial
  | .list hgap hitems => (spells_list hgap hitems.begins (hitems.spells [])).mono fun _ _ => trivial
  | .object hgap hnames hfields =>
      (spells_object hgap hfields.begins (hfields.spells [] hnames)).mono fun _ _ => trivial

theorem ItemsWritten.spells {items : List Json} {cs : List Char} (h : ItemsWritten items cs)
    (before : List Json) :
    Spells (readItems · before) Anything cs (.arr (before.reverse ++ items)) :=
  match h with
  | .last hv hgap => spells_lastItem hv.spells hgap before
  | .next hv hgap hgap' hrest =>
      spells_nextItem hv.spells hgap (hrest.begins.gapBefore hgap') (hrest.spells _)

theorem FieldsWritten.spells {fields : List (String × Json)} {cs : List Char}
    (h : FieldsWritten fields cs) (before : List (String × Json))
    (hnames : ((before ++ fields).map Prod.fst).Nodup) :
    Spells (readFields · before) Anything cs (.obj (before ++ fields)) :=
  match h with
  | .last hfield hgap => spells_lastField hfield.spells hgap (notMem_of_nodup hnames)
  | .next hfield hgap hgap' hrest =>
      spells_nextField hfield.spells hgap (hrest.begins.gapBefore hgap') (notMem_of_nodup hnames)
        (hrest.spells _ (by rwa [List.append_assoc, List.singleton_append]))

theorem FieldWritten.spells {field : String × Json} {cs : List Char} (h : FieldWritten field cs) :
    Spells readField (Breaks isFigure) cs field :=
  match h with
  | .mk hname hgap hgap' hv =>
      spells_field hname hgap (hv.begins.gapBefore hgap') hv.spells

end

/-! ## Lines -/

/-- No character but a tab is a control character. -/
def OnLine (cs : List Char) : Prop := ∀ c ∈ cs, 32 ≤ c.toNat ∨ c = '\t'

theorem OnLine.append {cs ds : List Char} (h : OnLine cs) (h' : OnLine ds) : OnLine (cs ++ ds) :=
  List.forall_mem_append.mpr ⟨h, h'⟩

theorem OnLine.mark {cs : List Char} (h : OnLine cs) {mark : Char} (hmark : 32 ≤ mark.toNat) :
    OnLine (mark :: cs) := List.forall_mem_cons.mpr ⟨.inl hmark, h⟩

theorem onLine_nil : OnLine [] := fun _ h => nomatch h

theorem Spacing.onLine {gap : List Char} (h : Spacing gap) : OnLine gap := fun c hc => by
  rcases h c hc with rfl | rfl
  · exact .inl (by decide)
  · exact .inr rfl

theorem TextWritten.onLine {text body : List Char} (h : TextWritten text body) :
    OnLine ('"' :: (body ++ ['"'])) :=
  (OnLine.append (fun c hc => .inl (h.plain c hc)) (onLine_nil.mark (by decide))).mark (by decide)

theorem onLine_numeral {fraction : Option Numeral.Run} {power : Option Int} {f p : List Char}
    (negative : Bool) (n : Nat) (hf : FractionWritten fraction f) (hp : PowerWritten power p) :
    OnLine (signText negative ++ (Double.natText n ++ (f ++ p))) := by
  refine forall_numeral (fun c hc => ?_) (by simp) negative n hf hp
  simp only [isAsciiDigit, Bool.and_eq_true, decide_eq_true_eq] at hc
  exact .inl (by omega)

mutual

theorem Written.onLine {v : Json} {cs : List Char} (h : Written v cs) : OnLine cs :=
  match h with
  | .null | .yes | .no => by simp [OnLine]
  | .whole _ => intText_eq _ ▸ onLine_numeral _ _ .none .none
  | .decimal hf hp _ => onLine_numeral _ _ hf hp
  | .text htext => htext.onLine
  | .nothing hgap | .blank hgap =>
      (hgap.onLine.append (onLine_nil.mark (by decide))).mark (by decide)
  | .list hgap hitems => (hgap.onLine.append hitems.onLine).mark (by decide)
  | .object hgap _ hfields => (hgap.onLine.append hfields.onLine).mark (by decide)

theorem ItemsWritten.onLine {items : List Json} {cs : List Char} (h : ItemsWritten items cs) :
    OnLine cs :=
  match h with
  | .last hv hgap => hv.onLine.append (hgap.onLine.append (onLine_nil.mark (by decide)))
  | .next hv hgap hgap' hrest =>
      hv.onLine.append (hgap.onLine.append ((hgap'.onLine.append hrest.onLine).mark (by decide)))

theorem FieldsWritten.onLine {fields : List (String × Json)} {cs : List Char}
    (h : FieldsWritten fields cs) : OnLine cs :=
  match h with
  | .last hfield hgap => hfield.onLine.append (hgap.onLine.append (onLine_nil.mark (by decide)))
  | .next hfield hgap hgap' hrest =>
      hfield.onLine.append
        (hgap.onLine.append ((hgap'.onLine.append hrest.onLine).mark (by decide)))

theorem FieldWritten.onLine {field : String × Json} {cs : List Char} (h : FieldWritten field cs) :
    OnLine cs :=
  match h with
  | .mk hname hgap hgap' hv =>
      hname.onLine.append (hgap.onLine.append ((hgap'.onLine.append hv.onLine).mark (by decide)))

end

/-! ## Objects -/

theorem FieldsWritten.getLast?_eq {fields : List (String × Json)} {cs : List Char}
    (h : FieldsWritten fields cs) : cs.getLast? = some '\x7d' :=
  match h with
  | .last _ _ => by simp
  | .next _ _ _ hrest => by simp [List.getLast?_cons, hrest.getLast?_eq]

theorem Written.objectText {fields : List (String × Json)} {cs : List Char}
    (h : Written (.obj fields) cs) : ObjectText cs fields := by
  cases h with
  | blank hgap => exact ⟨spells_blank hgap, rfl, by simp [List.getLast?_cons]⟩
  | object hgap hnames hfields =>
      refine ⟨spells_object hgap hfields.begins (hfields.spells [] hnames), rfl, ?_⟩
      simp [List.getLast?_cons, hfields.getLast?_eq]

theorem Written.readAll_eq {fields : List (String × Json)} {cs : List Char}
    (h : Written (.obj fields) cs) : readAll cs = .ok (.obj fields) :=
  readAll_eq_obj_iff.mpr ⟨[], cs, [], by simp, by simp, by simp, h.objectText⟩

end ContractReview.Json
