import ContractReview.Number.Numeral
import ContractReview.Proofs.Text.CaseMapping

/-!
Numerals as they are written: blanks around them, a sign, digits of any script with single low lines
between them, and for a decimal number a point and a power of ten. The reader of whole numbers
accepts just these texts, and so does the reader of doubles among the texts that have a point.
-/

namespace ContractReview.Numeral

open Text

/-! ## Digits -/

/-- Text that goes on with a run of digits: each stands right behind the one before it, or behind a
single low line. -/
inductive Continues : Run → List Char → Run → Prop
  | nil (run : Run) : Continues run [] run
  | digit {run run' : Run} {c : Char} {d : Nat} {cs : List Char} :
      digitValue? c = some d → Continues (run.push d) cs run' → Continues run (c :: cs) run'
  | line {run run' : Run} {c : Char} {d : Nat} {cs : List Char} :
      digitValue? c = some d → Continues (run.push d) cs run' → Continues run ('_' :: c :: cs) run'

/-- Digits of any script: what they come to, and how many they are. -/
inductive Digits : List Char → Run → Prop
  | intro {run : Run} {c : Char} {d : Nat} {cs : List Char} :
      digitValue? c = some d → Continues (Run.push ⟨0, 0⟩ d) cs run → Digits (c :: cs) run

/-- Digits, or none at all. -/
inductive Stretch : List Char → Run → Prop
  | none : Stretch [] ⟨0, 0⟩
  | digits {cs : List Char} {run : Run} : Digits cs run → Stretch cs run

/-- No run of digits goes on with the text. -/
def Ends (cs : List Char) : Prop := ∀ c ∈ cs.head?, digitValue? c = none ∧ c ≠ '_'

section Digits

variable {run run' : Run} {cs rest : List Char}

theorem Continues.count_pos (h : Continues run cs run') (hrun : run.count ≠ 0) :
    run'.count ≠ 0 := by
  induction h with
  | nil => exact hrun
  | digit _ _ ih => exact ih (Nat.succ_ne_zero _)
  | line _ _ ih => exact ih (Nat.succ_ne_zero _)

theorem Digits.count_pos (h : Digits cs run) : run.count ≠ 0 := by
  obtain ⟨_, hcs⟩ := h
  exact hcs.count_pos (Nat.succ_ne_zero _)

theorem Continues.mem (h : Continues run cs run') {c : Char} (hc : c ∈ cs) :
    c = '_' ∨ ∃ d, digitValue? c = some d := by
  induction h with
  | nil => cases hc
  | digit hdigit _ ih =>
      rcases List.mem_cons.mp hc with rfl | hrest
      · exact .inr ⟨_, hdigit⟩
      · exact ih hrest
  | line hdigit _ ih =>
      rcases List.mem_cons.mp hc with rfl | hc
      · exact .inl rfl
      · rcases List.mem_cons.mp hc with rfl | hrest
        · exact .inr ⟨_, hdigit⟩
        · exact ih hrest

theorem Digits.mem (h : Digits cs run) {c : Char} (hc : c ∈ cs) :
    c = '_' ∨ ∃ d, digitValue? c = some d := by
  obtain ⟨hdigit, hcs⟩ := h
  rcases List.mem_cons.mp hc with rfl | hrest
  · exact .inr ⟨_, hdigit⟩
  · exact hcs.mem hrest

theorem Digits.exists_digit (h : Digits cs run) : ∃ c ∈ cs, ∃ d, digitValue? c = some d := by
  obtain ⟨hdigit, -⟩ := h
  exact ⟨_, List.mem_cons_self, _, hdigit⟩

/-- The last character of digits is one. -/
theorem Continues.getLast? (h : Continues run cs run') :
    cs = [] ∨ ∃ c d, cs.getLast? = some c ∧ digitValue? c = some d := by
  induction h with
  | nil => exact .inl rfl
  | digit hdigit _ ih =>
      refine .inr ?_
      rcases ih with rfl | ⟨c, d, hlast, hd⟩
      · exact ⟨_, _, rfl, hdigit⟩
      · exact ⟨c, d, by rw [List.getLast?_cons, hlast]; rfl, hd⟩
  | line hdigit _ ih =>
      refine .inr ?_
      rcases ih with rfl | ⟨c, d, hlast, hd⟩
      · exact ⟨_, _, rfl, hdigit⟩
      · exact ⟨c, d, by rw [List.getLast?_cons, List.getLast?_cons, hlast]; rfl, hd⟩

theorem Digits.getLast? (h : Digits cs run) :
    ∃ c d, cs.getLast? = some c ∧ digitValue? c = some d := by
  obtain ⟨hdigit, hcs⟩ := h
  rcases hcs.getLast? with rfl | ⟨c, d, hlast, hd⟩
  · exact ⟨_, _, rfl, hdigit⟩
  · exact ⟨c, d, by rw [List.getLast?_cons, hlast]; rfl, hd⟩

/-! ## The reader of digits -/

theorem takeRun_digit {c : Char} {d : Nat} (h : digitValue? c = some d) (run : Run)
    (rest : List Char) : takeRun run (c :: rest) = takeRun (run.push d) rest := by
  have hline : c ≠ '_' := by
    rintro rfl
    cases h
  rw [takeRun.eq_def]
  split
  next => contradiction
  next heq => exact absurd (List.cons.inj heq).1 hline
  next heq =>
    cases heq
    rw [h]

theorem takeRun_line {c : Char} {d : Nat} (h : digitValue? c = some d) (hrun : run.count ≠ 0)
    (rest : List Char) : takeRun run ('_' :: c :: rest) = takeRun (run.push d) rest := by
  rw [takeRun, h]
  exact if_neg hrun

theorem takeRun_of_ends (h : Ends cs) (run : Run) : takeRun run cs = (run, cs) := by
  cases cs with
  | nil => rfl
  | cons c rest =>
      obtain ⟨hnone, hline⟩ := h c rfl
      rw [takeRun.eq_def]
      split
      next => contradiction
      next heq => exact absurd (List.cons.inj heq).1 hline
      next heq =>
        cases heq
        rw [hnone]

theorem Continues.takeRun_append (h : Continues run cs run') (hrun : run.count ≠ 0)
    (hrest : Ends rest) : takeRun run (cs ++ rest) = (run', rest) := by
  induction h with
  | nil => exact takeRun_of_ends hrest _
  | digit hdigit _ ih =>
      rw [List.cons_append, takeRun_digit hdigit]
      exact ih (Nat.succ_ne_zero _)
  | line hdigit _ ih =>
      rw [List.cons_append, List.cons_append, takeRun_line hdigit hrun]
      exact ih (Nat.succ_ne_zero _)

theorem Stretch.takeRun_append (h : Stretch cs run) (hrest : Ends rest) :
    takeRun ⟨0, 0⟩ (cs ++ rest) = (run, rest) := by
  cases h with
  | none => exact takeRun_of_ends hrest _
  | digits h =>
      obtain ⟨hdigit, hcs⟩ := h
      rw [List.cons_append, takeRun_digit hdigit]
      exact hcs.takeRun_append (Nat.succ_ne_zero _) hrest

theorem Digits.takeRun_eq (h : Digits cs run) : takeRun ⟨0, 0⟩ cs = (run, []) := by
  have hends : Ends [] := fun c hc => nomatch hc
  have hrun := (Stretch.digits h).takeRun_append hends
  rwa [List.append_nil] at hrun

theorem exists_continues (run : Run) (cs : List Char) (hrun : run.count ≠ 0) :
    ∃ taken, cs = taken ++ (takeRun run cs).2 ∧ Continues run taken (takeRun run cs).1 := by
  fun_induction takeRun run cs with
  | case1 run => exact ⟨[], rfl, .nil run⟩
  | case2 run c rest d hdigit hzero => exact absurd hzero hrun
  | case3 run c rest d hdigit _ ih =>
      obtain ⟨taken, heq, hcontinues⟩ := ih (Nat.succ_ne_zero _)
      exact ⟨'_' :: c :: taken, congrArg (fun cs => '_' :: c :: cs) heq, .line hdigit hcontinues⟩
  | case4 run c rest _ => exact ⟨[], rfl, .nil run⟩
  | case5 run c rest _ d hdigit ih =>
      obtain ⟨taken, heq, hcontinues⟩ := ih (Nat.succ_ne_zero _)
      exact ⟨c :: taken, congrArg (c :: ·) heq, .digit hdigit hcontinues⟩
  | case6 run c rest _ _ => exact ⟨[], rfl, .nil run⟩

theorem takeRun_of_not_digit {c : Char} (h : digitValue? c = none) (rest : List Char) :
    takeRun ⟨0, 0⟩ (c :: rest) = (⟨0, 0⟩, c :: rest) := by
  rw [takeRun.eq_def]
  split
  next => contradiction
  next heq =>
    cases heq
    split
    · rfl
    · rfl
  next heq =>
    cases heq
    rw [h]

/-- What the reader takes off the front of a text are its digits. -/
theorem exists_stretch (cs : List Char) :
    ∃ taken, cs = taken ++ (takeRun ⟨0, 0⟩ cs).2 ∧ Stretch taken (takeRun ⟨0, 0⟩ cs).1 := by
  cases cs with
  | nil => exact ⟨[], rfl, .none⟩
  | cons c rest =>
      cases hdigit : digitValue? c with
      | none =>
          rw [takeRun_of_not_digit hdigit]
          exact ⟨[], rfl, .none⟩
      | some d =>
          rw [takeRun_digit hdigit]
          obtain ⟨taken, heq, hcontinues⟩ :=
            exists_continues (Run.push ⟨0, 0⟩ d) rest (Nat.succ_ne_zero _)
          exact ⟨c :: taken, congrArg (c :: ·) heq, .digits (.intro hdigit hcontinues)⟩

theorem Stretch.digits_of_count (h : Stretch cs run) (hrun : run.count ≠ 0) : Digits cs run := by
  cases h with
  | none => exact absurd rfl hrun
  | digits h => exact h

theorem Stretch.mem (h : Stretch cs run) {c : Char} (hc : c ∈ cs) :
    c = '_' ∨ ∃ d, digitValue? c = some d := by
  cases h with
  | none => cases hc
  | digits h => exact h.mem hc

end Digits

/-! ## Figures and letters -/

/-- A digit of any script, or a point. -/
def Figure (c : Char) : Prop := c = '.' ∨ ∃ d, digitValue? c = some d

section Figures

variable {c : Char}

theorem isAlpha_bounds (h : c.isAlpha = true) :
    (65 ≤ c.toNat ∧ c.toNat ≤ 90) ∨ (97 ≤ c.toNat ∧ c.toNat ≤ 122) := by
  simp only [Char.isAlpha, Char.isUpper, Char.isLower, Bool.or_eq_true, Bool.and_eq_true,
    decide_eq_true_eq] at h
  exact h.imp (And.imp UInt32.le_iff_toNat_le.mp UInt32.le_iff_toNat_le.mp)
    (And.imp UInt32.le_iff_toNat_le.mp UInt32.le_iff_toNat_le.mp)

theorem Figure.isAlpha_eq_false (h : Figure c) : c.isAlpha = false := by
  rcases h with rfl | ⟨d, hd⟩
  · rfl
  · by_contra halpha
    have hbounds := isAlpha_bounds (Bool.not_eq_false _ ▸ halpha)
    unfold digitValue? at hd
    dsimp only at hd
    rw [if_pos (by omega), if_neg (by omega)] at hd
    cases hd

/-- No word of letters is spelt with a figure. -/
theorem Figure.map_toLower_ne (h : Figure c) {cs word : List Char} (hc : c ∈ cs)
    (hword : ∀ l ∈ word, l.isAlpha = true) : cs.map Char.toLower ≠ word := by
  rintro rfl
  have hupper : ¬ c.isUpper = true := fun hupper => by
    simpa [Char.isAlpha, hupper] using h.isAlpha_eq_false
  have halpha := hword c (List.mem_map.mpr ⟨c, hc, Char.toLower_eq_of_not_isUpper hupper⟩)
  cases h.isAlpha_eq_false.symm.trans halpha

/-- No name of a double has a figure in it. -/
theorem Figure.namedDouble?_eq_none (h : Figure c) {cs : List Char} (hc : c ∈ cs)
    (negative : Bool) : namedDouble? negative cs = none := by
  unfold namedDouble?
  dsimp only
  split
  next hascii =>
    rw [lowerFrom_of_ascii fun c hc => by simpa using List.all_eq_true.mp hascii c hc]
    have hne (name : String) (hname : ∀ l ∈ name.toList, l.isAlpha = true) :
        cs.map Char.toLower ≠ name.toList := h.map_toLower_ne hc hname
    rw [if_neg (not_or.mpr ⟨hne "inf" (by simp), hne "infinity" (by simp)⟩),
      if_neg (hne "nan" (by simp))]
  next => rfl

end Figures

/-! ## Signs and blanks -/

/-- A sign, and whether it is negative. -/
inductive Sign : List Char → Bool → Prop
  | none : Sign [] false
  | plus : Sign ['+'] false
  | minus : Sign ['-'] true

def Padding (cs : List Char) : Prop := ∀ c ∈ cs, isPadding c = true

section Signs

variable {cs sign : List Char} {negative : Bool}

theorem exists_sign (cs : List Char) :
    ∃ sign, cs = sign ++ (unsigned cs).2 ∧ Sign sign (unsigned cs).1 := by
  unfold unsigned
  split
  · exact ⟨['-'], rfl, .minus⟩
  · exact ⟨['+'], rfl, .plus⟩
  · exact ⟨[], rfl, .none⟩

theorem Sign.unsigned_append (h : Sign sign negative) {c : Char} (hc : cs.head? = some c)
    (hminus : c ≠ '-') (hplus : c ≠ '+') : unsigned (sign ++ cs) = (negative, cs) := by
  obtain ⟨rest, rfl⟩ := List.head?_eq_some_iff.mp hc
  cases h with
  | plus | minus => rfl
  | none =>
      unfold unsigned
      split
      next heq => exact absurd (List.cons.inj heq).1 hminus
      next heq => exact absurd (List.cons.inj heq).1 hplus
      next => rfl

/-- No blank is a digit. -/
theorem isPadding_of_digit {c : Char} {d : Nat} (h : digitValue? c = some d) :
    isPadding c = false := by
  by_contra hpadding
  have hcode : c.toNat ∈ List.range' 9 5 ++ List.range' 0x2000 11 ++
      [32, 0x85, 0xA0, 0x1680, 0x2028, 0x2029, 0x202F, 0x205F, 0x3000] := by
    simp only [isPadding, isBlank, Bool.not_eq_false, Bool.or_eq_true, Bool.and_eq_true,
      decide_eq_true_eq, beq_iff_eq] at hpadding
    simp only [List.mem_append, List.mem_range'_1, List.mem_cons, List.not_mem_nil, or_false]
    omega
  have hnone : ∀ n ∈ List.range' 9 5 ++ List.range' 0x2000 11 ++
      [32, 0x85, 0xA0, 0x1680, 0x2028, 0x2029, 0x202F, 0x205F, 0x3000],
      digitValue? (Char.ofNat n) = none := by decide +kernel
  have hc := hnone _ hcode
  rw [Char.ofNat_toNat, h] at hc
  cases hc

theorem exists_padding (cs : List Char) :
    ∃ lead trail, Padding lead ∧ Padding trail ∧ cs = lead ++ (unpadded cs ++ trail) := by
  refine ⟨cs.takeWhile isPadding, ((cs.dropWhile isPadding).reverse.takeWhile isPadding).reverse,
    fun c hc => List.mem_takeWhile_imp hc,
    fun c hc => List.mem_takeWhile_imp (List.mem_reverse.mp hc), ?_⟩
  rw [unpadded, ← List.reverse_append, List.takeWhile_append_dropWhile, List.reverse_reverse,
    List.takeWhile_append_dropWhile]

theorem exists_parts (cs : List Char) :
    ∃ lead sign trail, Padding lead ∧ Sign sign (unsigned (unpadded cs)).1 ∧ Padding trail ∧
      cs = lead ++ (sign ++ (unsigned (unpadded cs)).2 ++ trail) := by
  obtain ⟨lead, trail, hlead, htrail, hcs⟩ := exists_padding cs
  obtain ⟨sign, hbody, hsign⟩ := exists_sign (unpadded cs)
  exact ⟨lead, sign, trail, hlead, hsign, htrail, by rw [← hbody]; exact hcs⟩

/-- The text of a number without its sign begins with no sign, and with no blank at either end. -/
structure Bare (cs : List Char) : Prop where
  first : ∃ c, cs.head? = some c ∧ isPadding c = false ∧ c ≠ '-' ∧ c ≠ '+'
  last : ∃ c, cs.getLast? = some c ∧ isPadding c = false

/-- Blanks and the sign come off such a text. -/
theorem unsigned_unpadded {lead trail : List Char} (hlead : Padding lead)
    (hsign : Sign sign negative) (hcs : Bare cs) (htrail : Padding trail) :
    unsigned (unpadded (lead ++ (sign ++ cs ++ trail))) = (negative, cs) := by
  obtain ⟨c, hc, hfirst, hminus, hplus⟩ := hcs.first
  obtain ⟨e, he, hlast⟩ := hcs.last
  obtain ⟨rest, rfl⟩ := List.head?_eq_some_iff.mp hc
  have hstart : (sign ++ c :: rest ++ trail).dropWhile isPadding = sign ++ c :: rest ++ trail := by
    cases hsign with
    | plus | minus => rfl
    | none => exact List.dropWhile_cons_of_neg (by simp [hfirst])
  obtain ⟨front, hfront⟩ := List.getLast?_eq_some_iff.mp he
  have hend : (sign ++ c :: rest).reverse.dropWhile isPadding = (sign ++ c :: rest).reverse := by
    rw [hfront, ← List.append_assoc, List.reverse_append, List.reverse_singleton,
      List.singleton_append, List.dropWhile_cons_of_neg (by simp [hlast])]
  rw [unpadded, List.dropWhile_append_of_pos hlead, hstart, List.reverse_append,
    List.dropWhile_append_of_pos (by simpa [Padding] using htrail), hend, List.reverse_reverse,
    hsign.unsigned_append hc hminus hplus]

end Signs

/-! ## Whole numbers -/

/-- A whole number as it is written. -/
inductive Whole : List Char → Int → Prop
  | intro {lead sign digits trail : List Char} {negative : Bool} {run : Run} :
      Padding lead → Sign sign negative → Digits digits run → run.count ≤ digitLimit →
      Padding trail →
      Whole (lead ++ (sign ++ digits ++ trail)) (if negative then -(run.value : Int) else run.value)

theorem Digits.bare {digits : List Char} {run : Run} (h : Digits digits run) : Bare digits := by
  obtain ⟨e, d, hlast, hd⟩ := h.getLast?
  refine ⟨?_, e, hlast, isPadding_of_digit hd⟩
  obtain ⟨hdigit, -⟩ := h
  refine ⟨_, rfl, isPadding_of_digit hdigit, ?_, ?_⟩
  · rintro rfl
    cases hdigit
  · rintro rfl
    cases hdigit

theorem whole_of_digits {lead sign digits trail : List Char} {negative : Bool} {run : Run}
    (hlead : Padding lead) (hsign : Sign sign negative) (hdigits : Digits digits run)
    (htrail : Padding trail) {text : String}
    (htext : text.toList = lead ++ (sign ++ digits ++ trail)) :
    Numeral.whole text =
      if digitLimit < run.count then .error (.tooLong run.count)
      else .ok (if negative then -(run.value : Int) else run.value) := by
  unfold Numeral.whole
  rw [htext, unsigned_unpadded hlead hsign hdigits.bare htrail]
  dsimp only
  rw [hdigits.takeRun_eq]
  dsimp only
  rw [if_neg (by simp [hdigits.count_pos])]

theorem whole_eq_ok_iff {text : String} {i : Int} :
    Numeral.whole text = .ok i ↔ Whole text.toList i := by
  constructor
  · intro h
    unfold Numeral.whole at h
    obtain ⟨lead, sign, trail, hlead, hsign, htrail, htext⟩ := exists_parts text.toList
    generalize unsigned (unpadded text.toList) = parts at h hsign htext
    obtain ⟨negative, cs⟩ := parts
    dsimp only at h hsign htext
    obtain ⟨digits, hcs, hdigits⟩ := exists_stretch cs
    generalize takeRun ⟨0, 0⟩ cs = taken at h hcs hdigits
    obtain ⟨run, rest⟩ := taken
    dsimp only at h hcs hdigits
    split at h
    next => cases h
    next hrun =>
      split at h
      next => cases h
      next hlimit =>
        obtain ⟨hsome, hrest⟩ := not_or.mp hrun
        obtain rfl := not_not.mp hrest
        cases h
        rw [htext, hcs, List.append_nil]
        exact .intro hlead hsign (hdigits.digits_of_count hsome) (Nat.le_of_not_lt hlimit) htrail
  · intro h
    generalize htext : text.toList = cs at h
    obtain ⟨hlead, hsign, hdigits, hlimit, htrail⟩ := h
    rw [whole_of_digits hlead hsign hdigits htrail htext, if_neg (Nat.not_lt.mpr hlimit)]

/-- What a sign and digits are read as is their value. -/
theorem Whole.value_eq {sign digits : List Char} {negative : Bool} {run : Run} {i : Int}
    (h : Whole (sign ++ digits) i) (hsign : Sign sign negative) (hdigits : Digits digits run) :
    i = if negative then -(run.value : Int) else run.value := by
  have hnone : Padding [] := fun _ hc => nomatch hc
  have htext : (String.ofList (sign ++ digits)).toList = [] ++ (sign ++ digits ++ []) := by simp
  rw [← String.toList_ofList (l := sign ++ digits), ← whole_eq_ok_iff,
    whole_of_digits hnone hsign hdigits hnone htext] at h
  split at h
  · cases h
  · exact (Except.ok.inj h).symm

theorem Whole.exists_digit {cs : List Char} {i : Int} (h : Whole cs i) :
    ∃ c ∈ cs, ∃ d, digitValue? c = some d := by
  obtain ⟨-, -, hdigits, -, -⟩ := h
  obtain ⟨c, hc, hdigit⟩ := hdigits.exists_digit
  exact ⟨c, by simp [hc], hdigit⟩

/-! ## Decimal numbers with a point -/

/-- A power of ten, which may be left out. -/
inductive Power : List Char → Int → Prop
  | none : Power [] 0
  | some {e : Char} {sign digits : List Char} {negative : Bool} {run : Run} :
      e = 'e' ∨ e = 'E' → Sign sign negative → Digits digits run →
      Power (e :: (sign ++ digits)) (if negative then -(run.value : Int) else run.value)

/-- A decimal number with a point as it is written; digits stand on at least one side of the
point. -/
inductive Pointed : List Char → Float → Prop
  | intro {lead sign whole tail power trail : List Char} {negative : Bool} {run run' : Run}
      {p : Int} :
      Padding lead → Sign sign negative → Stretch whole run → Stretch tail run' →
      run.count ≠ 0 ∨ run'.count ≠ 0 → Power power p → Padding trail →
      Pointed (lead ++ (sign ++ (whole ++ '.' :: (tail ++ power)) ++ trail))
        (Double.ofDecimal negative (run.value * 10 ^ run'.count + run'.value) (p - run'.count))

section Pointed

variable {cs whole tail power : List Char} {run : Run} {p : Int}

theorem Sign.unsigned_digits {sign digits : List Char} {negative : Bool}
    (hsign : Sign sign negative) (hdigits : Digits digits run) :
    unsigned (sign ++ digits) = (negative, digits) := by
  obtain ⟨c, hc, -, hminus, hplus⟩ := hdigits.bare.first
  exact hsign.unsigned_append hc hminus hplus

theorem exponentOf_eq_some_iff : exponentOf cs = some p ↔ Power cs p := by
  constructor
  · intro h
    unfold exponentOf at h
    split at h
    next =>
      cases h
      exact .none
    next e rest =>
      split at h
      next he =>
        obtain ⟨sign, hrest, hsign⟩ := exists_sign rest
        generalize unsigned rest = parts at h hrest hsign
        obtain ⟨negative, digits⟩ := parts
        dsimp only at h hrest hsign
        obtain ⟨taken, hdigits, hstretch⟩ := exists_stretch digits
        generalize takeRun ⟨0, 0⟩ digits = done at h hdigits hstretch
        obtain ⟨run, left⟩ := done
        dsimp only at h hdigits hstretch
        split at h
        next => cases h
        next hrun =>
          obtain ⟨hsome, hleft⟩ := not_or.mp hrun
          obtain rfl := not_not.mp hleft
          cases h
          rw [hrest, hdigits, List.append_nil]
          exact .some he hsign (hstretch.digits_of_count hsome)
      next => cases h
  · rintro (_ | ⟨he, hsign, hdigits⟩)
    · rfl
    · rw [exponentOf, if_pos he, hsign.unsigned_digits hdigits]
      dsimp only
      rw [hdigits.takeRun_eq]
      dsimp only
      rw [if_neg (by simp [hdigits.count_pos])]

theorem Stretch.not_mem_point (h : Stretch cs run) : '.' ∉ cs := by
  intro hmem
  rcases h.mem hmem with heq | ⟨d, hd⟩
  · cases heq
  · cases hd

theorem Sign.not_mem_point {negative : Bool} (h : Sign cs negative) : '.' ∉ cs := by
  cases h <;> decide

theorem Power.not_mem_point (h : Power cs p) : '.' ∉ cs := by
  cases h with
  | none => exact List.not_mem_nil
  | some he hsign hdigits =>
      intro hmem
      rcases List.mem_cons.mp hmem with rfl | hmem
      · rcases he with he | he <;> cases he
      rcases List.mem_append.mp hmem with hmem | hmem
      · exact hsign.not_mem_point hmem
      · exact (Stretch.digits hdigits).not_mem_point hmem

theorem Padding.not_mem_point (h : Padding cs) : '.' ∉ cs := by
  intro hmem
  cases h '.' hmem

theorem Whole.not_mem_point {i : Int} (h : Whole cs i) : '.' ∉ cs := by
  obtain ⟨hlead, hsign, hdigits, -, htrail⟩ := h
  simp only [List.mem_append, not_or]
  exact ⟨hlead.not_mem_point, ⟨hsign.not_mem_point, (Stretch.digits hdigits).not_mem_point⟩,
    htrail.not_mem_point⟩

theorem Pointed.mem_point {x : Float} (h : Pointed cs x) : '.' ∈ cs := by
  cases h
  simp

/-- The point of a text is left when the blanks and the sign come off. -/
theorem mem_unsigned_of_mem (h : '.' ∈ cs) : '.' ∈ (unsigned (unpadded cs)).2 := by
  obtain ⟨lead, sign, trail, hlead, hsign, htrail, hcs⟩ := exists_parts cs
  rw [hcs, List.mem_append, List.mem_append, List.mem_append] at h
  rcases h with h | (h | h) | h
  · exact absurd h hlead.not_mem_point
  · exact absurd h hsign.not_mem_point
  · exact h
  · exact absurd h htrail.not_mem_point

/-- Behind the whole digits comes the point, or all is left for the power of ten. -/
theorem fractionOf_cases {digits : Run} {rest left : List Char}
    (h : fractionOf run rest = some (digits, left)) :
    (∃ behind tail, rest = '.' :: behind ∧ takeRun ⟨0, 0⟩ behind = (tail, left) ∧
      ¬ (run.count = 0 ∧ tail.count = 0) ∧
      digits = ⟨run.value * 10 ^ tail.count + tail.value, tail.count⟩) ∨ left = rest := by
  unfold fractionOf at h
  split at h
  next behind =>
    generalize htail : takeRun ⟨0, 0⟩ behind = taken at h
    obtain ⟨tail, left'⟩ := taken
    dsimp only at h
    split at h
    next => cases h
    next hsome =>
      cases h
      exact .inl ⟨behind, tail, rfl, htail, hsome, rfl⟩
  next =>
    split at h
    next => cases h
    next =>
      cases h
      exact .inr rfl

theorem bare_pointed {run' : Run} (hwhole : Stretch whole run) (htail : Stretch tail run')
    (hpower : Power power p) : Bare (whole ++ '.' :: (tail ++ power)) := by
  constructor
  · cases hwhole with
    | none => exact ⟨'.', rfl, by decide, by decide, by decide⟩
    | digits h =>
        obtain ⟨c, hc, hfirst⟩ := h.bare.first
        exact ⟨c, by rw [List.head?_append, hc]; rfl, hfirst⟩
  · rw [List.getLast?_append, List.getLast?_cons]
    cases hpower with
    | none =>
        rw [List.append_nil]
        cases htail with
        | none => exact ⟨'.', rfl, by decide⟩
        | digits h =>
            obtain ⟨c, hc, hlast⟩ := h.bare.last
            exact ⟨c, by rw [hc]; rfl, hlast⟩
    | some _ _ h =>
        obtain ⟨c, hc, hlast⟩ := h.bare.last
        refine ⟨c, ?_, hlast⟩
        rw [List.getLast?_append, List.getLast?_cons, List.getLast?_append, hc]
        rfl

theorem Power.ends (h : Power power p) : Ends power := by
  cases h with
  | none => exact fun c hc => nomatch hc
  | some he _ _ =>
      rintro c ⟨⟩
      rcases he with rfl | rfl <;> exact ⟨by decide, by decide⟩

theorem double?_eq_some_iff {text : String} (hpoint : '.' ∈ text.toList) {x : Float} :
    Numeral.double? text = some x ↔ Pointed text.toList x := by
  unfold Numeral.double?
  constructor
  · intro h
    have hmem := mem_unsigned_of_mem hpoint
    obtain ⟨lead, sign, trail, hlead, hsign, htrail, htext⟩ := exists_parts text.toList
    generalize unsigned (unpadded text.toList) = parts at h hsign htext hmem
    obtain ⟨negative, cs⟩ := parts
    dsimp only at h hsign htext hmem
    rw [Figure.namedDouble?_eq_none (.inl rfl) hmem] at h
    dsimp only at h
    obtain ⟨whole, hcs, hwhole⟩ := exists_stretch cs
    generalize takeRun ⟨0, 0⟩ cs = taken at h hcs hwhole
    obtain ⟨run, rest⟩ := taken
    dsimp only at h hcs hwhole
    have hrest : '.' ∈ rest := by
      rw [hcs, List.mem_append] at hmem
      exact hmem.resolve_left hwhole.not_mem_point
    cases hfraction : fractionOf run rest with
    | none =>
        rw [hfraction] at h
        cases h
    | some found =>
        obtain ⟨digits, left⟩ := found
        rw [hfraction] at h
        obtain ⟨p, hp, rfl⟩ := Option.map_eq_some_iff.mp h
        have hpower := exponentOf_eq_some_iff.mp hp
        rcases fractionOf_cases hfraction with ⟨behind, run', rfl, htaken, hsome, rfl⟩ | rfl
        · obtain ⟨tail, hbehind, htail⟩ := exists_stretch behind
          rw [htaken] at hbehind htail
          rw [htext, hcs, hbehind]
          exact .intro hlead hsign hwhole htail (not_and_or.mp hsome) hpower htrail
        · exact absurd hrest hpower.not_mem_point
  · intro h
    generalize text.toList = cs at h
    obtain ⟨hlead, hsign, hwhole, htail, hsome, hpower, htrail⟩ := h
    rw [unsigned_unpadded hlead hsign (bare_pointed hwhole htail hpower) htrail]
    dsimp only
    rw [Figure.namedDouble?_eq_none (.inl rfl) (by simp),
      hwhole.takeRun_append (by rintro c ⟨⟩; decide)]
    dsimp only
    rw [fractionOf, htail.takeRun_append hpower.ends]
    dsimp only
    rw [if_neg (not_and_or.mpr hsome)]
    dsimp only
    rw [exponentOf_eq_some_iff.mpr hpower]
    rfl

end Pointed

end ContractReview.Numeral
