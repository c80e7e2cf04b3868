import ContractReview.Json.Reader
import ContractReview.Proofs.Text.Search
import Mathlib

/-!
Strings, numbers and names in JSON text. What the reader takes off the front of a text does not
depend on what follows, as long as nothing that follows could belong to a number.
-/

namespace ContractReview.Json

/-! ## Strings -/

/-- A string whose inside begins `cs` is read as `s` and leaves `rest`; its inside has no control
characters, and is read in the same way in front of any other text. -/
def Enclosed (taken : List Nat) (cs : List Char) (s : String) (rest : List Char) : Prop :=
  ∃ body, cs = body ++ '"' :: rest ∧ (∀ c ∈ body, 32 ≤ c.toNat) ∧
    ∀ opening more, readString opening taken (body ++ '"' :: more) = .ok (s, more)

/-- One piece of a string before the rest of it. -/
theorem Enclosed.step {taken taken' : List Nat} {cs rest : List Char} {s : String}
    (h : Enclosed taken' cs s rest) (piece : List Char) (hplain : ∀ c ∈ piece, 32 ≤ c.toNat)
    (hpiece : ∀ opening more, more ≠ [] →
      readString opening taken (piece ++ more) = readString opening taken' more) :
    Enclosed taken (piece ++ cs) s rest := by
  obtain ⟨body, rfl, hbody, hread⟩ := h
  refine ⟨piece ++ body, (List.append_assoc _ _ _).symm, ?_, ?_⟩
  · intro c hc
    rcases List.mem_append.mp hc with hc | hc
    · exact hplain c hc
    · exact hbody c hc
  · intro opening more
    rw [List.append_assoc, hpiece _ _ (List.append_ne_nil_of_right_ne_nil _ (List.cons_ne_nil _ _))]
    exact hread opening more

theorem le_toNat_of_hexValue? {c : Char} {n : Nat} (h : hexValue? c = some n) : 32 ≤ c.toNat := by
  unfold hexValue? at h
  dsimp only at h
  split at h
  · omega
  · split at h
    · omega
    · split at h
      · omega
      · cases h

theorem le_toNat_of_hexFour? {a b c d : Char} {code : Nat} (h : hexFour? a b c d = some code) :
    ∀ x ∈ ['\\', 'u', a, b, c, d], 32 ≤ x.toNat := by
  simp only [hexFour?, Option.bind_eq_bind, Option.bind_eq_some_iff, Option.pure_def] at h
  obtain ⟨_, ha, _, hb, _, hc, _, hd, -⟩ := h
  simp only [List.mem_cons, List.not_mem_nil, or_false]
  rintro x (rfl | rfl | rfl | rfl | rfl | rfl)
  · decide
  · decide
  · exact le_toNat_of_hexValue? ha
  · exact le_toNat_of_hexValue? hb
  · exact le_toNat_of_hexValue? hc
  · exact le_toNat_of_hexValue? hd

theorem le_toNat_of_simpleEscape? {c e : Char} (h : simpleEscape? c = some e) :
    ∀ x ∈ ['\\', c], 32 ≤ x.toNat := by
  simp only [List.mem_cons, List.not_mem_nil, or_false]
  rintro x (rfl | rfl)
  · decide
  · unfold simpleEscape? at h
    split at h <;> first | decide | cases h

theorem readString_escape {c e : Char} (hu : c ≠ 'u') (he : simpleEscape? c = some e)
    (opening : List Char) (taken : List Nat) (rest : List Char) :
    readString opening taken ('\\' :: c :: rest) = readString opening (e.toNat :: taken) rest := by
  rw [readString.eq_5 _ _ _ _ (fun _ _ _ _ _ heq => absurd heq hu) hu, he]

theorem readString_plain {c : Char} (hquote : c ≠ '"') (hback : c ≠ '\\') (hc : 32 ≤ c.toNat)
    (opening : List Char) (taken : List Nat) (rest : List Char) :
    readString opening taken (c :: rest) = readString opening (c.toNat :: taken) rest := by
  rw [readString.eq_7 _ _ _ _ hquote (fun _ _ _ _ _ heq => absurd heq hback)
    (fun _ heq => absurd heq hback) (fun _ _ heq => absurd heq hback)
    (fun heq => absurd heq hback)]
  exact if_neg (Nat.not_lt.mpr hc)

theorem enclosed_of_readString {opening : List Char} {taken : List Nat} {cs rest : List Char}
    {s : String} (h : readString opening taken cs = .ok (s, rest)) :
    Enclosed taken cs s rest := by
  fun_induction readString opening taken cs with
  | case2 taken _ =>
      cases h
      exact ⟨[], rfl, by simp, fun _ _ => by rw [List.nil_append, readString]⟩
  | case4 taken a b c d rest' code hcode _ ih =>
      refine (ih h).step ['\\', 'u', a, b, c, d] (le_toNat_of_hexFour? hcode) ?_
      intro opening more hmore
      simp [readString, hcode, hmore]
  | case7 taken c rest' _ hu e he ih =>
      exact (ih h).step ['\\', c] (le_toNat_of_simpleEscape? he) fun opening more _ =>
        readString_escape hu he opening taken more
  | case11 taken c rest' hquote _ _ hescape hend hcontrol ih =>
      have hback : c ≠ '\\' := by
        intro heq
        cases rest' with
        | nil => exact hend heq rfl
        | cons d rest' => exact hescape d rest' heq rfl
      have hc : 32 ≤ c.toNat := Nat.not_lt.mp hcontrol
      exact (ih h).step [c] (by simpa using hc) fun opening more _ =>
        readString_plain hquote hback hc opening taken more
  | case1 | case3 | case5 | case6 | case8 | case9 | case10 => cases h

/-! ## Parts of a number -/

/-- The text does not begin with a character of that kind. -/
def Breaks (kind : Char → Bool) : List Char → Prop
  | [] => True
  | c :: _ => kind c = false

theorem Breaks.append {kind : Char → Bool} {cs more : List Char} (h : Breaks kind cs)
    (hmore : Breaks kind more) : Breaks kind (cs ++ more) := by
  cases cs with
  | nil => exact hmore
  | cons c rest => exact h

theorem Breaks.mono {kind kind' : Char → Bool} {cs : List Char} (h : Breaks kind cs)
    (hkinds : ∀ c, kind' c = true → kind c = true) : Breaks kind' cs := by
  cases cs with
  | nil => trivial
  | cons c rest =>
      have hc : kind c = false := h
      exact Bool.eq_false_iff.mpr fun hc' => absurd (hkinds c hc') (by simp [hc])

/-- `take` takes `used` for `a` off any text in which no character of that kind follows. -/
def Takes {α : Type} (take : List Char → α × List Char) (kind : Char → Bool) (used : List Char)
    (a : α) : Prop :=
  ∀ more, Breaks kind more → take (used ++ more) = (a, more)

/-- Nothing in the text could be part of a fence. -/
def Fenceless (cs : List Char) : Prop := ∀ c ∈ cs, c ≠ '\x60'

theorem Fenceless.append {cs ds : List Char} (h : Fenceless cs) (h' : Fenceless ds) :
    Fenceless (cs ++ ds) := List.forall_mem_append.mpr ⟨h, h'⟩

theorem takeDigits_of_breaks (run : Numeral.Run) {cs : List Char} (h : Breaks isAsciiDigit cs) :
    takeDigits run cs = (run, cs) := by
  cases cs with
  | nil => rfl
  | cons c rest =>
      have hc : isAsciiDigit c = false := h
      simp [takeDigits, hc]

theorem takeDigits_cons {c : Char} (hc : isAsciiDigit c = true) (run : Numeral.Run)
    (rest : List Char) :
    takeDigits run (c :: rest) = takeDigits (run.push (c.toNat - 48)) rest := by
  rw [takeDigits, if_pos hc]

theorem exists_takes_takeDigits {run total : Numeral.Run} {cs rest : List Char}
    (h : takeDigits run cs = (total, rest)) :
    ∃ used, cs = used ++ rest ∧ Takes (takeDigits run) isAsciiDigit used total ∧
      ∀ c ∈ used, isAsciiDigit c = true := by
  fun_induction takeDigits run cs with
  | case1 =>
      cases h
      exact ⟨[], rfl, fun _ hmore => takeDigits_of_breaks _ hmore, by simp⟩
  | case2 run c cs hc ih =>
      obtain ⟨used, hsplit, htake, hdigits⟩ := ih h
      refine ⟨c :: used, congrArg (c :: ·) hsplit, fun more hmore => ?_,
        List.forall_mem_cons.mpr ⟨hc, hdigits⟩⟩
      rw [List.cons_append, takeDigits_cons hc, htake more hmore]
  | case3 =>
      cases h
      exact ⟨[], rfl, fun _ hmore => takeDigits_of_breaks _ hmore, by simp⟩

theorem fenceless_digits {cs : List Char} (h : ∀ c ∈ cs, isAsciiDigit c = true) :
    Fenceless cs := by
  rintro c hc rfl
  exact absurd (h _ hc) (by decide)

/-- An optional part: nothing is taken where it is missing. -/
def part {α : Type} (take : List Char → Option (α × List Char)) (cs : List Char) :
    Option α × List Char :=
  match take cs with
  | some (a, rest) => (some a, rest)
  | none => (none, cs)

theorem part_of_some {α : Type} {take : List Char → Option (α × List Char)} {cs rest : List Char}
    {a : α} (h : take cs = some (a, rest)) : part take cs = (some a, rest) := by
  rw [part, h]

theorem part_of_none {α : Type} {take : List Char → Option (α × List Char)} {cs : List Char}
    (h : take cs = none) : part take cs = (none, cs) := by
  rw [part, h]

def isPoint (c : Char) : Bool := isAsciiDigit c || c = '.'

def isFigure (c : Char) : Bool := isPoint c || c = 'e' || c = 'E'

theorem isPoint_of_isAsciiDigit (c : Char) (h : isAsciiDigit c = true) : isPoint c = true := by
  rw [isPoint, h, Bool.true_or]

theorem isFigure_of_isPoint (c : Char) (h : isPoint c = true) : isFigure c = true := by
  rw [isFigure, h, Bool.true_or, Bool.true_or]

theorem takeFraction_of_breaks {cs : List Char} (h : Breaks isPoint cs) :
    takeFraction cs = none := by
  unfold takeFraction
  split
  · exact absurd h (by simp [Breaks, isPoint])
  · rfl

theorem takeFraction_point {c : Char} (hc : isAsciiDigit c = true) (cs : List Char) :
    takeFraction ('.' :: c :: cs) = some (takeDigits ⟨0, 0⟩ (c :: cs)) := by
  rw [takeFraction, if_pos hc]

theorem exists_takes_takeFraction {cs rest : List Char} {fraction : Option Numeral.Run}
    (h : part takeFraction cs = (fraction, rest)) :
    ∃ used, cs = used ++ rest ∧ Takes (part takeFraction) isPoint used fraction ∧
      Breaks isAsciiDigit used ∧ Fenceless used := by
  cases hfound : takeFraction cs with
  | none =>
      rw [part_of_none hfound] at h
      cases h
      exact ⟨[], rfl, fun more hmore => part_of_none (takeFraction_of_breaks hmore), trivial,
        by simp [Fenceless]⟩
  | some found =>
      rw [part_of_some hfound] at h
      cases h
      unfold takeFraction at hfound
      split at hfound
      next c cs =>
        split at hfound
        next hc =>
          rw [takeDigits_cons hc, Option.some.injEq] at hfound
          obtain ⟨used, rfl, htake, hdigits⟩ := exists_takes_takeDigits hfound
          refine ⟨'.' :: c :: used, rfl, fun more hmore => part_of_some ?_, rfl, ?_⟩
          · rw [List.cons_append, List.cons_append, takeFraction_point hc, takeDigits_cons hc,
              htake more (hmore.mono isPoint_of_isAsciiDigit)]
          · exact List.forall_mem_cons.mpr
              ⟨by decide, fenceless_digits (List.forall_mem_cons.mpr ⟨hc, hdigits⟩)⟩
        next => cases hfound
      next => cases hfound

theorem takePower_of_breaks {cs : List Char} (h : Breaks isFigure cs) : takePower cs = none := by
  cases cs with
  | nil => rfl
  | cons c rest =>
      have hc : isFigure c = false := h
      simp only [isFigure, Bool.or_eq_false_iff, decide_eq_false_iff_not] at hc
      rw [takePower, if_neg (by simp [hc.1.2, hc.2])]

/-- A sign stays a sign in front of digits. -/
theorem exists_unsigned {cs body : List Char} {negative : Bool}
    (h : Numeral.unsigned cs = (negative, body)) :
    ∃ sign, cs = sign ++ body ∧ Fenceless sign ∧ ∀ d more, isAsciiDigit d = true →
      Numeral.unsigned (sign ++ d :: more) = (negative, d :: more) := by
  unfold Numeral.unsigned at h
  split at h
  next => cases h; exact ⟨['-'], rfl, by simp [Fenceless], fun _ _ _ => rfl⟩
  next => cases h; exact ⟨['+'], rfl, by simp [Fenceless], fun _ _ _ => rfl⟩
  next =>
    cases h
    refine ⟨[], rfl, by simp [Fenceless], fun d more hd => ?_⟩
    rw [List.nil_append]
    unfold Numeral.unsigned
    split
    next heq => cases heq; cases hd
    next heq => cases heq; cases hd
    next => rfl

theorem takePower_mark {c : Char} (hc : c = 'e' ∨ c = 'E') {cs body rest : List Char}
    {negative : Bool} {run : Numeral.Run} (hsign : Numeral.unsigned cs = (negative, body))
    (htake : takeDigits ⟨0, 0⟩ body = (run, rest)) :
    takePower (c :: cs) = if run.count = 0 then none
      else some (if negative then -(run.value : Int) else run.value, rest) := by
  simp [takePower, hc, hsign, htake]

theorem exists_takes_takePower {cs rest : List Char} {power : Option Int}
    (h : part takePower cs = (power, rest)) :
    ∃ used, cs = used ++ rest ∧ Takes (part takePower) isFigure used power ∧
      Breaks isPoint used ∧ Fenceless used := by
  cases hfound : takePower cs with
  | none =>
      rw [part_of_none hfound] at h
      cases h
      exact ⟨[], rfl, fun more hmore => part_of_none (takePower_of_breaks hmore), trivial,
        by simp [Fenceless]⟩
  | some found =>
      rw [part_of_some hfound] at h
      cases h
      cases cs with
      | nil => cases hfound
      | cons c cs =>
          by_cases hc : c = 'e' ∨ c = 'E'
          swap
          · rw [takePower, if_neg hc] at hfound
            cases hfound
          rcases hunsigned : Numeral.unsigned cs with ⟨negative, body⟩
          rcases hrun : takeDigits ⟨0, 0⟩ body with ⟨run, rest⟩
          rw [takePower_mark hc hunsigned hrun] at hfound
          split at hfound
          next => cases hfound
          next hcount =>
            cases hfound
            obtain ⟨sign, rfl, hplain, hsign⟩ := exists_unsigned hunsigned
            obtain ⟨digits, rfl, htake, hdigits⟩ := exists_takes_takeDigits hrun
            -- without a digit the count of the run would be zero
            obtain ⟨d, digits, rfl⟩ : ∃ d rest, digits = d :: rest := by
              refine List.exists_cons_of_ne_nil ?_
              rintro rfl
              cases htake [] trivial
              exact hcount rfl
            refine ⟨c :: (sign ++ d :: digits), by simp, fun more hmore => part_of_some ?_, ?_, ?_⟩
            · have hagain : takeDigits ⟨0, 0⟩ (d :: (digits ++ more)) = (run, more) :=
                htake more ((hmore.mono isFigure_of_isPoint).mono isPoint_of_isAsciiDigit)
              rw [List.cons_append, List.append_assoc, List.cons_append,
                takePower_mark hc (hsign d _ (hdigits d List.mem_cons_self)) hagain, if_neg hcount]
            · rcases hc with rfl | rfl <;> rfl
            · refine List.forall_mem_cons.mpr ⟨?_, hplain.append (fenceless_digits hdigits)⟩
              rcases hc with rfl | rfl <;> decide

/-! ## Numbers and names -/

/-- The digits before the point; a zero stands alone. -/
def wholePart? : List Char → Option (Numeral.Run × List Char)
  | '0' :: rest => some (⟨0, 1⟩, rest)
  | c :: rest => if isAsciiDigit c then some (takeDigits ⟨0, 0⟩ (c :: rest)) else none
  | [] => none

/-- The number that its parts make. -/
def assembled (negative : Bool) (run : Numeral.Run) (fraction : Option Numeral.Run)
    (power : Option Int) : Except Stop Json :=
  if fraction.isNone && power.isNone then
    if Numeral.digitLimit < run.count then .error (.tooLong run.count)
    else .ok (.num (.int (if negative then -(run.value : Int) else run.value)))
  else
    let tail := fraction.getD ⟨0, 0⟩
    .ok (.num (.float (Double.ofDecimal negative (run.value * Nat.pow 10 tail.count + tail.value)
      (power.getD 0 - tail.count))))

/-- A number is its digits, then a fraction and a power that may be missing. -/
theorem readNumber_eq (start : List Char) (negative : Bool) (cs : List Char) :
    readNumber start negative cs =
      match wholePart? cs with
      | none => .error (.refused .expectingValue start)
      | some (run, rest) =>
          let fraction := part takeFraction rest
          let power := part takePower fraction.2
          (assembled negative run fraction.1 power.1).map (·, power.2) := by
  change (match wholePart? cs with | none => _ | some (run, rest) => _) = _
  split
  next => rfl
  next run rest _ =>
    cases hfraction : takeFraction rest with
    | none =>
        simp only [part_of_none hfraction]
        cases hpower : takePower rest with
        | none =>
            simp only [part_of_none hpower, assembled, Option.map_none, Option.getD_none, hpower,
              Option.isNone_none, Bool.and_self, if_true]
            split <;> rfl
        | some power =>
            simp only [part_of_some hpower, assembled, Option.map_none, Option.getD_none, hpower]
            rfl
    | some fraction =>
        simp only [part_of_some hfraction, Option.map_some, Option.getD_some]
        cases hpower : takePower fraction.2 with
        | none => simp only [part_of_none hpower]; rfl
        | some power => simp only [part_of_some hpower]; rfl

theorem exists_takes_wholePart? {cs rest : List Char} {run : Numeral.Run}
    (h : wholePart? cs = some (run, rest)) :
    ∃ d digits, cs = d :: digits ++ rest ∧ (∀ c ∈ d :: digits, isAsciiDigit c = true) ∧
      ∀ more, Breaks isAsciiDigit more → wholePart? (d :: digits ++ more) = some (run, more) := by
  unfold wholePart? at h
  split at h
  next => cases h; exact ⟨'0', [], rfl, by simp [isAsciiDigit], fun more _ => rfl⟩
  next c cs hzero =>
    split at h
    next hc =>
      rw [takeDigits_cons hc, Option.some.injEq] at h
      obtain ⟨digits, rfl, htake, hdigits⟩ := exists_takes_takeDigits h
      refine ⟨c, digits, rfl, List.forall_mem_cons.mpr ⟨hc, hdigits⟩, fun more hmore => ?_⟩
      rw [List.cons_append, wholePart?, if_pos hc, takeDigits_cons hc, htake more hmore]
      exact hzero
    next => cases h
  next => cases h

/-- Every number begins with a digit, behind its sign, and is read in the same way in front of
anything that does not go on with it. -/
theorem exists_takes_readNumber {start cs rest : List Char} {negative : Bool} {v : Json}
    (h : readNumber start negative cs = .ok (v, rest)) :
    ∃ d used, cs = d :: used ++ rest ∧ isAsciiDigit d = true ∧ Fenceless (d :: used) ∧
      ∀ start more, Breaks isFigure more →
        readNumber start negative (d :: used ++ more) = .ok (v, more) := by
  rw [readNumber_eq] at h
  split at h
  next => cases h
  next run afterWhole hwhole =>
    rcases hfraction : part takeFraction afterWhole with ⟨fraction, afterFraction⟩
    rcases hpower : part takePower afterFraction with ⟨power, rest⟩
    simp only [hfraction, hpower] at h
    obtain ⟨d, digits, rfl, hdigits, htake⟩ := exists_takes_wholePart? hwhole
    obtain ⟨figures, rfl, htake', hstop, hfigures⟩ := exists_takes_takeFraction hfraction
    obtain ⟨mark, rfl, htake'', hstop', hmark⟩ := exists_takes_takePower hpower
    cases hassembled : assembled negative run fraction power with
    | error stop => rw [hassembled] at h; cases h
    | ok value =>
        rw [hassembled] at h
        cases h
        refine ⟨d, digits ++ (figures ++ mark), by simp, hdigits d List.mem_cons_self, ?_, ?_⟩
        · exact (fenceless_digits hdigits).append (hfigures.append hmark)
        · intro start more hmore
          have hsplit : d :: (digits ++ (figures ++ mark)) ++ more =
              d :: digits ++ (figures ++ (mark ++ more)) := by simp
          have hafter : Breaks isPoint (mark ++ more) :=
            hstop'.append (hmore.mono isFigure_of_isPoint)
          rw [readNumber_eq, hsplit,
            htake _ (hstop.append (hafter.mono isPoint_of_isAsciiDigit))]
          simp only [htake' _ hafter, htake'' _ hmore, hassembled]
          rfl

/-- No name is the beginning of another, nor of a number or of any value with a mark of its own. -/
theorem exists_takes_readName? {cs rest : List Char} {v : Json}
    (h : readName? cs = some (v, rest)) :
    ∃ name, cs = name ++ rest ∧ (name, v) ∈ names ∧
      ∀ more, readName? (name ++ more) = some (v, more) := by
  obtain ⟨⟨name, value⟩, hmem, hname⟩ := List.exists_of_findSome?_eq_some h
  obtain ⟨_, hafter, heq⟩ := Option.map_eq_some_iff.mp hname
  cases heq
  refine ⟨name, Text.after?_eq_some_iff.mp hafter, hmem, fun more => ?_⟩
  simp only [names, List.mem_cons, Prod.mk.injEq, List.not_mem_nil, or_false] at hmem
  rcases hmem with ⟨rfl, rfl⟩ | ⟨rfl, rfl⟩ | ⟨rfl, rfl⟩ | ⟨rfl, rfl⟩ | ⟨rfl, rfl⟩ | ⟨rfl, rfl⟩ <;>
    rfl

theorem fenceless_names : ∀ entry ∈ names, entry.1 ≠ [] ∧ Fenceless entry.1 := by
  simp [names, Fenceless]

theorem readName?_of_digit {d : Char} (hd : isAsciiDigit d = true) {cs more : List Char}
    (hcs : cs = d :: more ∨ cs = '-' :: d :: more) : readName? cs = none := by
  refine Option.eq_none_iff_forall_ne_some.mpr fun found h => ?_
  obtain ⟨name, heq, hmem, -⟩ := exists_takes_readName? h
  simp only [names, List.mem_cons, Prod.mk.injEq, List.not_mem_nil, or_false] at hmem
  rcases hmem with ⟨rfl, -⟩ | ⟨rfl, -⟩ | ⟨rfl, -⟩ | ⟨rfl, -⟩ | ⟨rfl, -⟩ | ⟨rfl, -⟩ <;>
    rcases hcs with rfl | rfl <;> cases heq <;> cases hd

/-- A value that has no mark of its own. -/
theorem readValue_scalar {c : Char} (hc : c ∉ ['"', '\x7b', '[']) (fuel : Nat) (cs : List Char) :
    readValue (fuel + 1) (c :: cs) =
      match readName? (c :: cs) with
      | some found => .ok found
      | none =>
          if c = '-' then readNumber (c :: cs) true cs
          else readNumber (c :: cs) false (c :: cs) := by
  simp only [List.mem_cons, List.not_mem_nil, or_false, not_or] at hc
  exact readValue.eq_6 fuel c cs hc.1 hc.2.1 hc.2.2

theorem exists_takes_scalar {c : Char} (hc : c ∉ ['"', '\x7b', '[']) {fuel : Nat}
    {cs rest : List Char} {v : Json} (h : readValue (fuel + 1) (c :: cs) = .ok (v, rest)) :
    ∃ used, cs = used ++ rest ∧ Fenceless (c :: used) ∧
      ∀ fuel more, Breaks isFigure more →
        readValue (fuel + 1) (c :: used ++ more) = .ok (v, more) := by
  rw [readValue_scalar hc] at h
  split at h
  next found hname =>
    cases h
    obtain ⟨name, heq, hmem, hread⟩ := exists_takes_readName? hname
    obtain ⟨hne, hplain⟩ := fenceless_names _ hmem
    obtain ⟨d, used, rfl⟩ := List.exists_cons_of_ne_nil hne
    obtain ⟨rfl, hsplit⟩ := List.cons.inj heq
    refine ⟨used, hsplit, hplain, fun fuel more _ => ?_⟩
    rw [List.cons_append, readValue_scalar hc, ← List.cons_append, hread more]
  next hname =>
    split at h
    next hminus =>
      subst hminus
      obtain ⟨d, used, rfl, hd, hplain, hread⟩ := exists_takes_readNumber h
      refine ⟨d :: used, rfl, List.forall_mem_cons.mpr ⟨by decide, hplain⟩, ?_⟩
      intro fuel more hmore
      have hnone : readName? ('-' :: (d :: used ++ more)) = none :=
        readName?_of_digit hd (.inr rfl)
      rw [List.cons_append, readValue_scalar hc, hnone, if_pos rfl]
      exact hread _ more hmore
    next hminus =>
      obtain ⟨d, used, heq, hd, hplain, hread⟩ := exists_takes_readNumber h
      obtain ⟨rfl, hsplit⟩ := List.cons.inj heq
      refine ⟨used, hsplit, hplain, fun fuel more hmore => ?_⟩
      rw [List.cons_append, readValue_scalar hc, readName?_of_digit hd (.inl rfl), if_neg hminus]
      exact hread _ more hmore

end ContractReview.Json
