import ContractReview.Code.Rules
import ContractReview.Proofs.Text.Lines
import ContractReview.Proofs.Text.Pattern
import Mathlib.Data.List.DropRight

/-!
Where the findings of line rules are. A rule counts the lines that end at any break, and other tools
count newlines; so a finding is at the place that the others would name just if no other break
stands before the match.
-/

namespace ContractReview

namespace Text

/-! ## Breaks -/

/-- Every carriage return stands before a newline. -/
def Paired (text : List Char) : Prop :=
  ∀ before rest, text = before ++ '\r' :: rest → rest.head? = some '\n'

theorem Paired.of_append {before rest : List Char} (h : Paired (before ++ rest)) : Paired rest :=
  fun ahead behind heq => h (before ++ ahead) behind (by rw [heq, List.append_assoc])

theorem paired_nil : Paired [] := by
  intro before rest heq
  simp at heq

theorem paired_cons_iff {c : Char} {text : List Char} :
    Paired (c :: text) ↔ (c = '\r' → text.head? = some '\n') ∧ Paired text := by
  constructor
  · intro h
    exact ⟨fun hc => h [] text (by rw [hc]; rfl), @Paired.of_append [c] text h⟩
  · rintro ⟨hc, h⟩ before rest heq
    cases before with
    | nil =>
        obtain ⟨rfl, rfl⟩ := List.cons.inj heq
        exact hc rfl
    | cons d before => exact h before rest (List.cons.inj heq).2

/-- A line ends with the character; a carriage return leaves that to the newline behind it. -/
def endsLine (c : Char) : Bool := isLineBreak c && c != '\r'

/-- A line ends with the character, though it is no newline. -/
def isStray (c : Char) : Bool := endsLine c && c != '\n'

/-- The number of the line behind a text when newlines are counted. -/
def newlineLine (text : List Char) : Nat := text.count '\n' + 1

/-- The column behind a text when lines end at newlines. -/
def newlineColumn (text : List Char) : Nat := (text.rtakeWhile (· ≠ '\n')).length + 1

theorem countP_endsLine (text : List Char) :
    text.countP endsLine = text.count '\n' + text.countP isStray := by
  induction text with
  | nil => rfl
  | cons c text ih =>
      rw [List.countP_cons, List.countP_cons, List.count_cons, ih]
      by_cases hc : c = '\n'
      · subst hc
        simp +arith [endsLine, isStray, isLineBreak]
      · cases hends : endsLine c <;> simp +arith [isStray, hc, hends]

theorem endsLine_of_unbroken {c : Char} (h : isLineBreak c = false) : endsLine c = false := by
  rw [endsLine, h, Bool.false_and]

/-! ## Lines and what is ahead of them -/

/-- A line of a text, with what is ahead of it and behind it. A final break opens no line. -/
structure LineIn (text ahead line behind : List Char) : Prop where
  text : text = ahead ++ (line ++ behind)
  unbroken : ∀ c ∈ line, isLineBreak c = false
  starts : ∀ c ∈ ahead.getLast?, endsLine c = true
  ends : ∀ c ∈ behind.head?, isLineBreak c = true
  opened : line ++ behind ≠ []

/-- A break and the carriage return before it, if it has one. -/
structure Ending (mark : List Char) (c : Char) : Prop where
  mark : mark = [] ∨ mark = ['\r'] ∧ c = '\n'
  ends : endsLine c = true

variable {text ahead line line' behind mark rest : List Char} {c : Char}

theorem Ending.isLineBreak_head (h : Ending mark c) (rest : List Char) :
    ∀ e ∈ (mark ++ c :: rest).head?, isLineBreak e = true := by
  obtain ⟨rfl | ⟨rfl, rfl⟩, hends⟩ := h
  · rintro e ⟨⟩
    exact (Bool.and_eq_true_iff.mp hends).1
  · rintro e ⟨⟩
    rfl

/-- No line ends before the character. -/
theorem Ending.endsLine_eq_false (h : Ending mark c) (hline : ∀ c ∈ line, isLineBreak c = false) :
    ∀ e ∈ line ++ mark, endsLine e = false := by
  intro e he
  rcases List.mem_append.mp he with he | he
  · exact endsLine_of_unbroken (hline e he)
  · rcases h.mark with rfl | ⟨rfl, -⟩
    · cases he
    · rw [List.mem_singleton.mp he]
      rfl

theorem takeWhile_of_unbroken (hline : ∀ c ∈ line, isLineBreak c = false)
    (hbehind : ∀ c ∈ behind.head?, isLineBreak c = true) :
    (line ++ behind).takeWhile (!isLineBreak ·) = line := by
  rw [List.takeWhile_append_of_pos (by simpa using hline)]
  cases behind with
  | nil => exact List.append_nil line
  | cons c behind => rw [List.takeWhile_cons_of_neg (by simpa using hbehind), List.append_nil]

theorem LineIn.eq_of_first (h : LineIn text [] line behind)
    (hline : ∀ c ∈ line', isLineBreak c = false) {behind' : List Char}
    (hbehind : ∀ c ∈ behind'.head?, isLineBreak c = true) (htext : text = line' ++ behind') :
    line = line' ∧ behind = behind' := by
  have heq : line' ++ behind' = line ++ behind := htext.symm.trans h.text
  have hlines : line' = line := by
    rw [← takeWhile_of_unbroken hline hbehind, heq, takeWhile_of_unbroken h.unbroken h.ends]
  subst hlines
  exact ⟨rfl, (List.append_cancel_left heq).symm⟩

/-- A line that is not the first one stands behind the end of the first one. -/
theorem LineIn.exists_of_later (hline : ∀ c ∈ line, isLineBreak c = false) (hmark : Ending mark c)
    (h : LineIn (line ++ (mark ++ c :: rest)) ahead line' behind) (hahead : ahead ≠ []) :
    ∃ ahead', ahead = line ++ (mark ++ c :: ahead') ∧ LineIn rest ahead' line' behind := by
  -- the last character ahead ends a line, and the first one that does is `c`
  have hmem : ahead.getLast hahead ∉ line ++ mark := by
    intro hmem
    have hlast := h.starts _ (List.getLast?_eq_some_getLast hahead)
    rw [hmark.endsLine_eq_false hline _ hmem] at hlast
    cases hlast
  have htext := h.text
  rw [← List.append_assoc] at htext
  rcases List.append_eq_append_iff.mp htext with ⟨more, rfl, hrest⟩ | ⟨more, heq, -⟩
  · cases more with
    | nil => simp at hmem
    | cons e ahead' =>
        obtain ⟨rfl, htail⟩ := List.cons.inj hrest
        refine ⟨ahead', List.append_assoc .., {
          text := htail
          unbroken := h.unbroken
          starts := fun e he => h.starts e ?_
          ends := h.ends
          opened := h.opened }⟩
        rw [List.getLast?_append, List.getLast?_cons, Option.mem_def.mp he]
        rfl
  · exact absurd (heq ▸ List.mem_append_left _ (List.getLast_mem hahead)) hmem

theorem LineIn.first (hline : ∀ c ∈ line, isLineBreak c = false)
    (hbehind : ∀ c ∈ behind.head?, isLineBreak c = true) (hne : line ++ behind ≠ []) :
    LineIn (line ++ behind) [] line behind where
  text := rfl
  unbroken := hline
  starts := by simp
  ends := hbehind
  opened := hne

theorem LineIn.later (h : LineIn rest ahead line' behind) (hmark : Ending mark c)
    (line : List Char) :
    LineIn (line ++ (mark ++ c :: rest)) (line ++ (mark ++ c :: ahead)) line' behind where
  text := by simp [h.text]
  unbroken := h.unbroken
  starts := by
    intro e he
    rw [← List.append_assoc, List.getLast?_append, List.getLast?_cons] at he
    cases hlast : ahead.getLast? with
    | none =>
        rw [hlast] at he
        cases he
        exact hmark.ends
    | some d =>
        rw [hlast] at he
        cases he
        exact h.starts _ hlast
  ends := h.ends
  opened := h.opened

/-- The lines of a text are its first one and those behind the end of that. -/
theorem lineIn_iff (hline : ∀ c ∈ line, isLineBreak c = false) (hmark : Ending mark c) :
    LineIn (line ++ (mark ++ c :: rest)) ahead line' behind ↔
      (ahead = [] ∧ line' = line ∧ behind = mark ++ c :: rest) ∨
        ∃ ahead', ahead = line ++ (mark ++ c :: ahead') ∧ LineIn rest ahead' line' behind := by
  have hbreak := hmark.isLineBreak_head rest
  constructor
  · intro h
    by_cases hahead : ahead = []
    · subst hahead
      exact .inl ⟨rfl, h.eq_of_first hline hbreak rfl⟩
    · exact .inr (h.exists_of_later hline hmark hahead)
  · rintro (⟨rfl, rfl, rfl⟩ | ⟨ahead', rfl, h⟩)
    · exact .first hline hbreak (by simp)
    · exact h.later hmark line

/-- A text without a break is its only line. -/
theorem lineIn_unbroken_iff (hline : ∀ c ∈ line, isLineBreak c = false) (hne : line ≠ []) :
    LineIn line ahead line' behind ↔ ahead = [] ∧ line' = line ∧ behind = [] := by
  constructor
  · intro h
    by_cases hahead : ahead = []
    · subst hahead
      exact ⟨rfl, h.eq_of_first hline (by simp) (List.append_nil line).symm⟩
    · have hlast := h.starts _ (List.getLast?_eq_some_getLast hahead)
      have hmem : ahead.getLast hahead ∈ line := by
        rw [h.text]
        exact List.mem_append_left _ (List.getLast_mem hahead)
      rw [endsLine_of_unbroken (hline _ hmem)] at hlast
      cases hlast
  · rintro ⟨rfl, rfl, rfl⟩
    have hfirst : LineIn (line' ++ []) [] line' [] := .first hline (by simp) (by simpa using hne)
    rwa [List.append_nil] at hfirst

theorem countP_endsLine_later (hline : ∀ c ∈ line, isLineBreak c = false) (hmark : Ending mark c)
    (ahead : List Char) :
    (line ++ (mark ++ c :: ahead)).countP endsLine = ahead.countP endsLine + 1 := by
  have hnone : (line ++ mark).countP endsLine = 0 :=
    List.countP_eq_zero.mpr fun e he => by simp [hmark.endsLine_eq_false hline e he]
  rw [← List.append_assoc, List.countP_append, hnone, Nat.zero_add,
    List.countP_cons_of_pos hmark.ends]

theorem mem_zipIdx_cons_iff (hline : ∀ c ∈ line, isLineBreak c = false) (hmark : Ending mark c)
    {lines : List (List Char)} {number : Nat} {entry : List Char × Nat}
    (h : entry ∈ lines.zipIdx (number + 1) ↔
      ∃ ahead behind, LineIn rest ahead entry.1 behind ∧
        entry.2 = number + 1 + ahead.countP endsLine) :
    entry ∈ (line :: lines).zipIdx number ↔
      ∃ ahead behind, LineIn (line ++ (mark ++ c :: rest)) ahead entry.1 behind ∧
        entry.2 = number + ahead.countP endsLine := by
  rw [List.zipIdx_cons, List.mem_cons, h]
  simp only [lineIn_iff hline hmark]
  constructor
  · rintro (rfl | ⟨ahead, behind, hin, hnumber⟩)
    · exact ⟨[], _, .inl ⟨rfl, rfl, rfl⟩, rfl⟩
    · refine ⟨_, behind, .inr ⟨ahead, rfl, hin⟩, ?_⟩
      rw [hnumber, countP_endsLine_later hline hmark]
      omega
  · rintro ⟨_, behind, ⟨rfl, hfirst, rfl⟩ | ⟨ahead, rfl, hin⟩, hnumber⟩
    · exact .inl (Prod.ext hfirst hnumber)
    · rw [countP_endsLine_later hline hmark] at hnumber
      exact .inr ⟨ahead, behind, hin, by omega⟩

/-- The numbered lines are the lines of the text; as many lines end ahead of one as are numbered
before it. -/
theorem mem_zipIdx_linesFrom_iff {cs : List Char} (hline : ∀ c ∈ line, isLineBreak c = false)
    (hpaired : Paired cs) (number : Nat) {entry : List Char × Nat} :
    entry ∈ (linesFrom line cs).zipIdx number ↔
      ∃ ahead behind, LineIn (line.reverse ++ cs) ahead entry.1 behind ∧
        entry.2 = number + ahead.countP endsLine := by
  fun_induction linesFrom line cs generalizing number with
  | case1 line hempty =>
      obtain rfl := List.isEmpty_iff.mp hempty
      constructor
      · intro h
        cases h
      · rintro ⟨ahead, behind, hin, -⟩
        exact absurd (List.append_eq_nil_iff.mp hin.text.symm).2 hin.opened
  | case2 line hempty =>
      have hne : line.reverse ≠ [] := by simpa using hempty
      rw [List.append_nil, List.zipIdx_singleton, List.mem_singleton]
      simp only [lineIn_unbroken_iff (by simpa using hline) hne]
      constructor
      · rintro rfl
        exact ⟨[], [], ⟨rfl, rfl, rfl⟩, rfl⟩
      · rintro ⟨_, _, ⟨rfl, hfirst, rfl⟩, hnumber⟩
        exact Prod.ext hfirst hnumber
  | case3 line rest ih =>
      have hmark : Ending ['\r'] '\n' := ⟨.inr ⟨rfl, rfl⟩, rfl⟩
      have hrest : Paired rest := @Paired.of_append ['\r', '\n'] _ hpaired
      exact mem_zipIdx_cons_iff (by simpa using hline) hmark (ih (by simp) hrest (number + 1))
  | case4 line c rest hpair hbreak ih =>
      -- no carriage return is left alone
      have hreturn : c ≠ '\r' := by
        rintro rfl
        obtain ⟨more, rfl⟩ := List.head?_eq_some_iff.mp (hpaired [] rest rfl)
        exact hpair more rfl rfl
      have hmark : Ending [] c := ⟨.inl rfl, by simp [endsLine, hbreak, hreturn]⟩
      have hrest : Paired rest := @Paired.of_append [c] _ hpaired
      exact mem_zipIdx_cons_iff (by simpa using hline) hmark (ih (by simp) hrest (number + 1))
  | case5 line c rest hpair hbreak ih =>
      rw [Bool.not_eq_true] at hbreak
      have hrest : Paired rest := @Paired.of_append [c] _ hpaired
      rw [ih (List.forall_mem_cons.mpr ⟨hbreak, hline⟩) hrest number, List.reverse_cons,
        List.append_assoc, List.singleton_append]

end Text

namespace Rule

open Text

/-! ## Findings -/

theorem mem_onLines_iff (rule : Rule) (c : Contract) (platform : String) (number : Nat)
    (lines : List (List Char)) (f : Finding) :
    f ∈ rule.onLines c platform number lines ↔
      ∃ entry ∈ lines.zipIdx number, rule.onLine? c platform entry.2 entry.1 = some f := by
  induction lines generalizing number with
  | nil => simp [onLines]
  | cons line rest ih =>
      rw [onLines]
      cases hfound : rule.onLine? c platform number line with
      | none => simp [ih, hfound]
      | some g => simp [ih, hfound, eq_comm]

/-- On a line of the code, the rule's pattern first matches with `found`. -/
def Meets (rule : Rule) (code before found after : List Char) : Prop :=
  ∃ ahead first last behind kept, LineIn code ahead (first ++ (found ++ last)) behind ∧
    rule.pattern.firstIn? (first ++ (found ++ last)) =
      some ⟨first.length, first.length + found.length, kept⟩ ∧
    before = ahead ++ first ∧ after = last ++ behind

/-- What is said of the place of a match. Its line and column count from all breaks; they are those
that newlines alone give, just if no other break stands before the match. -/
structure Placed (contract : Contract) (before found after : List Char) (f : Finding) : Prop where
  code : contract.code.toList = before ++ (found ++ after)
  file : f.location.file = contract.filename
  length : f.location.length = .num (.int found.length)
  line : f.location.line = (newlineLine before + before.countP isStray : Nat)
  column : f.location.column = ((before.rtakeWhile (!endsLine ·)).length + 1 : Nat)
  newlines : (f.location.line = newlineLine before ∧ f.location.column = newlineColumn before) ↔
    ∀ c ∈ before, isStray c = false

/-- What is behind the last character of a kind. -/
theorem rtakeWhile_append {p : Char → Bool} {ahead line : List Char}
    (hline : ∀ c ∈ line, p c = true) (hlast : ∀ c ∈ ahead.getLast?, p c = false) :
    (ahead ++ line).rtakeWhile p = line := by
  rw [← List.head?_reverse] at hlast
  rw [List.rtakeWhile, List.reverse_append, List.takeWhile_append_of_pos (by simpa using hline)]
  cases hahead : ahead.reverse with
  | nil => rw [List.takeWhile_nil, List.append_nil, List.reverse_reverse]
  | cons c ahead =>
      rw [hahead] at hlast
      rw [List.takeWhile_cons_of_neg (by simpa using hlast), List.append_nil, List.reverse_reverse]

/-- The match is behind the last break, on a line as far down as breaks are ahead. -/
theorem placed_of_onLine? {rule : Rule} {contract : Contract} {platform : String} {f : Finding}
    {ahead first found last behind : List Char} {kept : List (List Char)}
    (hline : LineIn contract.code.toList ahead (first ++ (found ++ last)) behind)
    (hfound : rule.pattern.firstIn? (first ++ (found ++ last)) =
      some ⟨first.length, first.length + found.length, kept⟩)
    (hf : rule.onLine? contract platform (1 + ahead.countP endsLine) (first ++ (found ++ last)) =
      some f) :
    Placed contract (ahead ++ first) found (last ++ behind) f := by
  rw [onLine?, hfound] at hf
  cases hf
  have hfirst : ∀ c ∈ first, isLineBreak c = false := fun c hc =>
    hline.unbroken c (List.mem_append_left _ hc)
  have hnone : first.countP endsLine = 0 :=
    List.countP_eq_zero.mpr fun c hc => by simp [endsLine_of_unbroken (hfirst c hc)]
  have hnumber : 1 + ahead.countP endsLine =
      newlineLine (ahead ++ first) + (ahead ++ first).countP isStray := by
    have hcount := countP_endsLine (ahead ++ first)
    rw [List.countP_append, hnone] at hcount
    rw [newlineLine]
    omega
  have hcolumn : (ahead ++ first).rtakeWhile (!endsLine ·) = first :=
    rtakeWhile_append (fun c hc => by simp [endsLine_of_unbroken (hfirst c hc)])
      fun c hc => by simp [hline.starts c hc]
  have hnewlines (hstray : ∀ c ∈ ahead ++ first, isStray c = false) :
      newlineColumn (ahead ++ first) = first.length + 1 := by
    refine congrArg (·.length + 1) (rtakeWhile_append (fun c hc => ?_) fun c hc => ?_)
    · refine decide_eq_true fun heq => ?_
      subst heq
      cases hfirst _ hc
    · have hends := hline.starts c hc
      simpa [isStray, hends] using hstray c (List.mem_append_left _ (List.mem_of_getLast? hc))
  exact {
    code := by simp [hline.text]
    file := rfl
    length := by simp [Finding.create]
    line := congrArg Nat.cast hnumber
    column := by
      rw [hcolumn]
      rfl
    newlines := by
      constructor
      · rintro ⟨hsame, -⟩
        have hstray : (ahead ++ first).countP isStray = 0 := by
          have hline' := Int.ofNat_inj.mp hsame
          omega
        simpa using List.countP_eq_zero.mp hstray
      · intro hstray
        have hzero : (ahead ++ first).countP isStray = 0 :=
          List.countP_eq_zero.mpr (by simpa using hstray)
        rw [hzero, Nat.add_zero] at hnumber
        exact ⟨congrArg Nat.cast hnumber, congrArg Nat.cast (hnewlines hstray).symm⟩ }

/-- The findings of a rule that is not silenced are those on the lines that its pattern meets. Each
is at the place of the match, as breaks of every kind are counted; and that is the place which
newlines alone give, unless some other break stands before the match. -/
theorem placed_unless_strayed (rule : Rule) (contract : Contract) (platform : String)
    (hpaired : Paired contract.code.toList) :
    (∀ f ∈ rule.apply contract platform, ∃ before found after,
      rule.Meets contract.code.toList before found after ∧
        Placed contract before found after f) ∧
    (rule.silenced contract = false → ∀ before found after,
      rule.Meets contract.code.toList before found after →
        ∃ f ∈ rule.apply contract platform, Placed contract before found after f) := by
  have hlines {entry : List Char × Nat} :
      entry ∈ (linesFrom [] contract.code.toList).zipIdx 1 ↔
        ∃ ahead behind, LineIn contract.code.toList ahead entry.1 behind ∧
          entry.2 = 1 + ahead.countP endsLine :=
    mem_zipIdx_linesFrom_iff (by simp) hpaired 1
  constructor
  · intro f hf
    unfold apply at hf
    split at hf
    · cases hf
    obtain ⟨⟨line, number⟩, hentry, hf⟩ := (mem_onLines_iff ..).mp hf
    obtain ⟨ahead, behind, hline, hnumber⟩ := hlines.mp hentry
    obtain ⟨⟨start, stop, kept⟩, hfound, -⟩ := Option.map_eq_some_iff.mp hf
    obtain ⟨first, found, last, rfl, hstart, hstop⟩ := Pattern.exists_of_firstIn? hfound
    dsimp only at hstart hstop hnumber hf
    subst hstart hstop hnumber
    exact ⟨_, found, _, ⟨ahead, first, last, behind, kept, hline, hfound, rfl, rfl⟩,
      placed_of_onLine? hline hfound hf⟩
  · rintro hsilenced _ found _ ⟨ahead, first, last, behind, kept, hline, hfound, rfl, rfl⟩
    have hf : ∃ f, rule.onLine? contract platform (1 + ahead.countP endsLine)
        (first ++ (found ++ last)) = some f := by
      rw [onLine?, hfound]
      exact ⟨_, rfl⟩
    obtain ⟨f, hf⟩ := hf
    refine ⟨f, ?_, placed_of_onLine? hline hfound hf⟩
    rw [apply, hsilenced]
    exact (mem_onLines_iff ..).mpr ⟨(_, _), hlines.mpr ⟨ahead, behind, hline, rfl⟩, hf⟩

/-- Two aborts, with a form feed at the end of the line between them. -/
def fed : Contract :=
  { filename := "m.move", code := "abort 1\r\n//\x0c\nabort 2", platform := "aptos" }

/-- The first abort is where newlines put it, and the second one is taken to be a line further
down. -/
theorem placed_fed :
    Paired fed.code.toList ∧
    (∃ f ∈ (move[0]).apply fed "aptos", f.location.line = 1 ∧ f.location.column = 1 ∧
      newlineLine [] = 1 ∧ newlineColumn [] = 1) ∧
    ∃ f ∈ (move[0]).apply fed "aptos", f.location.line = 4 ∧ f.location.column = 1 ∧
      newlineLine "abort 1\r\n//\x0c\n".toList = 3 := by
  have hpaired : Paired fed.code.toList := by
    simp [fed, paired_cons_iff, paired_nil]
  have hmeets := (placed_unless_strayed move[0] fed "aptos" hpaired).2 (by decide +kernel)
  have hfirst : LineIn fed.code.toList [] "abort 1".toList "\r\n//\x0c\nabort 2".toList :=
    ⟨rfl, by simp [isLineBreak], by simp, by simp [isLineBreak], by decide⟩
  have hsecond : LineIn fed.code.toList "abort 1\r\n//\x0c\n".toList "abort 2".toList [] :=
    ⟨rfl, by simp [isLineBreak], by simp [endsLine, isLineBreak], by simp, by decide⟩
  refine ⟨hpaired, ?_, ?_⟩
  · obtain ⟨f, hf, hplaced⟩ := hmeets [] "abort 1".toList "\r\n//\x0c\nabort 2".toList
      ⟨[], [], [], _, [], hfirst, by decide +kernel, rfl, rfl⟩
    exact ⟨f, hf, hplaced.line.trans (by decide), hplaced.column.trans (by decide), by decide,
      by decide⟩
  · obtain ⟨f, hf, hplaced⟩ := hmeets "abort 1\r\n//\x0c\n".toList "abort 2".toList []
      ⟨"abort 1\r\n//\x0c\n".toList, [], [], [], [], hsecond, by decide +kernel, rfl, rfl⟩
    exact ⟨f, hf, hplaced.line.trans (by decide), hplaced.column.trans (by decide), by decide⟩

end Rule

end ContractReview
