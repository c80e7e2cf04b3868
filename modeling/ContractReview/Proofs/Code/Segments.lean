import ContractReview.Code.Delimiters
import ContractReview.Proofs.Text.Search
import Mathlib

/-!
Code as the segments that it is written in. However plain code, comments and literals follow each
other, the plain segments stay, of the others only the line breaks do, and brackets are counted in
the plain segments alone.
-/

namespace ContractReview.Code

variable {mode : Apostrophes}

/-! ## The step behind a literal and the step over a character -/

/-- The line breaks of a text. -/
def breaks (cs : List Char) : List Char := cs.filter (· = '\n')

theorem breaks_cons_of_ne {c : Char} (hc : c ≠ '\n') (cs : List Char) :
    breaks (c :: cs) = breaks cs := List.filter_cons_of_neg (by simpa using hc)

theorem breaks_of_not_mem {cs : List Char} (h : '\n' ∉ cs) : breaks cs = [] :=
  List.filter_eq_nil_iff.mpr fun _ hc heq => h (of_decide_eq_true heq ▸ hc)

theorem count_breaks (cs : List Char) : (breaks cs).count '\n' = cs.count '\n' :=
  List.count_filter rfl

theorem count_breaks_of_ne {c : Char} (hc : c ≠ '\n') (cs : List Char) : (breaks cs).count c = 0 :=
  List.count_eq_zero.mpr fun hmem => hc (of_decide_eq_true (List.mem_filter.mp hmem).2)

theorem plainFrom_inside (literal rest : List Char) :
    plainFrom mode literal.length (literal ++ rest) = breaks literal ++ plain rest mode := by
  induction literal with
  | nil => cases rest <;> rfl
  | cons c literal ih =>
      rw [List.length_cons, List.cons_append, plainFrom]
      by_cases hc : c = '\n'
      · subst hc
        rw [if_pos rfl, ih]
        rfl
      · rw [if_neg hc, ih, breaks_cons_of_ne hc]

theorem plain_literal {c : Char} {literal rest : List Char} (hc : c ≠ '\n')
    (h : afterLiteral? mode (c :: (literal ++ rest)) = some rest) :
    plain (c :: literal ++ rest) mode = breaks (c :: literal) ++ plain rest mode := by
  have hlength : (literal ++ rest).length - rest.length = literal.length := by simp
  rw [List.cons_append, plain, plainFrom, h, breaks_cons_of_ne hc, ← plainFrom_inside]
  simp only [hlength]

theorem plain_cons {c : Char} {rest : List Char} (h : afterLiteral? mode (c :: rest) = none) :
    plain (c :: rest) mode = c :: plain rest mode := by
  rw [plain, plainFrom, h]
  rfl

/-- No comment and no literal begins with the character. -/
def BeginsNone (c : Char) : Prop := c ≠ '"' ∧ c ≠ '\'' ∧ c ≠ '/'

theorem afterLiteral?_of_beginsNone {c : Char} (h : BeginsNone c) (rest : List Char) :
    afterLiteral? mode (c :: rest) = none := by
  obtain ⟨hquote, hapostrophe, hslash⟩ := h
  unfold afterLiteral?
  split <;> simp_all

theorem plain_append_of_beginsNone {text : List Char} (h : ∀ c ∈ text, BeginsNone c)
    (rest : List Char) : plain (text ++ rest) mode = text ++ plain rest mode := by
  induction text with
  | nil => rfl
  | cons c text ih =>
      obtain ⟨hc, htext⟩ := List.forall_mem_cons.mp h
      rw [List.cons_append, plain_cons (afterLiteral?_of_beginsNone hc _), ih htext,
        List.cons_append]

/-! ## Comments -/

/-- A line comment ends before the end of its line. -/
theorem plain_lineComment {body rest : List Char} (h : '\n' ∉ body)
    (hrest : rest = [] ∨ rest.head? = some '\n') :
    plain ('/' :: '/' :: body ++ rest) mode = plain rest mode := by
  have hline : ∀ c ∈ body, decide (c ≠ '\n') = true := fun c hc =>
    decide_eq_true fun heq => h (heq ▸ hc)
  have hdrop : (body ++ rest).dropWhile (· ≠ '\n') = rest := by
    rw [List.dropWhile_append_of_pos hline]
    rcases hrest with rfl | hrest
    · rfl
    · obtain ⟨rest, rfl⟩ := List.head?_eq_some_iff.mp hrest
      rfl
  have hafter : afterLiteral? mode ('/' :: ('/' :: body ++ rest)) = some rest := by
    rw [List.cons_append, afterLiteral?, hdrop]
  rw [plain_literal (by decide) hafter, breaks_of_not_mem (by simpa using h), List.nil_append]

theorem afterBlockComment?_append {body : List Char} (h : ¬ ['*', '/'] <:+: body)
    (rest : List Char) : afterBlockComment? (body ++ '*' :: '/' :: rest) = some rest := by
  rw [afterBlockComment?, Text.cut?_of_not_infix (by decide) h, Option.map_some]

/-! ## Literals -/

/-- The inside of a quoted text: characters of its own, and backslashes with the character that each
of them escapes. -/
inductive Quoted (own escaped : Char → Prop) : List Char → Prop
  | nil : Quoted own escaped []
  | own {c : Char} {body : List Char} :
      own c → Quoted own escaped body → Quoted own escaped (c :: body)
  | escape {c : Char} {body : List Char} :
      escaped c → Quoted own escaped body → Quoted own escaped ('\\' :: c :: body)

/-- The character neither closes a text in such marks nor escapes another. -/
def Ordinary (mark c : Char) : Prop := c ≠ mark ∧ c ≠ '\\'

def InLine (c : Char) : Prop := c ≠ '\n'

/-- The inside of a text in double quotes; it may run over several lines. -/
abbrev DoubleQuoted : List Char → Prop := Quoted (Ordinary '"') InLine

/-- The inside of a text between apostrophes, which ends on its line. -/
abbrev SingleQuoted : List Char → Prop := Quoted (fun c => Ordinary '\'' c ∧ InLine c) InLine

theorem afterDoubleQuoted?_append {body : List Char} (h : DoubleQuoted body) (rest : List Char) :
    afterDoubleQuoted? (body ++ '"' :: rest) = some rest := by
  induction h with
  | nil => rfl
  | own hc _ ih => simpa [afterDoubleQuoted?, hc.1, hc.2] using ih
  | escape hc _ ih => simpa [afterDoubleQuoted?, show _ ≠ '\n' from hc] using ih

theorem afterSingleQuoted?_append {body : List Char} (h : SingleQuoted body) (rest : List Char) :
    afterSingleQuoted? (body ++ '\'' :: rest) = some rest := by
  induction h with
  | nil => rfl
  | own hc _ ih =>
      simpa [afterSingleQuoted?, hc.1.1, hc.1.2, show _ ≠ '\n' from hc.2] using ih
  | escape hc _ ih => simpa [afterSingleQuoted?, show _ ≠ '\n' from hc] using ih

/-- The inside of a character literal: one character that an apostrophe, a backslash or the end of a
line cannot be taken for, or one escape. -/
inductive CharacterBody : List Char → Prop
  | own {c : Char} : Ordinary '\'' c → InLine c → CharacterBody [c]
  | escape {c : Char} : InLine c → CharacterBody ['\\', c]
  | octet {a b : Char} : isHex a = true → isHex b = true → CharacterBody ['\\', 'x', a, b]
  | codePoint {digit : Char} {digits : List Char} :
      isHex digit = true → (∀ d ∈ digits, isHex d = true) →
        CharacterBody ('\\' :: 'u' :: '\x7b' :: digit :: (digits ++ ['\x7d']))

theorem afterCodePoint?_append {digit : Char} {digits : List Char} (hdigit : isHex digit = true)
    (hdigits : ∀ d ∈ digits, isHex d = true) (rest : List Char) :
    afterCodePoint? ('u' :: '\x7b' :: digit :: (digits ++ '\x7d' :: '\'' :: rest)) = some rest := by
  have hdrop : (digits ++ '\x7d' :: '\'' :: rest).dropWhile isHex = '\x7d' :: '\'' :: rest := by
    rw [List.dropWhile_append_of_pos hdigits]
    rfl
  simp only [afterCodePoint?, hdigit, if_true, hdrop]

/-- An escape of one character is not taken for the beginning of a code point. -/
theorem afterCodePoint?_apostrophe (c : Char) (rest : List Char) :
    afterCodePoint? (c :: '\'' :: rest) = none := by
  unfold afterCodePoint?
  split
  next heq => simp at heq
  next a b rest heq =>
    obtain ⟨-, heq⟩ := List.cons.inj heq
    obtain ⟨rfl, -⟩ := List.cons.inj heq
    rfl
  next => rfl

theorem afterCharacter?_own {c : Char} (h : c ≠ '\\') (rest : List Char) :
    afterCharacter? (c :: '\'' :: rest) =
      if c = '\'' ∨ c = '\n' then none else some rest := by
  unfold afterCharacter?
  split
  next heq => exact absurd (List.cons.inj heq).1 h
  next heq => cases heq; rfl
  next hother => exact absurd rfl (hother c rest)

/-- An apostrophe with no other one behind the next character. -/
theorem afterCharacter?_lone {c : Char} {rest : List Char} (h : c ≠ '\\')
    (hrest : rest.head? ≠ some '\'') : afterCharacter? (c :: rest) = none := by
  unfold afterCharacter?
  split
  next heq => exact absurd (List.cons.inj heq).1 h
  next heq => cases heq; exact absurd rfl hrest
  next => rfl

theorem afterCharacter?_append {body : List Char} (h : CharacterBody body) (rest : List Char) :
    afterCharacter? (body ++ '\'' :: rest) = some rest := by
  cases h with
  | own hc hline =>
      rw [List.singleton_append, afterCharacter?_own hc.2, if_neg (not_or.mpr ⟨hc.1, hline⟩)]
  | @escape c hline =>
      have hnone := afterCodePoint?_apostrophe c rest
      simp only [List.cons_append, List.nil_append, afterCharacter?, hnone]
      exact if_neg hline
  | octet ha hb => simp [afterCharacter?, afterCodePoint?, ha, hb]
  | codePoint hdigit hdigits =>
      have hpoint := afterCodePoint?_append hdigit hdigits rest
      simp only [List.cons_append, List.append_assoc, List.nil_append, afterCharacter?, hpoint]

/-! ## Segments -/

/-- A segment of code. An apostrophe opens a character literal in some languages and a text in the
others. -/
inductive Segment : Apostrophes → Type
  | plain {mode : Apostrophes} (text : List Char) (h : ∀ c ∈ text, BeginsNone c) : Segment mode
  | lineComment {mode : Apostrophes} (body : List Char) (h : '\n' ∉ body) : Segment mode
  | blockComment {mode : Apostrophes} (body : List Char) (h : ¬ ['*', '/'] <:+: body) :
      Segment mode
  | doubleQuoted {mode : Apostrophes} (body : List Char) (h : DoubleQuoted body) : Segment mode
  | character (body : List Char) (h : CharacterBody body) : Segment .characters
  | singleQuoted (body : List Char) (h : SingleQuoted body) : Segment .texts

namespace Segment

def text : Segment mode → List Char
  | plain text _ => text
  | lineComment body _ => '/' :: '/' :: (body ++ ['\n'])
  | blockComment body _ => '/' :: '*' :: (body ++ ['*', '/'])
  | doubleQuoted body _ => '"' :: (body ++ ['"'])
  | character body _ => '\'' :: (body ++ ['\''])
  | singleQuoted body _ => '\'' :: (body ++ ['\''])

/-- The code that is neither comment nor literal. -/
def code : Segment mode → List Char
  | plain text _ => text
  | _ => []

/-- What is left of a segment: plain code as it is, and the line breaks of anything else. -/
def kept : Segment mode → List Char
  | plain text _ => text
  | segment => breaks segment.text

/-- The text of some segments in a row. -/
def source (segments : List (Segment mode)) : List Char := segments.flatMap text

/-- A segment is read for what it is, whatever follows it. -/
theorem plain_append (segment : Segment mode) (rest : List Char) :
    Code.plain (segment.text ++ rest) mode = segment.kept ++ Code.plain rest mode := by
  cases segment with
  | plain text h => exact plain_append_of_beginsNone h rest
  | lineComment body h =>
      have hkept : breaks ('/' :: '/' :: body ++ ['\n']) = ['\n'] := by
        rw [breaks, List.filter_append, ← breaks, breaks_of_not_mem (by simpa using h)]
        rfl
      have hline : Code.plain ('\n' :: rest) mode = '\n' :: Code.plain rest mode :=
        plain_cons (afterLiteral?_of_beginsNone (by simp [BeginsNone]) rest)
      have htext : (lineComment body h : Segment mode).text ++ rest =
          '/' :: '/' :: body ++ '\n' :: rest := by simp [text]
      rw [htext, plain_lineComment h (.inr rfl), hline]
      exact congrArg (· ++ Code.plain rest mode) hkept.symm
  | blockComment body h =>
      refine plain_literal (by decide) ?_
      simpa [afterLiteral?] using afterBlockComment?_append h rest
  | doubleQuoted body h =>
      refine plain_literal (by decide) ?_
      simpa [afterLiteral?] using afterDoubleQuoted?_append h rest
  | character body h =>
      refine plain_literal (by decide) ?_
      simpa [afterLiteral?] using afterCharacter?_append h rest
  | singleQuoted body h =>
      refine plain_literal (by decide) ?_
      simpa [afterLiteral?] using afterSingleQuoted?_append h rest

theorem plain_source (segments : List (Segment mode)) :
    Code.plain (source segments) mode = segments.flatMap kept := by
  induction segments with
  | nil => rfl
  | cons segment segments ih =>
      rw [source, List.flatMap_cons, plain_append, ← source, ih, List.flatMap_cons]

/-- No line gets lost. -/
theorem count_newline_kept (segments : List (Segment mode)) :
    (segments.flatMap kept).count '\n' = (source segments).count '\n' := by
  induction segments with
  | nil => rfl
  | cons segment segments ih =>
      have hsegment : segment.kept.count '\n' = segment.text.count '\n' := by
        cases segment with
        | plain text h => rfl
        | _ => exact count_breaks _
      rw [List.flatMap_cons, List.count_append, hsegment, ih, source, source, List.flatMap_cons,
        List.count_append]

end Segment

/-! ## Brackets -/

namespace Delimiters

/-- How many more brackets of a kind open than close in the code. -/
def difference (pair : Delimiters) (code : List Char) : Int :=
  code.count pair.opening - code.count pair.closing

/-- What is said of a difference. -/
def report? (pair : Delimiters) (difference : Int) : Option String :=
  if 0 < difference then
    some ("Unbalanced '" ++ pair.opening.toString ++ "': " ++ toString difference.natAbs ++
      " more opening than closing")
  else if difference < 0 then
    some ("Unbalanced '" ++ pair.closing.toString ++ "': " ++ toString difference.natAbs ++
      " more closing than opening")
  else none

theorem imbalance?_eq_report? (pair : Delimiters) (code : List Char) :
    pair.imbalance? code = pair.report? (pair.difference code) := by
  unfold imbalance? report? difference
  rcases Nat.lt_trichotomy (code.count pair.closing) (code.count pair.opening) with h | h | h
  · have hsize : ((code.count pair.opening : Int) - code.count pair.closing).natAbs =
        code.count pair.opening - code.count pair.closing := by omega
    rw [if_pos h, if_pos (by omega), hsize]
  · rw [if_neg (by omega), if_neg (by omega), if_neg (by omega), if_neg (by omega)]
  · have hsize : ((code.count pair.opening : Int) - code.count pair.closing).natAbs =
        code.count pair.closing - code.count pair.opening := by omega
    rw [if_neg (by omega), if_pos h, if_neg (by omega), if_pos (by omega), hsize]

theorem difference_append (pair : Delimiters) (code more : List Char) :
    pair.difference (code ++ more) = pair.difference code + pair.difference more := by
  simp only [difference, List.count_append]
  omega

/-- The end of a line is no bracket. -/
def Visible (pair : Delimiters) : Prop := pair.opening ≠ '\n' ∧ pair.closing ≠ '\n'

theorem difference_breaks {pair : Delimiters} (h : pair.Visible) (cs : List Char) :
    pair.difference (breaks cs) = 0 := by
  rw [difference, count_breaks_of_ne h.1, count_breaks_of_ne h.2]
  rfl

end Delimiters

namespace Segment

theorem difference_kept {pair : Delimiters} (h : pair.Visible) (segments : List (Segment mode)) :
    pair.difference (segments.flatMap kept) =
      (segments.map fun segment => pair.difference segment.code).sum := by
  induction segments with
  | nil => rfl
  | cons segment segments ih =>
      have hsegment : pair.difference segment.kept = pair.difference segment.code := by
        cases segment with
        | plain text h => rfl
        | _ => exact Delimiters.difference_breaks h _
      rw [List.flatMap_cons, Delimiters.difference_append, hsegment, ih, List.map_cons,
        List.sum_cons]

/-- Of the segments of a source, those of plain code stay as they are, and of the others there
remain the line breaks; so every segment begins on the line that it began on. The brackets of each
kind are compared over the plain segments, and nothing else has a part in the report. -/
theorem stripped_and_counted (segments : List (Segment mode)) :
    plainText (String.ofList (source segments)) mode = String.ofList (segments.flatMap kept) ∧
    (∀ n, ((segments.take n).flatMap kept).count '\n' = (source (segments.take n)).count '\n') ∧
    ∀ pairs : List Delimiters, (∀ pair ∈ pairs, pair.Visible) →
      delimiterErrors (String.ofList (source segments)) pairs mode = pairs.filterMap fun pair =>
        pair.report? (segments.map fun segment => pair.difference segment.code).sum := by
  have hplain :
      Code.plain (String.ofList (source segments)).toList mode = segments.flatMap kept := by
    rw [String.toList_ofList, plain_source]
  refine ⟨?_, fun n => count_newline_kept _, fun pairs hpairs => ?_⟩
  · rw [plainText, hplain]
  · unfold delimiterErrors
    rw [hplain]
    refine List.filterMap_congr fun pair hpair => ?_
    rw [Delimiters.imbalance?_eq_report?, difference_kept (hpairs pair hpair)]

/-- Comment marks in a text, quotation marks in comments, and brackets in both. -/
def nested : List (Segment .characters) := [
  .plain ['f', '('] (by simp [BeginsNone]),
  .doubleQuoted ['\\', '"', '/', '*', '\x7b'] (.escape (by simp [InLine]) <|
    .own (by simp [Ordinary]) <| .own (by simp [Ordinary]) <| .own (by simp [Ordinary]) .nil),
  .plain [')'] (by simp [BeginsNone]),
  .blockComment ['"', '\n', '/', '/'] (by decide),
  .plain ['\x7b'] (by simp [BeginsNone]),
  .character ['\\', 'x', '7', 'b'] (.octet rfl rfl),
  .lineComment ['\'', '('] (by decide),
  .plain ['('] (by simp [BeginsNone])]

theorem stripped_and_counted_nested :
    (∀ pair ∈ [braces, parentheses], pair.Visible) ∧
    source nested = "f(\"\\\"/*\x7b\")/*\"\n//*/\x7b'\\x7b'//'(\n(".toList ∧
    delimiterErrors (String.ofList (source nested)) =
      ["Unbalanced '\x7b': 1 more opening than closing",
       "Unbalanced '(': 1 more opening than closing"] := by
  have hvisible : ∀ pair ∈ [braces, parentheses], pair.Visible := by
    simp [braces, parentheses, Delimiters.Visible]
  refine ⟨hvisible, by decide, ?_⟩
  rw [(stripped_and_counted nested).2.2 _ hvisible]
  decide

end Segment

end ContractReview.Code
