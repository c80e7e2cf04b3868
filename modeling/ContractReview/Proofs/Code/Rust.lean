import ContractReview.Proofs.Code.Segments
import ContractReview.Proofs.Platform.Validation

/-!
Rust programs, as the tokens that they are written in, and the brackets that are counted in them.
Where each token is read for what it is, a program whose brackets balance raises no alarm. Four
kinds of token are not: strings that go on behind a backslash at the end of a line, raw strings that
are no plain ones, comments with comments in them, and code points with low lines between their
digits.
-/

namespace ContractReview.Code.Rust

/-! ## Bodies -/

/-- The inside of a string. A backslash may stand before any character, the end of a line too. -/
abbrev StringBody : List Char → Prop := Quoted (Ordinary '"') fun _ => True

/-- A line of the string goes on in the next one: a backslash that is not escaped itself stands at
its end. -/
def Continued (body : List Char) : Prop :=
  ∃ before behind, body = before ++ '\\' :: '\n' :: behind ∧ StringBody before

theorem continued_cons {c : Char} {body : List Char} (hc : Ordinary '"' c)
    (h : Continued body) : Continued (c :: body) := by
  obtain ⟨before, behind, rfl, hbefore⟩ := h
  exact ⟨c :: before, behind, rfl, .own hc hbefore⟩

theorem continued_escape {body : List Char} (c : Char) (h : Continued body) :
    Continued ('\\' :: c :: body) := by
  obtain ⟨before, behind, rfl, hbefore⟩ := h
  exact ⟨'\\' :: c :: before, behind, rfl, .escape trivial hbefore⟩

theorem doubleQuoted_of_not_continued {body : List Char} (h : StringBody body)
    (hline : ¬ Continued body) : DoubleQuoted body := by
  induction h with
  | nil => exact .nil
  | own hc _ ih => exact .own hc (ih fun h => hline (continued_cons hc h))
  | @escape c body _ _ ih =>
      refine .escape ?_ (ih fun h => hline (continued_escape c h))
      rintro rfl
      exact hline ⟨[], body, rfl, .nil⟩

theorem afterDoubleQuoted?_continued {before : List Char} (h : StringBody before)
    (rest : List Char) : afterDoubleQuoted? (before ++ '\\' :: '\n' :: rest) = none := by
  induction h with
  | nil => rfl
  | own hc _ ih => simpa [afterDoubleQuoted?, hc.1, hc.2] using ih
  | @escape c before _ _ ih =>
      by_cases hc : c = '\n'
      · subst hc
        rfl
      · simpa [afterDoubleQuoted?, hc] using ih

/-- A string that goes on in the next line is not seen as one: its quotation mark stays, and so does
whatever is in it, up to the next mark. -/
theorem plain_continued {body : List Char} (h : Continued body) (rest : List Char)
    (mode : Apostrophes) :
    plain ('"' :: (body ++ rest)) mode = '"' :: plain (body ++ rest) mode := by
  obtain ⟨before, behind, rfl, hbefore⟩ := h
  refine plain_cons ?_
  simpa [afterLiteral?] using afterDoubleQuoted?_continued hbefore (behind ++ rest)

example : delimiterErrors "g(\"(\\\n\")" = ["Unbalanced '(': 1 more opening than closing"] := by
  decide

/-- The inside of a block comment. Each comment in it is closed in it. -/
inductive CommentBody : List Char → Prop
  | nil : CommentBody []
  | own {c : Char} {body : List Char} :
      ¬ ['/', '*'] <+: c :: (body ++ ['*', '/']) → ¬ ['*', '/'] <+: c :: (body ++ ['*', '/']) →
        CommentBody body → CommentBody (c :: body)
  | comment {inner body : List Char} :
      CommentBody inner → CommentBody body →
        CommentBody ('/' :: '*' :: (inner ++ '*' :: '/' :: body))

theorem CommentBody.not_closed {body : List Char} (h : CommentBody body)
    (hflat : ¬ ['/', '*'] <:+: body) : ¬ ['*', '/'] <:+: body := by
  induction h with
  | nil => simp
  | @own c body _ hclose _ ih =>
      intro hinfix
      rcases List.infix_cons_iff.mp hinfix with hleads | hinfix
      · exact hclose (hleads.trans (List.prefix_append (c :: body) _))
      · exact ih (fun h => hflat (List.infix_cons h)) hinfix
  | @comment inner body _ _ _ _ => exact absurd ⟨[], inner ++ '*' :: '/' :: body, rfl⟩ hflat

/-! ## Tokens -/

/-- A token of a Rust program, or a stretch of code without any literal. The letters in front of a
literal are code. -/
inductive Token
  | code (text : List Char) (h : ∀ c ∈ text, BeginsNone c)
  | slash
  | lifetime (name : List Char) (hne : name ≠ []) (h : ∀ c ∈ name, Text.isWord c = true)
  | lineComment (body : List Char) (h : '\n' ∉ body)
  | blockComment (body : List Char) (h : CommentBody body)
  | string (body : List Char) (h : StringBody body)
  | rawString (hashes : Nat) (body : List Char)
      (h : ¬ '"' :: List.replicate hashes '#' <:+: body)
  | character (body : List Char) (h : CharacterBody body)
  | codePoint (digit : Char) (digits : List Char) (hdigit : isHex digit = true)
      (h : ∀ d ∈ digits, isHex d = true ∨ d = '_')

namespace Token

def text : Token → List Char
  | code text _ => text
  | slash => ['/']
  | lifetime name .. => '\'' :: name
  | lineComment body _ => '/' :: '/' :: body
  | blockComment body _ => '/' :: '*' :: (body ++ ['*', '/'])
  | string body _ => '"' :: (body ++ ['"'])
  | rawString hashes body _ =>
      List.replicate hashes '#' ++ '"' :: (body ++ '"' :: List.replicate hashes '#')
  | character body _ => '\'' :: (body ++ ['\''])
  | codePoint digit digits .. =>
      '\'' :: '\\' :: 'u' :: '\x7b' :: digit :: (digits ++ ['\x7d', '\''])

/-- The code that is neither comment nor literal. -/
def plainCode : Token → List Char
  | code text _ => text
  | slash => ['/']
  | lifetime name .. => '\'' :: name
  | _ => []

/-- What can follow the token, which would be another one otherwise. -/
def Fits (rest : List Char) : Token → Prop
  | slash => rest.head? ≠ some '/' ∧ rest.head? ≠ some '*'
  | lifetime .. => rest.head? ≠ some '\''
  | lineComment .. => rest = [] ∨ rest.head? = some '\n'
  | _ => True

/-- The token is not read for what it is. -/
def Overlooked : Token → Prop
  | string body _ => Continued body
  | rawString _ body _ => ¬ DoubleQuoted body
  | blockComment body _ => ['/', '*'] <:+: body
  | codePoint _ digits .. => '_' ∈ digits
  | _ => False

/-- What is left of a token that is read for what it is. -/
def kept : Token → List Char
  | rawString hashes body _ =>
      List.replicate hashes '#' ++ (breaks ('"' :: (body ++ ['"'])) ++ List.replicate hashes '#')
  | code text _ => text
  | slash => ['/']
  | lifetime name .. => '\'' :: name
  | token => breaks token.text

theorem plain_slash {rest : List Char} (h : rest.head? ≠ some '/' ∧ rest.head? ≠ some '*') :
    plain ('/' :: rest) = '/' :: plain rest := by
  refine plain_cons ?_
  unfold afterLiteral?
  split <;> simp_all

theorem plain_lifetime {name rest : List Char} (hne : name ≠ [])
    (hname : ∀ c ∈ name, Text.isWord c = true) (hrest : rest.head? ≠ some '\'') :
    plain ('\'' :: name ++ rest) = '\'' :: name ++ plain rest := by
  have hplain : ∀ c ∈ name, BeginsNone c ∧ c ≠ '\\' := by
    rintro c hc
    refine ⟨⟨?_, ?_, ?_⟩, ?_⟩ <;> rintro rfl <;> exact absurd (hname _ hc) (by decide)
  have hnone : afterLiteral? .characters ('\'' :: (name ++ rest)) = none := by
    cases name with
    | nil => exact absurd rfl hne
    | cons c name =>
        refine afterCharacter?_lone (hplain c List.mem_cons_self).2 ?_
        cases name with
        | nil => exact hrest
        | cons d name =>
            have hd : d ≠ '\'' := (hplain d (by simp)).1.2.1
            simpa using hd
  rw [List.cons_append, plain_cons hnone,
    plain_append_of_beginsNone (fun c hc => (hplain c hc).1), List.cons_append]

theorem plain_append {token : Token} (hseen : ¬ token.Overlooked) {rest : List Char}
    (hfits : token.Fits rest) :
    plain (token.text ++ rest) = token.kept ++ plain rest := by
  cases token with
  | code text h => exact plain_append_of_beginsNone h rest
  | slash => exact plain_slash hfits
  | lifetime name hne h => exact plain_lifetime hne h hfits
  | lineComment body h =>
      have hkept : kept (lineComment body h) = [] := breaks_of_not_mem (by simpa [text] using h)
      rw [hkept]
      exact plain_lineComment h hfits
  | blockComment body h =>
      refine plain_literal (by decide) ?_
      simpa [afterLiteral?] using afterBlockComment?_append (h.not_closed hseen) rest
  | string body h =>
      refine plain_literal (by decide) ?_
      simpa [afterLiteral?] using
        afterDoubleQuoted?_append (doubleQuoted_of_not_continued h hseen) rest
  | rawString hashes body h =>
      have hbody : DoubleQuoted body := not_not.mp hseen
      have hhashes : ∀ c ∈ List.replicate hashes '#', BeginsNone c := fun c hc => by
        simp [List.eq_of_mem_replicate hc, BeginsNone]
      have hliteral : plain ('"' :: (body ++ ['"']) ++ (List.replicate hashes '#' ++ rest)) =
          breaks ('"' :: (body ++ ['"'])) ++ (List.replicate hashes '#' ++ plain rest) := by
        rw [← plain_append_of_beginsNone hhashes]
        refine plain_literal (by decide) ?_
        simpa [afterLiteral?] using afterDoubleQuoted?_append hbody _
      simp only [text, kept, List.append_assoc, List.cons_append] at hliteral ⊢
      rw [plain_append_of_beginsNone hhashes]
      simpa using hliteral
  | character body h =>
      refine plain_literal (by decide) ?_
      simpa [afterLiteral?] using afterCharacter?_append h rest
  | codePoint digit digits hdigit h =>
      have hdigits : ∀ d ∈ digits, isHex d = true := fun d hd =>
        (h d hd).resolve_right fun heq => hseen (show '_' ∈ digits from heq ▸ hd)
      refine plain_literal (by decide) ?_
      simpa [afterLiteral?] using afterCharacter?_append (.codePoint hdigit hdigits) rest

/-- Brackets outside comments and literals are all that is left. -/
theorem count_kept {c : Char} (hc : c ∈ ['\x7b', '\x7d', '(', ')']) (token : Token) :
    token.kept.count c = token.plainCode.count c := by
  have hline : c ≠ '\n' := by rintro rfl; simp at hc
  have hhash : c ≠ '#' := by rintro rfl; simp at hc
  cases token with
  | code | slash | lifetime => rfl
  | rawString hashes body h =>
      rw [kept, List.count_append, List.count_append, count_breaks_of_ne hline,
        List.count_replicate, if_neg (by simpa using hhash.symm)]
      rfl
  | _ => exact count_breaks_of_ne hline _

end Token

/-! ## Programs -/

/-- Each token may stand before the text of the others. -/
def Separate : List Token → Prop
  | [] => True
  | token :: tokens => token.Fits (tokens.flatMap Token.text) ∧ Separate tokens

theorem plain_flatMap_text {tokens : List Token} (h : Separate tokens)
    (hseen : ∀ token ∈ tokens, ¬ token.Overlooked) :
    plain (tokens.flatMap Token.text) = tokens.flatMap Token.kept := by
  induction tokens with
  | nil => rfl
  | cons token tokens ih =>
      obtain ⟨htoken, htokens⟩ := List.forall_mem_cons.mp hseen
      rw [List.flatMap_cons, Token.plain_append htoken h.1, ih h.2 htokens, List.flatMap_cons]

theorem count_flatMap_kept {c : Char} (hc : c ∈ ['\x7b', '\x7d', '(', ')'])
    (tokens : List Token) :
    (tokens.flatMap Token.kept).count c = (tokens.flatMap Token.plainCode).count c := by
  induction tokens with
  | nil => rfl
  | cons token tokens ih =>
      rw [List.flatMap_cons, List.count_append, Token.count_kept hc, ih, List.flatMap_cons,
        List.count_append]

structure Program where
  tokens : List Token
  separate : Separate tokens

namespace Program

def text (p : Program) : String := String.ofList (p.tokens.flatMap Token.text)

/-- Outside comments and literals as many braces close as open, and as many parentheses. -/
def Balanced (p : Program) : Prop :=
  ∀ pair ∈ [braces, parentheses], pair.difference (p.tokens.flatMap Token.plainCode) = 0

theorem difference_kept (p : Program) {pair : Delimiters} (h : pair ∈ [braces, parentheses]) :
    pair.difference (p.tokens.flatMap Token.kept) =
      pair.difference (p.tokens.flatMap Token.plainCode) := by
  have hopening : pair.opening ∈ ['\x7b', '\x7d', '(', ')'] := by
    simp only [List.mem_cons, List.not_mem_nil, or_false] at h
    rcases h with rfl | rfl <;> decide
  have hclosing : pair.closing ∈ ['\x7b', '\x7d', '(', ')'] := by
    simp only [List.mem_cons, List.not_mem_nil, or_false] at h
    rcases h with rfl | rfl <;> decide
  rw [Delimiters.difference, count_flatMap_kept hopening, count_flatMap_kept hclosing,
    Delimiters.difference]

theorem delimiterErrors_text {p : Program} (h : p.Balanced)
    (hseen : ∀ token ∈ p.tokens, ¬ token.Overlooked) : delimiterErrors p.text = [] := by
  unfold delimiterErrors text
  rw [String.toList_ofList, plain_flatMap_text p.separate hseen]
  refine List.filterMap_eq_nil_iff.mpr fun pair hpair => ?_
  rw [Delimiters.imbalance?_eq_report?, difference_kept p hpair, h pair hpair]
  rfl

variable {σ : Type}

/-- A program whose brackets balance gives no cause for alarm, and its contract is found as good as
its size and text are, unless a token of it is not read for what it is. -/
theorem unalarmed_unless_overlooked (p : Program) (h : p.Balanced) (tools : Tools σ)
    (models : Models σ) (platform : String) (options : ReviewOptions) (evm : Evm.Options)
    (c : Contract) (s : σ) :
    (∃ token ∈ p.tokens, token.Overlooked) ∨
      (delimiterErrors p.text = [] ∧
        let review := Family.solana.pipeline tools models platform options evm
        let contract := { c with code := p.text }
        (review.validate contract s).1.errors = (review.checkInput contract).errors ∧
          (review.validate contract s).1.isValid = (review.checkInput contract).isValid) := by
  by_cases hseen : ∃ token ∈ p.tokens, token.Overlooked
  · exact .inl hseen
  · have hnone : delimiterErrors p.text = [] :=
      delimiterErrors_text h fun token htoken hover => hseen ⟨token, htoken, hover⟩
    have herrors : ((Family.solana.pipeline tools models platform options evm).validate
        { c with code := p.text } s).1.errors =
          ((Family.solana.pipeline tools models platform options evm).checkInput
            { c with code := p.text }).errors := by
      rw [Pipeline.validate_of_unprobed _ _ _ _ _ _ _ (by decide), Pipeline.untooled]
      split
      · rfl
      · rw [Family.errors_structureCheck]
        simp only [Family.structureErrors, hnone, List.append_nil]
    refine .inr ⟨hnone, herrors, ?_⟩
    rw [Validation.isValid, herrors, Validation.isValid]

/-- Brackets in literals of each kind, a lifetime, a division and a comment that ends the text. -/
def sample : Program where
  tokens := [
    .code ['f', 'n', ' ', 'f', '<'] (by simp [BeginsNone]),
    .lifetime ['a'] (by simp) (List.forall_mem_singleton.mpr rfl),
    .code ['>', '(', ')', '\x7b', 'g', '('] (by simp [BeginsNone]),
    .character ['('] (.own (by simp [Ordinary]) (by simp [InLine])),
    .code [','] (by simp [BeginsNone]),
    .string ['\\', '"', '\x7b'] (.escape trivial (.own (by simp [Ordinary]) .nil)),
    .code [',', 'r'] (by simp [BeginsNone]),
    .rawString 1 ['('] (by decide),
    .code [')', ' '] (by simp [BeginsNone]),
    .slash,
    .code [' '] (by simp [BeginsNone]),
    .blockComment ['*', '\x7d'] (.own (by decide) (by decide) (.own (by decide) (by decide) .nil)),
    .code ['2', '\x7d'] (by simp [BeginsNone]),
    .lineComment ['\'', '(', '"'] (by decide)]
  separate := by simp [Separate, Token.Fits, Token.text]

theorem unalarmed_sample :
    sample.Balanced ∧
    sample.text = "fn f<'a>()\x7bg('(',\"\\\"\x7b\",r#\"(\"#) / /**\x7d*/2\x7d//'(\"" ∧
    delimiterErrors sample.text = [] := by
  have hbalanced : sample.Balanced := by
    unfold Balanced
    decide
  refine ⟨hbalanced, by decide, ?_⟩
  have hseen : ∀ token ∈ sample.tokens, ¬ token.Overlooked := by
    have hstring : ¬ Continued ['\\', '"', '\x7b'] := fun ⟨_, _, heq, _⟩ =>
      absurd (heq ▸ List.mem_append_right _ (by simp) : '\n' ∈ ['\\', '"', '\x7b']) (by simp)
    have hraw : DoubleQuoted ['('] := .own (by simp [Ordinary]) .nil
    have hcomment : ¬ ['/', '*'] <:+: ['*', '\x7d'] := by decide
    simp [sample, Token.Overlooked, hstring, hraw, hcomment]
  have tools : Tools Unit := ⟨fun _ => throw .noFirstItem, fun _ _ => false, ⟨"", ""⟩⟩
  have models : Models Unit := ⟨fun _ _ _ => (.fault .noFirstItem, ()), fun _ s => s, fun _ s => s⟩
  rcases unalarmed_unless_overlooked sample hbalanced tools models "solana" {} {}
    ⟨"lib.rs", "", "solana", none⟩ () with ⟨token, htoken, hover⟩ | ⟨hnone, -⟩
  · exact absurd hover (hseen token htoken)
  · exact hnone

end Program

end ContractReview.Code.Rust
