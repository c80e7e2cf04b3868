import ContractReview.Proofs.Move.Blocks
import ContractReview.Proofs.Text.Matches
import ContractReview.Proofs.Text.Search

/-!
The warnings about functions that borrow global storage and do not say so. The check takes the next
opening brace behind a function's name for the start of its body. A heading without a body so takes
over the brace, and the body, of the next declaration. But for what such headings run over, the
functions that are warned of are, one by one, those whose own body borrows and whose own header is
silent.
-/

namespace ContractReview.Move

open Text Text.Pattern

/-! ## Headings -/

/-- Blanks between two words. -/
structure Gap where
  chars : List Char
  blank : Blank chars
  ne_nil : chars ≠ []

/-- What may stand between the visibility of a function and `fun`. -/
def modifiers : List String := ["entry", "inline", "macro", "native"]

/-- The words of a public function from `public` to its name. A scope has the blanks in front of it
with it. -/
structure Heading where
  scope? : Option (List Char × List Char)
  parting : List Char
  words : List (String × Gap)
  space : Gap
  name : List Char
  confined : ∀ scope ∈ scope?, Blank scope.1 ∧ ')' ∉ scope.2
  parted : Blank parting ∧ (scope? = none → parting ≠ [])
  modifying : ∀ word ∈ words, word.1 ∈ modifiers
  named : name ≠ [] ∧ ∀ c ∈ name, isWord c = true

namespace Heading

def scopeText : Option (List Char × List Char) → List Char
  | none => []
  | some (lead, scope) => lead ++ '(' :: (scope ++ [')'])

def wordsText (words : List (String × Gap)) : List Char :=
  words.flatMap fun (word, gap) => word.toList ++ gap.chars

def text (h : Heading) : List Char :=
  "public".toList ++ (scopeText h.scope? ++ (h.parting ++ (wordsText h.words ++
    ("fun".toList ++ (h.space.chars ++ h.name)))))

theorem text_eq (h : Heading) : h.text = "public".toList ++ (scopeText h.scope? ++ (h.parting ++
    (wordsText h.words ++ ("fun".toList ++ (h.space.chars ++ h.name))))) := by
  delta text
  rfl

/-- The heading is written in the one way that is looked for: the scope right behind `public`,
blanks behind both, and no modifier but `entry`. -/
structure Read (h : Heading) : Prop where
  scope : ∀ scope ∈ h.scope?, scope.1 = []
  parted : h.parting ≠ []
  words : h.words = [] ∨ ∃ gap, h.words = [("entry", gap)]

/-- The heading stands in code between two texts, and its ends are those of words. -/
structure In (h : Heading) (code ahead behind : List Char) : Prop where
  text : code = ahead ++ (h.text ++ behind)
  starts : ahead.getLast?.any isWord = false
  ends : behind.head?.any isWord = false

/-- The next brace that opens behind the heading at a place is not its own: the declaration is over
before it, or another one begins there. -/
inductive Overruns (h : Heading) (code : List Char) : Nat → Nat → Prop
  | intro {ahead stretch behind : List Char} :
      h.In code ahead (stretch ++ '\x7b' :: behind) → '\x7b' ∉ stretch →
      ((∃ c ∈ stretch, c = ';' ∨ c = '\x7d') ∨
        ∃ (other : Heading) (ahead' behind' : List Char), other.In code ahead' behind' ∧
          ahead.length < ahead'.length ∧ ahead'.length ≤ (ahead ++ (h.text ++ stretch)).length) →
      Overruns h code ahead.length (ahead ++ (h.text ++ stretch)).length

end Heading

/-- A function as it stands in code: how far in, its name, its header up to the brace that opens its
body, and the text between that and the brace that closes it. -/
structure Function where
  place : Nat
  name : List Char
  header : List Char
  body : List Char
deriving DecidableEq

/-- The heading is that of a function with a body. -/
inductive Heading.Opens (h : Heading) (code : List Char) : Function → Prop
  | intro {ahead signature body behind : List Char} :
      h.In code ahead (signature ++ '\x7b' :: (body ++ '\x7d' :: behind)) →
      (∀ c ∈ signature, c ≠ '\x7b' ∧ c ≠ '\x7d' ∧ c ≠ ';') → Balanced body →
      Opens h code ⟨ahead.length, h.name, h.text ++ (signature ++ ['\x7b']), body⟩

theorem isWord_of_isBlank {c : Char} (h : isBlank c = true) : isWord c = false := by
  have hcode : c.toNat ∈ List.range' 9 5 ++ List.range' 28 5 ++ List.range' 0x2000 11 ++
      [0x85, 0xA0, 0x1680, 0x2028, 0x2029, 0x202F, 0x205F, 0x3000] := by
    simp only [isBlank, Bool.or_eq_true, Bool.and_eq_true, decide_eq_true_eq, beq_iff_eq] at h
    simp only [List.mem_append, List.mem_range'_1, List.mem_cons, List.not_mem_nil, or_false]
    omega
  rw [← Char.ofNat_toNat c]
  revert hcode
  generalize c.toNat = n
  revert n
  decide +kernel

/-! ## Where headings are found -/

theorem Gap.exists_head (gap : Gap) (rest : List Char) :
    ∃ c, (gap.chars ++ rest).head? = some c ∧ isBlank c = true := by
  obtain ⟨chars, hblank, hsome⟩ := gap
  cases chars with
  | nil => exact absurd rfl hsome
  | cons c chars => exact ⟨c, rfl, hblank c List.mem_cons_self⟩

theorem Gap.takes (gap : Gap) {here : Cursor} {rest : List Char}
    (hrest : here.rest = gap.chars ++ rest) (hstop : rest.head?.any isBlank = false) :
    someBlanks.Takes here gap.chars rest [] :=
  .many hrest gap.blank (List.length_pos_of_ne_nil gap.ne_nil) hstop

theorem takes_scope {scope? : Option (List Char × List Char)} {here : Cursor} {rest : List Char}
    (hread : ∀ scope ∈ scope?, scope.1 = []) (hconfined : ∀ scope ∈ scope?, ')' ∉ scope.2)
    (hrest : here.rest = Heading.scopeText scope? ++ rest) (hstop : rest.head? ≠ some '(') :
    (Pattern.optional (inOrder [literal "(", .many 0 (· ≠ ')'), literal ")"])).Takes here
      (Heading.scopeText scope?) rest [] := by
  cases scope? with
  | none =>
      refine .right (fun there hmatches => ?_) (.nothing hrest)
      obtain ⟨mid, hparen, -⟩ := matches_inOrder_cons_iff.mp hmatches
      obtain ⟨behind, hbehind, -⟩ := matches_literal_iff.mp hparen
      rw [show rest = "(".toList ++ behind from hrest.symm.trans hbehind] at hstop
      exact hstop rfl
  | some scope =>
      obtain ⟨lead, scope⟩ := scope
      obtain rfl : lead = [] := hread _ rfl
      have hscope : ')' ∉ scope := hconfined _ rfl
      have htext : here.rest = ['('] ++ (scope ++ ([')'] ++ rest)) := by
        simpa [Heading.scopeText] using hrest
      have hparen : (literal "(").Takes here ['('] (scope ++ ([')'] ++ rest)) [] := .literal htext
      have hclosed : (inOrder [.many 0 (· ≠ ')'), literal ")"]).Takes
          (here.beyond ['('] (scope ++ ([')'] ++ rest))) (scope ++ [')']) rest [] := by
        refine .inOrder_cons (.many rfl (fun c hc => ?_) (Nat.zero_le _) (by simp)) (.literal rfl)
        exact decide_eq_true fun heq => hscope (heq ▸ hc)
      rw [← List.append_assoc] at hparen hclosed
      exact .left (hparen.inOrder_cons hclosed)

theorem takes_words {words : List (String × Gap)} {here : Cursor} {rest : List Char}
    (hread : words = [] ∨ ∃ gap, words = [("entry", gap)])
    (hrest : here.rest = Heading.wordsText words ++ rest) (hfun : "fun".toList <+: rest) :
    (Pattern.optional (.both (literal "entry") someBlanks)).Takes here
      (Heading.wordsText words) rest [] := by
  obtain ⟨behind, rfl⟩ := hfun
  rcases hread with rfl | ⟨gap, rfl⟩
  · refine .right (fun there hmatches => ?_) (.nothing hrest)
    obtain ⟨mid, hentry, -⟩ := hmatches
    obtain ⟨later, hlater, -⟩ := matches_literal_iff.mp hentry
    cases hrest.symm.trans hlater
  · have htext : Heading.wordsText [("entry", gap)] = "entry".toList ++ gap.chars := by
      simp [Heading.wordsText]
    rw [htext, List.append_assoc] at hrest
    rw [htext]
    exact .left (.both (.literal hrest) (gap.takes rfl rfl))

/-- A heading that is written in the one way is found, up to the next brace that opens. -/
theorem reach?_functionHeader {h : Heading} (hread : h.Read)
    {code ahead stretch behind : List Char} (hin : h.In code ahead (stretch ++ '\x7b' :: behind))
    (hbrace : '\x7b' ∉ stretch) :
    functionHeader.reach?
        ((Cursor.start code).beyond ahead (h.text ++ (stretch ++ '\x7b' :: behind))) =
      some ⟨(Cursor.start code).beyond (ahead ++ (h.text ++ (stretch ++ ['\x7b']))) behind,
        [h.name]⟩ := by
  rw [← Cursor.beyond_beyond _ _ _ (h.text ++ (stretch ++ '\x7b' :: behind))]
  refine Takes.reach?_eq ?_
  generalize hhere : (Cursor.start code).beyond ahead (h.text ++ (stretch ++ '\x7b' :: behind)) =
    here
  have hrest : here.rest = "public".toList ++ (Heading.scopeText h.scope? ++ (h.parting ++
      (Heading.wordsText h.words ++ ("fun".toList ++ (h.space.chars ++
        (h.name ++ ((stretch ++ ['\x7b']) ++ behind))))))) := by
    rw [← hhere]
    simp [Cursor.beyond, Heading.text_eq]
  have htext : h.text ++ (stretch ++ ['\x7b']) = [] ++ ("public".toList ++
      (Heading.scopeText h.scope? ++ (h.parting ++ (Heading.wordsText h.words ++
        ("fun".toList ++ (h.space.chars ++ (h.name ++ (stretch ++ ['\x7b'])))))))) := by
    simp [Heading.text_eq]
  rw [htext]
  let parting : Gap := ⟨h.parting, h.parted.1, hread.parted⟩
  unfold functionHeader
  -- each part takes all that it can, since what comes next cannot belong to it
  refine .inOrder_cons (.boundary ?_ ?_) ?_
  · simp only [hrest, List.append_assoc]
  · rw [atBoundary_iff hrest (by decide), ← hhere, last?_start_beyond]
    exact hin.starts
  refine .inOrder_cons (.literal (List.append_assoc ..)) ?_
  refine .inOrder_cons (takes_scope hread.scope (fun scope hscope => (h.confined scope hscope).2)
    (List.append_assoc ..) ?_) ?_
  · obtain ⟨c, hhead, hblank⟩ := parting.exists_head _
    rw [List.append_assoc, hhead]
    rintro ⟨⟩
    cases hblank
  refine .inOrder_cons (parting.takes (List.append_assoc ..) ?_) ?_
  · rcases hread.words with hwords | ⟨gap, hwords⟩
    · rw [hwords]
      rfl
    · rw [hwords]
      rfl
  refine .inOrder_cons (takes_words hread.words (List.append_assoc ..) ?_) ?_
  · exact ⟨_, (List.append_assoc ..).symm⟩
  refine .inOrder_cons (.literal (List.append_assoc ..)) ?_
  refine .inOrder_cons (h.space.takes (List.append_assoc ..) ?_) ?_
  · obtain ⟨hsome, hword⟩ := h.named
    cases hname : h.name with
    | nil => exact absurd hname hsome
    | cons c rest =>
        cases hblank : isBlank c with
        | false => exact hblank
        | true =>
            have hc := hword c (hname ▸ List.mem_cons_self)
            cases hc.symm.trans (isWord_of_isBlank hblank)
  refine .inOrder_cons_kept (.group (List.append_assoc ..)
    (.many (List.append_assoc ..) h.named.2 (List.length_pos_of_ne_nil h.named.1) ?_)) ?_
  · simpa using hin.ends
  · refine .both (.many (List.append_assoc ..) (fun c hc => ?_) (Nat.zero_le _) rfl) (.one rfl rfl)
    exact decide_eq_true fun heq => hbrace (heq ▸ hc)

theorem exists_gap {here there : Cursor} (h : someBlanks.Matches here there) :
    ∃ (gap : Gap) (rest : List Char), here.rest = gap.chars ++ rest ∧
      there = here.beyond gap.chars rest := by
  obtain ⟨taken, rest, hrest, hthere, hlength, hall⟩ := Cursor.Passes.exists_beyond h
  exact ⟨⟨taken, hall, List.ne_nil_of_length_pos hlength⟩, rest, hrest, hthere⟩

theorem exists_scope {here there : Cursor}
    (h : (Pattern.optional
      (inOrder [literal "(", .many 0 (· ≠ ')'), literal ")"])).Matches here there) :
    ∃ (scope? : Option (List Char × List Char)) (rest : List Char),
      (∀ scope ∈ scope?, scope.1 = [] ∧ ')' ∉ scope.2) ∧
      here.rest = Heading.scopeText scope? ++ rest ∧
      there = here.beyond (Heading.scopeText scope?) rest := by
  rcases h with h | rfl
  · obtain ⟨_, hopen, h⟩ := matches_inOrder_cons_iff.mp h
    obtain ⟨rest, hrest, rfl⟩ := matches_literal_iff.mp hopen
    obtain ⟨_, hinside, hclose⟩ := matches_inOrder_cons_iff.mp h
    obtain ⟨scope, rest', hrest', rfl, -, hall⟩ := Cursor.Passes.exists_beyond hinside
    obtain ⟨behind, hbehind, rfl⟩ := matches_literal_iff.mp hclose
    obtain rfl : rest = scope ++ rest' := hrest'
    obtain rfl : rest' = ")".toList ++ behind := hbehind
    refine ⟨some ([], scope), behind, ?_, ?_, ?_⟩
    · rintro _ ⟨⟩
      exact ⟨rfl, fun hmem => by simpa using hall _ hmem⟩
    · simpa [Heading.scopeText] using hrest
    · simp [Cursor.beyond_beyond, Heading.scopeText]
  · exact ⟨none, _, by simp, rfl, rfl⟩

theorem exists_words {here there : Cursor}
    (h : (Pattern.optional (.both (literal "entry") someBlanks)).Matches here there) :
    ∃ (words : List (String × Gap)) (rest : List Char),
      (words = [] ∨ ∃ gap, words = [("entry", gap)]) ∧
      here.rest = Heading.wordsText words ++ rest ∧
      there = here.beyond (Heading.wordsText words) rest := by
  rcases h with ⟨_, hentry, hgap⟩ | rfl
  · obtain ⟨rest, hrest, rfl⟩ := matches_literal_iff.mp hentry
    obtain ⟨gap, behind, hbehind, rfl⟩ := exists_gap hgap
    obtain rfl : rest = gap.chars ++ behind := hbehind
    refine ⟨[("entry", gap)], behind, .inr ⟨gap, rfl⟩, ?_, ?_⟩
    · simpa [Heading.wordsText] using hrest
    · simp [Cursor.beyond_beyond, Heading.wordsText]
  · exact ⟨[], _, .inl rfl, rfl, rfl⟩

/-- A match is made of the words of a heading and a stretch up to a brace. It may break the name off
early, and the rest of the name is then in the stretch. -/
theorem exists_words_of_matches {here there : Cursor} (h : functionHeader.Matches here there) :
    ∃ (heading : Heading) (stretch behind : List Char), heading.Read ∧
      here.last?.any isWord = false ∧
      here.rest = heading.text ++ (stretch ++ '\x7b' :: behind) ∧ '\x7b' ∉ stretch := by
  unfold functionHeader at h
  obtain ⟨_, ⟨hboundary, rfl⟩, hwhole⟩ := matches_inOrder_cons_iff.mp h
  clear h
  obtain ⟨_, hpublic, h⟩ := matches_inOrder_cons_iff.mp hwhole
  obtain ⟨rest₁, hrest₁, rfl⟩ := matches_literal_iff.mp hpublic
  obtain ⟨_, hscope, h⟩ := matches_inOrder_cons_iff.mp h
  obtain ⟨scope?, rest₂, hconfined, hrest₂, rfl⟩ := exists_scope hscope
  obtain ⟨_, hparting, h⟩ := matches_inOrder_cons_iff.mp h
  obtain ⟨parting, rest₃, hrest₃, rfl⟩ := exists_gap hparting
  obtain ⟨_, hwords, h⟩ := matches_inOrder_cons_iff.mp h
  obtain ⟨words, rest₄, hread, hrest₄, rfl⟩ := exists_words hwords
  obtain ⟨_, hfun, h⟩ := matches_inOrder_cons_iff.mp h
  obtain ⟨rest₅, hrest₅, rfl⟩ := matches_literal_iff.mp hfun
  obtain ⟨_, hspace, h⟩ := matches_inOrder_cons_iff.mp h
  obtain ⟨space, rest₆, hrest₆, rfl⟩ := exists_gap hspace
  obtain ⟨_, hname, ⟨_, hstretch, c, behind, hbehind, hc, -⟩⟩ := matches_inOrder_cons_iff.mp h
  obtain ⟨short, rest₇, hrest₇, rfl, hlength, hshort⟩ := Cursor.Passes.exists_beyond hname
  obtain ⟨long, rest₈, hrest₈, rfl, -, hlong⟩ := Cursor.Passes.exists_beyond hstretch
  obtain rfl : c = '\x7b' := by simpa using hc
  obtain rfl : rest₁ = Heading.scopeText scope? ++ rest₂ := hrest₂
  obtain rfl : rest₂ = parting.chars ++ rest₃ := hrest₃
  obtain rfl : rest₃ = Heading.wordsText words ++ rest₄ := hrest₄
  obtain rfl : rest₄ = "fun".toList ++ rest₅ := hrest₅
  obtain rfl : rest₅ = space.chars ++ rest₆ := hrest₆
  obtain rfl : rest₆ = short ++ rest₇ := hrest₇
  obtain rfl : rest₇ = long ++ rest₈ := hrest₈
  obtain rfl : rest₈ = '\x7b' :: behind := hbehind
  let heading : Heading := {
    scope?, words, space
    parting := parting.chars
    name := short
    confined := fun scope hscope => by
      obtain ⟨hlead, hclose⟩ := hconfined scope hscope
      rw [hlead]
      exact ⟨blank_nil, hclose⟩
    parted := ⟨parting.blank, fun _ => parting.ne_nil⟩
    modifying := by
      rcases hread with rfl | ⟨gap, rfl⟩
      · simp
      · simp [modifiers]
    named := ⟨List.ne_nil_of_length_pos hlength, hshort⟩ }
  refine ⟨heading, long, behind, ?_, ?_, ?_, ?_⟩
  · exact ⟨fun scope hscope => (hconfined scope hscope).1, parting.ne_nil, hread⟩
  · rwa [atBoundary_iff hrest₁ (by decide)] at hboundary
  · simpa [heading, Heading.text_eq] using hrest₁
  · intro hmem
    simpa using hlong _ hmem

/-- The heading with more of the name. -/
def Heading.extend (h : Heading) (more : List Char) (hmore : ∀ c ∈ more, isWord c = true) :
    Heading :=
  { h with
    name := h.name ++ more
    named := ⟨List.append_ne_nil_of_left_ne_nil h.named.1 _,
      List.forall_mem_append.mpr ⟨h.named.2, hmore⟩⟩ }

theorem Heading.text_extend (h : Heading) (more : List Char)
    (hmore : ∀ c ∈ more, isWord c = true) : (h.extend more hmore).text = h.text ++ more := by
  simp [text_eq, extend]

/-- A match begins with a heading, with its whole name. -/
theorem exists_heading_of_matches {here there : Cursor} (h : functionHeader.Matches here there) :
    ∃ (heading : Heading) (stretch behind : List Char), heading.Read ∧
      here.last?.any isWord = false ∧
      here.rest = heading.text ++ (stretch ++ '\x7b' :: behind) ∧
      (stretch ++ '\x7b' :: behind).head?.any isWord = false ∧ '\x7b' ∉ stretch := by
  obtain ⟨heading, stretch, behind, hread, hstarts, hrest, hbrace⟩ := exists_words_of_matches h
  have hmore : ∀ c ∈ stretch.takeWhile isWord, isWord c = true :=
    fun _ => List.mem_takeWhile_imp
  refine ⟨heading.extend (stretch.takeWhile isWord) hmore, stretch.dropWhile isWord, behind,
    ⟨hread.scope, hread.parted, hread.words⟩, hstarts, ?_, ?_, ?_⟩
  · rw [hrest, Heading.text_extend, List.append_assoc, ← List.append_assoc (stretch.takeWhile _),
      List.takeWhile_append_dropWhile]
  · have hfirst := List.head?_dropWhile_not isWord stretch
    cases hdrop : stretch.dropWhile isWord with
    | nil => rfl
    | cons c rest =>
        rw [hdrop] at hfirst
        exact hfirst
  · exact fun hmem => hbrace ((List.dropWhile_sublist isWord).subset hmem)

/-- What is found of a heading starts with one that is written in the one way. -/
theorem exists_heading {code ahead rest : List Char} (hcode : code = ahead ++ rest) {reach : Reach}
    (h : functionHeader.reach? ((Cursor.start code).beyond ahead rest) = some reach) :
    ∃ (heading : Heading) (stretch behind : List Char), heading.Read ∧
      heading.In code ahead (stretch ++ '\x7b' :: behind) ∧ '\x7b' ∉ stretch ∧
      reach = ⟨(Cursor.start code).beyond (ahead ++ (heading.text ++ (stretch ++ ['\x7b']))) behind,
        [heading.name]⟩ := by
  obtain ⟨heading, stretch, behind, hread, hstarts, hrest, hends, hbrace⟩ :=
    exists_heading_of_matches (matches_of_reach? h)
  obtain rfl : rest = heading.text ++ (stretch ++ '\x7b' :: behind) := hrest
  have hin : heading.In code ahead (stretch ++ '\x7b' :: behind) :=
    ⟨hcode, by rwa [last?_start_beyond] at hstarts, hends⟩
  refine ⟨heading, stretch, behind, hread, hin, hbrace, ?_⟩
  exact Option.some.inj (h.symm.trans (reach?_functionHeader hread hin hbrace))

/-! ## Functions that are found -/

/-- The function that a match of the header stands for. -/
def functionOf (code : List Char) (found : Match) : Function :=
  { place := found.start
    name := found.kept.headD []
    header := between code found.start found.stop
    body := between code found.stop (Code.blockEnd code found.stop) }

/-- The match of a heading. -/
def Heading.found (h : Heading) (ahead stretch : List Char) : Match :=
  ⟨ahead.length, (ahead ++ (h.text ++ (stretch ++ ['\x7b']))).length, [h.name]⟩

theorem functionOf_found {h : Heading} {code ahead signature body behind : List Char}
    (hin : h.In code ahead (signature ++ '\x7b' :: (body ++ '\x7d' :: behind)))
    (hbody : Balanced body) :
    functionOf code (h.found ahead signature) =
      ⟨ahead.length, h.name, h.text ++ (signature ++ ['\x7b']), body⟩ := by
  have hcode : code = (ahead ++ (h.text ++ (signature ++ ['\x7b']))) ++
      (body ++ '\x7d' :: behind) := by
    rw [hin.text]
    simp
  have hheader := between_append ahead (h.text ++ (signature ++ ['\x7b']))
    (body ++ '\x7d' :: behind)
  have hinside := between_append (ahead ++ (h.text ++ (signature ++ ['\x7b']))) body
    ('\x7d' :: behind)
  rw [← List.append_assoc, ← hcode, ← List.length_append] at hheader
  rw [← hcode] at hinside
  unfold functionOf Heading.found
  rw [hheader]
  conv_lhs => enter [4, 3]; rw [hcode, blockEnd_append _ hbody]
  rw [hinside]
  rfl

/-- What stands here is not a function: the heading runs over to a brace that is not its own. -/
def Function.Strayed (f : Function) (code : List Char) : Prop :=
  ∃ (h : Heading) (reach : Nat), h.Read ∧ h.name = f.name ∧ h.Overruns code f.place reach

/-- A heading before the function runs over to a brace behind the function's start. -/
def Function.Hidden (f : Function) (code : List Char) : Prop :=
  ∃ (other : Heading) (place reach : Nat), other.Read ∧ other.Overruns code place reach ∧
    place < f.place ∧ f.place ≤ reach

theorem exists_of_mem_matchesIn {code : List Char} {found : Match}
    (h : found ∈ functionHeader.matchesIn code) :
    ∃ (heading : Heading) (ahead stretch behind : List Char), heading.Read ∧
      heading.In code ahead (stretch ++ '\x7b' :: behind) ∧ '\x7b' ∉ stretch ∧
      found = heading.found ahead stretch := by
  obtain ⟨-, ahead, rest, reach, hcode, hreach, rfl⟩ := exists_of_mem_matchesFrom rfl h
  obtain ⟨heading, stretch, behind, hread, hin, hbrace, rfl⟩ := exists_heading hcode hreach
  refine ⟨heading, ahead, stretch, behind, hread, hin, hbrace, ?_⟩
  simp [Heading.found, Cursor.start, Cursor.beyond]

/-- What is found has a heading of the one way, and is its function unless the heading runs over. -/
theorem opens_or_strayed {code : List Char} (hbalanced : Balanced code) {f : Function}
    (hf : f ∈ (functionHeader.matchesIn code).map (functionOf code)) :
    (∃ h : Heading, h.Read ∧ h.Opens code f) ∨ f.Strayed code := by
  obtain ⟨found, hmem, rfl⟩ := List.mem_map.mp hf
  obtain ⟨h, ahead, stretch, behind, hread, hin, hbrace, rfl⟩ := exists_of_mem_matchesIn hmem
  have hcode : code = (ahead ++ (h.text ++ stretch)) ++ '\x7b' :: behind := by
    rw [hin.text]
    simp
  obtain ⟨body, later, rfl, hbody⟩ := hbalanced.exists_closing hcode
  rw [functionOf_found hin hbody]
  -- the braces being balanced, only the end of the declaration can keep it from being its function
  by_cases hended : ∃ c ∈ stretch, c = ';' ∨ c = '\x7d'
  · exact .inr ⟨h, _, hread, rfl, .intro hin hbrace (.inl hended)⟩
  · refine .inl ⟨h, hread, .intro hin (fun c hc => ⟨?_, ?_, ?_⟩) hbody⟩
    · exact fun heq => hbrace (heq ▸ hc)
    · exact fun heq => hended ⟨c, hc, .inr heq⟩
    · exact fun heq => hended ⟨c, hc, .inl heq⟩

/-- A function with a heading of the one way is found, unless a heading before it runs over it. -/
theorem mem_functions_or_hidden {code : List Char} {h : Heading} {f : Function} (hread : h.Read)
    (hopens : h.Opens code f) :
    f ∈ (functionHeader.matchesIn code).map (functionOf code) ∨ f.Hidden code := by
  obtain @⟨ahead, signature, body, behind, hin, hsignature, hbody⟩ := hopens
  have hbrace := fun hmem => (hsignature '\x7b' hmem).1 rfl
  have hreach := reach?_functionHeader hread hin hbrace
  rcases mem_matchesFrom_or_within rfl hin.text (by simp [Heading.text_eq]) hreach (Nat.zero_le _)
    with hmem | ⟨found, hmem, hbefore, hbehind⟩
  · refine .inl (List.mem_map.mpr ⟨_, hmem, ?_⟩)
    rw [← functionOf_found hin hbody]
    simp [Heading.found, Cursor.start, Cursor.beyond]
  · obtain ⟨other, ahead', stretch', behind', hread', hin', hbrace', rfl⟩ :=
      exists_of_mem_matchesIn hmem
    have hstart : ahead'.length < ahead.length := by
      simpa [Heading.found, Cursor.start] using hbefore
    have hstop : ahead.length ≤ (ahead' ++ (other.text ++ stretch')).length := by
      simp only [Heading.found, Cursor.start, List.length_append, List.length_singleton]
        at hbehind ⊢
      omega
    exact .inr ⟨other, _, _, hread', .intro hin' hbrace' (.inr ⟨h, _, _, hin, hstart, hstop⟩),
      hstart, hstop⟩

/-! ## Functions that borrow -/

/-- A call of one of the functions that borrow global storage stands in the text, up to what opens
behind its name. -/
def Borrows (opening : Char) (text : List Char) : Prop :=
  ∃ ahead gap behind, ∃ call ∈ ["borrow_global", "borrow_global_mut"],
    text = ahead ++ (call.toList ++ (gap ++ opening :: behind)) ∧ Blank gap ∧
      ahead.getLast?.any isWord = false

theorem exists_matches_opening_iff {here : Cursor} :
    (∃ there, (inOrder [blanks, literal "<"]).Matches here there) ↔
      ∃ gap behind, Blank gap ∧ here.rest = gap ++ '<' :: behind := by
  constructor
  · rintro ⟨there, _, hgap, hopen⟩
    obtain ⟨gap, rest, hrest, rfl, -, hblank⟩ := Cursor.Passes.exists_beyond hgap
    obtain ⟨behind, hbehind, -⟩ := matches_literal_iff.mp hopen
    obtain rfl : rest = '<' :: behind := hbehind
    exact ⟨gap, behind, hblank, hrest⟩
  · rintro ⟨gap, behind, hblank, hrest⟩
    exact ⟨_, _, .beyond here 0 hrest hblank (Nat.zero_le _),
      matches_literal_iff.mpr ⟨behind, rfl, rfl⟩⟩

theorem foundIn_globalBorrow_iff (text : List Char) :
    globalBorrow.foundIn text = true ↔ Borrows '<' text := by
  have hcalls : ["borrow_global", "borrow_global" ++ "_mut"] =
      ["borrow_global", "borrow_global_mut"] := rfl
  have hstarts : ∀ call ∈ ["borrow_global", "borrow_global" ++ "_mut"],
      ∃ more, call.toList = 'b' :: more := by
    intro call hmem
    rcases List.mem_pair.mp hmem with rfl | rfl
    · exact ⟨_, rfl⟩
    · exact ⟨_, rfl⟩
  rw [foundIn_iff]
  unfold Borrows
  rw [← hcalls]
  constructor
  · rintro ⟨_, hplace, there, _, ⟨hboundary, rfl⟩, mid, hcall, last, hmut, hopen⟩
    obtain ⟨ahead, rest, htext, rfl, -, -⟩ := hplace.exists_beyond
    obtain ⟨call, hmem, rest', hrest, rfl⟩ := matches_literal_optional_iff.mp ⟨mid, hcall, hmut⟩
    obtain ⟨gap, behind, hblank, hbehind⟩ := exists_matches_opening_iff.mp ⟨there, hopen⟩
    obtain rfl : rest = call.toList ++ rest' := hrest
    obtain rfl : rest' = gap ++ '<' :: behind := hbehind
    obtain ⟨more, hmore⟩ := hstarts call hmem
    refine ⟨ahead, gap, behind, call, hmem, htext, hblank, ?_⟩
    rw [hmore] at hboundary
    rwa [atBoundary_iff rfl (by decide), last?_start_beyond] at hboundary
  · rintro ⟨ahead, gap, behind, call, hmem, rfl, hblank, hends⟩
    let place := (Cursor.start (ahead ++ (call.toList ++ (gap ++ '<' :: behind)))).beyond ahead
      (call.toList ++ (gap ++ '<' :: behind))
    obtain ⟨mid, hcall, hmut⟩ := (@matches_literal_optional_iff _ _ place _).mpr
      ⟨call, hmem, _, rfl, rfl⟩
    obtain ⟨there, hopen⟩ := (@exists_matches_opening_iff (place.beyond call.toList
      (gap ++ '<' :: behind))).mpr ⟨gap, behind, hblank, rfl⟩
    obtain ⟨more, hmore⟩ := hstarts call hmem
    have hboundary : place.atBoundary = true := by
      have hrest : place.rest = 'b' :: (more ++ (gap ++ '<' :: behind)) :=
        congrArg (· ++ (gap ++ '<' :: behind)) hmore
      rwa [atBoundary_iff hrest (by decide), last?_start_beyond]
    exact ⟨place, .beyond _ 0 rfl (fun _ _ => rfl) (Nat.zero_le _), there, place, ⟨hboundary, rfl⟩,
      mid, hcall, _, hmut, hopen⟩

def borrowWarning (name : List Char) : String :=
  "Function '" ++ String.ofList name ++ "' borrows global storage without 'acquires'"

/-- A function with a body in which it borrows global storage, and a header that is silent about
it. -/
structure Function.Faulty (f : Function) (code : List Char) : Prop where
  stands : ∃ h : Heading, h.Opens code f
  borrows : Borrows '<' f.body ∨ Borrows '(' f.body
  silent : ¬ "acquires".toList <:+: f.header

/-- The heading is written in some other way than the one, or no call in the body names the type
that it borrows. -/
def Function.Overlooked (f : Function) (code : List Char) : Prop :=
  (∀ h : Heading, h.Opens code f → ¬ h.Read) ∨ ¬ Borrows '<' f.body

/-- No warning about a module or a struct reads like one about a function that borrows. -/
theorem ne_borrowWarning {warning : String} {c : Char} (h : warning.toList.head? = some c)
    (hc : c ≠ 'F') (name : List Char) : warning ≠ borrowWarning name := by
  rintro rfl
  have hfirst : (borrowWarning name).toList.head? = some 'F' := by simp [borrowWarning]
  exact hc (Option.some.inj (h.symm.trans hfirst))

theorem head?_structWarning {code : List Char} {found : Match} {warning : String}
    (h : structWarning? code found = some warning) : warning.toList.head? = some 'R' := by
  unfold structWarning? at h
  dsimp only at h
  split at h
  · cases h
    simp
  · cases h

/-- What decides about a function that is found. -/
def Function.warned (f : Function) : Bool :=
  globalBorrow.foundIn f.body && !occurs "acquires".toList f.header

theorem warned_iff {f : Function} :
    f.warned = true ↔ Borrows '<' f.body ∧ ¬ "acquires".toList <:+: f.header := by
  rw [Function.warned, Bool.and_eq_true, Bool.not_eq_true', ← Bool.not_eq_true, occurs_iff,
    foundIn_globalBorrow_iff]

theorem functionWarning?_eq (code : List Char) (found : Match) :
    functionWarning? code found =
      if (functionOf code found).warned then some (borrowWarning (functionOf code found).name)
      else none := rfl

theorem filterMap_functionWarning? (code : List Char) (found : List Match) :
    found.filterMap (functionWarning? code) =
      ((found.map (functionOf code)).filter Function.warned).map (borrowWarning ·.name) := by
  induction found with
  | nil => rfl
  | cons first rest ih =>
      rw [List.filterMap_cons, functionWarning?_eq, List.map_cons, List.filter_cons, ih]
      cases (functionOf code first).warned <;> rfl

/-- In source with balanced braces the functions that are warned of are faulty and not overlooked,
but for what a heading makes of a brace that is not its own. Every faulty function that is not
overlooked is among them, unless such a heading hides it. Each is warned of once, in the order in
which they stand. -/
theorem faulty_told_unless_hidden (source : String)
    (hbalanced : Balanced (Code.plain source.toList)) :
    ∃ (others : List String) (warned : List Function),
      (check source).warnings = others ++ warned.map (borrowWarning ·.name) ∧
      (∀ warning ∈ others, ∀ name, warning ≠ borrowWarning name) ∧
      warned.Pairwise (·.place < ·.place) ∧
      (∀ f ∈ warned, ¬ f.Strayed (Code.plain source.toList) →
        f.Faulty (Code.plain source.toList) ∧ ¬ f.Overlooked (Code.plain source.toList)) ∧
      ∀ f : Function, f.Faulty (Code.plain source.toList) →
        ¬ f.Overlooked (Code.plain source.toList) →
        f ∈ warned ∨ f.Hidden (Code.plain source.toList) := by
  unfold check
  dsimp only
  generalize Code.plain source.toList = code at *
  refine ⟨_, ((functionHeader.matchesIn code).map (functionOf code)).filter Function.warned,
    congrArg (_ ++ ·) (filterMap_functionWarning? code _), ?_, ?_, fun f hf hown => ?_,
    fun f hfaulty hseen => ?_⟩
  · intro warning hwarning
    rcases List.mem_append.mp hwarning with hmodule | hstruct
    · split at hmodule
      · cases hmodule
      · obtain rfl := List.mem_singleton.mp hmodule
        exact ne_borrowWarning rfl (by decide)
    · obtain ⟨found, -, hfound⟩ := List.mem_filterMap.mp hstruct
      exact ne_borrowWarning (head?_structWarning hfound) (by decide)
  · refine List.Pairwise.filter _ (List.pairwise_map.mpr ?_)
    exact pairwise_matchesFrom 0 (Cursor.start code) rfl
  · obtain ⟨hmem, hwarned⟩ := List.mem_filter.mp hf
    obtain ⟨hborrows, hsilent⟩ := warned_iff.mp hwarned
    obtain ⟨h, hread, hopens⟩ := (opens_or_strayed hbalanced hmem).resolve_right hown
    refine ⟨⟨⟨h, hopens⟩, .inl hborrows, hsilent⟩, ?_⟩
    rintro (hunread | huntyped)
    · exact hunread h hopens hread
    · exact huntyped hborrows
  · obtain ⟨hread, hborrows⟩ := not_or.mp hseen
    obtain ⟨h, hread⟩ := not_forall.mp hread
    obtain ⟨hopens, hread⟩ := Classical.not_imp.mp hread
    refine (mem_functions_or_hidden (not_not.mp hread) hopens).imp_left fun hmem => ?_
    exact List.mem_filter.mpr ⟨hmem, warned_iff.mpr ⟨not_not.mp hborrows, hfaulty.silent⟩⟩

/-- Whether the text from each header that is found up to its brace holds neither the end of a
declaration nor another `public`. -/
def ownsBraces (code : List Char) : Bool :=
  (List.range code.length).all fun n =>
    (functionHeader.reach?
      ((Cursor.start code).beyond (code.take n) (code.drop n))).all fun reach =>
      (between code n reach.stop.position).all (fun c => c ≠ ';' && c ≠ '\x7d') &&
        (List.range reach.stop.position).all fun m =>
          m ≤ n || !"public".toList.isPrefixOf (code.drop m)

theorem not_overruns_of_ownsBraces {code : List Char} (howns : ownsBraces code = true)
    {h : Heading} (hread : h.Read) (place reach : Nat) : ¬ h.Overruns code place reach := by
  rintro @⟨ahead, stretch, behind, hin, hbrace, hlost⟩
  have hreach := reach?_functionHeader hread hin hbrace
  have hplace : ahead.length < code.length := by
    rw [hin.text]
    simp [Heading.text_eq]
  have htake : code.take ahead.length = ahead := by rw [hin.text, List.take_left]
  have hdrop : code.drop ahead.length = h.text ++ (stretch ++ '\x7b' :: behind) := by
    rw [hin.text, List.drop_left]
  have hall := List.all_eq_true.mp howns ahead.length (List.mem_range.mpr hplace)
  rw [htake, hdrop, hreach, Option.all_some, Bool.and_eq_true] at hall
  obtain ⟨hended, hbegun⟩ := hall
  have hstop : ((Cursor.start code).beyond (ahead ++ (h.text ++ (stretch ++ ['\x7b'])))
      behind).position = ahead.length + (h.text ++ (stretch ++ ['\x7b'])).length := by
    simp [Cursor.beyond, Cursor.start]
  rw [hstop] at hended hbegun
  rcases hlost with ⟨c, hc, hend⟩ | ⟨other, ahead', behind', hin', hafter, hbefore⟩
  · have hcode : code = ahead ++ ((h.text ++ (stretch ++ ['\x7b'])) ++ behind) := by
      rw [hin.text]
      simp
    rw [hcode, between_append] at hended
    have hother := List.all_eq_true.mp hended c (by simp [hc])
    rcases hend with rfl | rfl
    · cases hother
    · cases hother
  · have hplace' : ahead'.length < ahead.length + (h.text ++ (stretch ++ ['\x7b'])).length := by
      simp only [List.length_append, List.length_singleton] at hbefore ⊢
      omega
    have hbegins : "public".toList.isPrefixOf (code.drop ahead'.length) = true := by
      rw [hin'.text, List.drop_left, List.isPrefixOf_iff_prefix, Heading.text_eq, List.append_assoc]
      exact List.prefix_append ..
    have hother := List.all_eq_true.mp hbegun ahead'.length (List.mem_range.mpr hplace')
    rw [hbegins, decide_eq_false (Nat.not_le.mpr hafter)] at hother
    cases hother

/-- A module with a native function and one that borrows. -/
def vaultModule : String :=
  "module m \x7b public native fun a(); public entry fun b() \x7b borrow_global<R>(x); \x7d \x7d"

/-- The same, but that the native function is one of those that are looked for. -/
def swappedModule : String :=
  "module m \x7b native public fun a(); public entry fun b() \x7b borrow_global<R>(x); \x7d \x7d"

theorem balanced_vaultModule : Balanced (Code.plain vaultModule.toList) := by
  have hcode : Code.plain vaultModule.toList = "module m ".toList ++
      '\x7b' :: ((" public native fun a(); public entry fun b() ".toList ++
        '\x7b' :: (" borrow_global<R>(x); ".toList ++ '\x7d' :: [' '])) ++ '\x7d' :: []) := by
    decide +kernel
  rw [hcode]
  refine (Balanced.of_plain (by simp)).append (.block (.append ?_ (.block ?_ ?_)) .nil)
  · exact .of_plain (by simp)
  · exact .of_plain (by simp)
  · exact .of_plain (by simp)

/-- The function that borrows is told, unless a native one stands before it in the other way. -/
theorem told_vaultModule :
    (∃ f : Function, f.Faulty (Code.plain vaultModule.toList) ∧
      ¬ f.Overlooked (Code.plain vaultModule.toList) ∧
      (check vaultModule).warnings = [borrowWarning f.name]) ∧
    (check swappedModule).warnings = [borrowWarning ['a']] := by
  refine ⟨?_, by decide +kernel⟩
  have howns : ownsBraces (Code.plain vaultModule.toList) = true := by decide +kernel
  have hwarned : (check vaultModule).warnings = [borrowWarning ['b']] := by decide +kernel
  obtain ⟨others, warned, htold, hothers, -, hfaulty, -⟩ :=
    faulty_told_unless_hidden vaultModule balanced_vaultModule
  rw [hwarned] at htold
  cases others with
  | nil =>
      obtain ⟨f, rfl, hname⟩ := List.map_eq_singleton_iff.mp htold.symm
      have hown : ¬ f.Strayed (Code.plain vaultModule.toList) :=
        fun ⟨h, reach, hread, _, hruns⟩ => not_overruns_of_ownsBraces howns hread _ _ hruns
      obtain ⟨hstands, hseen⟩ := hfaulty f (List.mem_singleton_self f) hown
      exact ⟨f, hstands, hseen, by rw [hwarned, hname]⟩
  | cons other others =>
      obtain ⟨hother, -⟩ := List.cons.inj htold
      exact absurd hother.symm (hothers other List.mem_cons_self ['b'])

end ContractReview.Move
