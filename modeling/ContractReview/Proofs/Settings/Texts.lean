import ContractReview.Proofs.Number.Plain
import ContractReview.Proofs.Settings.Numbers
import ContractReview.Proofs.Text.Search

/-!
Settings that are texts. A variable's text is taken for a truth value or a number wherever it spells
one, also where a text was asked for, and that value is then shown as text again. So a key or an
address comes back as it was set until it spells a value in another way than it is shown; and a list
of models that spells a value is no list at all.
-/

namespace ContractReview.Settings

open Text Numeral

/-! ## What a variable's text is taken for -/

/-- The name of a truth value in small letters, and as it is shown. -/
def word (b : Bool) : List Char := (if b then "true" else "false").toList

def title (b : Bool) : List Char := (if b then "True" else "False").toList

/-- A text that spells a truth value, in small and capital letters, or a number; a number with a
point is decimal. -/
inductive Spells : List Char → Json → Prop
  | truth {cs : List Char} (b : Bool) : cs.map Char.toLower = word b → Spells cs (.bool b)
  | whole {cs : List Char} {i : Int} : Whole cs i → Spells cs (.num (.int i))
  | decimal {cs : List Char} {x : Float} : Pointed cs x → Spells cs (.num (.float x))

/-- A text that spells a value otherwise than the value is shown. -/
inductive Respelt : List Char → Prop
  | truth {cs : List Char} (b : Bool) :
      cs.map Char.toLower = word b → cs ≠ title b → Respelt cs
  | whole {cs : List Char} {i : Int} : Whole cs i → ¬ Plain cs → Respelt cs
  | decimal {cs : List Char} {x : Float} :
      Pointed cs x → cs ≠ Double.textChars x → Respelt cs

section Spells

variable {text : String} {cs : List Char} {v w : Json}

theorem isAlpha_word (b : Bool) : ∀ l ∈ word b, l.isAlpha = true := by
  cases b <;> simp [word]

theorem lower_eq_iff (b : Bool) :
    lower text = (if b then "true" else "false") ↔ text.toList.map Char.toLower = word b := by
  have hword : Unambiguous (word b) := by cases b <;> simp [word, Unambiguous]
  rw [← lowerFrom_eq_iff hword [] text.toList, lower, word, ← String.toList_inj,
    String.toList_ofList]

theorem contains_point_iff : contains text "." = true ↔ '.' ∈ text.toList := by
  rw [contains, occurs_iff]
  exact List.singleton_infix_iff '.' text.toList

theorem valueOf_of_truth {b : Bool} (h : text.toList.map Char.toLower = word b) :
    valueOf text = .bool b := by
  unfold valueOf
  dsimp only
  rw [(lower_eq_iff b).mpr h]
  cases b <;> rfl

theorem valueOf_of_not_truth (h : ∀ b, text.toList.map Char.toLower ≠ word b) :
    valueOf text =
      if contains text "." then (Numeral.double? text).elim (.str text) fun x => .num (.float x)
      else (Numeral.whole text).toOption.elim (.str text) fun i => .num (.int i) := by
  have htrue : lower text ≠ "true" := mt (lower_eq_iff true).mp (h true)
  have hfalse : lower text ≠ "false" := mt (lower_eq_iff false).mp (h false)
  unfold valueOf
  dsimp only
  rw [if_neg htrue, if_neg hfalse]
  congr 1
  · cases Numeral.double? text <;> rfl
  · cases Numeral.whole text <;> rfl

theorem valueOf_of_spells (h : Spells text.toList v) : valueOf text = v := by
  generalize hcs : text.toList = cs at h
  cases h with
  | truth b hword => exact valueOf_of_truth (hcs ▸ hword)
  | whole hwhole =>
      obtain ⟨c, hc, hdigit⟩ := hwhole.exists_digit
      have hpoint := hwhole.not_mem_point
      rw [← hcs] at hc hpoint hwhole
      rw [valueOf_of_not_truth fun b => Figure.map_toLower_ne (.inr hdigit) hc (isAlpha_word b),
        if_neg (mt contains_point_iff.mp hpoint), whole_eq_ok_iff.mpr hwhole]
      rfl
  | decimal hpointed =>
      have hpoint := hpointed.mem_point
      rw [← hcs] at hpoint hpointed
      rw [valueOf_of_not_truth fun b => Figure.map_toLower_ne (.inl rfl) hpoint (isAlpha_word b),
        if_pos (contains_point_iff.mpr hpoint), (double?_eq_some_iff hpoint).mpr hpointed,
        Option.elim_some]

theorem valueOf_of_not_spells (h : ∀ v, ¬ Spells text.toList v) : valueOf text = .str text := by
  rw [valueOf_of_not_truth fun b hword => h _ (.truth b hword)]
  split
  next hpoint =>
    cases hx : Numeral.double? text with
    | none => rfl
    | some x =>
        rw [double?_eq_some_iff (contains_point_iff.mp hpoint)] at hx
        exact absurd (.decimal hx) (h _)
  next =>
    cases hi : Numeral.whole text with
    | error why => rfl
    | ok i => exact absurd (.whole (whole_eq_ok_iff.mp hi)) (h _)

theorem Spells.unique (hv : Spells cs v) (hw : Spells cs w) : v = w := by
  rw [← String.toList_ofList (l := cs)] at hv hw
  exact (valueOf_of_spells hv).symm.trans (valueOf_of_spells hw)

theorem toList_shown_num (n : Number) : (Json.num n).shown.toList = n.text.toList := by
  simp only [Json.shown, Json.literal, Json.literalChars, String.toList_ofList]

theorem toList_shown_int (i : Int) : (Json.num (.int i)).shown.toList = Double.intText i := by
  rw [toList_shown_num, Number.text, String.toList_ofList]

theorem toList_shown_float (x : Float) :
    (Json.num (.float x)).shown.toList = Double.textChars x := by
  rw [toList_shown_num, Number.text, Double.text, String.toList_ofList]

theorem toList_shown_bool (b : Bool) : (Json.bool b).shown.toList = title b := by
  cases b <;> simp only [Json.shown, Json.literal, Json.literalChars, String.toList_ofList] <;> rfl

/-- The value is shown as the text that spells it unless that is respelt. -/
theorem Spells.shown_eq_iff (h : Spells cs v) : v.shown.toList = cs ↔ ¬ Respelt cs := by
  constructor
  · rintro hshown (⟨b, hword, hne⟩ | ⟨hwhole, hplain⟩ | ⟨hpointed, hne⟩)
    · rw [h.unique (.truth b hword), toList_shown_bool] at hshown
      exact hne hshown.symm
    · rw [h.unique (.whole hwhole), toList_shown_int] at hshown
      exact hplain (hwhole.intText_eq_iff.mp hshown)
    · rw [h.unique (.decimal hpointed), toList_shown_float] at hshown
      exact hne hshown.symm
  · intro hkept
    by_contra hne
    refine hkept ?_
    cases h with
    | truth b hword =>
        rw [toList_shown_bool] at hne
        exact .truth b hword (Ne.symm hne)
    | whole hwhole =>
        rw [toList_shown_int] at hne
        exact .whole hwhole (mt hwhole.intText_eq_iff.mpr hne)
    | decimal hpointed =>
        rw [toList_shown_float] at hne
        exact .decimal hpointed (Ne.symm hne)

theorem Respelt.exists_spells (h : Respelt cs) : ∃ v, Spells cs v := by
  cases h with
  | truth b hword => exact ⟨_, .truth b hword⟩
  | whole hwhole => exact ⟨_, .whole hwhole⟩
  | decimal hpointed => exact ⟨_, .decimal hpointed⟩

/-- A variable's text comes back from what it is taken for unless it is respelt. -/
theorem shown_valueOf_iff : (valueOf text).shown = text ↔ ¬ Respelt text.toList := by
  by_cases h : ∃ v, Spells text.toList v
  · obtain ⟨v, hv⟩ := h
    rw [valueOf_of_spells hv, ← String.toList_inj, hv.shown_eq_iff]
  · rw [valueOf_of_not_spells (not_exists.mp h)]
    exact iff_of_true rfl (mt Respelt.exists_spells h)

theorem valueOf_ne_null : valueOf text ≠ .null := by
  by_cases h : ∃ v, Spells text.toList v
  · obtain ⟨v, hv⟩ := h
    rw [valueOf_of_spells hv]
    rintro rfl
    cases hv
  · rw [valueOf_of_not_spells (not_exists.mp h)]
    exact Json.noConfusion

end Spells

/-! ## All settings -/

/-- A setting that is a text: the names it goes by, the variable of all of them, and what asks for
it. -/
structure Textual where
  names : List String
  source : String
  ask : Settings → Option String

def texts : List Textual :=
  [⟨["OPENROUTER_API_KEY", "openrouter.api_key"], "OPENROUTER_API_KEY", openRouterKey?⟩,
    ⟨["GROQ_API_KEY", "groq.api_key"], "GROQ_API_KEY", groqKey?⟩,
    ⟨["openrouter.base_url"], "OPENROUTER_BASE_URL", fun s => some s.openRouterUrl⟩]

/-- The entries of a list with commas between them, trimmed, without the blank ones. -/
def entries (text : String) : List String :=
  ((text.toList.splitOn ',').filter fun part => !part.all isBlank).map fun part =>
    String.ofList (trim part)

example : entries "a:b, c,, d " = ["a:b", "c", "d"] := by decide +kernel

variable {s : Settings} {text : String}

theorem key?_of_holds {first second : String} {v : Json} (hfirst : s.Holds first v)
    (hsecond : s.Holds second v) (hv : v ≠ .null) : s.key? first second = some v.shown := by
  unfold key?
  -- an empty value gives way to itself
  rw [get_of_holds hfirst, get_of_holds hsecond, Json.orElse, ite_self]
  split
  next => exact absurd rfl hv
  next => rfl

theorem ask_of_mem_texts {t : Textual} (ht : t ∈ texts)
    (hoverride : ∀ name ∈ t.names, s.overrides.lookup name = none)
    (hvariable : s.environment.lookup t.source = some text) :
    t.ask s = some (valueOf text).shown := by
  have hnames : ∀ t ∈ texts, ∀ name ∈ t.names, variableName name = t.source := by decide +kernel
  have hholds (name : String) (hname : name ∈ t.names) : s.Holds name (valueOf text) :=
    .variable (hoverride name hname) (by rw [hnames t ht name hname, hvariable])
  simp only [texts, List.mem_cons, List.not_mem_nil, or_false] at ht
  rcases ht with rfl | rfl | rfl
  · exact key?_of_holds (hholds _ (by simp)) (hholds _ (by simp)) valueOf_ne_null
  · exact key?_of_holds (hholds _ (by simp)) (hholds _ (by simp)) valueOf_ne_null
  · exact congrArg (fun v => some (Json.shown v)) (get_of_holds (hholds _ (by simp)) _)

/-- Cut and trimmed, the entries that are not blank are left. -/
theorem filter_splitAt (text : String) :
    (((splitAt ',' text).map fun part => Json.str (strip part)).map Json.shown).filter
      (fun text => !allBlank text) = entries text := by
  have hfilled (part : List Char) :
      ((fun text => !allBlank text) ∘ fun cs => String.ofList (trim cs)) part =
        !part.all isBlank := by
    simp only [Function.comp_apply, allBlank, String.toList_ofList, all_trim]
  have htrimmed (part : List Char) :
      ((Json.shown ∘ fun part => Json.str (strip part)) ∘ String.ofList) part =
        String.ofList (trim part) := by
    simp only [Function.comp_apply, Json.shown, strip, String.toList_ofList]
  rw [splitAt, pieces_eq_splitOn, List.map_map, List.map_map, funext htrimmed, List.filter_map,
    funext hfilled]
  rfl

theorem models_of_variable (hoverride : s.overrides.lookup "ai.models" = none)
    (hvariable : s.environment.lookup "AI_MODELS" = some text) :
    (∀ v, Spells text.toList v → s.models = .error (.notIterable v.kind)) ∧
      ((∀ v, ¬ Spells text.toList v) → s.models = .ok (entries text)) := by
  have hname : variableName "ai.models" = "AI_MODELS" := by decide +kernel
  have hholds : s.Holds "ai.models" (valueOf text) :=
    .variable hoverride (by rw [hname, hvariable])
  unfold models
  rw [get_of_holds hholds]
  constructor
  · intro v hv
    rw [valueOf_of_spells hv]
    cases hv <;> rfl
  · intro hnone
    rw [valueOf_of_not_spells hnone, ← filter_splitAt]
    rfl

/-- A key or an address that is set by its variable comes back as it was set exactly when it is not
respelt, and where it spells a value it is that value as text. The models that are set by theirs are
the entries that are not blank exactly when the text spells no value, and else they cannot be asked
for. -/
theorem texts_kept_unless_respelt (s : Settings) (text : String) :
    (∀ t ∈ texts, (∀ name ∈ t.names, s.overrides.lookup name = none) →
      s.environment.lookup t.source = some text →
      (t.ask s = some text ↔ ¬ Respelt text.toList) ∧
      ∀ v, Spells text.toList v → t.ask s = some v.shown) ∧
    (s.overrides.lookup "ai.models" = none → s.environment.lookup "AI_MODELS" = some text →
      (s.models = .ok (entries text) ↔ ∀ v, ¬ Spells text.toList v) ∧
      ∀ v, Spells text.toList v → s.models = .error (.notIterable v.kind)) := by
  constructor
  · intro t ht hoverride hvariable
    rw [ask_of_mem_texts ht hoverride hvariable, Option.some.injEq, shown_valueOf_iff]
    exact ⟨Iff.rfl, fun v hv => by rw [valueOf_of_spells hv]⟩
  · intro hoverride hvariable
    obtain ⟨hfails, hkept⟩ := models_of_variable hoverride hvariable
    refine ⟨⟨fun hmodels v hv => ?_, hkept⟩, hfails⟩
    cases hmodels.symm.trans (hfails v hv)

/-- Zeros before a key are lost, and a number is no list of models. -/
theorem openRouterKey?_zeros :
    openRouterKey? { environment := [("OPENROUTER_API_KEY", "0042")] } = some "42" ∧
      models { environment := [("AI_MODELS", "0042")] } = .error (.notIterable .int) := by
  have hspells : Spells "0042".toList (.num (.int 42)) :=
    .whole (whole_eq_ok_iff.mp (by decide +kernel))
  obtain ⟨hkeys, -⟩ :=
    texts_kept_unless_respelt { environment := [("OPENROUTER_API_KEY", "0042")] } "0042"
  obtain ⟨-, hkey⟩ := hkeys _ List.mem_cons_self (fun _ _ => rfl) (by decide +kernel)
  obtain ⟨-, hmodels⟩ := texts_kept_unless_respelt { environment := [("AI_MODELS", "0042")] } "0042"
  obtain ⟨-, hfails⟩ := hmodels rfl (by decide +kernel)
  exact ⟨hkey _ hspells, hfails _ hspells⟩

end ContractReview.Settings
