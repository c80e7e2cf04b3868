import ContractReview.Proofs.Opinion.Answers
import ContractReview.Proofs.Review.Kept

/-!
What the reuse of a models' report stands for. The report is kept for the names and the texts of its
contracts; the models were also told their languages. So a call that uses the report again would
have asked the models the same as the call that the report comes from, but for the languages.
-/

namespace ContractReview

/-! ## Prompts -/

theorem Question.length_prompt_lt {q : Question} {a b : String} (h : a.length < b.length) :
    ({ q with language := a } : Question).prompt.length <
      ({ q with language := b } : Question).prompt.length := by
  unfold prompt
  simp only [String.length_append]
  gcongr

/-- A prompt tells its language: as long as the prompts begin alike, the languages can only differ
in length, and then so do the prompts. -/
theorem Question.prompt_inj {q : Question} {language : String}
    (h : ({ q with language } : Question).prompt = q.prompt) : language = q.language := by
  have hlength : language.length = q.language.length := by
    rcases Nat.lt_trichotomy language.length q.language.length with hlt | heq | hgt
    · exact absurd (congrArg String.length h) (length_prompt_lt hlt).ne
    · exact heq
    · exact absurd (congrArg String.length h) (length_prompt_lt hgt).ne'
  unfold prompt at h
  simp only [String.append_assoc] at h
  have hrest := (String.append_right_inj _).mp
    ((String.append_right_inj _).mp ((String.append_right_inj _).mp h))
  have hchars := String.toList_append.symm.trans
    ((congrArg String.toList hrest).trans String.toList_append)
  exact String.toList_inj.mp (List.append_inj hchars hlength).1

/-! ## Models that go by what they are asked -/

/-- Models whose replies depend on nothing but the request. -/
def Models.GoByRequest {σ : Type} (models : Models σ) : Prop :=
  ∀ member request s s', (models.ask member request s).1 = (models.ask member request s').1

namespace Ensemble

variable {σ : Type} {models : Models σ}

theorem independent_of_goByRequest (e : Ensemble) (h : models.GoByRequest) (question : Question) :
    e.Independent models question := by
  intro member s s'
  have hcall (s s' : σ) : (call models member (e.requestOf member question) s).1 =
      (call models member (e.requestOf member question) s').1 := by
    have hask := h member (e.requestOf member question) s s'
    unfold call
    generalize models.ask member (e.requestOf member question) s = asked at hask ⊢
    generalize models.ask member (e.requestOf member question) s' = again at hask ⊢
    obtain ⟨reply, t⟩ := asked
    obtain ⟨reply', t'⟩ := again
    obtain rfl : reply = reply' := hask
    cases reply <;> rfl
  unfold replyOf
  split
  next => rfl
  next =>
    split
    next => exact hcall s s'
    next policy _ =>
      unfold RetryPolicy.run
      split
      next => rfl
      next => exact policy.attempts_congr hcall _ _ s s'

/-- The verdict of independent members is the same in all surroundings. -/
theorem Independent.analyze_eq {e : Ensemble} {question : Question}
    (h : e.Independent models question) (s s' : σ) :
    (e.analyze models question s).1 = (e.analyze models question s').1 := by
  have hall (members : List Member) (s s' : σ) : (e.consultAll models question members s).1 =
      (e.consultAll models question members s').1 := by
    induction members generalizing s s' with
    | nil => rfl
    | cons member rest ih =>
        have hfirst : (e.consult models question member s).1 =
            (e.consult models question member s').1 := by
          rw [consult_eq, consult_eq, h member s s']
        simp only [consultAll, hfirst]
        rw [ih]
  unfold analyze
  cases e.members with
  | nil => rfl
  | cons member rest => exact congrArg (verdictOf e.threshold) (hall _ s s')

end Ensemble

namespace Pipeline

/-! ## Contracts of one key -/

/-- Lists that go together can be compared by either of two projections that tell their members
apart alike. -/
theorem map_eq_map_congr {α β γ : Type} {R : α → α → Prop} {f : α → β} {g : α → γ}
    (hiff : ∀ a b, R a b → (f a = f b ↔ g a = g b)) {l l' : List α} (h : List.Forall₂ R l l') :
    l.map f = l'.map f ↔ l.map g = l'.map g := by
  induction h with
  | nil => exact iff_of_true rfl rfl
  | cons hfirst _ ih =>
      rw [List.map_cons, List.map_cons, List.map_cons, List.map_cons, List.cons.injEq,
        List.cons.injEq, hiff _ _ hfirst, ih]

variable {σ : Type}

/-- The language that the models are told. -/
def languageOf (p : Pipeline σ) (c : Contract) : String := (p.questionOf [] c).language

/-- What the models are asked about some contracts, and about others with the same names and texts:
the same, when the languages are the same, and else not. -/
structure AskedAlike (p : Pipeline σ) (earlier contracts : List Contract) : Prop where
  apart : List.Forall₂
    (fun c c' => p.questionOf [] c' = { p.questionOf [] c with language := p.languageOf c' })
    earlier contracts
  questions_iff : earlier.map (p.questionOf []) = contracts.map (p.questionOf []) ↔
    earlier.map p.languageOf = contracts.map p.languageOf
  prompts_iff : (earlier.map fun c => (p.questionOf [] c).prompt) =
      (contracts.map fun c => (p.questionOf [] c).prompt) ↔
    earlier.map p.languageOf = contracts.map p.languageOf

section

variable {p : Pipeline σ} {ensemble : Ensemble} {earlier contracts : List Contract}

theorem askedAlike_of_keyOf (h : keyOf earlier = keyOf contracts) :
    p.AskedAlike earlier contracts := by
  have hapart : List.Forall₂
      (fun c c' => p.questionOf [] c' = { p.questionOf [] c with language := p.languageOf c' })
      earlier contracts := by
    have hkeys : List.Forall₂ (· = ·) (keyOf earlier) (keyOf contracts) := by
      rw [List.forall₂_eq_eq_eq]
      exact h
    refine (List.forall₂_map_right_iff.mp (List.forall₂_map_left_iff.mp hkeys)).imp ?_
    intro c c' hkey
    obtain ⟨hname, hcode⟩ := Prod.mk.inj hkey
    unfold languageOf questionOf Contract.name
    rw [hname, hcode]
  refine ⟨hapart, map_eq_map_congr ?_ hapart, map_eq_map_congr ?_ hapart⟩
  · intro c c' hc
    rw [hc]
    exact ⟨congrArg Question.language, fun hlanguage => by rw [← hlanguage]; rfl⟩
  · intro c c' hc
    rw [hc]
    refine ⟨fun hprompt => (Question.prompt_inj hprompt.symm).symm, fun hlanguage => ?_⟩
    rw [← hlanguage]
    rfl

variable (ensemble) in
/-- What the models come to on contracts is told by what they are asked. -/
theorem gather_congr (h : p.models.GoByRequest)
    (hsame : earlier.map (p.questionOf []) = contracts.map (p.questionOf [])) (g : Gathered)
    (s s' : σ) :
    (p.gather ensemble [] earlier g s).1 = (p.gather ensemble [] contracts g s').1 := by
  induction earlier generalizing contracts g s s' with
  | nil =>
      obtain rfl := List.map_eq_nil_iff.mp hsame.symm
      rfl
  | cons c rest ih =>
      obtain ⟨c', rest', rfl, hfirst, hrest⟩ := List.map_eq_cons_iff.mp hsame.symm
      have hfile : c'.filename = c.filename := congrArg Question.filename hfirst
      have hverdict := (ensemble.independent_of_goByRequest h (p.questionOf [] c)).analyze_eq s s'
      have hadd (v : Verdict) : g.add p c v = g.add p c' v := by
        unfold Gathered.add findingOf
        rw [hfile]
      unfold gather
      dsimp only
      rw [hfirst, hverdict, hadd]
      exact ih hrest.symm _ _ _

/-! ## Where a report comes from -/

theorem exists_gather_of_course {now : Kept × σ} {static models : Report}
    (h : p.course ensemble contracts now = .consulted static models) :
    ∃ s, models = (p.gather ensemble [] contracts {} s).1.report ensemble := by
  unfold course at h
  split at h
  next =>
    dsimp only at h
    split at h
    next => cases h
    next =>
      cases h
      exact ⟨_, rfl⟩
  next => cases h

theorem kept_of_course {now : Kept × σ} {static models : Report}
    (h : p.course ensemble contracts now = .reused static models) :
    now.1 = some (keyOf contracts, models) := by
  unfold course at h
  split at h
  next =>
    dsimp only at h
    split at h
    next htake =>
      cases h
      exact take_eq_some_iff.mp htake
    next => cases h
  next => cases h

theorem keep_none (key : ContractsKey) (static : Report) : keep key static none = none := by
  unfold keep
  cases static.failure <;> rfl

/-- Without models to consult nothing is ever kept. -/
theorem exists_ensemble_of_kept {calls : List (List Contract)} {s : σ}
    {kept : ContractsKey × Report}
    (h : (p.following calls (none, s)).1 = some kept) :
    p.options.modelsEnabled = true ∧ ∃ ensemble, p.options.ensemble = some ensemble := by
  by_contra hnot
  have hoff : (!p.options.modelsEnabled || p.options.ensemble.isNone) = true := by
    rw [Bool.or_eq_true, Bool.not_eq_true', Option.isNone_iff_eq_none]
    rcases not_and_or.mp hnot with hdisabled | hmissing
    · exact .inl (Bool.not_eq_true _ ▸ hdisabled)
    · exact .inr (Option.eq_none_iff_forall_ne_some.mpr (not_exists.mp hmissing))
  have hstage (contracts : List Contract) (s : σ) : p.modelStage contracts s = (none, s) :=
    if_pos hoff
  have hnone : (p.following calls (none, s)).1 = none := by
    clear h
    induction calls using List.reverseRecOn with
    | nil => rfl
    | append_singleton calls last ih =>
        rw [following_concat]
        by_cases haccepts : p.Accepts last
        · rw [p.analyze_of_accepts last _ _ haccepts, ih]
          simp only [take, Option.bind_none, runStages, hstage, keep_none]
        · rw [p.analyze_of_not_accepts last _ _ haccepts]
          exact ih
  cases h.symm.trans hnone

variable (hensemble : p.options.ensemble = some ensemble)
  (henabled : p.options.modelsEnabled = true)

include hensemble henabled

/-- A report that is kept comes from an earlier call, which asked the models about contracts of the
same key. -/
theorem exists_source (calls : List (List Contract)) (s : σ) {key : ContractsKey} {report : Report}
    (h : (p.following calls (none, s)).1 = some (key, report)) :
    ∃ earlier static s₁, keyOf earlier = key ∧
      (earlier, .consulted static report) ∈ p.log ensemble calls (none, s) ∧
      report = (p.gather ensemble [] earlier {} s₁).1.report ensemble := by
  induction calls using List.reverseRecOn generalizing key with
  | nil => cases h
  | append_singleton calls last ih =>
      have hbefore (hkept : (p.following calls (none, s)).1 = some (key, report)) :
          ∃ earlier static s₁, keyOf earlier = key ∧
            (earlier, .consulted static report) ∈ p.log ensemble (calls ++ [last]) (none, s) ∧
            report = (p.gather ensemble [] earlier {} s₁).1.report ensemble := by
        obtain ⟨earlier, static, s₁, hkey, hmem, hreport⟩ := ih hkept
        rw [log_concat]
        exact ⟨earlier, static, s₁, hkey, List.mem_append_left _ hmem, hreport⟩
      rw [following_concat, (goes_course hensemble henabled last _).2,
        Course.kept_eq_some_iff] at h
      rcases h with ⟨rfl, hleaves⟩ | ⟨-, hkept⟩
      · cases hcourse : p.course ensemble last (p.following calls (none, s)) with
        | rejected =>
            rw [hcourse] at hleaves
            exact hleaves.elim
        | consulted static models =>
            rw [hcourse] at hleaves
            obtain rfl := hleaves.1
            obtain ⟨s₁, hreport⟩ := exists_gather_of_course hcourse
            rw [log_concat, hcourse]
            exact ⟨last, static, s₁, rfl, List.mem_append_right _ List.mem_cons_self, hreport⟩
        -- What is used again was kept before, for the same contracts.
        | reused static models =>
            rw [hcourse] at hleaves
            obtain rfl := hleaves.1
            exact hbefore (kept_of_course hcourse)
      · exact hbefore hkept

end

/-- A report of the models that is used again comes from an earlier call that consulted them about
contracts with the same names and texts. This call would have asked them the same if the contracts
have the same languages, and only then. If they have, and the models go by what they are asked, the
call comes to the same as it would have by consulting them. -/
theorem alike_unless_language (p : Pipeline σ) (calls : List (List Contract)) (s : σ)
    (contracts : List Contract) (haccepts : p.Accepts contracts) {models : Report}
    (hkept : take (keyOf contracts) (p.following calls (none, s)).1 = some models) :
    ∃ ensemble earlier static, p.options.ensemble = some ensemble ∧
      (earlier, .consulted static models) ∈ p.log ensemble calls (none, s) ∧
      p.AskedAlike earlier contracts ∧
      (p.models.GoByRequest → earlier.map p.languageOf = contracts.map p.languageOf →
        let now := p.following calls (none, s)
        (p.analyze contracts now.1 now.2).1 = (p.analyze contracts none now.2).1) := by
  obtain ⟨henabled, ensemble, hensemble⟩ := exists_ensemble_of_kept (take_eq_some_iff.mp hkept)
  obtain ⟨earlier, static, s₁, hkey, hmem, hreport⟩ :=
    exists_source hensemble henabled calls s (take_eq_some_iff.mp hkept)
  have halike : p.AskedAlike earlier contracts := askedAlike_of_keyOf hkey
  refine ⟨ensemble, earlier, static, hensemble, hmem, halike, fun hmodels hlanguages => ?_⟩
  have hgather := gather_congr ensemble hmodels (halike.questions_iff.mpr hlanguages)
    {} s₁ (p.staticStage contracts (p.following calls (none, s)).2).2
  dsimp only
  rw [p.analyze_of_accepts contracts _ _ haccepts, p.analyze_of_accepts contracts _ _ haccepts,
    hkept, hreport, hgather]
  simp only [runStages, take, Option.bind_none, modelStage_eq hensemble henabled]

/-- The same text under the same name, in another language. -/
def vyperContract : Contract := { plainContract with language := some "vyper" }

/-- A report on a contract serves one in another language too, about which the models would have
been asked something else. -/
theorem alike_slowPipeline :
    ∃ models earlier static,
      take (keyOf [vyperContract]) (slowPipeline.following [[plainContract]] (none, ())).1 =
        some models ∧
      (earlier, .consulted static models) ∈
        slowPipeline.log loneModel [[plainContract]] (none, ()) ∧
      (earlier.map fun c => (slowPipeline.questionOf [] c).prompt) ≠
        ([vyperContract].map fun c => (slowPipeline.questionOf [] c).prompt) := by
  have haccepts : slowPipeline.Accepts [vyperContract] := by decide +kernel
  have hkept : ∃ models, take (keyOf [vyperContract])
      (slowPipeline.following [[plainContract]] (none, ())).1 = some models := ⟨_, rfl⟩
  obtain ⟨models, hkept⟩ := hkept
  obtain ⟨ensemble, earlier, static, hensemble, hmem, halike, -⟩ :=
    alike_unless_language slowPipeline [[plainContract]] () [vyperContract] haccepts hkept
  obtain rfl : loneModel = ensemble := Option.some.inj hensemble
  have hearlier : earlier = [plainContract] := congrArg Prod.fst (List.mem_singleton.mp hmem)
  have hlanguages : earlier.map slowPipeline.languageOf ≠
      [vyperContract].map slowPipeline.languageOf := by
    rw [hearlier]
    decide +kernel
  exact ⟨models, earlier, static, hkept, hmem, mt halike.prompts_iff.mp hlanguages⟩

end Pipeline

end ContractReview
