import ContractReview.App
import ContractReview.Proofs.Latest
import ContractReview.Proofs.Platform.Shares
import ContractReview.Proofs.Review.Fallback
import ContractReview.Proofs.Review.Merge

/-!
What the review of some files shows of the findings in them. A finding is told apart from others by
its type, place and file, but of a file's path only the last part is kept; so a finding gives way to
an earlier one of the same type and place in the same file, or in a namesake of it.
-/

namespace ContractReview

variable {σ : Type}

/-! ## Tables of findings -/

namespace Display

theorem mem_bySeverity_iff {f : Finding} {findings : List Finding} :
    f ∈ bySeverity findings ↔ f ∈ findings := by
  unfold bySeverity
  rw [List.mem_flatMap]
  constructor
  · rintro ⟨severity, -, hf⟩
    exact (List.mem_filter.mp hf).1
  · intro hf
    refine ⟨f.severity, ?_, List.mem_filter.mpr ⟨hf, by simp⟩⟩
    cases f.severity <;> simp

/-- A finding has a row in a table exactly when its type is a text. -/
theorem exists_findingRow_eq_ok_iff (f : Finding) :
    (∃ row, findingRow f = .ok row) ↔ ∃ text, f.category = .text text := by
  unfold findingRow labelText
  cases f.category with
  | text text => exact iff_of_true ⟨_, rfl⟩ ⟨text, rfl⟩
  | flag b => exact iff_of_false (by rintro ⟨_, ⟨⟩⟩) (by rintro ⟨_, ⟨⟩⟩)
  | number n => exact iff_of_false (by rintro ⟨_, ⟨⟩⟩) (by rintro ⟨_, ⟨⟩⟩)

/-- What is shown of a report's findings: a row for each of them, or no table at all when the type
of one is no text. -/
structure Listed (items : List Item) (findings : List Finding) : Prop where
  rows : (∀ f ∈ findings, ∃ text, f.category = .text text) → ∀ f ∈ findings,
    ∃ rows row, .table findingColumns rows ∈ items ∧ row ∈ rows ∧ findingRow f = .ok row
  untold : (∃ f ∈ findings, ∀ text, f.category ≠ .text text) →
    ∀ columns rows, .table columns rows ∉ items

theorem findingTable_eq_ok {findings : List Finding}
    (h : ∀ f ∈ findings, ∃ text, f.category = .text text) :
    ∃ item, findingTable findings = .ok item ∧ ∀ f ∈ findings,
      ∃ rows row, item = .table findingColumns rows ∧ row ∈ rows ∧ findingRow f = .ok row := by
  unfold findingTable
  obtain ⟨rows, hrows⟩ := Outcome.exists_mapM_eq_ok_iff.mpr fun f hf =>
    (exists_findingRow_eq_ok_iff f).mpr (h f (mem_bySeverity_iff.mp hf))
  split
  next hempty =>
    rw [List.isEmpty_iff.mp hempty]
    exact ⟨_, rfl, by simp⟩
  next =>
    rw [hrows]
    refine ⟨_, rfl, fun f hf => ?_⟩
    obtain ⟨row, hrow, hf⟩ := Outcome.exists_mem_of_mapM hrows (mem_bySeverity_iff.mpr hf)
    exact ⟨rows, row, rfl, hrow, hf⟩

theorem exists_findingTable_eq_error {findings : List Finding}
    (h : ∃ f ∈ findings, ∀ text, f.category ≠ .text text) :
    ∃ fault, findingTable findings = .error fault := by
  obtain ⟨f, hf, hnot⟩ := h
  unfold findingTable
  rw [if_neg (by simpa using List.ne_nil_of_mem hf)]
  cases hrows : (bySeverity findings).mapM findingRow with
  | error fault => exact ⟨fault, rfl⟩
  | ok rows =>
      obtain ⟨row, -, hrow⟩ := Outcome.exists_mem_of_mapM hrows (mem_bySeverity_iff.mpr hf)
      obtain ⟨text, htext⟩ := (exists_findingRow_eq_ok_iff f).mp ⟨row, hrow⟩
      exact absurd htext (hnot text)

end Display

namespace App

theorem listed_showReport (platform : String) {report : Report} {time : Float}
    (htime : report.executionTime = .float time) :
    Display.Listed (showReport platform report none).shown report.findings := by
  have htoFloat : report.executionTime.toFloat? = some time := by
    rw [htime]
    rfl
  unfold showReport Display.report
  rw [htoFloat]
  constructor
  · intro htexts f hf
    obtain ⟨item, hitem, hrows⟩ := Display.findingTable_eq_ok htexts
    obtain ⟨rows, row, rfl, hrow⟩ := hrows f hf
    rw [hitem]
    exact ⟨rows, row, by simp, hrow⟩
  · intro hnot columns rows
    obtain ⟨fault, hfault⟩ := Display.exists_findingTable_eq_error hnot
    rw [hfault]
    simp [Display.summary, Display.error, Display.message]

/-! ## Findings of several files -/

/-- The findings in some files, told with the paths of the files and in their order. -/
def occurrences (files : List String) (shares : List (List Finding)) : List (String × Finding) :=
  (files.zip shares).flatMap fun (path, share) => share.map (path, ·)

/-- Findings of one type at one place, in files of one name. -/
structure Collide (a b : String × Finding) : Prop where
  name : FilePath.name a.1 = FilePath.name b.1
  category : a.2.category.key = b.2.category.key
  line : a.2.location.line = b.2.location.line
  column : a.2.location.column = b.2.location.column

theorem occurrences_cons (path : String) (files : List String) (share : List Finding)
    (shares : List (List Finding)) :
    occurrences (path :: files) (share :: shares) =
      share.map (path, ·) ++ occurrences files shares := rfl

variable {files : List String} {shares : List (List Finding)}

/-- All occurrences are all shares, one after the other. -/
theorem map_snd_occurrences {contracts : List Contract}
    {Named : String → Contract → Prop} {Finds : Contract → List Finding → Prop}
    (hfiles : List.Forall₂ Named files contracts) (hshares : List.Forall₂ Finds contracts shares) :
    (occurrences files shares).map Prod.snd = shares.flatten := by
  induction hfiles generalizing shares with
  | nil =>
      cases hshares
      rfl
  | cons _ _ ih =>
      cases hshares with
      | cons _ hrest =>
          rw [occurrences_cons, List.map_append, List.map_map, ih hrest]
          simp

/-- Every occurrence is in one of the files, and is about its name. -/
theorem mem_occurrences {contracts : List Contract} {Finds : Contract → List Finding → Prop}
    (hfiles : List.Forall₂ (fun path c => c.filename = FilePath.name path) files contracts)
    (hshares : List.Forall₂ Finds contracts shares)
    (hall : ∀ c share, Finds c share → Finding.AllIn c.filename share) {found : String × Finding}
    (h : found ∈ occurrences files shares) :
    found.1 ∈ files ∧ found.2.location.file = FilePath.name found.1 := by
  induction hfiles generalizing shares with
  | nil =>
      cases hshares
      cases h
  | cons hname _ ih =>
      cases hshares with
      | cons hshare hrest =>
          rw [occurrences_cons] at h
          rcases List.mem_append.mp h with hfirst | hlater
          · obtain ⟨f, hf, rfl⟩ := List.mem_map.mp hfirst
            exact ⟨List.mem_cons_self, (hall _ _ hshare f hf).trans hname⟩
          · obtain ⟨hpath, hfile⟩ := ih hrest hlater
            exact ⟨List.mem_cons_of_mem _ hpath, hfile⟩

theorem collide_iff {a b : String × Finding} (ha : a.2.location.file = FilePath.name a.1)
    (hb : b.2.location.file = FilePath.name b.1) : Collide a b ↔ a.2.key = b.2.key := by
  unfold Finding.key
  rw [Finding.Key.mk.injEq, ha, hb]
  constructor
  · rintro ⟨hname, hcategory, hline, hcolumn⟩
    exact ⟨hcategory, hname, hline, hcolumn⟩
  · rintro ⟨hcategory, hname, hline, hcolumn⟩
    exact ⟨hname, hcategory, hline, hcolumn⟩

/-- What a report says of the findings in some files. One that collides with no earlier one is in
it; in place of any other it has an earlier one that collides with it, and nothing else. -/
structure Tallied (found : List (String × Finding)) (report : Report) : Prop where
  kept : Throughout (fun before now => (∀ earlier ∈ before, ¬ Collide earlier now) →
    now.2 ∈ report.findings) found
  displaced : Throughout (fun before now => (∃ earlier ∈ before, Collide earlier now) →
    ∃ earlier ∈ before, Collide earlier now ∧ earlier.2 ∈ report.findings ∧
      ∀ f ∈ report.findings, f.key = now.2.key → f = earlier.2) found

theorem tallied_of_find? {found : List (String × Finding)} {report : Report}
    (hnodup : (report.findings.map Finding.key).Nodup)
    (hfile : ∀ a ∈ found, a.2.location.file = FilePath.name a.1)
    (hfind : ∀ a ∈ found, report.findings.find? (·.key = a.2.key) =
      (found.map Prod.snd).find? (·.key = a.2.key)) : Tallied found report := by
  -- the first finding of the key is the first of those that collide
  have hfirst (before : List (String × Finding)) (now : String × Finding)
      (after : List (String × Finding)) (heq : found = before ++ now :: after) :
      report.findings.find? (·.key = now.2.key) =
        ((before.map Prod.snd).find? (·.key = now.2.key)).or (some now.2) := by
    rw [hfind now (by rw [heq]; simp), heq, List.map_append, List.map_cons, List.find?_append]
    simp
  have hcollide (before : List (String × Finding)) (now : String × Finding)
      (after : List (String × Finding)) (heq : found = before ++ now :: after)
      (earlier : String × Finding) (hearlier : earlier ∈ before) :
      Collide earlier now ↔ earlier.2.key = now.2.key :=
    collide_iff (hfile earlier (by rw [heq]; exact List.mem_append_left _ hearlier))
      (hfile now (by rw [heq]; simp))
  constructor
  · intro before now after heq hnone
    refine List.mem_of_find?_eq_some ((hfirst before now after heq).trans ?_)
    have hnot : (before.map Prod.snd).find? (·.key = now.2.key) = none := by
      rw [List.find?_eq_none]
      intro f hf hkey
      obtain ⟨earlier, hearlier, rfl⟩ := List.mem_map.mp hf
      exact hnone earlier hearlier
        ((hcollide before now after heq earlier hearlier).mpr (by simpa using hkey))
    rw [hnot]
    rfl
  · rintro before now after heq ⟨earlier, hearlier, hsame⟩
    have hkey := (hcollide before now after heq earlier hearlier).mp hsame
    have hsome : ((before.map Prod.snd).find? (·.key = now.2.key)).isSome := by
      rw [List.find?_isSome]
      exact ⟨earlier.2, List.mem_map_of_mem hearlier, by simpa using hkey⟩
    obtain ⟨f, hf⟩ := Option.isSome_iff_exists.mp hsome
    obtain ⟨first, hmem, rfl⟩ := List.mem_map.mp (List.mem_of_find?_eq_some hf)
    have hfound : first.2.key = now.2.key := by simpa using List.find?_some hf
    have hkept : first.2 ∈ report.findings :=
      List.mem_of_find?_eq_some ((hfirst before now after heq).trans (by rw [hf]; rfl))
    exact ⟨first, hmem, (hcollide before now after heq first hmem).mpr hfound, hkept,
      fun g hg hsame => List.inj_on_of_nodup_map hnodup hg hkept (hsame.trans hfound.symm)⟩

/-! ## Reviews of files -/

/-- A command that comes to the review of some contracts. -/
structure Reads (registry : Registry) (site : Site) (files : List String)
    (platform : Option String) (entry : Platform) (family : Family) (contracts : List Contract) :
    Prop where
  named : platformOf registry files platform = .ok entry.id
  registered : registry.find? entry.id = some entry
  active : entry.isActive = true
  known : Family.members.lookup entry.id = some family
  read : contractsOf site entry.id entry.languages.head? files = .ok contracts

theorem forall₂_contractsOf {site : Site} {id : String} {language : Option String}
    {contracts : List Contract} (h : contractsOf site id language files = .ok contracts) :
    List.Forall₂ (fun path c => c.filename = FilePath.name path) files contracts := by
  induction files generalizing contracts with
  | nil =>
      cases h
      exact .nil
  | cons path rest ih =>
      unfold contractsOf at h
      split at h
      · cases h
      · cases h
      · cases hrest : contractsOf site id language rest with
        | error message =>
            rw [hrest] at h
            cases h
        | ok others =>
            rw [hrest] at h
            cases h
            exact .cons rfl (ih hrest)

section Reading

variable (tools : Tools σ) (models : Models σ) (options : ReviewOptions)

/-- The program with the usual analyzers. -/
def standardSetup (registry : Registry) (policy : FallbackPolicy) : Setup σ :=
  { workshop := .standard tools models options, registry, policy }

/-- The usual analyzer of a platform. -/
def analyzerOf (entry : Platform) (family : Family) : Pipeline σ :=
  family.pipeline tools models entry.id { options with focusAreas := entry.focusAreas }

theorem lookup_map {α β γ : Type} [BEq α] (f : β → γ) (xs : List (α × β)) (key : α) :
    (xs.map fun (a, b) => (a, f b)).lookup key = (xs.lookup key).map f := by
  induction xs with
  | nil => rfl
  | cons x rest ih =>
      rw [List.map_cons, List.lookup_cons, List.lookup_cons, ih]
      split <;> rfl

variable {registry : Registry} {site : Site} {files : List String} {platform : Option String}
  {entry : Platform} {family : Family} {contracts : List Contract}

theorem analyze_of_reads (policy : FallbackPolicy) (pause : Number → σ → σ) (useFallback : Bool)
    (s : σ) (h : Reads registry site files platform entry family contracts) :
    analyze (standardSetup tools models options registry policy) site pause files platform
        useFallback s =
      reviewWith (standardSetup tools models options registry policy) pause useFallback
        (analyzerOf tools models options entry family) contracts s := by
  let build (family : Family) (platform : Platform) : Act σ (Pipeline σ) :=
    pure (analyzerOf tools models options platform family)
  have hbuilder : (Workshop.standard tools models options).builders.lookup entry.id =
      some (build family) :=
    (lookup_map build Family.members entry.id).trans (by rw [h.known]; rfl)
  have hbuilt : (build family entry).run s =
      (.ok (analyzerOf tools models options entry family), s) := rfl
  unfold analyze Workshop.analyzer?
  dsimp only [standardSetup]
  rw [h.named]
  simp only [h.registered, hbuilder, h.active, List.lookup_nil, ↓reduceIte, hbuilt,
    Option.bind_some, h.read]

/-- The static stage returns a report in the review of accepted contracts: in the only attempt, or
with lesser ways in reserve in one that is made. -/
inductive StaticReturns (p : Pipeline σ) (policy : FallbackPolicy) (pause : Number → σ → σ)
    (contracts : List Contract) (s : σ) : (useFallback : Bool) → Report → Prop
  | once {static : Report} {s' : σ} : p.Accepts contracts →
      (p.stages.static contracts).run s = (.ok static, s') →
      StaticReturns p policy pause contracts s false static
  | attempt {static : Report} {s' : σ} {n : Nat} : p.Accepts contracts →
      Fallback.Made (p.reviewer pause) policy.retryDelay contracts (none, s) policy.maxAttempts n →
      (p.stages.static contracts).run
          (Fallback.before (p.reviewer pause) policy.retryDelay contracts (none, s) n).2 =
        (.ok static, s') →
      StaticReturns p policy pause contracts s true static

theorem StaticReturns.yields {p : Pipeline σ} {policy : FallbackPolicy} {pause : Number → σ → σ}
    {s : σ} {useFallback : Bool} {static : Report}
    (h : StaticReturns p policy pause contracts s useFallback static) :
    Act.Yields (p.stages.static contracts) static := by
  cases h with
  | once _ hrun => exact ⟨_, _, hrun⟩
  | attempt _ _ hrun => exact ⟨_, _, hrun⟩

/-- An analysis whose static stage returns joins its report with one of the models, if any. -/
theorem exists_analyze_eq_conclude {p : Pipeline σ} (haccepts : p.Accepts contracts) (kept : Kept)
    {s s' : σ} {static : Report} (hrun : (p.stages.static contracts).run s = (.ok static, s')) :
    ∃ models, (p.analyze contracts kept s).1 = p.conclude contracts static models := by
  have hstatic : (p.staticStage contracts s).1 = static := by
    unfold Pipeline.staticStage
    rw [hrun]
  rw [p.analyze_of_accepts contracts kept s haccepts, Pipeline.runStages_static, hstatic]
  exact ⟨_, rfl⟩

/-- The report that is shown has the findings of the static report and those that a report of the
models, if any, adds to them. -/
theorem exists_reviewWith_eq {p : Pipeline σ} {policy : FallbackPolicy} {pause : Number → σ → σ}
    {s : σ} {useFallback : Bool} {static : Report}
    (h : StaticReturns p policy pause contracts s useFallback static)
    (hfailure : static.failure = none) (htime : static.executionTime = .float 0.0)
    (setup : Setup σ) (hpolicy : setup.policy = policy) :
    ∃ models report time, (reviewWith setup pause useFallback p contracts s).1 =
        showReport p.platform report none ∧
      report.findings = (Pipeline.merge static models).findings ∧
      report.executionTime = .float time := by
  subst hpolicy
  cases h with
  | once haccepts hrun =>
      obtain ⟨models, heq⟩ := exists_analyze_eq_conclude haccepts none hrun
      have hconclude : ∃ time,
          (p.conclude contracts static models).executionTime = .float time := by
        cases models with
        | none => exact ⟨0.0, htime⟩
        | some report =>
            change ∃ time, static.executionTime.add report.executionTime = .float time
            rw [htime]
            exact ⟨_, rfl⟩
      obtain ⟨time, hconclude⟩ := hconclude
      refine ⟨models, p.conclude contracts static models, time, ?_, rfl, hconclude⟩
      unfold reviewWith
      rw [← heq]
      rfl
  | attempt haccepts hmade hrun =>
      obtain ⟨models, heq⟩ := exists_analyze_eq_conclude haccepts
        (Fallback.before (p.reviewer pause) setup.policy.retryDelay contracts (none, s) _).1 hrun
      have hnone : (p.conclude contracts static models).failure = none :=
        (Pipeline.agree_merge static models).failure.trans hfailure
      have hreview := Fallback.review_of_made (some (setup.registry.focusAreas p.platform)) hmade
        (congrArg Except.ok heq) hnone
      unfold reviewWith
      rw [if_pos rfl, hreview]
      exact ⟨models, _, 0.0, rfl, rfl, rfl⟩

/-- What the review of some files comes to: the findings in each of them, and what is shown. -/
structure Shown (entry : Platform) (files : List String) (shares : List (List Finding))
    (outcome : Outcome) (report : Report) : Prop where
  reported : outcome = showReport entry.id report none
  tallied : Tallied (occurrences files shares) report
  listed : Display.Listed outcome.shown report.findings
  distinct : (files.map FilePath.name).Nodup →
    ∀ a ∈ occurrences files shares, ∀ b ∈ occurrences files shares, Collide a b → a.1 = b.1

/-- When the static stage returns, every finding in a file is shown, unless there is an earlier one
of the same type and place in the file or in another one of its name. If no two files have one name,
only findings of one file collide. -/
theorem shown_unless_collision (policy : FallbackPolicy) (pause : Number → σ → σ)
    (useFallback : Bool) (s : σ) {static : Report}
    (hreads : Reads registry site files platform entry family contracts)
    (hreturns : StaticReturns (analyzerOf tools models options entry family) policy pause contracts
      s useFallback static) :
    ∃ shares report,
      List.Forall₂
        (family.Finds tools entry.id { options with focusAreas := entry.focusAreas }
          (contracts.map (·.filename)) {}) contracts shares ∧
      static.findings = shares.flatten ∧
      Shown entry files shares
        (analyze (standardSetup tools models options registry policy) site pause files platform
          useFallback s).1 report := by
  have hshared := Family.sharedBy_static hreturns.yields
  have hclean := Act.returns_iff.mp (family.returns_clean tools entry.id
    { options with focusAreas := entry.focusAreas } {} contracts) static hreturns.yields
  obtain ⟨shares, hshares, hfindings⟩ := hshared.findings
  obtain ⟨found, report, time, houtcome, hreport, htime⟩ := exists_reviewWith_eq hreturns
    hclean.failure hshared.executionTime (standardSetup tools models options registry policy) rfl
  have hnamed := forall₂_contractsOf hreads.read
  have hflat := map_snd_occurrences hnamed hshares
  have hmem (a : String × Finding) (ha : a ∈ occurrences files shares) :=
    mem_occurrences hnamed hshares (fun _ _ h => h.allIn) ha
  rw [← analyze_of_reads tools models options policy pause useFallback s hreads] at houtcome
  refine ⟨shares, report, hshares, hfindings, houtcome, ?_, ?_, ?_⟩
  · refine tallied_of_find? ?_ (fun a ha => (hmem a ha).2) fun a ha => ?_
    · rw [hreport, Pipeline.findings_merge]
      exact Finding.nodup_keys_fresh _
    have hstatic : a.2 ∈ static.findings := by
      rw [hfindings, ← hflat]
      exact List.mem_map_of_mem ha
    rw [hreport, Pipeline.find?_merge hstatic, hfindings, hflat]
  · rw [houtcome]
    exact listed_showReport _ htime
  · intro hnodup a ha b hb hcollide
    exact List.inj_on_of_nodup_map hnodup (hmem a ha).1 (hmem b hb).1 hcollide.name

end Reading

/-- Tools that are there. -/
def readyTools : Tools Unit :=
  { run := fun _ => pure { stdout := "aptos 7.2.0" }
    available := fun _ _ => true
    scratch := { path := "/tmp/review", name := "review" } }

/-- Two modules of one name. -/
def twoModules : Site :=
  { file? := fun path =>
      if path = "a/m.move" then some (.ok "abort 1")
      else if path = "b/m.move" then some (.ok "abort 10")
      else none }

def moduleOf (code : String) : Contract :=
  { filename := "m.move", code, platform := "aptos", language := some "move" }

/-- Whether a finding reaches over seven characters. -/
def isSeven (f : Finding) : Bool := f.location.length matches .num (.int 7)

/-- The finding in either module reads like this, but the number in the second one is longer. -/
def abortKey : Finding.Key := ⟨.text "magic-abort-code", "m.move", 1, 1⟩

/-- The finding in the second of two modules of one name is not shown. -/
theorem overlooks_twoModules :
    ∃ shares report f,
      Shown (.move "aptos" "Aptos") ["a/m.move", "b/m.move"] shares
        (analyze (standardSetup readyTools silentModels {} .standard {}) twoModules (fun _ s => s)
          ["a/m.move", "b/m.move"] (some "aptos") false ()).1 report ∧
      ("b/m.move", f) ∈ occurrences ["a/m.move", "b/m.move"] shares ∧ f ∉ report.findings := by
  let p := analyzerOf readyTools silentModels {} (.move "aptos" "Aptos") .aptos
  let modules := [moduleOf "abort 1", moduleOf "abort 10"]
  have hreads : Reads .standard twoModules ["a/m.move", "b/m.move"] (some "aptos")
      (.move "aptos" "Aptos") .aptos modules :=
    { named := by decide +kernel
      registered := by decide +kernel
      active := rfl
      known := by decide +kernel
      read := rfl }
  have haccepts : p.Accepts modules := by decide +kernel
  have hreturns : ∃ static, StaticReturns p {} (fun _ s => s) modules () false static := by
    have hok : ((p.stages.static modules).run ()).1.isOk = true := by decide +kernel
    rcases hrun : (p.stages.static modules).run () with ⟨fault | static, s'⟩
    · rw [hrun] at hok
      cases hok
    · exact ⟨static, .once haccepts hrun⟩
  obtain ⟨static, hreturns⟩ := hreturns
  obtain ⟨shares, report, hshares, -, hshown⟩ := shown_unless_collision readyTools silentModels {}
    {} (fun _ s => s) false () hreads hreturns
  obtain ⟨first, hfirst, hfirstKey⟩ : ∃ f,
      Rule.applyAll (Rule.move ++ Rule.aptos) (moduleOf "abort 1") "aptos" = [f] ∧
        (f.key, isSeven f) = (abortKey, true) :=
    List.map_eq_singleton_iff.mp (by decide +kernel)
  obtain ⟨second, hsecond, hsecondKey⟩ : ∃ f,
      Rule.applyAll (Rule.move ++ Rule.aptos) (moduleOf "abort 10") "aptos" = [f] ∧
        (f.key, isSeven f) = (abortKey, false) :=
    List.map_eq_singleton_iff.mp (by decide +kernel)
  obtain rfl : shares = [[first], [second]] := by
    dsimp only [modules] at hshares
    cases hshares with
    | cons ha hrest =>
        cases hrest with
        | cons hb hnil =>
            cases hnil
            rw [ha.trans hfirst, hb.trans hsecond]
  have hkeys : first.key = second.key :=
    (congrArg Prod.fst hfirstKey).trans (congrArg Prod.fst hsecondKey).symm
  have hname : FilePath.name "a/m.move" = FilePath.name "b/m.move" := by decide +kernel
  have hcollide : Collide ("a/m.move", first) ("b/m.move", second) :=
    { name := hname
      category := congrArg Finding.Key.category hkeys
      line := congrArg Finding.Key.line hkeys
      column := congrArg Finding.Key.column hkeys }
  refine ⟨[[first], [second]], report, second, hshown, by simp [occurrences], fun hmem => ?_⟩
  obtain ⟨earlier, hearlier, -, -, honly⟩ := hshown.tallied.displaced [("a/m.move", first)]
    ("b/m.move", second) [] rfl ⟨_, List.mem_singleton_self _, hcollide⟩
  obtain rfl := List.mem_singleton.mp hearlier
  obtain rfl : second = first := honly second hmem rfl
  cases (congrArg Prod.snd hfirstKey).symm.trans (congrArg Prod.snd hsecondKey)

end App

end ContractReview
