import ContractReview.Proofs.Opinion.Ensemble
import ContractReview.Proofs.Platform.Shares
import ContractReview.Proofs.Review.Kept
import ContractReview.Proofs.Review.Merge

/-!
What the id of a finding tells. It is a digest of one text: the type, the file, the line and the
description, with dashes between them. The column is not in it, nor is it marked where one part ends
and the next begins. So the findings of a report, no two of which have the type, the file, the line
and the column in common, still share an id when only the column parts them, and when dashes in a
type or a file's name let the parts run on into each other.
-/

namespace ContractReview

namespace Finding

/-- The digits of an id behind its platform. -/
def digest (text : String) : String :=
  String.ofList ((Sha256.hex (Text.octetsOf text)).take 16)

/-- The text that the id of a finding is a digest of. -/
def origin (f : Finding) : String := material f.category f.location f.description

/-- Findings of one description on one line, under types that read alike. -/
structure Twins (f g : Finding) : Prop where
  category : f.category.shown = g.category.shown
  file : f.location.file = g.location.file
  line : f.location.line = g.location.line
  description : f.description = g.description

/-- What is behind the file in the text of a finding. -/
def ending (f : Finding) : String := toString f.location.line ++ "-" ++ f.description

/-- The second finding's type, or its file under the same type, breaks off at a dash in the first
one's, and what is left there begins the rest of the second one's text. -/
inductive RunsOn (f g : Finding) : Prop
  | category (between : String) : f.category.shown = g.category.shown ++ "-" ++ between →
      g.location.file ++ "-" ++ g.ending =
        between ++ "-" ++ (f.location.file ++ "-" ++ f.ending) → RunsOn f g
  | file (between : String) : f.category.shown = g.category.shown →
      f.location.file = g.location.file ++ "-" ++ between →
      g.ending = between ++ "-" ++ f.ending → RunsOn f g

/-- Findings that an id does not tell apart. -/
def Alike (f g : Finding) : Prop := f.Twins g ∨ f.RunsOn g ∨ g.RunsOn f

/-- Two texts around a dash are the same as two others when their parts are, or when one text in
front breaks off at a dash in the other. -/
theorem append_dash_eq_iff {a b x y : String} :
    a ++ "-" ++ x = b ++ "-" ++ y ↔
      (a = b ∧ x = y) ∨ (∃ between, a = b ++ "-" ++ between ∧ y = between ++ "-" ++ x) ∨
        ∃ between, b = a ++ "-" ++ between ∧ x = between ++ "-" ++ y := by
  constructor
  · intro h
    have hchars : a.toList ++ '-' :: x.toList = b.toList ++ '-' :: y.toList := by
      simpa using congrArg String.toList h
    rcases List.append_eq_append_iff.mp hchars with ⟨c, hb, hx⟩ | ⟨c, ha, hy⟩
    · rcases c with _ | ⟨first, rest⟩
      · obtain ⟨-, hxy⟩ := List.cons.inj hx
        exact .inl ⟨String.toList_inj.mp (by simpa using hb.symm), String.toList_inj.mp hxy⟩
      · obtain ⟨rfl, hx⟩ := List.cons.inj hx
        refine .inr (.inr ⟨String.ofList rest, ?_, ?_⟩)
        · exact String.toList_inj.mp (by simpa using hb)
        · exact String.toList_inj.mp (by simpa using hx)
    · rcases c with _ | ⟨first, rest⟩
      · obtain ⟨-, hxy⟩ := List.cons.inj hy
        exact .inl ⟨String.toList_inj.mp (by simpa using ha), String.toList_inj.mp hxy.symm⟩
      · obtain ⟨rfl, hy⟩ := List.cons.inj hy
        refine .inr (.inl ⟨String.ofList rest, ?_, ?_⟩)
        · exact String.toList_inj.mp (by simpa using ha)
        · exact String.toList_inj.mp (by simpa using hy)
  · rintro (⟨rfl, rfl⟩ | ⟨between, rfl, rfl⟩ | ⟨between, rfl, rfl⟩)
    · rfl
    · simp only [String.append_assoc]
    · simp only [String.append_assoc]

theorem dash_notMem_repr (n : Nat) : '-' ∉ n.repr.toList := by
  rw [Nat.toList_repr]
  intro hmem
  have hdigit : ('-').isDigit = true := Nat.isDigit_of_mem_toDigits (by decide) (by decide) hmem
  cases hdigit

/-- A number is written with a dash in front at most. -/
theorem dash_notMem_tail_toString (i : Int) : '-' ∉ (toString i).toList.tail := by
  rw [Int.toString_eq_repr]
  cases i with
  | ofNat n => exact fun hmem => dash_notMem_repr n (List.mem_of_mem_tail hmem)
  | negSucc n =>
      have hwritten : (Int.repr (.negSucc n)).toList = '-' :: (n + 1).repr.toList := by
        simp [Int.repr]
      rw [hwritten]
      exact dash_notMem_repr (n + 1)

theorem toList_toString_ne_nil (i : Int) : (toString i).toList ≠ [] := by
  rw [Int.toString_eq_repr]
  cases i with
  | ofNat n =>
      rw [Int.repr, Nat.toList_repr]
      exact Nat.toDigits_ne_nil
  | negSucc n => simp [Int.repr]

/-- No number breaks off at a dash in another one. -/
theorem toString_ne_append_dash (i j : Int) (between : String) :
    toString i ≠ toString j ++ "-" ++ between := by
  intro h
  have hchars : (toString i).toList = (toString j).toList ++ '-' :: between.toList := by
    simpa using congrArg String.toList h
  apply dash_notMem_tail_toString i
  rw [hchars, List.tail_append_of_ne_nil (toList_toString_ne_nil j)]
  simp

/-- The line and the description can be read off the ending. -/
theorem ending_eq_iff {f g : Finding} :
    f.ending = g.ending ↔ f.location.line = g.location.line ∧ f.description = g.description := by
  unfold ending
  rw [append_dash_eq_iff]
  constructor
  · rintro (⟨hline, hdescription⟩ | ⟨between, hline, -⟩ | ⟨between, hline, -⟩)
    · rw [Int.toString_eq_repr, Int.toString_eq_repr, Int.repr_inj] at hline
      exact ⟨hline, hdescription⟩
    · exact absurd hline (toString_ne_append_dash _ _ between)
    · exact absurd hline (toString_ne_append_dash _ _ between)
  · rintro ⟨hline, hdescription⟩
    exact .inl ⟨congrArg toString hline, hdescription⟩

theorem origin_eq (f : Finding) :
    f.origin = f.category.shown ++ "-" ++ (f.location.file ++ "-" ++ f.ending) := by
  unfold origin material ending
  simp only [String.append_assoc]

/-- The findings whose texts are the same are those that are alike. -/
theorem origin_eq_iff {f g : Finding} : f.origin = g.origin ↔ f.Alike g := by
  rw [origin_eq, origin_eq, append_dash_eq_iff]
  constructor
  · rintro (⟨hcategory, hrest⟩ | ⟨between, hcategory, hrest⟩ | ⟨between, hcategory, hrest⟩)
    · rcases append_dash_eq_iff.mp hrest with
        ⟨hfile, hending⟩ | ⟨between, hfile, hending⟩ | ⟨between, hfile, hending⟩
      · obtain ⟨hline, hdescription⟩ := ending_eq_iff.mp hending
        exact .inl ⟨hcategory, hfile, hline, hdescription⟩
      · exact .inr (.inl (.file between hcategory hfile hending))
      · exact .inr (.inr (.file between hcategory.symm hfile hending))
    · exact .inr (.inl (.category between hcategory hrest))
    · exact .inr (.inr (.category between hcategory hrest))
  · rintro (⟨hcategory, hfile, hline, hdescription⟩ | hruns | hruns)
    · refine .inl ⟨hcategory, ?_⟩
      rw [hfile, ending_eq_iff.mpr ⟨hline, hdescription⟩]
    · cases hruns with
      | category between hcategory hrest => exact .inr (.inl ⟨between, hcategory, hrest⟩)
      | file between hcategory hfile hending =>
          exact .inl ⟨hcategory, append_dash_eq_iff.mpr (.inr (.inl ⟨between, hfile, hending⟩))⟩
    · cases hruns with
      | category between hcategory hrest => exact .inr (.inr ⟨between, hcategory, hrest⟩)
      | file between hcategory hfile hending =>
          exact .inl ⟨hcategory.symm,
            append_dash_eq_iff.mpr (.inr (.inr ⟨between, hfile, hending⟩))⟩

theorem Identified.id_eq_iff {platform : String} {f g : Finding} (hf : f.Identified platform)
    (hg : g.Identified platform) : f.id = g.id ↔ digest f.origin = digest g.origin := by
  rw [hf, hg]
  exact String.append_right_inj (platform ++ "-")

end Finding

/-- The findings are the first of their keys, and each carries the id that it has on a platform. -/
structure Report.Sifted (platform : String) (report : Report) : Prop where
  distinct : (report.findings.map Finding.key).Nodup
  identified : ∀ f ∈ report.findings, f.Identified platform

theorem Report.sifted_of_fresh {platform : String} {report : Report} {findings : List Finding}
    (hreport : report.findings = Finding.fresh findings)
    (hidentified : ∀ f ∈ findings, f.Identified platform) : report.Sifted platform :=
  { distinct := by
      rw [hreport]
      exact Finding.nodup_keys_fresh findings
    identified := by
      intro f hf
      rw [hreport] at hf
      exact hidentified f (Finding.fresh_subset findings hf) }

theorem Report.sifted_of_nil {platform : String} {report : Report} (h : report.findings = []) :
    report.Sifted platform := by
  constructor
  · simp [h]
  · simp [h]

variable {σ : Type}

namespace Pipeline

variable (p : Pipeline σ)

theorem identified_gather {ensemble : Ensemble} {focusAreas : List String}
    (contracts : List Contract) {g : Gathered} (s : σ)
    (hg : ∀ f ∈ g.findings, f.Identified p.platform) :
    ∀ f ∈ (p.gather ensemble focusAreas contracts g s).1.findings, f.Identified p.platform := by
  induction contracts generalizing g s with
  | nil => exact hg
  | cons c rest ih =>
      refine ih _ ?_
      unfold Gathered.add
      split
      · refine List.forall_mem_append.mpr ⟨hg, fun f hf => ?_⟩
        obtain ⟨concern, -, rfl⟩ := List.mem_map.mp hf
        rfl
      · exact hg

theorem sifted_consult {contracts : List Contract} {focusAreas : List String} {s s' : σ}
    {report : Report} (h : (p.consult contracts focusAreas).run s = (.ok report, s')) :
    report.Sifted p.platform := by
  unfold consult at h
  cases hensemble : p.options.ensemble with
  | none =>
      rw [hensemble] at h
      cases h
  | some ensemble =>
      rw [hensemble] at h
      cases h
      exact Report.sifted_of_fresh rfl (p.identified_gather contracts s (by simp))

/-- Whatever the models' stage comes to is sifted. -/
theorem sifted_modelStage (contracts : List Contract) (s : σ) :
    ∀ report ∈ (p.modelStage contracts s).1, report.Sifted p.platform := by
  intro report hreport
  unfold modelStage at hreport
  split at hreport
  · cases hreport
  · split at hreport
    next found s' hrun =>
      cases hreport
      exact p.sifted_consult hrun
    next fault s' hrun =>
      cases hreport
      exact Report.sifted_of_nil rfl

variable {p} (hstatic : ∀ contracts s, ∀ f ∈ (p.staticStage contracts s).1.findings,
  f.Identified p.platform)

include hstatic

/-- A call returns a sifted report, and keeps none but sifted ones. -/
theorem sifted_analyze (contracts : List Contract) {now : Kept × σ}
    (hkept : ∀ entry ∈ now.1, entry.2.Sifted p.platform) :
    (p.analyze contracts now.1 now.2).1.Sifted p.platform ∧
      ∀ entry ∈ (p.analyze contracts now.1 now.2).2.1, entry.2.Sifted p.platform := by
  by_cases h : p.Accepts contracts
  · rw [p.analyze_of_accepts contracts now.1 now.2 h]
    have hstage : (p.runStages contracts (take (keyOf contracts) now.1) now.2).1.1 =
        (p.staticStage contracts now.2).1 := p.runStages_static contracts now.2 _
    have hmodels : ∀ report ∈ (p.runStages contracts (take (keyOf contracts) now.1) now.2).1.2,
        report.Sifted p.platform := by
      cases htake : take (keyOf contracts) now.1 with
      | none => exact p.sifted_modelStage contracts _
      | some report =>
          rintro _ ⟨⟩
          exact hkept _ (take_eq_some_iff.mp htake)
    generalize p.runStages contracts (take (keyOf contracts) now.1) now.2 = stages at *
    constructor
    · refine Report.sifted_of_fresh (findings_merge stages.1.1 stages.1.2)
        (List.forall_mem_append.mpr ⟨?_, ?_⟩)
      · rw [hstage]
        exact hstatic contracts now.2
      · cases hreport : stages.1.2 with
        | none => simp [reported]
        | some report => exact (hmodels report hreport).identified
    · rintro ⟨about, report⟩ hentry
      exact hmodels report (keep_eq_some_iff.mp hentry).2.1
  · rw [p.analyze_of_not_accepts contracts now.1 now.2 h]
    exact ⟨Report.sifted_of_nil rfl, hkept⟩

/-- Behind any calls, none but sifted reports are kept. -/
theorem sifted_following (calls : List (List Contract)) (s : σ) :
    ∀ entry ∈ (p.following calls (none, s)).1, entry.2.Sifted p.platform := by
  induction calls using List.reverseRecOn with
  | nil => simp [following]
  | append_singleton calls contracts ih =>
      rw [following_concat]
      exact (sifted_analyze hstatic contracts ih).2

/-- A report that a pipeline comes to: that of a review behind any others, or that of its models
alone. -/
inductive Issues (p : Pipeline σ) : Report → Prop
  | reviewed (calls : List (List Contract)) (contracts : List Contract) (s : σ) :
      Issues p
        (p.analyze contracts (p.following calls (none, s)).1 (p.following calls (none, s)).2).1
  | consulted {contracts : List Contract} {focusAreas : List String} {s s' : σ}
      {report : Report} : (p.consult contracts focusAreas).run s = (.ok report, s') →
      Issues p report

theorem Issues.sifted {report : Report} (h : p.Issues report) : report.Sifted p.platform := by
  cases h with
  | reviewed calls contracts s =>
      exact (sifted_analyze hstatic contracts (sifted_following hstatic calls s)).1
  | consulted hrun => exact p.sifted_consult hrun

end Pipeline

/-- Every finding of a family's static stage carries the id that it has on the platform. -/
theorem Family.identified_staticStage (f : Family) (tools : Tools σ) (models : Models σ)
    (platform : String) (options : ReviewOptions) (evm : Evm.Options) (contracts : List Contract)
    (s : σ) :
    ∀ found ∈ ((f.pipeline tools models platform options evm).staticStage contracts s).1.findings,
      found.Identified platform := by
  unfold Pipeline.staticStage
  rcases hrun : ((f.pipeline tools models platform options evm).stages.static contracts).run s
    with ⟨fault | report, s'⟩
  · simp
  · obtain ⟨shares, hshares, hfindings⟩ := (Family.sharedBy_static ⟨s, s', hrun⟩).findings
    have hall : List.Forall₂
        (fun share _ => (∀ found ∈ share, found.Identified platform) ∧ True) shares contracts :=
      hshares.flip.imp fun share c hfinds =>
        ⟨fun found hfound => (Family.Finds.made hfinds found hfound).identified, trivial⟩
    intro found hfound
    rw [hfindings] at hfound
    obtain ⟨share, hshare, hfound⟩ := List.mem_flatten.mp hfound
    exact ((List.forall₂_and_left shares contracts).mp hall).1 share hshare found hfound

/-- The text that an id is a digest of says no more than the type, the file, the line and the
description, run together with dashes. So, where no two of the texts of a report have one digest,
its findings, of which no two have a key in common, share an id just when they are alike: when only
the column or the kind of the type parts them, or when their texts run on. -/
theorem Family.ids_differ_unless_alike (f : Family) (tools : Tools σ) (models : Models σ)
    (platform : String) (options : ReviewOptions) (evm : Evm.Options) {report : Report}
    (hissued : (f.pipeline tools models platform options evm).Issues report)
    (hdigest : Set.InjOn Finding.digest {text | ∃ found ∈ report.findings, found.origin = text}) :
    (∀ found other : Finding, found.origin = other.origin ↔ found.Alike other) ∧
      report.findings.Pairwise fun found other =>
        found.key ≠ other.key ∧ (found.id = other.id ↔ found.Alike other) := by
  refine ⟨fun _ _ => Finding.origin_eq_iff, ?_⟩
  obtain ⟨hdistinct, hidentified⟩ :=
    hissued.sifted (f.identified_staticStage tools models platform options evm)
  refine (List.pairwise_map.mp hdistinct).imp_of_mem fun {found other} hfound hother hkeys =>
    ⟨hkeys, ?_⟩
  calc found.id = other.id
    _ ↔ Finding.digest found.origin = Finding.digest other.origin :=
        (hidentified found hfound).id_eq_iff (hidentified other hother)
    _ ↔ found.origin = other.origin := hdigest.eq_iff ⟨found, hfound, rfl⟩ ⟨other, hother, rfl⟩
    _ ↔ found.Alike other := Finding.origin_eq_iff

/-- A model with three concerns, all of them in the same words, and two of them on one line. -/
def repetitiveModels : Models Unit :=
  Ensemble.saying ("\x7b\"vulnerabilities\":[\x7b\x7d,\x7b\"location\":\x7b\"column\":9\x7d\x7d," ++
    "\x7b\"location\":\x7b\"line\":2\x7d\x7d]\x7d")

/-- A review that only the model has something to say in. -/
def repetitivePipeline : Pipeline Unit :=
  Family.aptos.pipeline brokenTools repetitiveModels "aptos" { ensemble := some Pipeline.loneModel }

def concernOn (line : String) : String :=
  "best_practice-m.move-" ++ line ++ "-best_practice issue reported by AI analysis"

/-- The two concerns on one line share an id, and the third one has its own. -/
theorem Family.ids_differ_repetitivePipeline :
    ∃ report a b c, repetitivePipeline.Issues report ∧ report.findings = [a, b, c] ∧
      a.location.column ≠ b.location.column ∧ a.id = b.id ∧ a.id ≠ c.id := by
  obtain ⟨report, hissued, htold⟩ : ∃ report, repetitivePipeline.Issues report ∧
      report.findings.map (fun f => (f.origin, f.location.column)) =
        [(concernOn "1", 1), (concernOn "1", 9), (concernOn "2", 1)] :=
    ⟨_, .reviewed [] [plainModule] (), by decide +kernel⟩
  obtain ⟨a, _, hfindings, ha, htold⟩ := List.map_eq_cons_iff.mp htold
  obtain ⟨b, _, rfl, hb, htold⟩ := List.map_eq_cons_iff.mp htold
  obtain ⟨c, rfl, hc⟩ := List.map_eq_singleton_iff.mp htold
  obtain ⟨ha, hcolumn⟩ := Prod.mk.inj ha
  obtain ⟨hb, hcolumn'⟩ := Prod.mk.inj hb
  obtain ⟨hc, -⟩ := Prod.mk.inj hc
  have hne : Finding.digest (concernOn "1") ≠ Finding.digest (concernOn "2") := by decide +kernel
  have htexts : {text | ∃ found ∈ report.findings, found.origin = text} ⊆
      {concernOn "1", concernOn "2"} := by
    rintro _ ⟨found, hfound, rfl⟩
    simp only [hfindings, List.mem_cons, List.not_mem_nil, or_false] at hfound
    rcases hfound with rfl | rfl | rfl
    · exact .inl ha
    · exact .inl hb
    · exact .inr hc
  have hdigest : Set.InjOn Finding.digest {text | ∃ found ∈ report.findings, found.origin = text} :=
    Set.InjOn.mono htexts (by simp [hne])
  obtain ⟨halike, hpairs⟩ := Family.ids_differ_unless_alike .aptos brokenTools repetitiveModels
    "aptos" { ensemble := some Pipeline.loneModel } {} hissued hdigest
  rw [hfindings] at hpairs
  obtain ⟨hfirst, -⟩ := List.pairwise_cons.mp hpairs
  refine ⟨report, a, b, c, hissued, hfindings, ?_, ?_, ?_⟩
  · rw [hcolumn, hcolumn']
    decide
  · exact (hfirst b (by simp)).2.mpr ((halike a b).mp (ha.trans hb.symm))
  · intro hid
    have horigin := (halike a c).mpr ((hfirst c (by simp)).2.mp hid)
    rw [ha, hc] at horigin
    exact hne (congrArg Finding.digest horigin)

end ContractReview
