import ContractReview.Proofs.Opinion.Ensemble

/-!
What the answers of an ensemble's members make of its verdict, and what the members do that come
back with none: they are listed as failed, and nothing else of the verdict is theirs. So two
ensembles whose members give the same answers agree, whoever else they have asked.
-/

namespace ContractReview.Ensemble

open Repair

/-- The text that a member came back with, if it answered. -/
def answer? : Except Fault (Option Json) → Option String
  | .ok (some (.str answer)) => some answer
  | _ => none

/-- A fault, silence, or a text that rates nothing by a whole number beyond all doubles. -/
def Legible : Except Fault (Option Json) → Prop
  | .ok (some (.str answer)) => ¬ Overstated answer
  | .ok (some _) => False
  | .ok none | .error _ => True

/-- The members that answered, each with its text, in the order of the members. -/
def answersOf (replies : List (Member × Except Fault (Option Json))) : List (Member × String) :=
  replies.filterMap fun reply => (answer? reply.2).map (reply.1, ·)

/-- The opinion that a member's text states. -/
def Reads (answer : Member × String) (opinion : Opinion Number) : Prop :=
  Repair.ofAnswer answer.2 answer.1.model (.float 0.0) = .ok opinion

/-- Each member comes back with the same, whoever has been asked before it. -/
def Independent {σ : Type} (e : Ensemble) (models : Models σ) (question : Question) : Prop :=
  ∀ member s s', (e.replyOf models question member s).1 = (e.replyOf models question member s').1

/-- The opinion that some opinions are combined to, if there are any. -/
def combined? (threshold : Number) : List (Opinion Number) → Option (Opinion Number)
  | [] => none
  | first :: others => some (Consensus.combine threshold first others)

section

variable {σ : Type} (e : Ensemble) (models : Models σ) (question : Question)

theorem unusable_iff {reply : Except Fault (Option Json)} (h : Legible reply) :
    Unusable reply ↔ answer? reply = none := by
  rcases reply with fault | _ | content
  · exact iff_of_true trivial rfl
  · exact iff_of_true trivial rfl
  · cases content with
    | str answer => exact iff_of_false h (Option.some_ne_none answer)
    | _ => exact h.elim

/-- A legible reply comes to the opinion that its text states, if there is a text. -/
theorem consult_of_legible {member : Member} {s : σ}
    (h : Legible (e.replyOf models question member s).1) :
    (answer? (e.replyOf models question member s).1 = none ∧
      (e.consult models question member s).1.toOption = none) ∨
    ∃ answer opinion, answer? (e.replyOf models question member s).1 = some answer ∧
      (e.consult models question member s).1.toOption = some opinion ∧
      Reads (member, answer) opinion := by
  rw [consult_eq]
  rcases hreply : (e.replyOf models question member s).1 with fault | _ | content
  · exact .inl ⟨rfl, rfl⟩
  · exact .inl ⟨rfl, rfl⟩
  · rw [hreply] at h
    cases content with
    | str answer =>
        dsimp only [opinionOf]
        cases hread : Repair.ofAnswer answer member.model (.float 0.0) with
        | ok opinion => exact .inr ⟨answer, opinion, rfl, rfl, hread⟩
        | error fault => exact absurd ((ofAnswer_eq_error_iff _ _ _ _).mp hread).2 h
    | _ => exact h.elim

/-- The opinions of some members are those that their answers state. -/
theorem reads_consultAll {members : List Member} {s : σ}
    (h : ∀ reply ∈ e.replies models question members s, Legible reply.2) :
    List.Forall₂ Reads (answersOf (e.replies models question members s))
      ((e.consultAll models question members s).1.filterMap (·.2.toOption)) := by
  induction members generalizing s with
  | nil => exact .nil
  | cons member rest ih =>
      obtain ⟨hfirst, hrest⟩ := List.forall_mem_cons.mp h
      have hstate : (e.consult models question member s).2 =
          (e.replyOf models question member s).2 := by rw [consult_eq]
      have hothers := ih hrest
      unfold answersOf at hothers ⊢
      rcases e.consult_of_legible models question hfirst with
        ⟨hnone, hfails⟩ | ⟨answer, opinion, hsome, hcomes, hreads⟩
      · simpa [replies, consultAll, hnone, hfails, hstate] using hothers
      · simpa [replies, consultAll, hsome, hcomes, hstate] using ⟨hreads, hothers⟩

/-- The opinions that an ensemble's members come to. -/
def opinionsOf (s : σ) : List (Opinion Number) :=
  (e.consultAll models question e.members s).1.filterMap (·.2.toOption)

theorem opinionsOf_of_members_eq_nil (h : e.members = []) (s : σ) :
    e.opinionsOf models question s = [] := by
  rw [opinionsOf, h]
  rfl

/-- A verdict is made of the opinions alone, but for the members that failed, and for being told
whether there were any. -/
theorem analyze_eq (s : σ) :
    (e.analyze models question s).1 =
      { opinion := combined? e.threshold (e.opinionsOf models question s)
        opinions := e.opinionsOf models question s
        failed := ((e.replies models question e.members s).filter fun reply =>
          Unusable reply.2).map (·.1.model)
        error :=
          if e.members = [] then some noModels
          else if e.opinionsOf models question s = [] then some allFailed
          else none } := by
  rw [← consultAll_failed]
  unfold analyze opinionsOf verdictOf
  cases e.members with
  | nil => rfl
  | cons member rest =>
      rw [if_neg (List.cons_ne_nil member rest)]
      dsimp only
      cases (e.consultAll models question (member :: rest) s).1.filterMap (·.2.toOption) with
      | nil => rfl
      | cons first others => rfl

/-- What the members that answer have to say, and what the verdict owes to no other. -/
structure Reflects (s : σ) : Prop where
  success : (e.analyze models question s).1.success = true ↔
    ∃ reply ∈ e.replies models question e.members s, (answer? reply.2).isSome
  failed : (e.analyze models question s).1.failed =
    ((e.replies models question e.members s).filter fun reply => (answer? reply.2).isNone).map
      (·.1.model)
  opinions : List.Forall₂ Reads (answersOf (e.replies models question e.members s))
    (e.analyze models question s).1.opinions

theorem success_iff (s : σ) :
    (e.analyze models question s).1.success = true ↔ e.opinionsOf models question s ≠ [] := by
  rw [analyze_eq]
  cases e.opinionsOf models question s <;> simp [Verdict.success, combined?]

variable {e models question} in
theorem reflects_of_legible {s : σ}
    (h : ∀ reply ∈ e.replies models question e.members s, Legible reply.2) :
    e.Reflects models question s := by
  have hreads : List.Forall₂ Reads (answersOf (e.replies models question e.members s))
      (e.opinionsOf models question s) := e.reads_consultAll models question h
  refine ⟨?_, ?_, ?_⟩
  · have hempty : e.opinionsOf models question s = [] ↔
        answersOf (e.replies models question e.members s) = [] := by
      rw [← List.length_eq_zero_iff, ← hreads.length_eq, List.length_eq_zero_iff]
    rw [success_iff, Ne, hempty]
    unfold answersOf
    simp [List.filterMap_eq_nil_iff, Option.isSome_iff_ne_none]
  · rw [analyze_eq]
    dsimp only
    congr 1
    refine List.filter_congr fun reply hreply => ?_
    rw [Bool.eq_iff_iff, decide_eq_true_iff, unusable_iff (h reply hreply),
      Option.isNone_iff_eq_none]
  · rw [analyze_eq]
    exact hreads

end

section

variable {σ : Type} {e : Ensemble} {models : Models σ} {question : Question}

/-- Ensembles whose members give the same answers come to the same opinions. -/
theorem opinionsOf_congr {σ' : Type} {e' : Ensemble} {models' : Models σ'} {s : σ} {s' : σ'}
    (h : ∀ reply ∈ e.replies models question e.members s, Legible reply.2)
    (h' : ∀ reply ∈ e'.replies models' question e'.members s', Legible reply.2)
    (hsame : answersOf (e'.replies models' question e'.members s') =
      answersOf (e.replies models question e.members s)) :
    e'.opinionsOf models' question s' = e.opinionsOf models question s := by
  have hreads := e.reads_consultAll models question h
  have hreads' := e'.reads_consultAll models' question h'
  rw [hsame] at hreads'
  refine List.right_unique_forall₂' ?_ hreads' hreads
  intro answer o o' ho ho'
  unfold Reads at ho ho'
  rw [ho] at ho'
  exact Except.ok.inj ho'

theorem replies_of_independent (h : e.Independent models question) (members : List Member)
    (s s' : σ) :
    e.replies models question members s' =
      members.map fun member => (member, (e.replyOf models question member s).1) := by
  induction members generalizing s' with
  | nil => rfl
  | cons member rest ih =>
      simp only [replies, ih, List.map_cons, h member s' s]

/-- Asking those again that answered brings their answers again. -/
theorem answersOf_restricted (h : e.Independent models question) (members : List Member)
    (s s' : σ) :
    answersOf (e.replies models question
        ((answersOf (e.replies models question members s)).map Prod.fst) s') =
      answersOf (e.replies models question members s) := by
  rw [replies_of_independent h _ s s', replies_of_independent h members s s]
  unfold answersOf
  induction members with
  | nil => rfl
  | cons member rest ih =>
      cases hanswer : answer? (e.replyOf models question member s).1 with
      | none => simpa [hanswer] using ih
      | some answer => simpa [hanswer] using ih

/-- Each of those that are asked again comes back with its answer. -/
theorem answered_of_mem_restricted (h : e.Independent models question) (members : List Member)
    (s s' : σ) {reply : Member × Except Fault (Option Json)}
    (hreply : reply ∈ e.replies models question
      ((answersOf (e.replies models question members s)).map Prod.fst) s') :
    reply ∈ e.replies models question members s ∧ (answer? reply.2).isSome := by
  rw [replies_of_independent h _ s s', replies_of_independent h members s s] at hreply
  rw [replies_of_independent h members s s]
  obtain ⟨member, hmember, rfl⟩ := List.mem_map.mp hreply
  obtain ⟨given, hgiven, rfl⟩ := List.mem_map.mp hmember
  obtain ⟨first, hfirst, hanswer⟩ := List.mem_filterMap.mp hgiven
  obtain ⟨text, htext, rfl⟩ := Option.map_eq_some_iff.mp hanswer
  obtain ⟨asked, hasked, rfl⟩ := List.mem_map.mp hfirst
  exact ⟨List.mem_map.mpr ⟨asked, hasked, rfl⟩, Option.isSome_iff_exists.mpr ⟨text, htext⟩⟩

/-- The same ensemble with other members. -/
def asking (e : Ensemble) (members : List Member) : Ensemble := { e with members }

theorem replies_asking (e : Ensemble) (models : Models σ) (question : Question)
    (members asked : List Member) (s : σ) :
    (e.asking members).replies models question asked s = e.replies models question asked s := by
  induction asked generalizing s with
  | nil => rfl
  | cons member rest ih =>
      simp only [replies, ih]
      rfl

/-- Two verdicts that differ in the members that failed at most, unless only one of the ensembles
had anyone to ask. Then its verdict tells that all of them failed, and the other that there are no
models. -/
structure Unmoved (e e' : Ensemble) (v v' : Verdict) : Prop where
  opinion : v'.opinion = v.opinion
  opinions : v'.opinions = v.opinions
  error : (e.members = [] ↔ e'.members = []) → v'.error = v.error
  emptied : e.members ≠ [] → e'.members = [] →
    v.error = some allFailed ∧ v'.error = some noModels
  filled : e.members = [] → e'.members ≠ [] →
    v.error = some noModels ∧ v'.error = some allFailed

theorem unmoved_of_answersOf {σ' : Type} {models' : Models σ'} {members' : List Member} {s : σ}
    {s' : σ'} (h : ∀ reply ∈ e.replies models question e.members s, Legible reply.2)
    (h' : ∀ reply ∈ e.replies models' question members' s', Legible reply.2)
    (hsame : answersOf (e.replies models' question members' s') =
      answersOf (e.replies models question e.members s)) :
    Unmoved e (e.asking members') (e.analyze models question s).1
      ((e.asking members').analyze models' question s').1 := by
  rw [← replies_asking e models' question members'] at h' hsame
  have hopinions : (e.asking members').opinionsOf models' question s' =
      e.opinionsOf models question s := opinionsOf_congr h h' hsame
  rw [analyze_eq, analyze_eq, hopinions]
  refine ⟨rfl, rfl, fun hmembers => ?_, fun hasked hnone => ?_, fun hnone hasked => ?_⟩
  · simp only [hmembers]
  · -- an ensemble that asks no one has no opinions, and so the one that asks has none either
    have hempty := hopinions.symm.trans (opinionsOf_of_members_eq_nil _ _ _ hnone s')
    exact ⟨(if_neg hasked).trans (if_pos hempty), if_pos hnone⟩
  · have hempty := opinionsOf_of_members_eq_nil _ models question hnone s
    exact ⟨if_pos hnone, (if_neg hasked).trans (if_pos hempty)⟩

/-- The verdict reflects the answers of the members and is not moved by those that give none: it
stays the same for any members that give the same answers, wherever others fail among them, and so
also when only those are asked that answered. -/
theorem settled_by_answers (s : σ)
    (h : ∀ reply ∈ e.replies models question e.members s, Legible reply.2) :
    e.Reflects models question s ∧
    (∀ {σ' : Type} (models' : Models σ') (members' : List Member) (s' : σ'),
      (∀ reply ∈ e.replies models' question members' s', Legible reply.2) →
      answersOf (e.replies models' question members' s') =
        answersOf (e.replies models question e.members s) →
      Unmoved e (e.asking members') (e.analyze models question s).1
        ((e.asking members').analyze models' question s').1) ∧
    (e.Independent models question → ∀ s',
      let answering := (answersOf (e.replies models question e.members s)).map Prod.fst
      let alone := ((e.asking answering).analyze models question s').1
      Unmoved e (e.asking answering) (e.analyze models question s).1 alone ∧
        alone.failed = []) := by
  refine ⟨reflects_of_legible h, ?_, ?_⟩
  · intro σ' models' members' s' h' hsame
    exact unmoved_of_answersOf h h' hsame
  · intro hindependent s' answering alone
    have hanswered (reply) (hreply : reply ∈ e.replies models question answering s') :=
      answered_of_mem_restricted hindependent e.members s s' hreply
    have hlegible : ∀ reply ∈ e.replies models question answering s', Legible reply.2 :=
      fun reply hreply => h reply (hanswered reply hreply).1
    refine ⟨unmoved_of_answersOf h hlegible (answersOf_restricted hindependent e.members s s'), ?_⟩
    rw [← replies_asking e models question answering] at hlegible
    have hfailed := (reflects_of_legible (e := e.asking answering) hlegible).failed
    rw [hfailed, replies_asking, List.map_eq_nil_iff, List.filter_eq_nil_iff]
    intro reply hreply
    rw [Option.isNone_iff_eq_none]
    exact Option.isSome_iff_ne_none.mp (hanswered reply hreply).2

/-- Models that come back with what is theirs by name. -/
def repliesByName (reply : String → Reply) : Models Unit :=
  { ask := fun member _ s => (reply member.model, s)
    permit := fun _ s => s
    pause := fun _ s => s }

/-- A model that is down, one that is silent, and one that answers. -/
def mixedModels : Models Unit :=
  repliesByName fun name =>
    if name = "down" then .fault (.raised .runtime "no network")
    else if name = "mute" then .silence
    else .content (.str "fine")

def trio : Ensemble :=
  { members := [{ model := "down" }, { model := "able" }, { model := "mute" }] }

/-- Two of three members fail, and the third speaks for the ensemble as it would alone. -/
theorem settled_trio :
    (trio.analyze mixedModels { source := "", name := "" } ()).1.failed = ["down", "mute"] ∧
      ((trio.asking [{ model := "able" }]).analyze mixedModels { source := "", name := "" }
        ()).1.failed = [] := by
  have hlegible : ∀ reply ∈ trio.replies mixedModels { source := "", name := "" } trio.members (),
      Legible reply.2 := by
    have hfine : ¬ Overstated "fine" := by decide +kernel
    rintro reply (_ | ⟨_, _ | ⟨_, _ | ⟨_, ⟨⟩⟩⟩⟩)
    · exact trivial
    · exact hfine
    · exact trivial
  obtain ⟨hreflects, -, halone⟩ := settled_by_answers () hlegible
  refine ⟨?_, ?_⟩
  · rw [hreflects.failed]
    rfl
  · exact (halone (fun _ _ _ => rfl) ()).2

end

/-- A failing member leaves its mark on more than the list of the failed when there is no other: the
verdict without it tells of no models instead of failed ones. -/
theorem moved_without_members :
    let lone : Ensemble := { members := [{ model := "down" }] }
    let question : Question := { source := "", name := "" }
    answersOf (lone.replies mixedModels question lone.members ()) = [] ∧
      { (lone.analyze mixedModels question ()).1 with failed := [] } ≠
        { ((lone.asking []).analyze mixedModels question ()).1 with failed := [] } ∧
      (lone.analyze mixedModels question ()).1.error =
        some "All AI models failed to analyze the contract" ∧
      ((lone.asking []).analyze mixedModels question ()).1.error =
        some "No AI models configured" := by
  refine ⟨rfl, fun heq => ?_, rfl, rfl⟩
  have herror : some allFailed = some noModels := congrArg Verdict.error heq
  exact absurd herror (by decide)

end ContractReview.Ensemble
