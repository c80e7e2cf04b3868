import ContractReview.Opinion.Ensemble
import ContractReview.Proofs.Opinion.Repair
import ContractReview.Proofs.Opinion.Retry

/-!
Which members of an ensemble fail. A member's call may come to nothing; and when it comes to a text,
the member fails exactly when the text rates something by a whole number beyond all doubles.
-/

namespace ContractReview

open Repair

namespace Ensemble

variable {σ : Type}

/-- What a member's call comes back with, after all tries. It is late when there is no time. -/
def replyOf (e : Ensemble) (models : Models σ) (question : Question) (member : Member) (s : σ) :
    Except Fault (Option Json) × σ :=
  if e.timeout.le 0 then (.ok none, s)
  else
    match e.retries.lookup member.provider with
    | none => call models member (e.requestOf member question) s
    | some policy =>
        policy.run
          { permit := models.permit member.provider
            call := call models member (e.requestOf member question)
            pause := models.pause } s

/-- The replies of some members, each of them called where the one before it left off. -/
def replies (e : Ensemble) (models : Models σ) (question : Question) :
    List Member → σ → List (Member × Except Fault (Option Json))
  | [], _ => []
  | member :: rest, s =>
      let first := e.replyOf models question member s
      (member, first.1) :: e.replies models question rest first.2

/-- The ways in which a member's call ends. Every one but those without time or tries is what the
model itself came back with, or follows on its fault. -/
inductive Answers (e : Ensemble) (models : Models σ) (question : Question) (member : Member) :
    Except Fault (Option Json) → Prop
  | content {s : σ} {content : Json} :
      (models.ask member (e.requestOf member question) s).1 = .content content →
      Answers e models question member (.ok (some content))
  | silence {s : σ} :
      (models.ask member (e.requestOf member question) s).1 = .silence →
      Answers e models question member (.ok none)
  | fault {s : σ} {fault : Fault} :
      (models.ask member (e.requestOf member question) s).1 = .fault fault →
      Answers e models question member (.error fault)
  | exhausted {s : σ} {policy : RetryPolicy} {last : Fault} :
      e.retries.lookup member.provider = some policy →
      (models.ask member (e.requestOf member question) s).1 = .fault last →
      Answers e models question member (.error (.retriesExceeded policy.maxRetries last))
  | broken {s : σ} {policy : RetryPolicy} {last : Fault} :
      e.retries.lookup member.provider = some policy →
      (models.ask member (e.requestOf member question) s).1 = .fault last →
      Answers e models question member (.error .wholeTooLarge)
  | noTime : e.timeout.le 0 = true → Answers e models question member (.ok none)
  | noTries {policy : RetryPolicy} {fault : Fault} :
      e.retries.lookup member.provider = some policy → policy.maxRetries < 0 →
      Answers e models question member (.error fault)

/-- A reply that no opinion can be read from. -/
def Unusable : Except Fault (Option Json) → Prop
  | .error _ | .ok none => True
  | .ok (some (.str answer)) => Overstated answer
  | .ok (some content) => content.isFilled = true

instance : DecidablePred Unusable
  | .error _ | .ok none => .isTrue trivial
  | .ok (some (.str answer)) => inferInstanceAs (Decidable (Overstated answer))
  | .ok (some .null) | .ok (some (.bool _)) | .ok (some (.num _)) | .ok (some (.arr _))
  | .ok (some (.obj _)) => inferInstanceAs (Decidable (_ = true))

section

variable (e : Ensemble) (models : Models σ) (question : Question)

theorem call_eq_error_iff {member : Member} {request : Request} {s : σ} {fault : Fault} :
    (call models member request s).1 = .error fault ↔
      (models.ask member request s).1 = .fault fault := by
  unfold call
  rcases models.ask member request s with ⟨_ | _ | _, s'⟩ <;> simp

theorem answers_call (member : Member) (s : σ) :
    Answers e models question member (call models member (e.requestOf member question) s).1 := by
  unfold call
  split
  next h => exact .content (congrArg Prod.fst h)
  next h => exact .fault (congrArg Prod.fst h)
  next h => exact .silence (congrArg Prod.fst h)

theorem answers_replyOf (member : Member) (s : σ) :
    Answers e models question member (e.replyOf models question member s).1 := by
  unfold replyOf
  split
  next htime => exact .noTime htime
  next =>
    split
    next => exact answers_call e models question member s
    next policy hpolicy =>
      unfold RetryPolicy.run
      split
      next hnone => exact .noTries hpolicy hnone
      next =>
        exact policy.attempts_induction _ (answers_call e models question member)
          (fun s last h => .exhausted hpolicy ((call_eq_error_iff models).mp h))
          (fun s last h => .broken hpolicy ((call_eq_error_iff models).mp h)) _ _ s

/-! ## From replies to failures -/

/-- A member comes to what its reply holds, and an empty reply to nothing. -/
theorem consult_eq (member : Member) (s : σ) :
    e.consult models question member s =
      (match (e.replyOf models question member s).1 with
        | .ok (some content) => opinionOf member content
        | .ok none => .error (.raised .timeout "")
        | .error fault => .error fault,
      (e.replyOf models question member s).2) := by
  unfold consult replyOf
  by_cases htime : e.timeout.le 0 = true
  · simp only [htime, ↓reduceIte]
  · simp only [htime, Bool.false_eq_true, ↓reduceIte]
    cases e.retries.lookup member.provider with
    | none =>
        dsimp only
        rcases call models member (e.requestOf member question) s with ⟨_ | _ | _, s'⟩ <;> rfl
    | some policy =>
        dsimp only
        generalize policy.run _ s = answered
        rcases answered with ⟨_ | _ | _, s'⟩ <;> rfl

theorem opinionOf_fails_iff (member : Member) (content : Json) :
    (∃ fault, opinionOf member content = .error fault) ↔ Unusable (.ok (some content)) := by
  unfold opinionOf Unusable
  cases content with
  | str answer => simp [ofAnswer_eq_error_iff]
  | null | bool | num | arr | obj =>
      dsimp only
      split <;> simp_all

theorem consult_fails_iff (member : Member) (s : σ) :
    (∃ fault, (e.consult models question member s).1 = .error fault) ↔
      Unusable (e.replyOf models question member s).1 := by
  rw [consult_eq]
  cases (e.replyOf models question member s).1 with
  | error fault => simp [Unusable]
  | ok reply =>
      cases reply with
      | none => simp [Unusable]
      | some content => exact opinionOf_fails_iff member content

theorem consultAll_failed (members : List Member) (s : σ) :
    ((e.consultAll models question members s).1.filterMap fun (member, outcome) =>
        match outcome with
        | .ok _ => none
        | .error _ => some member.model) =
      ((e.replies models question members s).filter fun reply => Unusable reply.2).map
        (·.1.model) := by
  induction members generalizing s with
  | nil => rfl
  | cons member rest ih =>
      have hfails := consult_fails_iff e models question member s
      have hstate : (e.consult models question member s).2 =
          (e.replyOf models question member s).2 := by rw [consult_eq]
      simp only [consultAll, replies, List.filterMap_cons, List.filter_cons, ih, hstate]
      cases hc : (e.consult models question member s).1 with
      | ok opinion =>
          have husable : ¬ Unusable (e.replyOf models question member s).1 := by
            intro h
            obtain ⟨fault, hf⟩ := hfails.mpr h
            cases hc.symm.trans hf
          simp [husable]
      | error fault =>
          have hunusable := hfails.mp ⟨fault, hc⟩
          simp [hunusable]

/-- Every answer comes to an opinion, the repair of the object that it holds, unless it overstates a
rating. A member fails only when its own call does, when no text comes of the call, or when the text
is overstated, and the members listed as failed are exactly those. -/
theorem repaired_unless_overstated :
    (∀ answer model time fault, ofAnswer answer model time = .error fault ↔
      fault = .wholeTooLarge ∧ Overstated answer) ∧
    (∀ answer model time opinion, ofAnswer answer model time = .ok opinion ↔
      (Extract.fields? answer = none ∧ opinion = Opinion.unreadable model time) ∨
      ∃ fields, Extract.fields? answer = some fields ∧ OpinionRepair fields opinion ∧
        opinion.model = model ∧ opinion.executionTime = time) ∧
    (∀ member s, Answers e models question member (e.replyOf models question member s).1 ∧
      ((∃ fault, (e.consult models question member s).1 = .error fault) ↔
        Unusable (e.replyOf models question member s).1)) ∧
    ∀ s, (e.analyze models question s).1.failed =
      ((e.replies models question e.members s).filter fun reply => Unusable reply.2).map
        (·.1.model) := by
  refine ⟨ofAnswer_eq_error_iff, ofAnswer_eq_ok_iff, ?_, ?_⟩
  · intro member s
    exact ⟨answers_replyOf e models question member s, consult_fails_iff e models question member s⟩
  · intro s
    rw [← consultAll_failed]
    unfold analyze verdictOf
    cases hmembers : e.members with
    | nil => rfl
    | cons member rest =>
        dsimp only
        split <;> rfl

end

/-- One object with a confidence of ten to the 309th. -/
def hugeConfidence : List Char :=
  "\x7b\"confidence\": 1".toList ++ List.replicate 309 '0' ++ ['\x7d']

theorem overstated_hugeConfidence : Overstated (String.ofList hugeConfidence) := by
  have hread : ((Extract.fields? (String.ofList hugeConfidence)).bind
      (Json.lookup "confidence")).any (fun v => decide (Overlarge v)) = true := by
    simp only [Extract.fields?, Text.allBlank, String.toList_ofList]
    decide +kernel
  obtain ⟨v, hv, hlarge⟩ := (Option.any_eq_true _ _).mp hread
  obtain ⟨fields, hfields, hlookup⟩ := Option.bind_eq_some_iff.mp hv
  exact ⟨fields, v, hfields, .confidence hlookup, of_decide_eq_true hlarge⟩

/-- Models that all answer with one text. -/
def saying (answer : String) : Models Unit :=
  { ask := fun _ _ s => (.content (.str answer), s)
    permit := fun _ s => s
    pause := fun _ s => s }

/-- A model that rates itself by a huge number is listed as failed, though its call came to a
text. -/
theorem failed_hugeConfidence :
    ofAnswer (String.ofList hugeConfidence) "m" 0 = .error .wholeTooLarge ∧
      (analyze { members := [{ model := "m" }] } (saying (String.ofList hugeConfidence))
        { source := "", name := "" } ()).1.failed = ["m"] := by
  obtain ⟨herror, -, -, hfailed⟩ :=
    repaired_unless_overstated { members := [{ model := "m" }] }
      (saying (String.ofList hugeConfidence)) { source := "", name := "" }
  refine ⟨(herror _ _ _ _).mpr ⟨rfl, overstated_hugeConfidence⟩, ?_⟩
  rw [hfailed]
  have hreplies : replies { members := [{ model := "m" }] }
      (saying (String.ofList hugeConfidence)) { source := "", name := "" } [{ model := "m" }] () =
      [({ model := "m" }, .ok (some (.str (String.ofList hugeConfidence))))] := by
    rfl
  have hunusable : Unusable (.ok (some (.str (String.ofList hugeConfidence)))) :=
    overstated_hugeConfidence
  rw [hreplies]
  simp [hunusable]

end Ensemble

end ContractReview
