import ContractReview.Proofs.Review.Kept

/-!
Calls of one pipeline that overlap. A call takes what is kept in one step when its stages begin, and
may keep something in one step when they have ended; between the two, other calls do the same. What
the stages come to is left open. Every report of the models carries the number of the call that
consulted them for it, and everything kept the number of the call that kept it; neither number
decides anything.
-/

namespace ContractReview.Pipeline

variable {σ : Type}

/-- A report of the models, with the call that consulted them. -/
structure Sheet where
  origin : Nat
  report : Report

/-- What a call has kept for another one. -/
structure Stored where
  call : Nat
  about : ContractsKey
  sheet : Sheet

def Stored.kept (stored : Stored) : Kept := some (stored.about, stored.sheet.report)

/-- How far a call has come: its models' stage is under way, or only the static stage is, or both
have ended. -/
inductive Phase
  | consulting (contracts : List Contract)
  | ready (contracts : List Contract) (sheet : Option Sheet)
  | done

/-- What the calls share, and where each of them is. -/
structure Desk where
  slot : Option Stored := none
  calls : Nat → Option Phase := fun _ => none

namespace Desk

/-- What is handed to a call about some contracts when its stages begin. -/
def handed (d : Desk) (contracts : List Contract) : Option Stored :=
  d.slot.filter fun stored => (take (keyOf contracts) stored.kept).isSome

/-- The slot behind a call whose stages have ended: the call's own report, or what was there. -/
def slotAfter (d : Desk) (call : Nat) (contracts : List Contract) (static : Report) :
    Option Sheet → Option Stored
  | none => d.slot
  | some sheet =>
      if (keep (keyOf contracts) static (some sheet.report)).isSome then
        some ⟨call, keyOf contracts, sheet⟩
      else d.slot

def move (d : Desk) (call : Nat) (phase : Phase) : Nat → Option Phase :=
  Function.update d.calls call (some phase)

/-- What is kept, without the numbers. -/
def kept (d : Desk) : Kept := d.slot.bind Stored.kept

end Desk

/-- Where a call begins. -/
def Phase.first (contracts : List Contract) : Option Stored → Phase
  | none => .consulting contracts
  | some stored => .ready contracts (some stored.sheet)

/-- A step of a call, as it is seen from outside. -/
inductive Happening
  | turnedAway (call : Nat) (contracts : List Contract)
  | began (call : Nat) (contracts : List Contract) (handed : Option Stored)
  | consulted (call : Nat) (contracts : List Contract) (models : Option Report)
  | returned (call : Nat) (contracts : List Contract) (sheet : Option Sheet) (report : Report)

/-- A step of some call. -/
inductive Step (p : Pipeline σ) (d : Desk) : Happening → Desk → Prop
  | turnAway (call : Nat) (contracts : List Contract) :
      d.calls call = none → ¬ p.Accepts contracts →
      Step p d (.turnedAway call contracts) { d with calls := d.move call .done }
  | begin (call : Nat) (contracts : List Contract) :
      d.calls call = none → p.Accepts contracts →
      Step p d (.began call contracts (d.handed contracts))
        { slot := none, calls := d.move call (.first contracts (d.handed contracts)) }
  | consult (call : Nat) (contracts : List Contract) (models : Option Report) :
      d.calls call = some (.consulting contracts) →
      Step p d (.consulted call contracts models)
        { d with calls := d.move call (.ready contracts (models.map (Sheet.mk call))) }
  | finish (call : Nat) (contracts : List Contract) (static : Report) (sheet : Option Sheet) :
      d.calls call = some (.ready contracts sheet) →
      Step p d
        (.returned call contracts sheet (p.conclude contracts static (sheet.map Sheet.report)))
        { slot := d.slotAfter call contracts static sheet, calls := d.move call .done }

/-- Steps of any calls in any order, from the first one on. -/
inductive Schedule (p : Pipeline σ) : List Happening → Desk → Prop
  | start : Schedule p [] {}
  | next {past : List Happening} {now : Happening} {d d' : Desk} : Schedule p past d →
      Step p d now d' → Schedule p (past ++ [now]) d'

/-! ## What has happened before -/

/-- The call whose report a step hands out. -/
def Happening.handedFrom? : Happening → Option Nat
  | .began _ _ (some stored) => some stored.call
  | _ => none

/-- The call that a step ends with both stages. -/
def Happening.returned? : Happening → Option Nat
  | .returned call _ _ _ => some call
  | _ => none

/-- A report comes from a call that consulted the models on contracts of that key. -/
def Sheet.ConsultedIn (sheet : Sheet) (past : List Happening) (key : ContractsKey) : Prop :=
  ∃ contracts, .consulted sheet.origin contracts (some sheet.report) ∈ past ∧ keyOf contracts = key

/-- What is kept comes from a call that failed in passing with a good report of the models. -/
def Stored.KeptIn (stored : Stored) (past : List Happening) : Prop :=
  stored.sheet.report.success = true ∧
    ∃ contracts report, .returned stored.call contracts (some stored.sheet) report ∈ past ∧
      keyOf contracts = stored.about ∧ report.FailsInPassing

/-- A step that is accounted for by what has happened before it. -/
inductive Warranted (p : Pipeline σ) (past : List Happening) : Happening → Prop
  | turnedAway {call : Nat} {contracts : List Contract} : ¬ p.Accepts contracts →
      Warranted p past (.turnedAway call contracts)
  | began {call : Nat} {contracts : List Contract} :
      Warranted p past (.began call contracts none)
  | handed {call : Nat} {contracts : List Contract} {stored : Stored} :
      stored.about = keyOf contracts → stored.KeptIn past →
      Warranted p past (.began call contracts (some stored))
  | consulted {call : Nat} {contracts : List Contract} {models : Option Report} :
      Warranted p past (.consulted call contracts models)
  | returnedAlone {call : Nat} {contracts : List Contract} (static : Report) :
      Warranted p past (.returned call contracts none (p.conclude contracts static none))
  | returned {call : Nat} {contracts : List Contract} {sheet : Sheet} (static : Report) :
      sheet.ConsultedIn past (keyOf contracts) →
      Warranted p past
        (.returned call contracts (some sheet)
          (p.conclude contracts static (some sheet.report)))

/-- What is kept and has not been handed out yet. -/
structure Stored.Unclaimed (stored : Stored) (past : List Happening) : Prop where
  kept : stored.KeptIn past
  consulted : stored.sheet.ConsultedIn past stored.about
  unclaimed : stored.call ∉ past.filterMap Happening.handedFrom?

/-- How the desk is accounted for by what has happened. -/
structure Explained (past : List Happening) (d : Desk) : Prop where
  slot : ∀ stored, d.slot = some stored → stored.Unclaimed past
  ready : ∀ call contracts sheet, d.calls call = some (.ready contracts (some sheet)) →
    sheet.ConsultedIn past (keyOf contracts)
  returned : ∀ call ∈ past.filterMap Happening.returned?, d.calls call = some .done
  handed : ∀ call ∈ past.filterMap Happening.handedFrom?,
    call ∈ past.filterMap Happening.returned?

section Step

variable {p : Pipeline σ} {past : List Happening} {now : Happening} {d d' : Desk}

theorem Sheet.ConsultedIn.append {sheet : Sheet} {key : ContractsKey}
    (h : sheet.ConsultedIn past key) (later : List Happening) :
    sheet.ConsultedIn (past ++ later) key := by
  obtain ⟨contracts, hmem, hkey⟩ := h
  exact ⟨contracts, List.mem_append_left later hmem, hkey⟩

theorem Stored.KeptIn.append {stored : Stored} (h : stored.KeptIn past) (later : List Happening) :
    stored.KeptIn (past ++ later) := by
  obtain ⟨hgood, contracts, report, hmem, hkey, hfails⟩ := h
  exact ⟨hgood, contracts, report, List.mem_append_left later hmem, hkey, hfails⟩

/-- What is handed out is what is kept, and is about the contracts. -/
theorem Desk.handed_eq_some_iff {contracts : List Contract} {stored : Stored} :
    d.handed contracts = some stored ↔ d.slot = some stored ∧ stored.about = keyOf contracts := by
  unfold handed Stored.kept
  rw [Option.filter_eq_some_iff, Option.isSome_iff_exists]
  simp only [take_eq_some_iff, Option.some.injEq, Prod.mk.injEq, exists_and_left, exists_eq',
    and_true]

theorem Desk.slotAfter_cases (call : Nat) (contracts : List Contract) (static : Report)
    (sheet : Option Sheet) :
    d.slotAfter call contracts static sheet = d.slot ∨
      ∃ good, sheet = some good ∧ good.report.success = true ∧ static.FailsInPassing ∧
        d.slotAfter call contracts static sheet = some ⟨call, keyOf contracts, good⟩ := by
  cases sheet with
  | none => exact .inl rfl
  | some sheet =>
      unfold slotAfter
      dsimp only
      split
      next hkept =>
        obtain ⟨⟨about, report⟩, hkept⟩ := Option.isSome_iff_exists.mp hkept
        obtain ⟨rfl, hreport, hgood, hfails⟩ := keep_eq_some_iff.mp hkept
        cases hreport
        exact .inr ⟨sheet, rfl, hgood, hfails, rfl⟩
      next => exact .inl rfl

/-- A step of a desk that is accounted for is accounted for itself. -/
theorem Explained.warranted (h : Explained past d) (hstep : Step p d now d') :
    Warranted p past now := by
  cases hstep with
  | turnAway call contracts _ hnot => exact .turnedAway hnot
  | begin call contracts _ _ =>
      cases hhanded : d.handed contracts with
      | none => exact .began
      | some stored =>
          obtain ⟨hslot, habout⟩ := Desk.handed_eq_some_iff.mp hhanded
          exact .handed habout (h.slot stored hslot).kept
  | consult call contracts models _ => exact .consulted
  | finish call contracts static sheet hready =>
      cases sheet with
      | none => exact .returnedAlone static
      | some sheet => exact .returned static (h.ready call contracts sheet hready)

theorem Desk.move_eq_some_iff {call other : Nat} {phase phase' : Phase} :
    d.move call phase other = some phase' ↔
      (other = call ∧ phase = phase') ∨ (other ≠ call ∧ d.calls other = some phase') := by
  unfold move
  by_cases h : other = call
  · subst h
    simp
  · simp [h]

theorem explained_start : Explained [] {} :=
  { slot := fun stored h => by cases h
    ready := fun call contracts sheet h => by cases h
    returned := fun call h => by cases h
    handed := fun call h => by cases h }

theorem mem_filterMap_concat_iff {f : Happening → Option Nat} {call : Nat} :
    call ∈ (past ++ [now]).filterMap f ↔ call ∈ past.filterMap f ∨ f now = some call := by
  simp [List.filterMap_append, List.mem_filterMap]

/-- A step moves one call that has not ended, and what it brings about has to be accounted for. -/
theorem Explained.moved (h : Explained past d) {call : Nat} {phase : Phase} {slot : Option Stored}
    (hcall : d.calls call ≠ some .done)
    (hslot : ∀ stored, slot = some stored → stored.Unclaimed (past ++ [now]))
    (hready : ∀ contracts sheet, phase = .ready contracts (some sheet) →
      sheet.ConsultedIn (past ++ [now]) (keyOf contracts))
    (hreturned : ∀ other, now.returned? = some other → other = call ∧ phase = .done)
    (hhanded : ∀ other, now.handedFrom? = some other →
      other ∈ past.filterMap Happening.returned?) :
    Explained (past ++ [now]) { slot, calls := d.move call phase } :=
  { slot := hslot
    ready := by
      intro other contracts sheet hother
      rcases Desk.move_eq_some_iff.mp hother with ⟨-, hphase⟩ | ⟨-, hold⟩
      · exact hready contracts sheet hphase
      · exact (h.ready other contracts sheet hold).append [now]
    returned := by
      intro other hother
      refine Desk.move_eq_some_iff.mpr ?_
      rcases mem_filterMap_concat_iff.mp hother with hold | hnow
      · have hdone := h.returned other hold
        exact .inr ⟨fun heq => hcall (heq ▸ hdone), hdone⟩
      · exact .inl (hreturned other hnow)
    handed := by
      intro other hother
      refine mem_filterMap_concat_iff.mpr (.inl ?_)
      rcases mem_filterMap_concat_iff.mp hother with hold | hnow
      · exact h.handed other hold
      · exact hhanded other hnow }

/-- What is kept stays unclaimed while nothing is handed out. -/
theorem Explained.slot_concat (h : Explained past d) (hnow : now.handedFrom? = none)
    (stored : Stored) (hslot : d.slot = some stored) : stored.Unclaimed (past ++ [now]) := by
  have hold := h.slot stored hslot
  refine ⟨hold.kept.append [now], hold.consulted.append [now], fun hmem => ?_⟩
  rcases mem_filterMap_concat_iff.mp hmem with hbefore | hsome
  · exact hold.unclaimed hbefore
  · cases hnow.symm.trans hsome

theorem handedFrom?_began_eq_some_iff {call other : Nat} {contracts : List Contract}
    {handed : Option Stored} :
    (Happening.began call contracts handed).handedFrom? = some other ↔
      ∃ stored, handed = some stored ∧ stored.call = other := by
  cases handed <;> simp [Happening.handedFrom?]

theorem Phase.first_eq_ready_iff {contracts about : List Contract} {handed : Option Stored}
    {sheet : Sheet} :
    Phase.first contracts handed = .ready about (some sheet) ↔
      ∃ stored, handed = some stored ∧ contracts = about ∧ stored.sheet = sheet := by
  cases handed <;> simp [Phase.first]

/-- A step of a desk that is accounted for leaves one that is. -/
theorem Explained.step (h : Explained past d) (hstep : Step p d now d') :
    Explained (past ++ [now]) d' := by
  cases hstep with
  | turnAway call contracts hnew hnot =>
      refine h.moved (by simp [hnew]) (h.slot_concat rfl) ?_ ?_ ?_
      · rintro _ _ ⟨⟩
      · rintro _ ⟨⟩
      · rintro _ ⟨⟩
  | begin call contracts hnew haccepts =>
      refine h.moved (by simp [hnew]) ?_ ?_ ?_ ?_
      · rintro _ ⟨⟩
      · intro about sheet hphase
        obtain ⟨stored, hhanded, rfl, rfl⟩ := Phase.first_eq_ready_iff.mp hphase
        obtain ⟨hslot, habout⟩ := Desk.handed_eq_some_iff.mp hhanded
        exact habout ▸ (h.slot stored hslot).consulted.append _
      · rintro _ ⟨⟩
      · intro other hother
        obtain ⟨stored, hhanded, rfl⟩ := handedFrom?_began_eq_some_iff.mp hother
        obtain ⟨hslot, -⟩ := Desk.handed_eq_some_iff.mp hhanded
        obtain ⟨-, about, report, hmem, -⟩ := (h.slot stored hslot).kept
        exact List.mem_filterMap.mpr ⟨_, hmem, rfl⟩
  | consult call contracts models hcall =>
      refine h.moved (by simp [hcall]) (h.slot_concat rfl) ?_ ?_ ?_
      · intro about sheet hphase
        cases models with
        | none => cases hphase
        | some report =>
            cases hphase
            exact ⟨contracts, by simp, rfl⟩
      · rintro _ ⟨⟩
      · rintro _ ⟨⟩
  | finish call contracts static sheet hcall =>
      refine h.moved (by simp [hcall]) ?_ ?_ ?_ ?_
      · rcases Desk.slotAfter_cases call contracts static sheet with
          hsame | ⟨good, rfl, hgood, hfails, hnew⟩
        · rw [hsame]
          exact h.slot_concat rfl
        · -- the call has not ended before, so nothing of its own can have been handed out
          rw [hnew]
          rintro _ ⟨⟩
          refine ⟨⟨hgood, contracts, p.conclude contracts static (some good.report), by simp, rfl,
              hfails⟩,
            (h.ready call contracts good hcall).append _, fun hmem => ?_⟩
          rcases mem_filterMap_concat_iff.mp hmem with hold | hsome
          · cases hcall.symm.trans (h.returned call (h.handed call hold))
          · cases hsome
      · rintro _ _ ⟨⟩
      · rintro _ ⟨⟩
        exact ⟨rfl, rfl⟩
      · rintro _ ⟨⟩

/-- No call has been handed anything, or has returned, more often than once. -/
structure Once (past : List Happening) : Prop where
  handed : (past.filterMap Happening.handedFrom?).Nodup
  returned : (past.filterMap Happening.returned?).Nodup

theorem nodup_filterMap_concat {f : Happening → Option Nat} (h : (past.filterMap f).Nodup)
    (hnow : ∀ call, f now = some call → call ∉ past.filterMap f) :
    ((past ++ [now]).filterMap f).Nodup := by
  rw [List.filterMap_append, List.nodup_append]
  refine ⟨h, ?_, ?_⟩
  · cases hf : f now <;> simp [hf]
  · intro call hcall other hother heq
    subst heq
    have hsome : f now = some call := by simpa using hother
    exact hnow call hsome hcall

theorem Once.step (h : Once past) (hexplained : Explained past d) (hstep : Step p d now d') :
    Once (past ++ [now]) := by
  refine ⟨nodup_filterMap_concat h.handed ?_, nodup_filterMap_concat h.returned ?_⟩
  · intro other hother
    cases hstep with
    | begin call contracts hnew haccepts =>
        obtain ⟨stored, hhanded, rfl⟩ := handedFrom?_began_eq_some_iff.mp hother
        exact (hexplained.slot stored (Desk.handed_eq_some_iff.mp hhanded).1).unclaimed
    | turnAway | consult | finish => cases hother
  · intro other hother
    cases hstep with
    | finish call contracts static sheet hcall =>
        cases hother
        intro hmem
        cases hcall.symm.trans (hexplained.returned _ hmem)
    | turnAway | begin | consult => cases hother

end Step

theorem Schedule.explained {p : Pipeline σ} {past : List Happening} {d : Desk}
    (h : Schedule p past d) : Explained past d := by
  induction h with
  | start => exact explained_start
  | next _ hstep ih => exact ih.step hstep

theorem Desk.take_kept (d : Desk) (contracts : List Contract) :
    take (keyOf contracts) d.kept = (d.handed contracts).map (·.sheet.report) := by
  cases hhanded : d.handed contracts with
  | some stored =>
      obtain ⟨hslot, habout⟩ := Desk.handed_eq_some_iff.mp hhanded
      refine take_eq_some_iff.mpr ?_
      unfold kept
      rw [hslot, ← habout]
      rfl
  | none =>
      refine Option.eq_none_iff_forall_ne_some.mpr fun report htake => ?_
      obtain ⟨stored, hslot, hkept⟩ := Option.bind_eq_some_iff.mp (take_eq_some_iff.mp htake)
      have habout : stored.about = keyOf contracts := congrArg Prod.fst (Option.some.inj hkept)
      cases hhanded.symm.trans (Desk.handed_eq_some_iff.mpr ⟨hslot, habout⟩)

/-- Behind a call whose stages begin with an empty slot, the slot holds what the call keeps. -/
theorem Desk.bind_slotAfter {d : Desk} (hslot : d.slot = none) (call : Nat)
    (contracts : List Contract) (static : Report) (sheet : Option Sheet) :
    (d.slotAfter call contracts static sheet).bind Stored.kept =
      keep (keyOf contracts) static (sheet.map Sheet.report) := by
  cases sheet with
  | none =>
      unfold slotAfter keep
      rw [hslot]
      cases static.failure <;> rfl
  | some sheet =>
      unfold slotAfter
      dsimp only
      split
      next hkept =>
        obtain ⟨⟨about, report⟩, hkept⟩ := Option.isSome_iff_exists.mp hkept
        obtain ⟨rfl, hreport, -⟩ := keep_eq_some_iff.mp hkept
        cases hreport
        exact hkept.symm
      next hnot =>
        rw [hslot]
        exact (Option.not_isSome_iff_eq_none.mp hnot).symm

/-- A call ends whose stages ended with an empty slot. -/
theorem Schedule.finish {p : Pipeline σ} {past : List Happening} {d : Desk}
    (h : Schedule p past d) (hslot : d.slot = none) {call : Nat} {contracts : List Contract}
    {sheet : Option Sheet} (hready : d.calls call = some (.ready contracts sheet))
    (static : Report) {models : Option Report} (hmodels : sheet.map Sheet.report = models) :
    ∃ d', Schedule p
        (past ++ [.returned call contracts sheet (p.conclude contracts static models)]) d' ∧
      d'.kept = keep (keyOf contracts) static models := by
  subst hmodels
  exact ⟨_, h.next (.finish call contracts static sheet hready),
    Desk.bind_slotAfter hslot call contracts static sheet⟩

/-- A call that no other overlaps with returns and keeps what `analyze` does. -/
theorem Schedule.analyze {p : Pipeline σ} {past : List Happening} {d : Desk}
    (h : Schedule p past d) {call : Nat} (hnew : d.calls call = none) {contracts : List Contract}
    (haccepts : p.Accepts contracts) (s : σ) :
    ∃ steps sheet d', Schedule p
        (past ++ steps ++ [.returned call contracts sheet (p.analyze contracts d.kept s).1]) d' ∧
      d'.kept = (p.analyze contracts d.kept s).2.1 := by
  rw [p.analyze_of_accepts contracts d.kept s haccepts, d.take_kept]
  have hbegun := h.next (.begin call contracts hnew haccepts)
  cases hhanded : d.handed contracts with
  | some stored =>
      rw [hhanded] at hbegun
      obtain ⟨d', hdone, hkept⟩ := hbegun.finish rfl
        (Desk.move_eq_some_iff.mpr (.inl ⟨rfl, rfl⟩)) (p.staticStage contracts s).1 rfl
      exact ⟨_, _, d', hdone, hkept⟩
  | none =>
      rw [hhanded] at hbegun
      have hasked := hbegun.next (.consult call contracts
        (p.modelStage contracts (p.staticStage contracts s).2).1
        (Desk.move_eq_some_iff.mpr (.inl ⟨rfl, rfl⟩)))
      have hmodels : ((p.modelStage contracts (p.staticStage contracts s).2).1.map
          (Sheet.mk call)).map Sheet.report =
          (p.modelStage contracts (p.staticStage contracts s).2).1 := by
        rw [Option.map_map]
        exact congrFun Option.map_id _
      obtain ⟨d', hdone, hkept⟩ := hasked.finish rfl
        (Desk.move_eq_some_iff.mpr (.inl ⟨rfl, rfl⟩)) (p.staticStage contracts s).1 hmodels
      rw [List.append_assoc past] at hdone
      exact ⟨_, _, d', hdone, hkept⟩

/-- However calls overlap, each of their steps is accounted for by what has happened before it: the
report of the models that a call returns comes from a call that consulted them on contracts of the
same key, and what a call is handed was kept by a call about such contracts that failed in passing.
What a call has kept is handed out once at most. A call that no other overlaps with is `analyze`. -/
theorem warranted_of_schedule (p : Pipeline σ) {past : List Happening} {d : Desk}
    (h : Schedule p past d) :
    Throughout (Warranted p) past ∧ Once past ∧
    ∀ call contracts s, d.calls call = none → p.Accepts contracts →
      ∃ steps sheet d', Schedule p
          (past ++ steps ++ [.returned call contracts sheet (p.analyze contracts d.kept s).1]) d' ∧
        d'.kept = (p.analyze contracts d.kept s).2.1 := by
  suffices Throughout (Warranted p) past ∧ Once past from
    ⟨this.1, this.2, fun call contracts s hnew haccepts => h.analyze hnew haccepts s⟩
  induction h with
  | start => exact ⟨throughout_nil, List.nodup_nil, List.nodup_nil⟩
  | next hbefore hstep ih =>
      have hexplained := hbefore.explained
      exact ⟨ih.1.concat (hexplained.warranted hstep), ih.2.step hexplained hstep⟩

/-- The report of a static stage that was too slow. -/
def lateReport : Report :=
  { success := false
    failure := some {
      code := .toolTimeout
      message := "slither execution timed out"
      platform := "ethereum" } }

def otherContract : Contract :=
  { filename := "D.sol", code := "contract D \x7b\x7d", platform := "ethereum" }

/-- While a call about other contracts is under way, one call keeps a report of the models, and
another one about its contracts is handed it. -/
theorem overlapping_slowPipeline :
    ∃ past d, Schedule slowPipeline past d ∧ d.calls 1 = some (.consulting [otherContract]) ∧
      (∃ call stored, .began call [plainContract] (some stored) ∈ past) ∧
      Throughout (Warranted slowPipeline) past ∧ Once past := by
  have haccepts : slowPipeline.Accepts [plainContract] := by decide +kernel
  have hother : slowPipeline.Accepts [otherContract] := by decide +kernel
  have hbegun : Schedule slowPipeline _ _ :=
    Schedule.start.next (.begin 0 [plainContract] rfl haccepts)
      |>.next (.begin 1 [otherContract] rfl hother)
      |>.next (.consult 0 [plainContract] (some { success := true }) rfl)
      |>.next (.finish 0 [plainContract] lateReport (some ⟨0, { success := true }⟩) rfl)
  have hhanded := hbegun.next (.begin 2 [plainContract] rfl haccepts)
  obtain ⟨hwarranted, honce, -⟩ := warranted_of_schedule slowPipeline hhanded
  refine ⟨_, _, hhanded, rfl, ⟨2, ⟨0, keyOf [plainContract], ⟨0, { success := true }⟩⟩, ?_⟩,
    hwarranted, honce⟩
  refine List.mem_append_right _ (List.mem_singleton.mpr (congrArg _ ?_))
  exact (Desk.handed_eq_some_iff.mpr ⟨rfl, rfl⟩).symm

end ContractReview.Pipeline
