import ContractReview.Text.Pattern

/-!
What a pattern matches, apart from the search for it. A pattern relates the places where a match may
start to those where it may end. The search, which prefers some ways and gives characters back,
finds a match just if there is one.
-/

namespace ContractReview.Text

/-- The place behind the next characters, which are `taken`, with `rest` behind them. -/
def Cursor.beyond (here : Cursor) (taken rest : List Char) : Cursor :=
  ⟨taken.getLast?.or here.last?, rest, here.position + taken.length⟩

namespace Cursor

theorem beyond_nil (here : Cursor) : here.beyond [] here.rest = here := rfl

theorem beyond_beyond (here : Cursor) (taken more rest rest' : List Char) :
    (here.beyond taken rest).beyond more rest' = here.beyond (taken ++ more) rest' := by
  unfold beyond
  rw [List.getLast?_append, Option.or_assoc, List.length_append, Nat.add_assoc]

theorem beyond_cons (here : Cursor) (c : Char) (taken rest : List Char) :
    here.beyond (c :: taken) rest = (here.past c (taken ++ rest)).beyond taken rest := by
  have hpast : here.past c (taken ++ rest) = here.beyond [c] (taken ++ rest) := rfl
  rw [hpast, beyond_beyond, List.singleton_append]

end Cursor

/-- At least `least` characters of a kind lead from one place to another. -/
inductive Cursor.Passes (accepts : Char → Bool) : Nat → Cursor → Cursor → Prop
  | stay (here : Cursor) : Passes accepts 0 here here
  | step {least : Nat} {here there : Cursor} {c : Char} {rest : List Char} :
      here.rest = c :: rest → accepts c = true →
      Passes accepts (least - 1) (here.past c rest) there →
      Passes accepts least here there

namespace Cursor.Passes

variable {accepts : Char → Bool} {least : Nat} {here there : Cursor}

/-- Where a way leads to, and over which characters. -/
theorem exists_beyond (h : Passes accepts least here there) :
    ∃ taken rest, here.rest = taken ++ rest ∧ there = here.beyond taken rest ∧
      least ≤ taken.length ∧ ∀ c ∈ taken, accepts c = true := by
  induction h with
  | stay here =>
      exact ⟨[], here.rest, rfl, (here.beyond_nil).symm, Nat.le_refl 0,
        fun _ hc => absurd hc List.not_mem_nil⟩
  | @step least here there c rest hrest haccepts _ ih =>
      obtain ⟨taken, behind, htaken, rfl, hlength, hall⟩ := ih
      obtain rfl : rest = taken ++ behind := htaken
      refine ⟨c :: taken, behind, hrest, (here.beyond_cons c taken behind).symm, ?_,
        List.forall_mem_cons.mpr ⟨haccepts, hall⟩⟩
      rw [List.length_cons]
      omega

theorem exists_taken (h : Passes accepts least here there) :
    ∃ taken, here.rest = taken ++ there.rest ∧ least ≤ taken.length ∧
      ∀ c ∈ taken, accepts c = true := by
  obtain ⟨taken, rest, hrest, rfl, hlength, hall⟩ := h.exists_beyond
  exact ⟨taken, hrest, hlength, hall⟩

theorem of_taken (here : Cursor) (least : Nat) {taken rest : List Char}
    (hrest : here.rest = taken ++ rest) (hall : ∀ c ∈ taken, accepts c = true)
    (hlength : least ≤ taken.length) :
    ∃ there, there.rest = rest ∧ Passes accepts least here there := by
  induction taken generalizing here least with
  | nil =>
      obtain rfl : least = 0 := Nat.le_zero.mp hlength
      exact ⟨here, hrest, .stay here⟩
  | cons c taken ih =>
      obtain ⟨haccepts, hall⟩ := List.forall_mem_cons.mp hall
      rw [List.length_cons] at hlength
      obtain ⟨there, hthere, hpasses⟩ :=
        ih (here.past c (taken ++ rest)) (least - 1) rfl hall (by omega)
      exact ⟨there, hthere, .step hrest haccepts hpasses⟩

theorem beyond (here : Cursor) (least : Nat) {taken rest : List Char}
    (hrest : here.rest = taken ++ rest) (hall : ∀ c ∈ taken, accepts c = true)
    (hlength : least ≤ taken.length) : Passes accepts least here (here.beyond taken rest) := by
  induction taken generalizing here least with
  | nil =>
      obtain rfl : least = 0 := Nat.le_zero.mp hlength
      rw [← show here.rest = rest from hrest, here.beyond_nil]
      exact .stay here
  | cons c taken ih =>
      obtain ⟨haccepts, hall⟩ := List.forall_mem_cons.mp hall
      rw [List.length_cons] at hlength
      refine .step hrest haccepts ?_
      rw [here.beyond_cons]
      exact ih _ _ rfl hall (by omega)

theorem exists_nil_iff {P : Cursor → Prop} (hrest : here.rest = []) :
    (∃ there, Passes accepts least here there ∧ P there) ↔ least = 0 ∧ P here := by
  constructor
  · rintro ⟨there, hpasses, hP⟩
    cases hpasses with
    | stay => exact ⟨rfl, hP⟩
    | step hcons => cases hrest.symm.trans hcons
  · rintro ⟨rfl, hP⟩
    exact ⟨here, .stay here, hP⟩

/-- A way either ends where it starts or takes the next character. -/
theorem exists_cons_iff {P : Cursor → Prop} {c : Char} {rest : List Char}
    (hrest : here.rest = c :: rest) :
    (∃ there, Passes accepts least here there ∧ P there) ↔
      (least = 0 ∧ P here) ∨ (accepts c = true ∧
        ∃ there, Passes accepts (least - 1) (here.past c rest) there ∧ P there) := by
  constructor
  · rintro ⟨there, hpasses, hP⟩
    cases hpasses with
    | stay => exact .inl ⟨rfl, hP⟩
    | step hcons haccepts hlater =>
        cases hrest.symm.trans hcons
        exact .inr ⟨haccepts, there, hlater, hP⟩
  · rintro (⟨rfl, hP⟩ | ⟨haccepts, there, hlater, hP⟩)
    · exact ⟨here, .stay here, hP⟩
    · exact ⟨there, .step hrest haccepts hlater, hP⟩

end Cursor.Passes

namespace Pattern

/-- The pattern takes the text between two places. -/
def Matches : Pattern → Cursor → Cursor → Prop
  | .nothing, here, there => there = here
  | .one accepts, here, there =>
      ∃ c rest, here.rest = c :: rest ∧ accepts c = true ∧ there = here.past c rest
  | .boundary, here, there => here.atBoundary = true ∧ there = here
  | .both first second, here, there => ∃ mid, first.Matches here mid ∧ second.Matches mid there
  | .either first second, here, there => first.Matches here there ∨ second.Matches here there
  | .many least accepts, here, there => Cursor.Passes accepts least here there
  | .group inner, here, there => inner.Matches here there

theorem runMany_cons (accepts : Char → Bool) (next : Cursor → Option Reach) (least : Nat)
    (here : Cursor) (c : Char) (rest : List Char) :
    runMany accepts next least here (c :: rest) =
      if accepts c then
        (runMany accepts next (least - 1) (here.past c rest) rest).or
          (if least = 0 then next here else none)
      else if least = 0 then next here else none := by
  rw [runMany]
  cases runMany accepts next (least - 1) (here.past c rest) rest <;> rfl

theorem isSome_runMany (accepts : Char → Bool) (next : Cursor → Option Reach) (least : Nat)
    (here : Cursor) {rest : List Char} (hrest : here.rest = rest) :
    (runMany accepts next least here rest).isSome ↔
      ∃ there, Cursor.Passes accepts least here there ∧ (next there).isSome := by
  induction rest generalizing least here with
  | nil =>
      rw [Cursor.Passes.exists_nil_iff hrest]
      cases least <;> simp [runMany]
  | cons c rest ih =>
      rw [Cursor.Passes.exists_cons_iff hrest, ← ih (least - 1) (here.past c rest) rfl,
        runMany_cons]
      by_cases hleast : least = 0 <;> cases accepts c <;> simp [hleast, or_comm]

/-- The search finds a way that the rest can go on from just if the pattern has one. -/
theorem isSome_run (p : Pattern) {next : Cursor → List (List Char) → Option Reach}
    (good : Cursor → Prop) (hnext : ∀ there kept, (next there kept).isSome ↔ good there)
    (here : Cursor) (kept : List (List Char)) :
    (p.run here kept next).isSome ↔ ∃ there, p.Matches here there ∧ good there := by
  induction p generalizing next good here kept with
  | nothing => simp [run, Matches, hnext]
  | one accepts =>
      unfold run Matches
      cases hrest : here.rest with
      | nil => simp
      | cons c rest =>
          have hone : (∃ there, (∃ d rest', c :: rest = d :: rest' ∧ accepts d = true ∧
              there = here.past d rest') ∧ good there) ↔
                accepts c = true ∧ good (here.past c rest) := by
            constructor
            · rintro ⟨there, ⟨d, rest', hcons, haccepts, rfl⟩, hgood⟩
              cases hcons
              exact ⟨haccepts, hgood⟩
            · rintro ⟨haccepts, hgood⟩
              exact ⟨_, ⟨c, rest, rfl, haccepts, rfl⟩, hgood⟩
          rw [hone]
          by_cases haccepts : accepts c = true <;> simp [haccepts, hnext]
  | boundary =>
      unfold run Matches
      by_cases hboundary : here.atBoundary = true <;> simp [hboundary, hnext]
  | both first second ihfirst ihsecond =>
      unfold run
      rw [ihfirst _ fun mid kept => ihsecond good hnext mid kept]
      constructor
      · rintro ⟨mid, hfirst, there, hsecond, hgood⟩
        exact ⟨there, ⟨mid, hfirst, hsecond⟩, hgood⟩
      · rintro ⟨there, ⟨mid, hfirst, hsecond⟩, hgood⟩
        exact ⟨mid, hfirst, there, hsecond, hgood⟩
  | either first second ihfirst ihsecond =>
      have hways : (∃ there, (first.either second).Matches here there ∧ good there) ↔
          (∃ there, first.Matches here there ∧ good there) ∨
            ∃ there, second.Matches here there ∧ good there := by
        simp only [Matches, or_and_right, exists_or]
      rw [hways, ← ihfirst good hnext here kept, ← ihsecond good hnext here kept]
      rw [run]
      cases first.run here kept next <;> simp
  | many least accepts =>
      unfold run
      rw [isSome_runMany accepts _ least here rfl]
      simp only [hnext, Matches]
  | group inner ih =>
      unfold run
      exact ih good (fun there kept => hnext there _) here kept

theorem isSome_reach? (p : Pattern) (here : Cursor) :
    (p.reach? here).isSome ↔ ∃ there, p.Matches here there := by
  unfold reach?
  rw [p.isSome_run (fun _ => True) (by simp)]
  simp

/-! ## Where a match is -/

/-- A match takes the text between its ends. -/
theorem Matches.exists_beyond {p : Pattern} {here there : Cursor} (h : p.Matches here there) :
    ∃ taken rest, here.rest = taken ++ rest ∧ there = here.beyond taken rest := by
  induction p generalizing here there with
  | nothing => exact ⟨[], here.rest, rfl, h⟩
  | one accepts =>
      obtain ⟨c, rest, hrest, -, rfl⟩ := h
      exact ⟨[c], rest, hrest, rfl⟩
  | boundary => exact ⟨[], here.rest, rfl, h.2⟩
  | both first second ihfirst ihsecond =>
      obtain ⟨mid, hfirst, hsecond⟩ := h
      obtain ⟨taken, rest, hrest, rfl⟩ := ihfirst hfirst
      obtain ⟨more, rest', hrest', rfl⟩ := ihsecond hsecond
      obtain rfl : rest = more ++ rest' := hrest'
      exact ⟨taken ++ more, rest', by rw [hrest, List.append_assoc], here.beyond_beyond ..⟩
  | either first second ihfirst ihsecond => exact h.elim ihfirst ihsecond
  | many least accepts =>
      obtain ⟨taken, rest, hrest, hthere, -⟩ := Cursor.Passes.exists_beyond h
      exact ⟨taken, rest, hrest, hthere⟩
  | group inner ih => exact ih h

theorem exists_of_runMany {accepts : Char → Bool} {next : Cursor → Option Reach} {least : Nat}
    {here : Cursor} {rest : List Char} {reach : Reach} (hrest : here.rest = rest)
    (h : runMany accepts next least here rest = some reach) :
    ∃ there, Cursor.Passes accepts least here there ∧ next there = some reach := by
  induction rest generalizing least here with
  | nil =>
      rw [Cursor.Passes.exists_nil_iff hrest]
      cases least with
      | zero => exact ⟨rfl, h⟩
      | succ => cases h
  | cons c rest ih =>
      rw [Cursor.Passes.exists_cons_iff hrest]
      rw [runMany_cons] at h
      split at h
      next haccepts =>
        rcases Option.or_eq_some_iff.mp h with hmore | ⟨-, hstay⟩
        · exact .inr ⟨haccepts, ih rfl hmore⟩
        · split at hstay
          next hleast => exact .inl ⟨hleast, hstay⟩
          next => cases hstay
      next =>
        split at h
        next hleast => exact .inl ⟨hleast, h⟩
        next => cases h

/-- What the search comes to, it comes to behind a match. -/
theorem exists_of_run {p : Pattern} {next : Cursor → List (List Char) → Option Reach}
    {here : Cursor} {kept : List (List Char)} {reach : Reach}
    (h : p.run here kept next = some reach) :
    ∃ there kept', p.Matches here there ∧ next there kept' = some reach := by
  induction p generalizing next here kept with
  | nothing => exact ⟨here, kept, rfl, h⟩
  | one accepts =>
      unfold run at h
      cases hrest : here.rest with
      | nil =>
          rw [hrest] at h
          cases h
      | cons c rest =>
          rw [hrest] at h
          dsimp only at h
          split at h
          next haccepts => exact ⟨_, kept, ⟨c, rest, hrest, haccepts, rfl⟩, h⟩
          next => cases h
  | boundary =>
      unfold run at h
      split at h
      next hboundary => exact ⟨here, kept, ⟨hboundary, rfl⟩, h⟩
      next => cases h
  | both first second ihfirst ihsecond =>
      obtain ⟨mid, kept, hfirst, h⟩ := ihfirst h
      obtain ⟨there, kept, hsecond, h⟩ := ihsecond h
      exact ⟨there, kept, ⟨mid, hfirst, hsecond⟩, h⟩
  | either first second ihfirst ihsecond =>
      unfold run at h
      split at h
      next hreach =>
        cases h
        obtain ⟨there, kept, hfirst, h⟩ := ihfirst hreach
        exact ⟨there, kept, .inl hfirst, h⟩
      next =>
        obtain ⟨there, kept, hsecond, h⟩ := ihsecond h
        exact ⟨there, kept, .inr hsecond, h⟩
  | many least accepts =>
      obtain ⟨there, hpasses, h⟩ := exists_of_runMany rfl h
      exact ⟨there, kept, hpasses, h⟩
  | group inner ih =>
      obtain ⟨there, kept, hinner, h⟩ := ih h
      exact ⟨there, _, hinner, h⟩

theorem matches_of_reach? {p : Pattern} {here : Cursor} {reach : Reach}
    (h : p.reach? here = some reach) : p.Matches here reach.stop := by
  obtain ⟨there, kept, hmatches, hreach⟩ := exists_of_run h
  cases hreach
  exact hmatches

theorem exists_of_reach? {p : Pattern} {here : Cursor} {reach : Reach}
    (h : p.reach? here = some reach) :
    ∃ taken after, here.rest = taken ++ after ∧
      reach.stop.position = here.position + taken.length := by
  obtain ⟨taken, after, htaken, hstop⟩ := (matches_of_reach? h).exists_beyond
  exact ⟨taken, after, htaken, congrArg Cursor.position hstop⟩

theorem exists_of_firstFrom? {p : Pattern} {here : Cursor} {rest : List Char} {found : Match}
    (hrest : here.rest = rest) (h : p.firstFrom? here rest = some found) :
    ∃ before taken after, rest = before ++ (taken ++ after) ∧
      found.start = here.position + before.length ∧ found.stop = found.start + taken.length := by
  induction rest generalizing here with
  | nil =>
      unfold firstFrom? at h
      split at h
      next reach hreach =>
        obtain ⟨taken, after, htaken, hstop⟩ := exists_of_reach? hreach
        cases h
        exact ⟨[], taken, after, hrest.symm.trans htaken, rfl, hstop⟩
      next => cases h
  | cons c rest ih =>
      unfold firstFrom? at h
      split at h
      next reach hreach =>
        obtain ⟨taken, after, htaken, hstop⟩ := exists_of_reach? hreach
        cases h
        exact ⟨[], taken, after, hrest.symm.trans htaken, rfl, hstop⟩
      next =>
        obtain ⟨before, taken, after, heq, hstart, hstop⟩ := ih rfl h
        have hposition : (here.past c rest).position = here.position + 1 := rfl
        refine ⟨c :: before, taken, after, by rw [heq, List.cons_append], ?_, hstop⟩
        rw [hstart, hposition, List.length_cons]
        omega

/-- The first match in a text takes a part of it. -/
theorem exists_of_firstIn? {p : Pattern} {text : List Char} {found : Match}
    (h : p.firstIn? text = some found) :
    ∃ before taken after, text = before ++ (taken ++ after) ∧
      found.start = before.length ∧ found.stop = before.length + taken.length := by
  obtain ⟨before, taken, after, heq, hstart, hstop⟩ := exists_of_firstFrom? rfl h
  rw [hstart] at hstop
  have hzero : (Cursor.start text).position + before.length = before.length := Nat.zero_add _
  exact ⟨before, taken, after, heq, hstart.trans hzero, by rw [hstop, hzero]⟩

theorem isSome_firstFrom? (p : Pattern) (here : Cursor) {rest : List Char}
    (hrest : here.rest = rest) :
    (p.firstFrom? here rest).isSome ↔
      ∃ place, Cursor.Passes (fun _ => true) 0 here place ∧ ∃ there, p.Matches place there := by
  induction rest generalizing here with
  | nil =>
      rw [Cursor.Passes.exists_nil_iff hrest, ← isSome_reach?, firstFrom?]
      cases p.reach? here <;> simp
  | cons c rest ih =>
      rw [Cursor.Passes.exists_cons_iff hrest, ← ih (here.past c rest) rfl, ← isSome_reach?,
        firstFrom?]
      cases p.reach? here <;> simp

/-- A pattern is found in a text just if it matches at some place. -/
theorem foundIn_iff (p : Pattern) (text : List Char) :
    p.foundIn text = true ↔
      ∃ place, Cursor.Passes (fun _ => true) 0 (Cursor.start text) place ∧
        ∃ there, p.Matches place there :=
  p.isSome_firstFrom? _ rfl

end Pattern

end ContractReview.Text
