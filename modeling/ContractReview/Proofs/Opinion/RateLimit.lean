import ContractReview.Opinion.RateLimit
import Mathlib

/-!
A limiter that any number of tasks share. A task that waits for a permission asks, and sleeps or
asks again until one is granted; in between, other tasks ask, and look how long they would have to
wait. However they take turns, no stretch of time as long as the window sees more permissions than
the limiter allows.
-/

namespace ContractReview.Limiter

/-- Where a task is: outside, about to ask, or asleep after it was refused. -/
inductive Stage
  | away | asking | asleep
deriving DecidableEq

/-- A limiter, the time at which it was used last, and where each of its tasks is. -/
structure Shared (τ : Type) where
  limiter : Limiter τ
  clock : τ
  stages : Nat → Stage := fun _ => .away

def Shared.move {τ : Type} (d : Shared τ) (task : Nat) (stage : Stage) : Nat → Stage :=
  Function.update d.stages task stage

/-- A step of some task, as it is seen from outside. -/
inductive Turn (τ : Type)
  | came (task : Nat)
  | granted (task : Nat) (time : τ)
  | refused (task : Nat) (wait : τ)
  | woke (task : Nat)
  | left (task : Nat)
  | looked (task : Nat) (wait : τ)

/-- The time of the permission that a turn gives. -/
def Turn.grantedAt? {τ : Type} : Turn τ → Option τ
  | .granted _ time => some time
  | _ => none

/-- The times of all permissions, in the order in which they were given. -/
def permissions {τ : Type} (past : List (Turn τ)) : List τ := past.filterMap Turn.grantedAt?

variable {τ : Type} [AddCommGroup τ] [LinearOrder τ]

/-- The steps of the tasks. A pass under the lock reads the clock once to clean up and once more to
decide. A sleep may end at any time, and a task may give up whenever it is not under the lock. -/
inductive Step (d : Shared τ) : Turn τ → Shared τ → Prop
  | come (task : Nat) : d.stages task = .away →
      Step d (.came task) { d with stages := d.move task .asking }
  | grant (task : Nat) (seen now : τ) {l : Limiter τ} : d.stages task = .asking →
      d.clock ≤ seen → seen ≤ now → d.limiter.ask seen now = (.granted, l) →
      Step d (.granted task now) ⟨l, now, d.move task .away⟩
  | refuse (task : Nat) (seen now : τ) {wait : τ} {l : Limiter τ} : d.stages task = .asking →
      d.clock ≤ seen → seen ≤ now → d.limiter.ask seen now = (.wait wait, l) →
      Step d (.refused task wait) ⟨l, now, d.move task (if 0 < wait then .asleep else .asking)⟩
  | wake (task : Nat) : d.stages task = .asleep →
      Step d (.woke task) { d with stages := d.move task .asking }
  | leave (task : Nat) : d.stages task ≠ .away →
      Step d (.left task) { d with stages := d.move task .away }
  | look (task : Nat) (seen now : τ) {wait : τ} {l : Limiter τ} : d.stages task = .away →
      d.clock ≤ seen → seen ≤ now → d.limiter.waitTime seen now = (wait, l) →
      Step d (.looked task wait) ⟨l, now, d.stages⟩

/-- Turns of any tasks in any order. -/
inductive Schedule (start : Shared τ) : List (Turn τ) → Shared τ → Prop
  | start : Schedule start [] start
  | next {past : List (Turn τ)} {turn : Turn τ} {d d' : Shared τ} : Schedule start past d →
      Step d turn d' → Schedule start (past ++ [turn]) d'

/-- Waiting as a task does that is alone is one way of taking turns. -/
theorem schedule_waitOn {start d : Shared τ} {past : List (Turn τ)} {wake : τ → τ → τ}
    (hwake : ∀ t s, t ≤ wake t s) (hpast : Schedule start past d) {task : Nat}
    (hasking : d.stages task = .asking) {now : τ} (hnow : d.clock ≤ now) (fuel : Nat) :
    ∃ turns d', Schedule start (past ++ turns) d' ∧
      d'.limiter = (waitOn wake d.limiter now fuel).limiter ∧
      d'.clock ≤ (waitOn wake d.limiter now fuel).now := by
  induction fuel generalizing past d now with
  | zero => exact ⟨[], d, by rwa [List.append_nil], rfl, hnow⟩
  | succ fuel ih =>
      unfold waitOn
      rcases hask : d.limiter.ask now now with ⟨_ | wait, l⟩
      · exact ⟨_, _, hpast.next (.grant task now now hasking hnow le_rfl hask), rfl, le_rfl⟩
      · have hrefused := hpast.next (.refuse task now now hasking hnow le_rfl hask)
        by_cases hwait : 0 < wait
        · have hwoke := hrefused.next (.wake task (by simp [Shared.move, hwait]))
          obtain ⟨turns, d', hrun, hlimiter, hclock⟩ :=
            ih hwoke (by simp [Shared.move]) (hwake now wait)
          refine ⟨_, d', by rwa [List.append_assoc, List.append_assoc] at hrun, ?_, ?_⟩
          · simpa [hwait] using hlimiter
          · simpa [hwait] using hclock
        · obtain ⟨turns, d', hrun, hlimiter, hclock⟩ :=
            ih hrefused (by simp [Shared.move, hwait]) le_rfl
          refine ⟨_, d', by rwa [List.append_assoc] at hrun, ?_, ?_⟩
          · simpa [hwait] using hlimiter
          · simpa [hwait] using hclock

/-! ## Single passes -/

/-- What is cleaned away stood first and is older than the window. -/
theorem stamps_eq_append_cleaned (l : Limiter τ) (now : τ) :
    ∃ gone, l.stamps = gone ++ (l.cleaned now).stamps ∧ ∀ t ∈ gone, l.window < now - t := by
  refine ⟨l.stamps.takeWhile fun stamp => decide (l.window < now - stamp), ?_, ?_⟩
  · exact List.takeWhile_append_dropWhile.symm
  · intro t ht
    have hold := List.mem_takeWhile_imp ht
    exact of_decide_eq_true hold

/-- A permission is given when there is room behind the cleaning, and then takes its place. -/
theorem ask_cases (l : Limiter τ) (seen now : τ) :
    ((l.cleaned seen).stamps.length < l.most ∧ l.ask seen now =
      (.granted, { l.cleaned seen with stamps := (l.cleaned seen).stamps ++ [now] })) ∨
    (l.most ≤ (l.cleaned seen).stamps.length ∧
      l.ask seen now = (.wait ((l.cleaned seen).delay now), l.cleaned seen)) := by
  unfold ask
  dsimp only
  by_cases hroom : (l.cleaned seen).stamps.length < l.most
  · exact .inl ⟨hroom, if_pos hroom⟩
  · exact .inr ⟨Nat.not_lt.mp hroom, if_neg hroom⟩

/-- What a step does to the limiter: nothing, or it cleans it at a time that the clock has reached,
and a permission follows only where that leaves room. -/
theorem Step.cases_limiter {d d' : Shared τ} {turn : Turn τ} (h : Step d turn d') :
    (turn.grantedAt? = none ∧ d'.limiter = d.limiter ∧ d'.clock = d.clock) ∨
    ∃ seen, d.clock ≤ seen ∧ seen ≤ d'.clock ∧
      ((turn.grantedAt? = none ∧ d'.limiter = d.limiter.cleaned seen) ∨
       (turn.grantedAt? = some d'.clock ∧
          (d.limiter.cleaned seen).stamps.length < d.limiter.most ∧
          d'.limiter = { d.limiter.cleaned seen with
            stamps := (d.limiter.cleaned seen).stamps ++ [d'.clock] })) := by
  cases h with
  | come task | wake task | leave task => exact .inl ⟨rfl, rfl, rfl⟩
  | @grant task seen now l _ hseen hnow hask =>
      refine .inr ⟨seen, hseen, hnow, .inr ?_⟩
      rcases d.limiter.ask_cases seen now with ⟨hroom, heq⟩ | ⟨-, heq⟩
      · cases heq.symm.trans hask
        exact ⟨rfl, hroom, rfl⟩
      · cases heq.symm.trans hask
  | @refuse task seen now wait l _ hseen hnow hask =>
      refine .inr ⟨seen, hseen, hnow, .inl ⟨rfl, ?_⟩⟩
      rcases d.limiter.ask_cases seen now with ⟨-, heq⟩ | ⟨-, heq⟩
      · cases heq.symm.trans hask
      · cases heq.symm.trans hask
        rfl
  | @look task seen now wait l _ hseen hnow hlook =>
      cases hlook
      exact .inr ⟨seen, hseen, hnow, .inl ⟨rfl, rfl⟩⟩

/-- Neither the limit nor the window ever changes. -/
theorem Step.bounds_eq {d d' : Shared τ} {turn : Turn τ} (h : Step d turn d') :
    d'.limiter.most = d.limiter.most ∧ d'.limiter.window = d.limiter.window := by
  rcases h.cases_limiter with ⟨-, heq, -⟩ | ⟨seen, -, -, ⟨-, heq⟩ | ⟨-, -, heq⟩⟩
  · rw [heq]
    exact ⟨rfl, rfl⟩
  · rw [heq]
    exact ⟨rfl, rfl⟩
  · rw [heq]
    exact ⟨rfl, rfl⟩

/-! ## What is remembered -/

/-- How many of some times lie within the window that opens at `low`, both ends included. -/
def countWithin (low window : τ) (times : List τ) : Nat :=
  times.countP fun t => low ≤ t ∧ t ≤ low + window

/-- What a limiter knows of all permissions until `clock`: it has forgotten none but those that are
older than its window. -/
structure Remembers (l : Limiter τ) (clock : τ) (times : List τ) : Prop where
  forgotten : ∃ gone, times = gone ++ l.stamps ∧ ∀ t ∈ gone, l.window < clock - t
  sorted : times.Pairwise (· ≤ ·)
  past : ∀ t ∈ times, t ≤ clock
  few : l.stamps.length ≤ l.most
  spaced : ∀ low, countWithin low l.window times ≤ l.most

namespace Remembers

variable {l : Limiter τ} {clock : τ} {times : List τ}

theorem cleaned (h : Remembers l clock times) : Remembers (l.cleaned clock) clock times := by
  obtain ⟨gone, heq, hgone⟩ := h.forgotten
  obtain ⟨dropped, hstamps, hdropped⟩ := l.stamps_eq_append_cleaned clock
  refine ⟨⟨gone ++ dropped, ?_, ?_⟩, h.sorted, h.past, ?_, h.spaced⟩
  · rw [List.append_assoc, ← hstamps, heq]
  · intro t ht
    rcases List.mem_append.mp ht with ht | ht
    · exact hgone t ht
    · exact hdropped t ht
  · have hlength := congrArg List.length hstamps
    rw [List.length_append] at hlength
    exact (Nat.le_of_add_left_le hlength.ge).trans h.few

variable [IsOrderedAddMonoid τ]

theorem later (h : Remembers l clock times) {now : τ} (hnow : clock ≤ now) :
    Remembers l now times := by
  obtain ⟨gone, heq, hgone⟩ := h.forgotten
  refine ⟨⟨gone, heq, fun t ht => ?_⟩, h.sorted, fun t ht => ?_, h.few, h.spaced⟩
  · exact (hgone t ht).trans_le (sub_le_sub_right hnow t)
  · exact (h.past t ht).trans hnow

/-- A permission that finds room keeps every window within the limit: one that holds it holds
nothing that is forgotten. -/
theorem granted (h : Remembers l clock times) (hroom : l.stamps.length < l.most) :
    Remembers { l with stamps := l.stamps ++ [clock] } clock (times ++ [clock]) := by
  obtain ⟨gone, heq, hgone⟩ := h.forgotten
  refine ⟨⟨gone, ?_, hgone⟩, ?_, ?_, ?_, fun low => ?_⟩
  · rw [heq, List.append_assoc]
  · refine List.pairwise_append.mpr ⟨h.sorted, List.pairwise_singleton _ _, ?_⟩
    intro t ht now hnow
    exact List.mem_singleton.mp hnow ▸ h.past t ht
  · intro t ht
    rcases List.mem_append.mp ht with ht | ht
    · exact h.past t ht
    · exact (List.mem_singleton.mp ht).le
  · simpa using hroom
  · by_cases hin : low ≤ clock ∧ clock ≤ low + l.window
    · have hnone : countWithin low l.window gone = 0 := by
        refine List.countP_eq_zero.mpr fun t ht => ?_
        have hold := lt_sub_iff_add_lt.mp (hgone t ht)
        have hbefore : t < low := lt_of_add_lt_add_left (hold.trans_le (add_comm low _ ▸ hin.2))
        simp [hbefore.not_ge]
      have hstamps : countWithin low l.window l.stamps ≤ l.stamps.length := List.countP_le_length
      have hlast : countWithin low l.window [clock] = 1 := by simp [countWithin, hin.1, hin.2]
      have hall : countWithin low l.window (times ++ [clock]) =
          countWithin low l.window gone + countWithin low l.window l.stamps +
            countWithin low l.window [clock] := by
        rw [heq]
        simp only [countWithin, List.countP_append]
      change countWithin low l.window (times ++ [clock]) ≤ l.most
      omega
    · have hsame : countWithin low l.window (times ++ [clock]) =
          countWithin low l.window times := by
        simp [countWithin, hin]
      exact hsame ▸ h.spaced low

end Remembers

variable [IsOrderedAddMonoid τ]

theorem remembers_step {d d' : Shared τ} {turn : Turn τ} {past : List (Turn τ)}
    (hstep : Step d turn d') (h : Remembers d.limiter d.clock (permissions past)) :
    Remembers d'.limiter d'.clock (permissions (past ++ [turn])) := by
  have hpast : permissions (past ++ [turn]) = permissions past ++ turn.grantedAt?.toList := by
    unfold permissions
    rw [List.filterMap_append]
    cases turn <;> rfl
  rw [hpast]
  rcases hstep.cases_limiter with
    ⟨hnone, hlimiter, hclock⟩ | ⟨seen, hseen, hnow, ⟨hnone, hlimiter⟩ | ⟨hsome, hroom, hlimiter⟩⟩
  · rw [hnone, hlimiter, hclock, Option.toList_none, List.append_nil]
    exact h
  · rw [hnone, hlimiter, Option.toList_none, List.append_nil]
    exact (h.later hseen).cleaned.later hnow
  · rw [hsome, hlimiter, Option.toList_some]
    exact ((h.later hseen).cleaned.later hnow).granted hroom

/-- What holds of a shared limiter after some turns. -/
structure Spaced (most : Int) (window : τ) (past : List (Turn τ)) (d : Shared τ) : Prop where
  within : ∀ low, (countWithin low window (permissions past) : Int) ≤ most
  sorted : d.limiter.stamps.Pairwise (· ≤ ·)
  few : (d.limiter.stamps.length : Int) ≤ most

/-- A limiter for at least one request keeps to its limit in every window, whatever turns the tasks
take, and its stamps stay in order and as few as the limit says. -/
theorem spaced_of_schedule (most : Int) (window start : τ) (hmost : 1 ≤ most) :
    ∃ l : Limiter τ, create most window = .ok l ∧
      ∀ past d, Schedule ⟨l, start, fun _ => .away⟩ past d → Spaced most window past d := by
  refine ⟨⟨most.toNat, window, []⟩, if_neg (Int.not_lt.mpr hmost), ?_⟩
  intro past d hpast
  have hrun : Remembers d.limiter d.clock (permissions past) ∧
      d.limiter.most = most.toNat ∧ d.limiter.window = window := by
    induction hpast with
    | start =>
        refine ⟨⟨⟨[], rfl, by simp⟩, List.Pairwise.nil, by simp [permissions], ?_, ?_⟩, rfl, rfl⟩
        · exact Nat.zero_le _
        · exact fun low => Nat.zero_le _
    | next _ hstep ih =>
        obtain ⟨hremembers, hlimit, hwindow⟩ := ih
        obtain ⟨hlimit', hwindow'⟩ := hstep.bounds_eq
        exact ⟨remembers_step hstep hremembers, hlimit'.trans hlimit, hwindow'.trans hwindow⟩
  obtain ⟨hremembers, hlimit, hwindow⟩ := hrun
  obtain ⟨gone, heq, -⟩ := hremembers.forgotten
  refine ⟨fun low => ?_, ?_, ?_⟩
  · have hspaced := hremembers.spaced low
    rw [hlimit, hwindow] at hspaced
    omega
  · have hsorted := hremembers.sorted
    rw [heq] at hsorted
    exact (List.pairwise_append.mp hsorted).2.1
  · have hfew := hremembers.few
    rw [hlimit] at hfew
    omega

/-- Two tasks and an onlooker at a limiter for one request in ten seconds. -/
def crowd : List (Turn ℤ) :=
  [.came 0, .granted 0 0, .came 1, .refused 1 5, .looked 2 3, .woke 1, .granted 1 11]

theorem spaced_crowd :
    permissions crowd = [0, 11] ∧
      ∃ d, Schedule ⟨⟨1, 10, []⟩, 0, fun _ => .away⟩ crowd d ∧ Spaced 1 10 crowd d := by
  have hstart : Schedule (⟨⟨1, 10, []⟩, 0, fun _ => .away⟩ : Shared ℤ) [] _ := .start
  have hfirst := hstart.next (.come 0 rfl)
  have hgrant := hfirst.next (.grant 0 0 0 rfl (by decide) (by decide) rfl)
  have hsecond := hgrant.next (.come 1 rfl)
  have hrefuse := hsecond.next (.refuse 1 5 5 rfl (by decide) (by decide) rfl)
  have hlook := hrefuse.next (.look 2 7 7 rfl (by decide) (by decide) rfl)
  have hwake := hlook.next (.wake 1 rfl)
  have hrun := hwake.next (.grant 1 11 11 rfl (by decide) (by decide) rfl)
  obtain ⟨l, hl, hspaced⟩ := spaced_of_schedule 1 (10 : ℤ) 0 (by decide)
  cases hl
  exact ⟨rfl, _, hrun, hspaced crowd _ hrun⟩

end ContractReview.Limiter
