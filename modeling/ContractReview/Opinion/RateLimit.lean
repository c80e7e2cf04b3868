import ContractReview.Fault

/-!
A limit on the number of requests within any stretch of time. Times are of any type `τ` with sums,
differences and an order.
-/

namespace ContractReview

/-- At most `most` requests within `window`; `stamps` are the times of the latest ones, the oldest
first. -/
structure Limiter (τ : Type) where
  most : Nat
  window : τ
  stamps : List τ

namespace Limiter

variable {τ : Type} [Add τ] [Sub τ] [LT τ] [DecidableRel (α := τ) (· < ·)] [OfNat τ 0]

/-- What a provider is granted unless it is told otherwise: the requests, and the seconds that they
are counted in. -/
def defaultMost : Nat := 20

def defaultWindow : Nat := 60

/-- A limiter for at least one request. -/
def create (most : Int) (window : τ) : Except Fault (Limiter τ) :=
  if most < 1 then .error .noRequestsAllowed else .ok ⟨most.toNat, window, []⟩

/-- Without the requests that are older than the window. -/
def cleaned (l : Limiter τ) (now : τ) : Limiter τ :=
  { l with stamps := l.stamps.dropWhile fun stamp => decide (l.window < now - stamp) }

def orZero (t : τ) : τ := if 0 < t then t else 0

/-- How long from `now` until the oldest request leaves the window; nothing when there is room. -/
def delay (l : Limiter τ) (now : τ) : τ :=
  match l.stamps with
  | [] => 0
  | oldest :: _ =>
      if l.stamps.length < l.most then 0 else orZero (oldest + l.window - now)

inductive Verdict (τ : Type)
  | granted
  | wait (time : τ)

/-- Asks for a permission. The clock is read once to clean up and again to decide. -/
def ask (l : Limiter τ) (seen now : τ) : Verdict τ × Limiter τ :=
  let l := l.cleaned seen
  if l.stamps.length < l.most then (.granted, { l with stamps := l.stamps ++ [now] })
  else (.wait (l.delay now), l)

/-- The time until a permission would be given. -/
def waitTime (l : Limiter τ) (seen now : τ) : τ × Limiter τ :=
  let l := l.cleaned seen
  (l.delay now, l)

/-- How a wait for a permission went: the limiter and the clock after it, and the sleeps. -/
structure Waited (τ : Type) where
  limiter : Limiter τ
  now : τ
  sleeps : List τ

/-- Asks and sleeps in turn until a permission is given, at most `fuel` times; `wake t s` is the
clock after a sleep of `s` begun at `t`. -/
def waitOn (wake : τ → τ → τ) (l : Limiter τ) (now : τ) : (fuel : Nat) → Waited τ
  | 0 => ⟨l, now, []⟩
  | fuel + 1 =>
      match l.ask now now with
      | (.granted, l) => ⟨l, now, []⟩
      | (.wait time, l) =>
          if 0 < time then
            let later := waitOn wake l (wake now time) fuel
            { later with sleeps := time :: later.sleeps }
          else waitOn wake l now fuel

end Limiter

end ContractReview
