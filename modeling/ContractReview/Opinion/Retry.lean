import ContractReview.Fault
import ContractReview.Number.Basic

/-!
Calling a provider again after errors that may pass. The surroundings are a state `σ` that calls,
permissions and pauses go through in turn.
-/

namespace ContractReview

/-- Errors of a provider may pass, all but a refused key. -/
def Fault.mayPass : Fault → Bool
  | .provider kind _ => kind ≠ .authentication
  | _ => false

structure RetryPolicy where
  maxRetries : Int := 2
  initialBackoff : Number := .float 1.0
  factor : Number := .float 2.0
deriving DecidableEq

namespace RetryPolicy

/-- What a call goes through. -/
structure Surroundings (σ α : Type) where
  permit : σ → σ
  call : σ → Except Fault α × σ
  pause : Number → σ → σ

/-- Calls until a call answers, fails for good, or `left` more tries have failed too. A pause that
no double can hold is a fault, and so is one that cannot grow. -/
def attempts {σ α : Type} (policy : RetryPolicy) (around : Surroundings σ α) :
    (left : Nat) → (backoff : Number) → σ → Except Fault α × σ
  | left, backoff, s =>
      match around.call (around.permit s) with
      | (.ok a, s) => (.ok a, s)
      | (.error fault, s) =>
          if fault.mayPass then
            match left with
            | 0 => (.error (.retriesExceeded policy.maxRetries fault), s)
            | left + 1 =>
                match backoff.toFloat? with
                | none => (.error .wholeTooLarge, s)
                | some _ =>
                    match backoff.mul? policy.factor with
                    | none => (.error .wholeTooLarge, around.pause backoff s)
                    | some grown => attempts policy around left grown (around.pause backoff s)
          else (.error fault, s)

/-- At most one call more than there are retries. -/
def run {σ α : Type} (policy : RetryPolicy) (around : Surroundings σ α) (s : σ) :
    Except Fault α × σ :=
  if policy.maxRetries < 0 then
    (.error (.retriesExceeded policy.maxRetries
      (.raised .exception "Unknown error after retries")), s)
  else attempts policy around policy.maxRetries.toNat policy.initialBackoff s

end RetryPolicy

end ContractReview
