import PingPost.Json.Codec

/-!
Retry policies: how often a lead is offered again to a buyer, and after which delays.

Delays are counted in milliseconds within 64 bits and never exceed the longest delay of the policy.
-/

namespace PingPost

/-- How the delay grows from one attempt to the next. -/
inductive Backoff where
  | exponential
  | linear
  | fixed
  deriving DecidableEq, Repr

/-- When and how often to try again. -/
structure RetryPolicy where
  maxAttempts : Nat
  backoff : Backoff
  baseDelayMs : Nat
  maxDelayMs : Nat
  deriving DecidableEq, Repr

/-- Enumeration of the backoff strategies. -/
def Backoff.codec : Codec Backoff :=
  .names [("exponential", .exponential), ("linear", .linear), ("fixed", .fixed)]

namespace RetryPolicy

/-- Three attempts, one minute apart at first and then twice as far each time. -/
def standard : RetryPolicy := ⟨3, .exponential, 60000, 3600000⟩

/-- The fields of a policy. -/
def record : Record RetryPolicy :=
  (Record.and (.required "maxAttempts" (.word 32)) <|
    .and (.required "backoff" Backoff.codec) <|
    .and (.required "baseDelayMs" (.word 64)) <|
    .one (.required "maxDelayMs" (.word 64))).via
    (fun (attempts, backoff, base, longest) => ⟨attempts, backoff, base, longest⟩)
    (fun p => (p.maxAttempts, p.backoff, p.baseDelayMs, p.maxDelayMs))

/-- Policies as documents. -/
def codec : Codec RetryPolicy := record.codec

/-- Greatest 64-bit word. -/
def maxWord : Nat := Nat.pow 2 64 - 1

/-- Product that stops at the greatest word. -/
def saturatingMul (a b : Nat) : Nat := min (a * b) maxWord

/-- Power of two that stops at the greatest word. -/
def saturatingPowTwo (n : Nat) : Nat := if n < 64 then Nat.pow 2 n else maxWord

/-- Delay in milliseconds before an attempt; attempts count from one, and zero counts as one. -/
def delayMs (p : RetryPolicy) (attempt : Nat) : Nat :=
  let n := max attempt 1
  let raw := match p.backoff with
    | .exponential => saturatingMul p.baseDelayMs (saturatingPowTwo (n - 1))
    | .linear => saturatingMul p.baseDelayMs n
    | .fixed => p.baseDelayMs
  min raw p.maxDelayMs

end RetryPolicy

end PingPost
