/-!
Circuit breakers. The client works with breakers of any make (`CircuitBreaker`). `Breaker` is the
make in use: it counts failures in a row; at its threshold it opens and lets no call through.
Without the passing of time it stays open.
-/

namespace PingPost

/-- Circuit breakers of a make: how a closed one is made for a threshold, whether one lets a call
through, and what it makes of a call that failed or not. -/
class CircuitBreaker (β : Type) where
  closed : Nat → β
  permits : β → Bool
  note : β → Bool → β

/-- A circuit breaker that counts. -/
structure Breaker where
  /-- Failures in a row that open it; at least one. -/
  threshold : Nat
  /-- Failures in a row so far. -/
  failures : Nat
  open_ : Bool
  deriving DecidableEq, Repr

namespace Breaker

/-- A closed breaker. -/
def closed (threshold : Nat) : Breaker := ⟨max threshold 1, 0, false⟩

/-- Whether a call may go through. -/
def permits (b : Breaker) : Bool := !b.open_

/-- The breaker after a call that failed or not. A call that is not let through changes nothing. -/
def note (b : Breaker) (failed : Bool) : Breaker :=
  if b.open_ then b
  else if failed then
    { b with failures := b.failures + 1, open_ := b.threshold ≤ b.failures + 1 }
  else { b with failures := 0 }

@[default_instance]
instance : CircuitBreaker Breaker := ⟨closed, permits, note⟩

end Breaker

end PingPost
