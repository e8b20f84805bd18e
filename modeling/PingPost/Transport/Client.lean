import PingPost.Transport.Basic
import PingPost.Transport.Breaker

/-!
The client's bookkeeping: one breaker for each buyer whose calls are guarded. The breaker is made
for the first guarded call, by the limits that hold then.
-/

namespace PingPost

/-- The breakers by buyer. -/
structure Client (β : Type) where
  breakers : Table String β

namespace Client

variable {β : Type}

/-- A client that has made no call. -/
def fresh : Client β := ⟨[]⟩

/-- Forgets the breaker of a buyer. -/
def reset (c : Client β) (buyerId : String) : Client β := ⟨c.breakers.erase buyerId⟩

/-- Whether a call counts as failed: no answer, or an error of the server. -/
def isFailure : Except TransportError Reply → Bool
  | .ok reply => 500 ≤ reply.code
  | .error _ => true

variable [CircuitBreaker β]

/-- Whether a buyer may be called. -/
def isAvailable (c : Client β) (buyerId : String) : Bool :=
  match c.breakers.get? buyerId with
  | some b => CircuitBreaker.permits b
  | none => true

/-- The breaker that guards a buyer's calls. -/
def guard (c : Client β) (buyerId : String) (settings : Settings) : β :=
  (c.breakers.get? buyerId).getD (CircuitBreaker.closed (max settings.failureThreshold 1))

/-- A call. It is made only if the breaker lets it through, and then has the outcome given. -/
def send (c : Client β) (buyerId : String) (settings : Settings)
    (outcome : Except TransportError Reply) : Except TransportError Reply × Client β :=
  if settings.failover then
    let breaker := c.guard buyerId settings
    if CircuitBreaker.permits breaker then
      (outcome, ⟨c.breakers.put buyerId (CircuitBreaker.note breaker (isFailure outcome))⟩)
    else (.error (.circuitOpen buyerId), ⟨c.breakers.put buyerId breaker⟩)
  else (outcome, c)

end Client

end PingPost
