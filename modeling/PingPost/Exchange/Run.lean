import PingPost.Exchange.Requests

/-!
Runs of an exchange: what may be asked of it, and what others do meanwhile, in any order.

A sweep may be asked for as a whole or item by item, since others may be served between two of its
items.
-/

namespace PingPost

/-- What may happen to an exchange. -/
inductive Event (ω : Type) where
  /-- An auction is run, without and with a check of the lead before. -/
  | auction (lead : Lead) (now : Instant)
  | request (lead : Lead) (now : Instant)
  | sweep (now clock : Instant)
  | sweepItem (key : RetryKey) (now clock : Instant)
  | upsert (buyerId : String) (buyer : Buyer)
  | webhook (buyerId : String) (signature timestamp : Option String) (body : List UInt8)
      (now : Instant)
  | preview (buyerId : String) (kind : CallKind) (lead : Lead) (now : Instant)
  /-- Others change the registry or the world. -/
  | others (act : Registry → ω → Registry × ω)

namespace Exchange

variable {ω : Type} [Transport ω]

/-- The exchange after something happened. -/
def step (x : Exchange ω) : Event ω → Exchange ω
  | .auction lead now => (x.runAuction lead now).2
  | .request lead now => (x.requestAuction lead now).2
  | .sweep now clock => (x.sweep now clock).2
  | .sweepItem key now clock => (x.sweepKey .empty key now clock).2
  | .upsert buyerId buyer => (x.upsertBuyer buyerId buyer).2
  | .webhook buyerId signature timestamp body now =>
    (x.receiveWebhook buyerId signature timestamp body now).2
  | .preview buyerId kind lead now => (x.preview buyerId kind lead now).2
  | .others act =>
    let (registry, world) := act x.registry x.world
    { x with registry, world }

/-- The exchange after some things happened one after the other. -/
def run (x : Exchange ω) : List (Event ω) → Exchange ω
  | [] => x
  | e :: events => (x.step e).run events

/-- The exchange after something happened that did not break off. -/
def step? (x : Exchange ω) (e : Event ω) : Option (Exchange ω) :=
  if (x.step e).completed then some (x.step e) else none

/-- The exchange after some things happened one after the other, none of which broke off. -/
def run? (x : Exchange ω) : List (Event ω) → Option (Exchange ω)
  | [] => some x
  | e :: events => (x.step? e).bind (·.run? events)

theorem run_append (x : Exchange ω) (before after : List (Event ω)) :
    x.run (before ++ after) = (x.run before).run after := by
  induction before generalizing x with
  | nil => rfl
  | cons e before ih => exact ih (x.step e)

end Exchange

end PingPost
