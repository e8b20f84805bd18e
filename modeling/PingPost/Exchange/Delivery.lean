import PingPost.Exchange.Basic

/-! Delivering a lead to a buyer by a POST, for an auction or for a retry. -/

namespace PingPost.Exchange

variable {ω : Type}

/-- Puts a POST on record: a note in the monitor and an entry in the ledger. -/
def concludePost (x : Exchange ω) (lead : Lead) (context : DeliveryContext) (p : PostResult)
    (label : Label) : PostResult × Exchange ω :=
  let x := x.noteResponse p.buyerId p.responseTimeMs p.isHealthy
  ({ p with entry := some x.ledger.length }, x.record (p.toEntry lead.id label context))

/-- Makes the payload, sends it and reads the answer. Whatever goes wrong is part of the result. -/
def post [Transport ω] (x : Exchange ω) (lead : Lead) (buyer : Buyer) (service : Service)
    (now : Instant) : PostResult × Label × Exchange ω :=
  match x.payload .post lead buyer service now with
  | (.error e, x) => (.unanswered buyer.id .invalid false e.message 0, .invalid, x)
  | (.ok body, x) =>
    match x.call (request .post buyer service body) with
    | (.error e, elapsed, x) =>
      (.unanswered buyer.id .failed true e.message elapsed, e.label, x)
    | (.ok reply, _, x) =>
      let (answer, x) := x.readPost buyer.id reply.code reply.body
      (.answered buyer.id reply answer, answer.status.label, x)

/-- Delivers a lead to a buyer and puts it on record. -/
def deliver [Transport ω] (x : Exchange ω) (lead : Lead) (buyer : Buyer) (service : Service)
    (context : DeliveryContext) (now : Instant) : PostResult × Exchange ω :=
  let (p, label, x) := x.post lead buyer service now
  x.concludePost lead context p label

end PingPost.Exchange
