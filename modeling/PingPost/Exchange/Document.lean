import PingPost.Exchange.Requests

/-!
The results and the state of an exchange as documents.

Auctions and ledger entries are shown under names that are given in the order in which they first
appear: `auction-1`, `auction-2`, …, and `txn-1`, `txn-2`, …. The documents of everything that
shows them are written in a state that remembers the names.
-/

namespace PingPost

/-- The auctions and the ledger entries that have names, in the order of the names. -/
structure Names where
  auctions : List Nat
  entries : List Nat

/-- Writing documents that show names. -/
abbrev Naming := StateM Names

/-- A number that need not be finite. -/
def Json.ofAnyFloat (x : Float) : Json :=
  if x.isFinite then .ofFloat x else .text (Float64.nonFiniteText x)

/-- An amount that need not be there. -/
def Json.ofAmount (amount : Option Float64.Word) : Json :=
  .ofOption (fun w => .ofAnyFloat w.toFloat) amount

namespace Naming

/-- The place of a number in a list, to which it is added if it is not there. -/
def place (n : Nat) (known : List Nat) : Nat × List Nat :=
  let i := known.idxOf n
  if i < known.length then (i + 1, known) else (known.length + 1, known ++ [n])

/-- The name of an auction. -/
def auction : AuctionId → Naming String
  | .named s => pure s
  | .issued n => modifyGet fun names =>
    let (i, known) := place n names.auctions
    (s!"auction-{i}", { names with auctions := known })

/-- The name of a ledger entry. -/
def entry (n : Nat) : Naming String := modifyGet fun names =>
  let (i, known) := place n names.entries
  (s!"txn-{i}", { names with entries := known })

/-- The document of an optional datum. -/
def ofOption {α : Type} (f : α → Naming String) : Option α → Naming Json
  | none => pure .null
  | some a => Json.text <$> f a

end Naming

/-- Fields as an object, in order. -/
def Json.ofFields (fields : List (String × Json)) : Json := .object (Table.ofList fields)

/-- A call as a document. -/
def Request.toJson (r : Request) : Json := Json.ofFields [
  ("buyerId", .text r.buyerId), ("kind", CallKind.codec.encode r.kind), ("url", .text r.url),
  ("auth", Auth.codec.encode r.auth), ("timeoutMs", .int r.timeoutMs), ("body", .object r.body)]

/-- A bid as a document of an auction; the response time is not shown. -/
def Bid.toJson (b : Bid) : Json := Json.ofFields [
  ("buyerId", .text b.buyerId), ("buyerName", .text b.buyerName), ("success", .bool b.success),
  ("bidAmount", .ofAmount b.amount), ("priority", .int b.priority),
  ("rawStatus", .ofOption .text b.rawStatus), ("error", .ofOption .text b.error),
  ("timedOut", .bool b.timedOut)]

/-- The response time of a call that was answered. -/
def responseTimeField (code : Option Nat) (ms : Nat) : List (String × Json) :=
  if code.isSome then [("responseTimeMs", .int ms)] else []

/-- A code as a document. -/
def codeJson (code : Option Nat) : Json := .ofOption (fun n : Nat => .int n) code

/-- The result of a POST as a document. -/
def PostResult.toJson (p : PostResult) : Naming Json := do
  let entry ← Naming.ofOption Naming.entry p.entry
  return Json.ofFields <| [("buyerId", .text p.buyerId), ("success", .bool p.success),
    ("status", .text p.status.name), ("buyerLeadId", .ofOption .text p.buyerLeadId),
    ("reason", .ofOption .text p.reason), ("httpStatus", codeJson p.code),
    ("shouldRetry", .bool p.shouldRetry), ("error", .ofOption .text p.error),
    ("transactionId", entry)] ++ responseTimeField p.code p.responseTimeMs

/-- The result of an auction as a document. -/
def AuctionResult.toJson (r : AuctionResult) : Naming Json := do
  let id ← Naming.auction r.id
  let attempts ← r.attempts.mapM PostResult.toJson
  let final ← r.post.mapM PostResult.toJson
  return Json.ofFields [("auctionId", .text id), ("leadId", .text r.leadId),
    ("status", .text r.status.name),
    ("winningBuyerId", .ofOption .text r.winningBuyerId),
    ("winningBidAmount", .ofAmount r.winningBidAmount),
    ("bids", .list (r.bids.map Bid.toJson)), ("participantCount", .int r.participants),
    ("postResult", final.getD .null), ("deliveryAttempts", .list attempts),
    ("retryScheduled", .bool r.retryScheduled),
    ("error", .ofOption (fun e => .text (e.message id)) r.error)]

/-- A ledger entry at a position as a document. -/
def Entry.toJson (position : Nat) (e : Entry) : Naming Json := do
  let id ← Naming.entry position
  let auction ← Naming.ofOption Naming.auction e.auction
  let timed := e.action = .post ∨ e.action = .retry
  return Json.ofFields <| [("id", .text id), ("auctionId", auction), ("leadId", .text e.leadId),
    ("buyerId", .text e.buyerId), ("actionType", .text e.action.name),
    ("status", .text e.label.name), ("bidAmount", .ofAmount e.bidAmount),
    ("httpStatus", codeJson e.code), ("errorMessage", .ofOption .text e.error),
    ("outcome", .text e.outcome.name), ("retryCount", .int e.retryCount)] ++
    if timed then responseTimeField e.code e.responseTimeMs else []

/-- The time of a next attempt: by the calendar before 2011 and from 2100 on, else by the
milliseconds since the item was queued. -/
def RetryItem.timeJson (i : RetryItem) : Json :=
  let year := i.nextAttemptAt.date.year
  if year < 2011 ∨ 2100 ≤ year then .text i.nextAttemptAt.toRfc3339Millis
  else .object [("afterEnqueueMs", .int ((i.nextAttemptAt.nanosSince i.enqueuedAt).tdiv 1000000))]

/-- A waiting item as a document. -/
def RetryItem.toJson (i : RetryItem) : Naming Json := do
  let auction ← Naming.ofOption Naming.auction i.auction
  let origin ← Naming.ofOption Naming.entry i.origin
  return Json.ofFields [("leadId", .text i.lead.id), ("buyerId", .text i.buyerId),
    ("auctionId", auction), ("bidAmount", .ofAmount i.bidAmount),
    ("originTransactionId", origin), ("policy", RetryPolicy.codec.encode i.policy),
    ("attempts", .int i.attempts), ("nextAttemptAt", i.timeJson),
    ("lastError", .ofOption .text i.lastError)]

/-- A lead that was given up as a document. -/
def DeadLetter.toJson (d : DeadLetter) : Naming Json := do
  let item ← d.item.toJson
  return .object [("item", item), ("reason", .text d.reason.message)]

/-- The report of a sweep as a document. -/
def SweepReport.toJson (r : SweepReport) : Json := .object [
  ("attempted", .int r.attempted), ("deadLettered", .int r.deadLettered),
  ("delivered", .int r.delivered), ("rescheduled", .int r.rescheduled)]

/-- A receipt as a document. -/
def Receipt.toJson (r : Receipt) : Json := Json.ofFields [
  ("buyerId", .text r.buyerId), ("leadId", .ofOption .text r.leadId),
  ("status", .text r.status.name), ("buyerLeadId", .ofOption .text r.buyerLeadId),
  ("reason", .ofOption .text r.reason)]

/-- The counters of a buyer that do not depend on time as a document. -/
def BuyerMetrics.countersJson (m : BuyerMetrics) : Json := .object [
  ("errorRate", m.errorRate.toJson), ("failures", .int m.failures), ("requests", .int m.requests),
  ("successRate", m.successRate.toJson)]

/-- The counters of a monitor that do not depend on time as a document. -/
def Monitor.countersJson (m : Monitor) : Json := Json.ofFields [
  ("transformations", .int m.transformations),
  ("transformationFailures", .int m.transformationFailures),
  ("validationSamples", .int m.validationTime.samples),
  ("auctionSamples", .int m.auctionDuration.samples),
  ("auctionsByStatus", .object (m.auctionsByStatus.map fun (name, n) => (name, .int n))),
  ("buyers", .object (m.buyers.map fun (id, b) => (id, b.countersJson)))]

namespace Registered

/-- HTTP code of a registration. -/
def code : Registered → Nat
  | created => 201
  | updated => 200

/-- Name of a registration. -/
def name : Registered → String
  | created => "created"
  | updated => "updated"

end Registered

end PingPost
