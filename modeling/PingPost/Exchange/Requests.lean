import PingPost.Exchange.Auction
import PingPost.Http.Problem
import PingPost.Text.Utf8

/-!
Requests to the exchange: running an auction, looking at a payload without sending it, registering
a buyer, taking in a webhook, and asking after the exchange's health.
-/

namespace PingPost

/-- What a webhook said. -/
structure Receipt where
  buyerId : String
  leadId : Option String
  status : PostStatus
  buyerLeadId : Option String
  reason : Option String
  deriving DecidableEq, Repr

/-- Whether a registration was the first of its buyer. -/
inductive Registered where
  | created
  | updated
  deriving DecidableEq, Repr

namespace Webhook

/-- Where the body of a webhook may name the lead. -/
def leadIdPaths : List String := ["leadId", "lead_id", "externalId", "data.leadId"]

/-- The lead that a body names. -/
def leadId? (body : String) : Option String :=
  let v := (Json.read? body).getD .null
  (leadIdPaths.filterMap fun path => (v.lookup? path).map Json.asText).find? fun s =>
    !Text.isBlankText s

/-- The lead of an entry when a body names none. -/
def unknownLead : String := "unknown"

/-- The ledger entry about a webhook. -/
def toEntry (buyerId : String) (leadId : Option String) (a : PostAnswer) : Entry where
  auction := none
  leadId := leadId.getD unknownLead
  buyerId := buyerId
  action := .webhook
  label := a.status.label
  bidAmount := none
  code := none
  responseTimeMs := 0
  error := a.reason
  outcome := if a.status = .delivered then .won else .lost
  retryCount := 0

end Webhook

/-- A buyer must be valid, and so must all templates. -/
def Buyer.checkAll (b : Buyer) : Except FieldError Unit := do
  b.check
  for s in b.services do
    s.pingTemplate.check
    s.postTemplate.check

namespace Exchange

variable {ω : Type}

/-- The payload that a buyer would get. -/
def preview (x : Exchange ω) (buyerId : String) (kind : CallKind) (lead : Lead) (now : Instant) :
    Except Problem Fields × Exchange ω :=
  match x.registry.get? buyerId with
  | none => (.error (.notFound s!"buyer {buyerId}"), x)
  | some buyer =>
    match buyer.service? lead.serviceType with
    | none =>
      let text := s!"buyer {buyerId} has no configuration for service {lead.serviceType}"
      (.error (.badRequest text), x)
    | some service =>
      let (payload, x) := x.payload kind lead buyer service now
      (payload.mapError .template, x)

/-- Takes in a webhook: it is verified, read in the buyer's vocabulary, and put on record. -/
def receiveWebhook (x : Exchange ω) (buyerId : String) (signature timestamp : Option String)
    (body : List UInt8) (now : Instant) : Except WebhookError Receipt × Exchange ω :=
  match x.verifier.verify buyerId signature timestamp body now.seconds with
  | .error e => (.error e, x)
  | .ok () =>
    let text := Text.ofBytes body
    let (answer, x) := x.readPost buyerId 200 text
    let leadId := Webhook.leadId? text
    let receipt : Receipt := ⟨buyerId, leadId, answer.status, answer.leadId, answer.reason⟩
    (.ok receipt, x.record (Webhook.toEntry buyerId leadId answer))

/-- The state of the exchange in a few numbers. -/
def health (x : Exchange ω) : Json := .object [
  ("buyers", .int x.registry.length),
  ("limits", .object [
    ("maxConcurrentPings", .int x.settings.maxConcurrentPings),
    ("maxPayloadBytes", .int x.settings.maxPayloadBytes),
    ("retrySweepIntervalSecs", .int x.settings.sweepIntervalSecs)]),
  ("pendingRetries", .int x.backlog.length),
  ("service", .text "rust-lead-broker"),
  ("status", .text "healthy"),
  ("version", .text "0.1.0")]

variable [Transport ω]

/-- Runs an auction for a lead that is valid. -/
def requestAuction (x : Exchange ω) (lead : Lead) (now : Instant) :
    Except Problem AuctionResult × Exchange ω :=
  match lead.check with
  | .error e => (.error (.template (.invalid e)), x)
  | .ok () =>
    let (r, x) := x.runAuction lead now
    (.ok r, x)

/-- Registers a buyer under an id. What is remembered of an earlier buyer of the id is forgotten. -/
def upsertBuyer (x : Exchange ω) (buyerId : String) (buyer : Buyer) :
    Except Problem Registered × Exchange ω :=
  if buyer.id ≠ buyerId then
    let text := s!"path buyer id {buyerId} does not match body id {buyer.id}"
    (.error (.badRequest text), x)
  else match buyer.checkAll with
    | .error e => (.error (.template (.invalid e)), x)
    | .ok () =>
      let registered := if x.registry.has buyerId then Registered.updated else .created
      let x := { x with registry := x.registry.upsert buyer }.invalidate buyerId
      (.ok registered, { x with world := Transport.reset x.world buyerId })

/-- A registration is refused and changes nothing, or the buyer is registered. -/
theorem upsertBuyer_cases (x : Exchange ω) (buyerId : String) (buyer : Buyer) :
    (buyer.id ≠ buyerId ∧ x.upsertBuyer buyerId buyer =
      (.error (.badRequest s!"path buyer id {buyerId} does not match body id {buyer.id}"), x)) ∨
    (∃ e, buyer.checkAll = .error e ∧
      x.upsertBuyer buyerId buyer = (.error (.template (.invalid e)), x)) ∨
    (buyer.id = buyerId ∧ buyer.checkAll = .ok () ∧ x.upsertBuyer buyerId buyer =
      (.ok (if x.registry.has buyerId then .updated else .created),
        { x with
          registry := x.registry.upsert buyer
          vocabularies := x.vocabularies.erase buyerId
          world := Transport.reset x.world buyerId })) := by
  by_cases hid : buyer.id = buyerId
  · unfold upsertBuyer
    rw [if_neg (not_not_intro hid)]
    rcases hall : buyer.checkAll with e | ⟨⟩
    · exact .inr (.inl ⟨e, rfl, rfl⟩)
    · exact .inr (.inr ⟨hid, rfl, rfl⟩)
  · exact .inl ⟨hid, if_pos hid⟩

end Exchange

end PingPost
