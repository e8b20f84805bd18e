import PingPost.Ledger.Basic
import PingPost.Transport.Basic

/-! What became of a POST. -/

namespace PingPost

/-- The result of a POST. -/
structure PostResult where
  buyerId : String
  status : PostStatus
  buyerLeadId : Option String
  reason : Option String
  code : Option Nat
  responseTimeMs : Nat
  shouldRetry : Bool
  error : Option String
  /-- Position of the ledger entry about the POST. -/
  entry : Option Nat
  deriving DecidableEq, Repr

/-- Why and for which auction a POST is made. -/
structure DeliveryContext where
  auction : Option AuctionId
  action : Action
  bidAmount : Option Float64.Word
  retryCount : Nat

namespace DeliveryContext

/-- A POST of an auction. -/
def ofAuction (id : AuctionId) (bidAmount : Option Float64.Word) : DeliveryContext :=
  ⟨some id, .post, bidAmount, 0⟩

/-- A POST that is tried again. -/
def ofRetry (id : Option AuctionId) (bidAmount : Option Float64.Word) (count : Nat) :
    DeliveryContext :=
  ⟨id, .retry, bidAmount, count⟩

end DeliveryContext

namespace PostResult

/-- Whether the buyer took the lead. -/
def success (p : PostResult) : Bool := p.status = .delivered

@[simp] theorem success_iff {p : PostResult} : p.success = true ↔ p.status = .delivered := by
  simp [success]

@[simp] theorem success_eq_false_iff {p : PostResult} :
    p.success = false ↔ p.status ≠ .delivered := by
  simp [success]

/-- What went wrong, or what the buyer gave as the reason. -/
def explanation (p : PostResult) : Option String := p.error.or p.reason

/-- Whether the buyer's system works: a refusal comes from a working one, a missing answer, an
error of the server or a request for patience does not. -/
def isHealthy (p : PostResult) : Bool :=
  !p.shouldRetry &&
    match p.code with
    | some code => code < 500
    | none => p.status ≠ .failed

/-- A POST without an answer. -/
def unanswered (buyerId : String) (status : PostStatus) (shouldRetry : Bool) (error : String)
    (elapsedMs : Nat) : PostResult :=
  ⟨buyerId, status, none, none, none, elapsedMs, shouldRetry, some error, none⟩

/-- A POST with an answer. -/
def answered (buyerId : String) (reply : Reply) (a : PostAnswer) : PostResult :=
  ⟨buyerId, a.status, a.leadId, a.reason, some reply.code, reply.elapsedMs, a.shouldRetry, none,
    none⟩

/-- The ledger entry about a POST. -/
def toEntry (p : PostResult) (leadId : String) (label : Label) (context : DeliveryContext) :
    Entry where
  auction := context.auction
  leadId := leadId
  buyerId := p.buyerId
  action := context.action
  label := label
  bidAmount := context.bidAmount
  code := p.code
  responseTimeMs := p.responseTimeMs
  error := if p.success then none else p.explanation
  outcome := if p.success then .won else .lost
  retryCount := context.retryCount

end PostResult

/-- The end that a missing answer to a POST is. -/
def TransportError.label : TransportError → Label
  | .timeout _ => .timeout
  | .circuitOpen _ => .circuitOpen
  | .connection _ | .invalidRequest _ => .error

@[simp] theorem TransportError.label_ne_delivered (e : TransportError) :
    e.label ≠ .delivered := by
  cases e <;> simp [TransportError.label]

end PingPost
