import PingPost.Json.Codec

/-! Bids: what came of a PING, and the order in which the bidders are offered the lead. -/

namespace PingPost

/-- A buyer's answer to a PING. -/
structure Bid where
  buyerId : String
  buyerName : String
  /-- Whether the buyer accepted and there is a usable amount. -/
  success : Bool
  amount : Option Float64.Word
  responseTimeMs : Nat
  priority : Nat
  rawStatus : Option String
  error : Option String
  timedOut : Bool

namespace Bid

/-- The fields of a bid. -/
def record : Record Bid :=
  (Record.and (.required "buyerId" .text) <|
    .and (.required "buyerName" .text) <|
    .and (.required "success" .bool) <|
    .and (.nullable "bidAmount" .amount) <|
    .and (.required "responseTimeMs" (.word 64)) <|
    .and (.required "priority" (.word 32)) <|
    .and (.nullable "rawStatus" .text) <|
    .and (.nullable "error" .text) <|
    .one (.withDefault "timedOut" .bool false)).via
    (fun (buyerId, buyerName, success, amount, time, priority, rawStatus, error, timedOut) =>
      ⟨buyerId, buyerName, success, amount, time, priority, rawStatus, error, timedOut⟩)
    (fun b => (b.buyerId, b.buyerName, b.success, b.amount, b.responseTimeMs, b.priority,
      b.rawStatus, b.error, b.timedOut))

/-- Bids as documents. -/
def codec : Codec Bid := record.codec

/-- The amount of a bid that can be taken up. -/
def usable? (b : Bid) : Option Float64.Word := if b.success then b.amount else none

/-- Key by which usable bids are compared: greater amounts come first, then higher priorities,
faster answers, and earlier buyer names. -/
structure Rank where
  amount : Int
  priority : Nat
  time : Nat
  buyerId : String
  deriving DecidableEq

/-- The rank of a bid; a bid without an amount ranks below all amounts. -/
def rank (b : Bid) : Rank :=
  ⟨(b.amount.map Float64.Word.orderKey).getD (-Nat.pow 2 64), b.priority, b.responseTimeMs,
    b.buyerId⟩

/-- Whether a rank may stand before another. -/
def Rank.precedes (r s : Rank) : Bool :=
  if r.amount ≠ s.amount then s.amount < r.amount
  else if r.priority ≠ s.priority then s.priority < r.priority
  else if r.time ≠ s.time then r.time < s.time
  else r.buyerId ≤ s.buyerId

/-- The usable bids, the best first. -/
def ranking (bids : List Bid) : List Bid :=
  (bids.filter fun b => b.usable?.isSome).mergeSort fun a b => a.rank.precedes b.rank

@[simp] theorem ranking_nil : ranking [] = [] := by simp [ranking]

theorem ranking_perm (bids : List Bid) :
    (ranking bids).Perm (bids.filter fun b => b.usable?.isSome) :=
  List.mergeSort_perm _ _

@[simp] theorem mem_ranking {bids : List Bid} {b : Bid} :
    b ∈ ranking bids ↔ b ∈ bids ∧ b.usable?.isSome = true := by
  rw [(ranking_perm bids).mem_iff, List.mem_filter]

end Bid

end PingPost
