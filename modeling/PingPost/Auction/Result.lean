import PingPost.Auction.Bid
import PingPost.Auction.Status
import PingPost.Delivery.Basic
import PingPost.Validation.Complaint

/-! Results of auctions. -/

namespace PingPost

/-- Why an auction sold nothing. -/
inductive AuctionError where
  | invalidLead (error : FieldError)
  | noBuyers
  | exhausted
  deriving DecidableEq

/-- Who bought a lead, and for how much. -/
structure Sale where
  buyerId : String
  amount : Option Float64.Word
  /-- The POST with which the buyer took the lead. -/
  post : PostResult

/-- The result of an auction. -/
structure AuctionResult where
  id : AuctionId
  leadId : String
  status : AuctionStatus
  sale : Option Sale
  bids : List Bid
  participants : Nat
  /-- The POSTs in the order in which they were made. -/
  attempts : List PostResult
  /-- The POST that decided the auction. -/
  post : Option PostResult
  retryScheduled : Bool
  error : Option AuctionError

/-- Wording of an error of an auction that goes by the given name. -/
def AuctionError.message (auction : String) : AuctionError → String
  | .invalidLead e => s!"auction {auction}: invalid lead: {e.message}"
  | .noBuyers => "no eligible buyers"
  | .exhausted => "delivery cascade exhausted"

namespace AuctionResult

/-- An auction in which nothing was bid. -/
def unsold (id : AuctionId) (leadId : String) (status : AuctionStatus) (participants : Nat)
    (bids : List Bid) (error : Option AuctionError) : AuctionResult :=
  ⟨id, leadId, status, none, bids, participants, [], none, false, error⟩

/-- The buyer who took the lead. -/
def winningBuyerId (r : AuctionResult) : Option String := r.sale.map (·.buyerId)

/-- What the lead was sold for. -/
def winningBidAmount (r : AuctionResult) : Option Float64.Word := r.sale.bind (·.amount)

end AuctionResult

end PingPost
