import PingPost.Json.Codec

/-! How an auction ended. -/

namespace PingPost

/-- The end of an auction. -/
inductive AuctionStatus where
  | completed
  | failed
  | timeout
  | noBids
  deriving DecidableEq, Repr

namespace AuctionStatus

/-- The ends by their names. -/
def entries : List (String × AuctionStatus) :=
  [("completed", .completed), ("failed", .failed), ("timeout", .timeout), ("no_bids", .noBids)]

/-- Ends as documents. -/
def codec : Codec AuctionStatus := .names entries

/-- Name of an end. -/
def name : AuctionStatus → String
  | completed => "completed"
  | failed => "failed"
  | timeout => "timeout"
  | noBids => "no_bids"

end AuctionStatus

end PingPost
