/-! Names of auctions. -/

namespace PingPost

/-- An auction: one the exchange ran, by its number, or one that a caller named. -/
inductive AuctionId where
  | issued (n : Nat)
  | named (s : String)
  deriving DecidableEq, Repr

end PingPost
