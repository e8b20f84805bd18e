import PingPost.Auction.Result
import PingPost.Exchange.Backlog
import PingPost.Exchange.Ping

/-!
Auctions. The buyers a lead may be offered to are asked for bids; the lead is then offered to the
bidders one after the other, the best bid first, until one of them takes it. A lead that no bidder
takes waits for a retry, unless the last one called it invalid.
-/

namespace PingPost.Exchange

variable {ω : Type}

/-- The ledger entry about a bidder who was passed over. -/
def skippedEntry (id : AuctionId) (leadId : String) (bid : Bid) : Entry where
  auction := some id
  leadId := leadId
  buyerId := bid.buyerId
  action := .delivery
  label := .skipped
  bidAmount := bid.amount
  code := none
  responseTimeMs := 0
  error := some "buyer no longer eligible"
  outcome := .none
  retryCount := 0

/-- The POST of a buyer among those of an auction. -/
def postOf? (posts : List PostResult) (buyerId : String) : Option PostResult :=
  posts.find? fun p => p.buyerId == buyerId

/-- The item for a retry at a bidder. -/
def retryItem (lead : Lead) (id : AuctionId) (bid : Bid) (post : Option PostResult) (buyer : Buyer)
    (service : Service) (now : Instant) : RetryItem :=
  { RetryItem.fresh lead buyer.id service.endpoints.retryPolicy now with
    auction := some id
    bidAmount := bid.amount
    origin := post.bind (·.entry)
    lastError := match post with
      | some p => p.explanation
      | none => some "skipped at delivery" }

/-- The item for a retry at a bidder where it may succeed: the POST failed or was never made, and
the lead may still be offered. -/
def retryAt? (x : Exchange ω) (lead : Lead) (id : AuctionId) (posts : List PostResult)
    (now : Instant) (bid : Bid) : Option RetryItem :=
  let post := postOf? posts bid.buyerId
  if post.any fun p => p.status ≠ .failed then none
  else (x.registry.standing? bid.buyerId lead).map fun (buyer, service) =>
    retryItem lead id bid post buyer service now

/-- The item for a retry at the first bidder where it may succeed. -/
def retryCandidate? (x : Exchange ω) (lead : Lead) (id : AuctionId) (posts : List PostResult)
    (now : Instant) (ranked : List Bid) : Option RetryItem :=
  ranked.findSome? (x.retryAt? lead id posts now)

/-- The item and the reason with which the best bidder's lead is given up. -/
def giveUpItem (x : Exchange ω) (lead : Lead) (id : AuctionId) (posts : List PostResult)
    (now : Instant) (top : Bid) : RetryItem × GivenUp :=
  let policy :=
    ((x.registry.standing? top.buyerId lead).map fun s => s.2.endpoints.retryPolicy).getD .standard
  let item := { RetryItem.fresh lead top.buyerId policy now with
    auction := some id
    bidAmount := top.amount }
  match postOf? posts top.buyerId with
  | some p => ({ item with origin := p.entry, lastError := p.reason }, .answered p.status)
  | none => (item, .noBidder)

/-- Hands an unsold lead over to the backlog, and says whether it was queued. -/
def scheduleRetry (x : Exchange ω) (lead : Lead) (id : AuctionId) (ranked : List Bid)
    (posts : List PostResult) (now : Instant) : Bool × Exchange ω :=
  if posts.getLast?.any fun p => p.status = .invalid then (false, x)
  else
    match x.retryCandidate? lead id posts now ranked with
    | some item => (true, x.enqueue item)
    | none =>
      match ranked with
      | [] => (false, x)
      | top :: _ =>
        let (item, reason) := x.giveUpItem lead id posts now top
        (false, x.giveUp item reason)

/-- Writes the entries about the PINGs. -/
def recordPings (x : Exchange ω) (id : AuctionId) (lead : Lead) (pings : List PingResult)
    (winner : Option String) : Exchange ω :=
  pings.foldl (fun x r => x.record (r.toEntry id lead.id winner)) x

/-- Counts an auction more. -/
def countAuction (x : Exchange ω) : Exchange ω := { x with auctions := x.auctions + 1 }

/-- Notes that an auction ended. -/
def noteAuction (x : Exchange ω) (r : AuctionResult) : AuctionResult × Exchange ω :=
  (r, { x with monitor := x.monitor.auction 0 r.status })

variable [Transport ω]

/-- Whom a bidder's POST would go to now, if the bidder may be offered the lead and be called. -/
def offer? (x : Exchange ω) (buyerId : String) (lead : Lead) : Option (Buyer × Service) :=
  if x.isAvailable buyerId then x.registry.standing? buyerId lead else none

/-- Offers a lead to bidders in order until one takes it. -/
def cascade (x : Exchange ω) (lead : Lead) (id : AuctionId) (now : Instant) :
    List Bid → List PostResult × Option Sale × Exchange ω
  | [] => ([], none, x)
  | bid :: rest =>
    let x := x.interlude
    match x.offer? bid.buyerId lead with
    | none => (x.record (skippedEntry id lead.id bid)).cascade lead id now rest
    | some (buyer, service) =>
      match x.deliver lead buyer service (.ofAuction id bid.amount) now with
      | (p, x) =>
        if p.success then ([p], some ⟨buyer.id, bid.amount, p⟩, x)
        else
          let (posts, sale, x) := x.cascade lead id now rest
          (p :: posts, sale, x)

/-- Sells a lead to one of the bidders, or hands it over to the backlog. -/
def sell (x : Exchange ω) (lead : Lead) (id : AuctionId) (participants : Nat)
    (bids ranked : List Bid) (now : Instant) : AuctionResult × Exchange ω :=
  let (posts, sale, x) := x.cascade lead id now ranked
  match sale with
  | some s =>
    (⟨id, lead.id, .completed, some s, bids, participants, posts, some s.post, false, none⟩, x)
  | none =>
    let (queued, x) := x.interlude.scheduleRetry lead id ranked posts now
    (⟨id, lead.id, .failed, none, bids, participants, posts, posts.getLast?, queued,
      some .exhausted⟩, x)

/-- How an auction without a usable bid ended. -/
def unsoldStatus (bids : List Bid) : AuctionStatus :=
  if bids.all (·.timedOut) then .timeout else .noBids

/-- Takes bids for a lead and sells it. -/
def auctionAmong (x : Exchange ω) (lead : Lead) (id : AuctionId) (ps : List Participant)
    (now : Instant) : AuctionResult × Exchange ω :=
  let (pings, x) := x.pingAll lead ps now
  let bids := pings.map (·.bid)
  let ranked := Bid.ranking bids
  let (r, x) :=
    if ranked.isEmpty then (.unsold id lead.id (unsoldStatus bids) ps.length bids none, x)
    else x.sell lead id ps.length bids ranked now
  (r, x.recordPings id lead pings r.winningBuyerId)

/-- Runs an auction. -/
def runAuction (x : Exchange ω) (lead : Lead) (now : Instant) : AuctionResult × Exchange ω :=
  let id := AuctionId.issued x.auctions
  let x := x.countAuction
  match lead.check with
  | .error e => x.noteAuction (.unsold id lead.id .failed 0 [] (some (.invalidLead e)))
  | .ok () =>
    match x.participants lead with
    | [] => x.noteAuction (.unsold id lead.id .noBids 0 [] (some .noBuyers))
    | ps =>
      let (r, x) := x.auctionAmong lead id ps now
      x.noteAuction r

/-- Runs an auction that may break off. -/
def auction? (x : Exchange ω) (lead : Lead) (now : Instant) :
    Option (AuctionResult × Exchange ω) :=
  outcome? (x.runAuction lead now)

end PingPost.Exchange
