import PingPost.Auction.Bid
import PingPost.Exchange.Basic

/-!
Asking the buyers: all PINGs of an auction go out at once, but never more than the exchange allows
at a time; the others wait for a free slot, and their time starts to run when they get it.

Time is counted in milliseconds from the start. At any moment answers that have arrived are taken
in before new calls are made, and of several the earlier buyer's first.
-/

namespace PingPost

/-- A buyer to ask. -/
structure Participant where
  buyer : Buyer
  service : Service

/-- A bid with what the ledger says about it. -/
structure PingResult where
  bid : Bid
  code : Option Nat
  label : Label

namespace Participant

/-- A bid of nothing. -/
def noBid (p : Participant) : Bid :=
  ⟨p.buyer.id, p.buyer.name, false, none, 0, p.service.priority, none, none, false⟩

/-- The buyer could not be asked. -/
def unasked (p : Participant) (e : TemplateError) : PingResult :=
  ⟨{ p.noBid with error := some e.message }, none, .invalid⟩

/-- The buyer did not answer. -/
def unanswered (p : Participant) (e : TransportError) (elapsedMs : Nat) : PingResult :=
  let bid := { p.noBid with responseTimeMs := elapsedMs }
  if e.isTimeout then
    let e := TransportError.timeout p.service.endpoints.pingTimeoutMs
    ⟨{ bid with timedOut := true, error := some e.message }, none, .timeout⟩
  else ⟨{ bid with error := some e.message }, none, .error⟩

/-- The bid of a buyer who accepted. -/
def priced (bid : Bid) : BidPrice → Bid
  | .amount x => { bid with success := true, amount := some (.ofFloat x) }
  | .belowFloor x =>
    { bid with
      amount := some (.ofFloat x)
      error := some ("bid " ++ Float64.fixedText 2 x ++ " below floor") }
  | .unpriced => { bid with error := some "accepted without a bid amount" }

/-- The buyer answered; the facts of the lead decide on the price. -/
def answered (p : Participant) (reply : Reply) (a : PingAnswer) (facts : Json)
    (elapsedMs : Nat) : PingResult :=
  let bid := { p.noBid with responseTimeMs := elapsedMs, rawStatus := a.rawStatus }
  let bid :=
    if a.status = .accepted then priced bid (p.service.pricing.price a.amount facts)
    else { bid with error := a.reason }
  ⟨bid, some reply.code, a.status.label⟩

end Participant

namespace PingResult

/-- Whether the buyer's system works. -/
def isHealthy (r : PingResult) : Bool := !r.bid.timedOut && r.label ≠ .error

/-- The ledger entry about a PING, once the winner is known. -/
def toEntry (r : PingResult) (id : AuctionId) (leadId : String) (winner : Option String) :
    Entry where
  auction := some id
  leadId := leadId
  buyerId := r.bid.buyerId
  action := .ping
  label := r.label
  bidAmount := r.bid.amount
  code := r.code
  responseTimeMs := r.bid.responseTimeMs
  error := r.bid.error
  outcome :=
    if winner = some r.bid.buyerId then .won else if r.bid.success then .lost else .none
  retryCount := 0

end PingResult

/-- A PING that is ready to be sent. -/
structure Waiting where
  index : Nat
  participant : Participant
  body : Fields

/-- A PING on its way. -/
structure Flying (ω : Type) where
  index : Nat
  participant : Participant
  flight : Flight ω
  launchedAt : Nat

/-- The PINGs of an auction. -/
structure Board (ω : Type) where
  exchange : Exchange ω
  clock : Nat
  waiting : List Waiting
  flying : List (Flying ω)
  /-- What came of the PINGs so far, by index. -/
  results : Table Nat PingResult

namespace Flying

variable {ω : Type}

/-- Whether the answer comes too late. -/
def isLate (f : Flying ω) : Bool :=
  f.participant.service.endpoints.pingTimeoutMs < f.flight.delayMs

/-- When the answer arrives or the time runs out. -/
def dueAt (f : Flying ω) : Nat :=
  f.launchedAt + min f.flight.delayMs f.participant.service.endpoints.pingTimeoutMs

/-- Whether one PING is done before another. -/
def precedes (f g : Flying ω) : Bool :=
  f.dueAt < g.dueAt || (f.dueAt == g.dueAt && f.index ≤ g.index)

/-- The PING that is done first, and the others. -/
def first? : List (Flying ω) → Option (Flying ω × List (Flying ω))
  | [] => none
  | f :: rest =>
    match first? rest with
    | none => some (f, [])
    | some (g, others) => if f.precedes g then some (f, rest) else some (g, f :: others)

end Flying

namespace Board

variable {ω : Type} [Transport ω]

/-- Makes the payloads; where that fails, that is the result. -/
def start (x : Exchange ω) (lead : Lead) (now : Instant) : Nat → List Participant → Board ω
  | _, [] => ⟨x, 0, [], [], []⟩
  | i, p :: rest =>
    match x.payload .ping lead p.buyer p.service now with
    | (.error e, x) =>
      let b := start x lead now (i + 1) rest
      { b with results := b.results.put i (p.unasked e) }
    | (.ok body, x) =>
      let b := start x lead now (i + 1) rest
      { b with waiting := ⟨i, p, body⟩ :: b.waiting }

/-- What a PING that is done gives. -/
def settle (x : Exchange ω) (facts : Json) (f : Flying ω) : PingResult × Exchange ω :=
  let p := f.participant
  let elapsed := f.flight.measuredMs
  if f.isLate then (p.unanswered (.timeout p.service.endpoints.pingTimeoutMs) elapsed, x)
  else
    let x := x.arrive f.flight
    match f.flight.outcome with
    | .error e => (p.unanswered e elapsed, x)
    | .ok reply =>
      let (answer, x) := x.readPing p.buyer.id reply.code reply.body
      (p.answered reply answer facts elapsed, x)

/-- Takes in a PING that is done. -/
def land (b : Board ω) (facts : Json) (f : Flying ω) (others : List (Flying ω)) : Board ω :=
  let (r, x) := settle b.exchange facts f
  { b with
    exchange := x.noteResponse r.bid.buyerId r.bid.responseTimeMs r.isHealthy
    clock := max b.clock f.dueAt
    flying := others
    results := b.results.put f.index r }

/-- Sends the next PING. -/
def launch (b : Board ω) (w : Waiting) (rest : List Waiting) : Board ω :=
  let (flight, x) := b.exchange.launch
    (Exchange.request .ping w.participant.buyer w.participant.service w.body)
  { b with
    exchange := x
    waiting := rest
    flying := b.flying ++ [⟨w.index, w.participant, flight, b.clock⟩] }

/-- How many PINGs may be on their way at a time. -/
def slots (b : Board ω) : Nat := max b.exchange.settings.maxConcurrentPings 1

/-- The next thing that happens; `none` when all is done. -/
def next? (b : Board ω) (facts : Json) : Option (Board ω) :=
  match Flying.first? b.flying, b.waiting with
  | none, [] => none
  | none, w :: rest => some (b.launch w rest)
  | some (f, others), [] => some (b.land facts f others)
  | some (f, others), w :: rest =>
    if f.dueAt ≤ b.clock then some (b.land facts f others)
    else if b.flying.length < b.slots then some (b.launch w rest)
    else some (b.land facts f others)

/-- Lets a number of things happen. -/
def run (facts : Json) : Nat → Board ω → Board ω
  | 0, b => b
  | n + 1, b =>
    match b.next? facts with
    | none => b
    | some b => run facts n b

end Board

namespace Exchange

variable {ω : Type} [Transport ω]

/-- The buyers to ask about a lead: those it may be offered to and who may be called. -/
def participants (x : Exchange ω) (lead : Lead) : List Participant :=
  (x.registry.eligible lead).filterMap fun buyer =>
    if x.isAvailable buyer.id then (buyer.serviceFor? lead).map fun s => ⟨buyer, s⟩ else none

/-- Asks some buyers about a lead. Every PING is sent once and is done once. -/
def pingAll (x : Exchange ω) (lead : Lead) (ps : List Participant) (now : Instant) :
    List PingResult × Exchange ω :=
  let facts := Json.object (lead.facts now)
  let b := Board.run facts (2 * ps.length) (Board.start x lead now 0 ps)
  (b.results.map (·.2), b.exchange)

end Exchange

end PingPost
