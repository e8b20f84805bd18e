import PingPost.Proofs.Calls
import PingPost.Proofs.Contract
import PingPost.Proofs.Measurements

/-!
What the monitor knows of the calls to a buyer.

Every response that is noted counts as one call, in the number of requests and in each of the three
averages (`BuyerMetrics.Counter`). A POST whose payload could not be made is put on record like
the others and noted, too, though nothing was sent. So what a counter shows of a buyer is the
number of calls that were handed to the transport and of the POSTs that were not (`Ledger.unsent`):
the difference of both sides (`Exchange.surplus`) is what every operation keeps.
-/

namespace PingPost

/-! ### POSTs that were not sent -/

/-- Whether an entry is about a POST to a buyer that was not sent, because there was no payload. -/
def Entry.isUnsent (e : Entry) (buyerId : String) : Bool :=
  e.buyerId == buyerId && (e.action == .post || e.action == .retry) && e.label == .invalid &&
    e.code.isNone

/-- How many POSTs to a buyer were not sent. -/
def Ledger.unsent (l : Ledger) (buyerId : String) : Nat := l.countP fun e => e.isUnsent buyerId

namespace Exchange

variable {ω : Type}

/-- How many calls to a buyer are on record. -/
def called (x : Exchange (Recorded ω)) (buyerId : String) : Nat :=
  x.world.calls.countP fun c => c.2.buyerId == buyerId

/-- What a counter shows of a buyer beyond the calls that were made and the POSTs that were not. -/
def surplus (c : BuyerMetrics.Counter) (b : String) (x : Exchange (Recorded ω)) : Int :=
  c.read (x.monitor.metrics b) - (x.called b + x.ledger.unsent b)

/-- Whether nothing was noted, nothing called, and nothing written about a POST that was not
sent. -/
structure SameTally (x y : Exchange (Recorded ω)) : Prop where
  buyers : y.monitor.buyers = x.monitor.buyers
  calls : y.world.calls = x.world.calls
  unsent (b : String) : y.ledger.unsent b = x.ledger.unsent b

variable {x y : Exchange (Recorded ω)} (c : BuyerMetrics.Counter) (b : String)

theorem SameTally.surplus (h : x.SameTally y) : y.surplus c b = x.surplus c b := by
  rw [Exchange.surplus, Exchange.surplus, Monitor.metrics, Monitor.metrics, called, called,
    h.buyers, h.calls, h.unsent]

/-! ### What an operation adds -/

variable [Transport ω]

end Exchange

/-! ### The PINGs of an auction -/

namespace Board

open Exchange

variable {ω : Type} (c : BuyerMetrics.Counter) (b : String)

/-- The surplus once all PINGs that are on their way are noted. -/
def surplus (board : Board (Recorded ω)) : Int :=
  board.exchange.surplus c b + board.flying.countP fun f => f.participant.buyer.id == b

variable [Transport ω]

end Board

namespace Exchange

variable {ω : Type} [Transport ω] (c : BuyerMetrics.Counter) (b : String)

end Exchange

namespace Sample

/-- A market of one buyer, who bids five and whose POSTs cannot be made of the lead. -/
def unsendable : Exchange (Recorded ScriptedWorld) :=
  let service := { service .standard with postTemplate := template [bathrooms] }
  .fresh .standard (.ofBuyers [{ buyer .standard with services := [service] }]) []
    ⟨.ofScripts [("alpha", ⟨[answer 200 "\x7b\"bid\": 5\x7d"], [answer 200 ""]⟩)], []⟩

/-- The market after an auction of the lead. -/
def unsent : Exchange (Recorded ScriptedWorld) :=
  unsendable.run ([.auction lead ⟨5, 0⟩].map Event.recorded)

end Sample

namespace Exchange

open Sample

end Exchange

end PingPost
