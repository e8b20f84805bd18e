import PingPost.Config.Basic
import PingPost.Delivery.Basic
import PingPost.Monitor.Basic
import PingPost.Retry.Item
import PingPost.Template.Engine
import PingPost.Transport.World
import PingPost.Vocabulary.Standard
import PingPost.Webhook.Signature

/-!
The exchange: all that the operations read and change. Operations are functions from an exchange
to a result and the exchange afterwards; the time is an argument.

An operation may break off: a transform is asked for what it cannot write, or a date lies behind the
end of the calendar. The exchange afterwards shows it (`Exchange.completed`), and then there is no
result (`Exchange.outcome?`).
-/

namespace PingPost

/-- The state of an exchange in a world of buyers. -/
structure Exchange (ω : Type) where
  settings : ExchangeSettings
  engine : Engine
  verifier : Verifier
  registry : Registry
  /-- The vocabularies that were looked up, by buyer. -/
  vocabularies : Table String Vocabulary
  ledger : Ledger
  backlog : Backlog
  deadLetters : List DeadLetter
  monitor : Monitor
  /-- How many auctions were run. -/
  auctions : Nat
  /-- Whether a transform broke off when a payload was made. -/
  interrupted : Bool
  world : ω

namespace Exchange

variable {ω : Type}

/-- An exchange in which nothing has happened. -/
def fresh (settings : ExchangeSettings) (registry : Registry) (secrets : Table String String)
    (world : ω) : Exchange ω where
  settings := settings
  engine := { Engine.standard with limit := settings.maxPayloadBytes }
  verifier := ⟨secrets, settings.webhookMaxAgeSecs⟩
  registry := registry
  vocabularies := []
  ledger := []
  backlog := []
  deadLetters := []
  monitor := .fresh .standard
  auctions := 0
  interrupted := false
  world := world

/-- The items that wait or were given up. -/
def items (x : Exchange ω) : List RetryItem :=
  x.backlog.map (·.2) ++ x.deadLetters.map (·.item)

/-- Whether the dates of all items lie in the years of the calendar. No other date can be made: an
operation that would leave one behind breaks off without a result. -/
def inCalendar (x : Exchange ω) : Bool := x.items.all fun i => i.nextAttemptAt.isRepresentable

/-- Whether no operation has broken off. -/
def completed (x : Exchange ω) : Bool := !x.interrupted && x.inCalendar

/-- What an operation gives; nothing if it broke off. -/
def outcome? {α : Type} (r : α × Exchange ω) : Option (α × Exchange ω) :=
  if r.2.completed then some r else none

/-- The vocabulary of a buyer by the registry. -/
def currentVocabulary (x : Exchange ω) (buyerId : String) : Vocabulary :=
  match (x.registry.get? buyerId).bind (·.vocabulary) with
  | some own => own.laidOn .standard
  | none => .standard

/-- The vocabulary of a buyer. It is looked up once and then remembered. -/
def vocabulary (x : Exchange ω) (buyerId : String) : Vocabulary × Exchange ω :=
  match x.vocabularies.get? buyerId with
  | some w => (w, x)
  | none =>
    let w := x.currentVocabulary buyerId
    (w, { x with vocabularies := x.vocabularies.put buyerId w })

/-- Forgets the vocabulary of a buyer, so that it is looked up again. -/
def invalidate (x : Exchange ω) (buyerId : String) : Exchange ω :=
  { x with vocabularies := x.vocabularies.erase buyerId }

/-- Reads an answer to a PING in the vocabulary of the buyer. -/
def readPing (x : Exchange ω) (buyerId : String) (code : Nat) (body : String) :
    PingAnswer × Exchange ω :=
  let (w, x) := x.vocabulary buyerId
  (w.readPing code body, x)

/-- Reads an answer to a POST in the vocabulary of the buyer. -/
def readPost (x : Exchange ω) (buyerId : String) (code : Nat) (body : String) :
    PostAnswer × Exchange ω :=
  let (w, x) := x.vocabulary buyerId
  (w.readPost code body, x)

/-- Adds an entry to the ledger. -/
def record (x : Exchange ω) (e : Entry) : Exchange ω := { x with ledger := x.ledger ++ [e] }

/-- Notes that a payload was made or not. -/
def notePayload (x : Exchange ω) (payload : Except TemplateError Fields) : Exchange ω :=
  match payload with
  | .ok _ => { x with monitor := (x.monitor.validation 0).transformation 0 true }
  | .error .brokenOff => { x with interrupted := true }
  | .error _ => { x with monitor := x.monitor.transformation 0 false }

/-- Notes that a buyer answered or did not. -/
def noteResponse (x : Exchange ω) (buyerId : String) (elapsedMs : Nat) (healthy : Bool) :
    Exchange ω :=
  { x with monitor := x.monitor.response buyerId (Monitor.millis (1000 * elapsedMs)) healthy }

/-- Makes the payload of a PING or a POST. -/
def payload (x : Exchange ω) (kind : CallKind) (lead : Lead) (buyer : Buyer) (service : Service)
    (now : Instant) : Except TemplateError Fields × Exchange ω :=
  let payload := match kind with
    | .ping => x.engine.pingPayload lead buyer service now
    | .post => x.engine.postPayload lead buyer service now
  (payload, x.notePayload payload)

/-- A call to a buyer. -/
def request (kind : CallKind) (buyer : Buyer) (service : Service) (body : Fields) : Request where
  buyerId := buyer.id
  kind := kind
  url := match kind with
    | .ping => service.endpoints.pingUrl
    | .post => service.endpoints.postUrl
  auth := buyer.auth
  settings := buyer.settings
  timeoutMs := match kind with
    | .ping => service.endpoints.pingTimeoutMs
    | .post => service.endpoints.postTimeoutMs
  body := body

variable [Transport ω]

/-- Whether a buyer may be called now. -/
def isAvailable (x : Exchange ω) (buyerId : String) : Bool := Transport.isAvailable x.world buyerId

/-- Starts a call. -/
def launch (x : Exchange ω) (r : Request) : Flight ω × Exchange ω :=
  let (flight, world) := Transport.send x.world r
  (flight, { x with world })

/-- Lets what happens up to the arrival of an answer happen. -/
def arrive (x : Exchange ω) (flight : Flight ω) : Exchange ω :=
  let (registry, world) := flight.effect x.registry x.world
  { x with registry, world }

/-- Lets others act before the next step. -/
def interlude (x : Exchange ω) : Exchange ω :=
  let (registry, world) := Transport.meanwhile x.registry x.world
  { x with registry, world }

/-- Makes a call and waits for the answer, or for the time to run out. -/
def call (x : Exchange ω) (r : Request) : Except TransportError Reply × Nat × Exchange ω :=
  let (flight, x) := x.launch r
  if flight.delayMs ≤ r.timeoutMs then (flight.outcome, flight.measuredMs, x.arrive flight)
  else (.error (.timeout r.timeoutMs), flight.measuredMs, x)

end Exchange

end PingPost
