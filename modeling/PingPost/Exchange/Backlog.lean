import PingPost.Exchange.Delivery

/-!
The backlog: queueing leads, giving them up, and the sweep that offers all due ones again.
-/

namespace PingPost

/-- What a sweep did. -/
structure SweepReport where
  attempted : Nat
  delivered : Nat
  rescheduled : Nat
  deadLettered : Nat
  deriving DecidableEq, Repr

/-- What became of one item in a sweep. -/
inductive SweepEnd where
  | delivered
  | rescheduled
  | deadLettered
  deriving DecidableEq, Repr

namespace SweepReport

/-- A sweep of nothing. -/
def empty : SweepReport := ⟨0, 0, 0, 0⟩

/-- One item more. -/
def add (r : SweepReport) (attempted : Bool) (e : SweepEnd) : SweepReport where
  attempted := r.attempted + if attempted then 1 else 0
  delivered := r.delivered + if e = .delivered then 1 else 0
  rescheduled := r.rescheduled + if e = .rescheduled then 1 else 0
  deadLettered := r.deadLettered + if e = .deadLettered then 1 else 0

end SweepReport

namespace Exchange

variable {ω : Type}

/-- Gives a lead up. -/
def giveUp (x : Exchange ω) (item : RetryItem) (reason : GivenUp) : Exchange ω :=
  { x with deadLetters := x.deadLetters ++ [⟨item, reason⟩] }

/-- Queues an item in place of any other of its lead and buyer. A policy without attempts gives
the lead up at once. -/
def enqueue (x : Exchange ω) (item : RetryItem) : Exchange ω :=
  if item.policy.maxAttempts = 0 then x.giveUp item .disabled
  else { x with backlog := x.backlog.put item.key item }

/-- Puts an item back, unless there is a fresher one. -/
def requeue (x : Exchange ω) (item : RetryItem) : Exchange ω :=
  { x with backlog := x.backlog.putNew item.key item }

/-- Counts a retry for the entry that led to it. -/
def countRetry (x : Exchange ω) (origin : Option Nat) : Exchange ω :=
  match origin with
  | some i => { x with ledger := x.ledger.countRetry i }
  | none => x

/-- Places an item whose attempt has failed: back into the backlog while attempts are left. -/
def placeFailed (x : Exchange ω) (item : RetryItem) (now : Instant) : SweepEnd × Exchange ω :=
  if item.policy.maxAttempts ≤ item.attempts then (.deadLettered, x.giveUp item .exhausted)
  else (.rescheduled, x.requeue (item.reschedule now))

/-- Places an item after an attempt. -/
def place (x : Exchange ω) (item : RetryItem) (p : PostResult) (now : Instant) :
    SweepEnd × Exchange ω :=
  match p.status with
  | .delivered => (.delivered, x)
  | .duplicate | .invalid => (.deadLettered, x.giveUp item (.answered p.status))
  | .failed => x.placeFailed { item with lastError := p.explanation } now

variable [Transport ω]

/-- Makes an attempt to deliver an item. -/
def attempt (x : Exchange ω) (item : RetryItem) (buyer : Buyer) (service : Service)
    (now clock : Instant) : SweepEnd × Exchange ω :=
  let item := item.tried
  let x := x.countRetry item.origin
  let (p, x) := x.deliver item.lead buyer service
    (.ofRetry item.auction item.bidAmount item.attempts) clock
  x.place item p now

/-- Treats an item that was taken out of the backlog. The result says whether an attempt was made
and what became of the item. -/
def treat (x : Exchange ω) (item : RetryItem) (now clock : Instant) :
    Bool × SweepEnd × Exchange ω :=
  match x.registry.get? item.buyerId with
  | none => (false, .deadLettered, x.giveUp item .unregistered)
  | some buyer =>
    match buyer.serviceFor? item.lead with
    | none => (false, .deadLettered, x.giveUp item .ineligible)
    | some service =>
      if x.isAvailable buyer.id then (true, x.attempt item buyer service now clock)
      else (false, .rescheduled, x.requeue (item.reschedule now))

/-- Takes the item of a key out of the backlog, if there is one, and treats it. -/
def sweepKey (x : Exchange ω) (report : SweepReport) (key : RetryKey) (now clock : Instant) :
    SweepReport × Exchange ω :=
  match x.backlog.get? key with
  | none => (report, x)
  | some item =>
    let x := { x with backlog := x.backlog.erase key }
    let (attempted, e, x) := x.treat item now clock
    (report.add attempted e, x)

/-- Treats the items of some keys in turn. Others may act before each of them. -/
def sweepKeys (x : Exchange ω) (report : SweepReport) (now clock : Instant) :
    List RetryKey → SweepReport × Exchange ω
  | [] => (report, x)
  | key :: keys =>
    let (report, x) := x.interlude.sweepKey report key now clock
    x.sweepKeys report now clock keys

/-- Treats all items that are due at `now`; payloads are made at the time of the clock. -/
def sweep (x : Exchange ω) (now clock : Instant) : SweepReport × Exchange ω :=
  x.sweepKeys .empty now clock (x.backlog.dueKeys now)

/-- Treats the items of some keys in turn, which may break off. -/
def sweepKeys? (x : Exchange ω) (now clock : Instant) (keys : List RetryKey) :
    Option (SweepReport × Exchange ω) :=
  outcome? (x.sweepKeys .empty now clock keys)

/-- Treats all items that are due, which may break off. -/
def sweep? (x : Exchange ω) (now clock : Instant) : Option (SweepReport × Exchange ω) :=
  x.sweepKeys? now clock (x.backlog.dueKeys now)

end Exchange

end PingPost
