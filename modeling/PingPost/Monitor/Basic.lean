import PingPost.Auction.Status
import PingPost.Monitor.Threshold

/-!
The monitor: moving averages of times and outcomes, and alerts when an average crosses a
threshold. Only the last alerts are kept.
-/

namespace PingPost

/-- A moving average with the number of its samples. -/
structure Average where
  value : Float
  samples : Nat

/-- What is known of the calls to a buyer. -/
structure BuyerMetrics where
  responseTime : Average
  successRate : Average
  errorRate : Average
  requests : Nat
  failures : Nat

/-- A report that an average crossed a threshold. -/
structure Alert where
  level : AlertLevel
  metric : Metric
  value : Float
  threshold : Float
  buyerId : Option String

/-- All measurements. -/
structure Monitor where
  thresholds : MonitorThresholds
  transformationTime : Average
  validationTime : Average
  auctionDuration : Average
  transformations : Nat
  transformationFailures : Nat
  auctionsByStatus : Table String Nat
  buyers : Table String BuyerMetrics
  /-- The kept alerts, the newest last. -/
  alerts : List Alert

namespace Average

/-- Nothing measured yet. -/
def empty : Average := ⟨0, 0⟩

/-- Weight of a new sample. -/
def weight : Float := 0.2

/-- The average with a sample more; the first sample is the average. -/
def add (a : Average) (sample : Float) : Average where
  value := if a.samples = 0 then sample else weight * sample + (1 - weight) * a.value
  samples := a.samples + 1

/-- An average as a document. -/
def toJson (a : Average) : Json :=
  .object [("samples", .int a.samples), ("value", .ofFloat a.value)]

end Average

namespace Alert

/-- Wording of an alert. -/
def message (a : Alert) : String :=
  let subject := (a.buyerId.map fun id => s!" for buyer {id}").getD ""
  s!"{a.metric.title}{subject} at " ++ Float64.fixedText 2 a.value ++
    s!" exceeds {a.level.title} threshold " ++ Float64.fixedText 2 a.threshold

/-- An alert as a document. -/
def toJson (a : Alert) : Json := .object [
  ("buyerId", .ofOption .text a.buyerId), ("kind", .text a.metric.name),
  ("level", .text a.level.name), ("message", .text a.message),
  ("threshold", .ofFloat a.threshold), ("value", .ofFloat a.value)]

end Alert

namespace BuyerMetrics

/-- No call yet. -/
def empty : BuyerMetrics := ⟨.empty, .empty, .empty, 0, 0⟩

/-- One call more. -/
def add (m : BuyerMetrics) (ms : Float) (success : Bool) : BuyerMetrics :=
  let outcome : Float := if success then 1 else 0
  { responseTime := m.responseTime.add ms
    successRate := m.successRate.add outcome
    errorRate := m.errorRate.add (1 - outcome)
    requests := m.requests + 1
    failures := m.failures + if success then 0 else 1 }

/-- What is known of a buyer as a document. -/
def toJson (m : BuyerMetrics) : Json := .object [
  ("errorRate", m.errorRate.toJson), ("failures", .int m.failures), ("requests", .int m.requests),
  ("responseTimeMs", m.responseTime.toJson), ("successRate", m.successRate.toJson)]

end BuyerMetrics

namespace Monitor

/-- How many alerts are kept. -/
def maxAlerts : Nat := 500

/-- How many calls a buyer must have had before its failures count as a rate. -/
def minRateSamples : Nat := 10

/-- A monitor that has measured nothing. -/
def fresh (thresholds : MonitorThresholds) : Monitor :=
  ⟨thresholds, .empty, .empty, .empty, 0, 0, [], [], []⟩

/-- Keeps an alert more, at the cost of the oldest beyond the limit. -/
def keep (alerts : List Alert) (a : Alert) : List Alert :=
  let all := alerts ++ [a]
  all.drop (all.length - maxAlerts)

/-- Raises an alert if an average crosses a threshold. -/
def check (m : Monitor) (metric : Metric) (value : Float) (buyerId : Option String) : Monitor :=
  match (m.thresholds.of metric).level? value with
  | none => m
  | some (level, threshold) =>
    { m with alerts := keep m.alerts ⟨level, metric, value, threshold, buyerId⟩ }

/-- A payload was made, or not. -/
def transformation (m : Monitor) (ms : Float) (success : Bool) : Monitor :=
  let average := m.transformationTime.add ms
  { m with
    transformationTime := average
    transformations := m.transformations + 1
    transformationFailures := m.transformationFailures + if success then 0 else 1
  }.check .transformationTime average.value none

/-- A payload was checked. -/
def validation (m : Monitor) (ms : Float) : Monitor :=
  let average := m.validationTime.add ms
  { m with validationTime := average }.check .validationTime average.value none

/-- An auction ended. -/
def auction (m : Monitor) (ms : Float) (status : AuctionStatus) : Monitor :=
  let average := m.auctionDuration.add ms
  let count := (m.auctionsByStatus.get? status.name).getD 0
  { m with
    auctionDuration := average
    auctionsByStatus := m.auctionsByStatus.put status.name (count + 1)
  }.check .auctionDuration average.value none

/-- A buyer answered, or did not. -/
def response (m : Monitor) (buyerId : String) (ms : Float) (success : Bool) : Monitor :=
  let metrics := ((m.buyers.get? buyerId).getD .empty).add ms success
  let m := { m with buyers := m.buyers.put buyerId metrics }.check
    .buyerResponseTime metrics.responseTime.value (some buyerId)
  if minRateSamples ≤ metrics.requests then
    m.check .buyerErrorRate metrics.errorRate.value (some buyerId)
  else m

/-- The newest alerts, as many as a limit says, or all. -/
def latest (m : Monitor) (limit : Option Nat) : List Alert :=
  match limit with
  | none => m.alerts
  | some n => m.alerts.drop (m.alerts.length - n)

/-- The counters as a document. -/
def toJson (m : Monitor) : Json := .object [
  ("alertCount", .int m.alerts.length),
  ("buyers", .object (m.buyers.map fun (id, b) => (id, b.toJson))),
  ("system", .object [
    ("auctionMs", m.auctionDuration.toJson),
    ("auctionsByStatus", .object (m.auctionsByStatus.map fun (name, n) => (name, .int n))),
    ("transformationFailures", .int m.transformationFailures),
    ("transformationMs", m.transformationTime.toJson),
    ("transformations", .int m.transformations),
    ("validationMs", m.validationTime.toJson)])]

/-- Milliseconds of a number of microseconds. -/
def millis (micros : Nat) : Float :=
  (Float64.ofInt (micros / 1000000) + Float64.ofInt (micros % 1000000 * 1000) / 1e9) * 1000

end Monitor

end PingPost
