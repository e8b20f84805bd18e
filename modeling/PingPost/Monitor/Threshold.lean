import PingPost.Json.Codec

/-! Levels of alarm and the values from which they hold. -/

namespace PingPost

/-- How bad a measured value is. -/
inductive AlertLevel where
  | warning
  | error
  | critical
  deriving DecidableEq, Repr

/-- What is measured. -/
inductive Metric where
  | transformationTime
  | validationTime
  | auctionDuration
  | buyerResponseTime
  | buyerErrorRate
  deriving DecidableEq, Repr

/-- The values from which the levels hold. -/
structure Thresholds where
  warning : Finite
  error : Finite
  critical : Finite

/-- The thresholds of all metrics. -/
structure MonitorThresholds where
  transformationTime : Thresholds
  validationTime : Thresholds
  auctionDuration : Thresholds
  buyerResponseTime : Thresholds
  buyerErrorRate : Thresholds

/-- Name of a level in documents. -/
def AlertLevel.name : AlertLevel → String
  | .warning => "warning"
  | .error => "error"
  | .critical => "critical"

/-- Name of a level in messages. -/
def AlertLevel.title : AlertLevel → String
  | .warning => "Warning"
  | .error => "Error"
  | .critical => "Critical"

/-- Name of a metric in documents. -/
def Metric.name : Metric → String
  | .transformationTime => "transformation_time"
  | .validationTime => "validation_time"
  | .auctionDuration => "auction_duration"
  | .buyerResponseTime => "buyer_response_time"
  | .buyerErrorRate => "buyer_error_rate"

/-- Name of a metric in messages. -/
def Metric.title : Metric → String
  | .transformationTime => "TransformationTime"
  | .validationTime => "ValidationTime"
  | .auctionDuration => "AuctionDuration"
  | .buyerResponseTime => "BuyerResponseTime"
  | .buyerErrorRate => "BuyerErrorRate"

namespace Thresholds

/-- The fields of the thresholds of a metric. -/
def record : Record Thresholds :=
  (Record.and (.required "warning" .number) <|
    .and (.required "error" .number) <|
    .one (.required "critical" .number)).via
    (fun (warning, error, critical) => ⟨warning, error, critical⟩)
    (fun t => (t.warning, t.error, t.critical))

/-- The worst level that a value reaches, with its threshold. -/
def level? (t : Thresholds) (x : Float) : Option (AlertLevel × Float) :=
  if t.critical.val ≤ x then some (.critical, t.critical.val)
  else if t.error.val ≤ x then some (.error, t.error.val)
  else if t.warning.val ≤ x then some (.warning, t.warning.val)
  else none

end Thresholds

namespace MonitorThresholds

/-- Thresholds of a metric. -/
def of (t : MonitorThresholds) : Metric → Thresholds
  | .transformationTime => t.transformationTime
  | .validationTime => t.validationTime
  | .auctionDuration => t.auctionDuration
  | .buyerResponseTime => t.buyerResponseTime
  | .buyerErrorRate => t.buyerErrorRate

/-- Times in milliseconds, and shares of failed calls. -/
def standard : MonitorThresholds where
  transformationTime := ⟨⟨50, by decide⟩, ⟨150, by decide⟩, ⟨500, by decide⟩⟩
  validationTime := ⟨⟨20, by decide⟩, ⟨50, by decide⟩, ⟨200, by decide⟩⟩
  auctionDuration := ⟨⟨2000, by decide⟩, ⟨5000, by decide⟩, ⟨10000, by decide⟩⟩
  buyerResponseTime := ⟨⟨1000, by decide⟩, ⟨3000, by decide⟩, ⟨5000, by decide⟩⟩
  buyerErrorRate := ⟨⟨0.10, by decide⟩, ⟨0.25, by decide⟩, ⟨0.50, by decide⟩⟩

/-- The fields of the thresholds of all metrics. -/
def record : Record MonitorThresholds :=
  (Record.and (.required "transformationMs" Thresholds.record.codec) <|
    .and (.required "validationMs" Thresholds.record.codec) <|
    .and (.required "auctionMs" Thresholds.record.codec) <|
    .and (.required "buyerResponseMs" Thresholds.record.codec) <|
    .one (.required "buyerErrorRate" Thresholds.record.codec)).via
    (fun (transformation, validation, auction, response, errors) =>
      ⟨transformation, validation, auction, response, errors⟩)
    (fun t => (t.transformationTime, t.validationTime, t.auctionDuration, t.buyerResponseTime,
      t.buyerErrorRate))

end MonitorThresholds

end PingPost
