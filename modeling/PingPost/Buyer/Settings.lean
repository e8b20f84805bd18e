import PingPost.Retry.Policy

/-! What a buyer's configuration says about calls: limits, addresses, timeouts, restrictions. -/

namespace PingPost

/-- Limits that hold for all calls to a buyer. -/
structure Settings where
  maxConcurrentRequests : Nat
  /-- Whether a breaker guards the calls. -/
  failover : Bool
  /-- Failures in a row that open the breaker. -/
  failureThreshold : Nat
  /-- How long the breaker stays open at first, in seconds. -/
  resetSecs : Nat
  /-- Whether a PING shows the evidence of consent. -/
  complianceInPing : Bool
  deriving DecidableEq, Repr

namespace Settings

/-- The limits of a buyer that states none. -/
def standard : Settings := ⟨10, true, 5, 30, false⟩

/-- The fields of the limits. -/
def record : Record Settings :=
  (Record.and (.withDefault "maxConcurrentRequests" (.word 64) standard.maxConcurrentRequests) <|
    .and (.withDefault "failoverEnabled" .bool standard.failover) <|
    .and (.withDefault "failureThreshold" (.word 32) standard.failureThreshold) <|
    .and (.withDefault "circuitResetSecs" (.word 64) standard.resetSecs) <|
    .one (.withDefault "includeComplianceInPing" .bool standard.complianceInPing)).via
    (fun (requests, failover, threshold, reset, inPing) =>
      ⟨requests, failover, threshold, reset, inPing⟩)
    (fun s => (s.maxConcurrentRequests, s.failover, s.failureThreshold, s.resetSecs,
      s.complianceInPing))

/-- Limits as documents. -/
def codec : Codec Settings := record.codec

end Settings

/-- Where and how a service of a buyer is called. -/
structure Endpoints where
  pingUrl : String
  postUrl : String
  pingTimeoutMs : Nat
  postTimeoutMs : Nat
  retryPolicy : RetryPolicy

namespace Endpoints

/-- The fields of the addresses. -/
def record : Record Endpoints :=
  (Record.and (.required "pingUrl" .text) <|
    .and (.required "postUrl" .text) <|
    .and (.withDefault "pingTimeoutMs" (.word 64) 3000) <|
    .and (.withDefault "postTimeoutMs" (.word 64) 10000) <|
    .one (.withDefault "retryPolicy" RetryPolicy.codec .standard)).via
    (fun (ping, post, pingTimeout, postTimeout, policy) =>
      ⟨ping, post, pingTimeout, postTimeout, policy⟩)
    (fun e => (e.pingUrl, e.postUrl, e.pingTimeoutMs, e.postTimeoutMs, e.retryPolicy))

/-- Addresses as documents. -/
def codec : Codec Endpoints := record.codec

end Endpoints

/-- Which leads a service takes. -/
structure Restrictions where
  /-- Beginnings of the accepted zip codes; none accept all. -/
  zipPrefixes : List String
  trustedForm : Bool
  jornaya : Bool
  consent : Bool
  deriving DecidableEq, Repr

namespace Restrictions

/-- The fields of the restrictions. -/
def record : Record Restrictions :=
  (Record.and (.withDefault "zipPrefixes" (.list .text) []) <|
    .and (.withDefault "requireTrustedForm" .bool false) <|
    .and (.withDefault "requireJornaya" .bool false) <|
    .one (.withDefault "requireTcpaConsent" .bool false)).via
    (fun (zips, trustedForm, jornaya, consent) => ⟨zips, trustedForm, jornaya, consent⟩)
    (fun r => (r.zipPrefixes, r.trustedForm, r.jornaya, r.consent))

/-- Restrictions as documents. -/
def codec : Codec Restrictions := record.codec

end Restrictions

end PingPost
