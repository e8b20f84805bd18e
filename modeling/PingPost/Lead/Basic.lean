import PingPost.Json.Codec

/-!
Leads: one consumer's inquiry about a service, with the answers given in a form and the evidence
that the consumer agreed to be contacted.
-/

namespace PingPost

/-- Where the consumer was. -/
structure Geo where
  latitude : Option Finite
  longitude : Option Finite
  city : Option String
  state : Option String

/-- Which campaign brought the consumer. -/
structure Attribution where
  utmSource : Option String
  utmMedium : Option String
  utmCampaign : Option String
  utmTerm : Option String
  utmContent : Option String
  gclid : Option String
  fbclid : Option String
  landingPage : Option String
  referrer : Option String

/-- Evidence of the consumer's consent. -/
structure Compliance where
  certUrl : Option String
  certId : Option String
  jornayaId : Option String
  consent : Bool
  consentText : Option String
  ipAddress : Option String
  userAgent : Option String
  timestamp : Option Instant
  geo : Option Geo
  attribution : Attribution

/-- A consumer's inquiry. -/
structure Lead where
  id : String
  serviceType : String
  answers : Fields
  zipCode : String
  ownsHome : Bool
  timeframe : String
  status : Option String
  createdAt : Instant
  compliance : Option Compliance

namespace Geo

/-- The fields of a place. -/
def record : Record Geo :=
  (Record.and (.nullable "latitude" .number) <|
    .and (.nullable "longitude" .number) <|
    .and (.nullable "city" .text) <|
    .one (.nullable "state" .text)).via
    (fun (latitude, longitude, city, state) => ⟨latitude, longitude, city, state⟩)
    (fun g => (g.latitude, g.longitude, g.city, g.state))

/-- Places as documents. -/
def codec : Codec Geo := record.codec

end Geo

namespace Attribution

/-- Nothing is known. -/
def empty : Attribution := ⟨none, none, none, none, none, none, none, none, none⟩

/-- The facts by their names. -/
def entries (a : Attribution) : List (String × Option String) := [
  ("utmSource", a.utmSource), ("utmMedium", a.utmMedium), ("utmCampaign", a.utmCampaign),
  ("utmTerm", a.utmTerm), ("utmContent", a.utmContent), ("gclid", a.gclid),
  ("fbclid", a.fbclid), ("landingPage", a.landingPage), ("referrer", a.referrer)]

/-- The fields of an attribution. -/
def record : Record Attribution :=
  (Record.and (.nullable "utmSource" .text) <|
    .and (.nullable "utmMedium" .text) <|
    .and (.nullable "utmCampaign" .text) <|
    .and (.nullable "utmTerm" .text) <|
    .and (.nullable "utmContent" .text) <|
    .and (.nullable "gclid" .text) <|
    .and (.nullable "fbclid" .text) <|
    .and (.nullable "landingPage" .text) <|
    .one (.nullable "referrer" .text)).via
    (fun (source, medium, campaign, term, content, gclid, fbclid, page, referrer) =>
      ⟨source, medium, campaign, term, content, gclid, fbclid, page, referrer⟩)
    (fun a => (a.utmSource, a.utmMedium, a.utmCampaign, a.utmTerm, a.utmContent, a.gclid,
      a.fbclid, a.landingPage, a.referrer))

/-- Attributions as documents. -/
def codec : Codec Attribution := record.codec

end Attribution

namespace Compliance

/-- Whether there is the address of a TrustedForm certificate. -/
def hasTrustedForm (c : Compliance) : Bool := c.certUrl.any fun s => !Text.isBlankText s

/-- Whether there is a Jornaya lead number. -/
def hasJornaya (c : Compliance) : Bool := c.jornayaId.any fun s => !Text.isBlankText s

/-- The fields of the evidence. -/
def record : Record Compliance :=
  (Record.and (.nullable "trustedFormCertUrl" .text) <|
    .and (.nullable "trustedFormCertId" .text) <|
    .and (.nullable "jornayaLeadId" .text) <|
    .and (.withDefault "tcpaConsent" .bool false) <|
    .and (.nullable "tcpaConsentText" .text) <|
    .and (.nullable "ipAddress" .text) <|
    .and (.nullable "userAgent" .text) <|
    .and (.nullable "timestamp" .instant) <|
    .and (.nullable "geo" Geo.codec) <|
    .one (.withDefault "attribution" Attribution.codec .empty)).via
    (fun (certUrl, certId, jornayaId, consent, consentText, ip, agent, time, geo, attribution) =>
      ⟨certUrl, certId, jornayaId, consent, consentText, ip, agent, time, geo, attribution⟩)
    (fun c => (c.certUrl, c.certId, c.jornayaId, c.consent, c.consentText, c.ipAddress,
      c.userAgent, c.timestamp, c.geo, c.attribution))

/-- Evidence as documents. -/
def codec : Codec Compliance := record.codec

end Compliance

namespace Lead

/-- The fields of a lead. -/
def record : Record Lead :=
  (Record.and (.required "id" .text) <|
    .and (.required "serviceTypeId" .text) <|
    .and (.withDefault "formData" .fields []) <|
    .and (.required "zipCode" .text) <|
    .and (.withDefault "ownsHome" .bool false) <|
    .and (.withDefault "timeframe" .text "") <|
    .and (.optional "status" .text) <|
    .and (.required "createdAt" .instant) <|
    .one (.optional "compliance" Compliance.codec)).via
    (fun (id, service, answers, zip, owns, timeframe, status, created, compliance) =>
      ⟨id, service, answers, zip, owns, timeframe, status, created, compliance⟩)
    (fun l => (l.id, l.serviceType, l.answers, l.zipCode, l.ownsHome, l.timeframe, l.status,
      l.createdAt, l.compliance))

/-- Leads as documents. -/
def codec : Codec Lead := record.codec

end Lead

end PingPost
